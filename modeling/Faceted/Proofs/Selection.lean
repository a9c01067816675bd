import Mathlib.Data.Option.Basic
import Faceted.Proofs.Reading
import Faceted.Selection

/-!
# Which JSON is a selection

A selection is read by trying one form after the other, each of which looks at a part of the
value only. No value has two of the forms, so that their order does not matter, and the
values that are read are exactly those of a short grammar. The selections of all facets are
read if every one of them is.

## Main definitions

* `Selection.Spelled` — the grammar: which values stand for which selections

## Main results

* `Selection.ofJson?_eq_some_iff` — exactly the values of the grammar are read
* `Selections.ofJson?_eq_some_iff` — the selections of all facets are read facet by facet
* `Selections.read_exactly` — both, and what is written of a selection is read back
-/

namespace Faceted

namespace Selection

/-- The values that stand for a selection: a string for one value, an array of strings for several
that must all hold, and an object for several of which any may hold. The object has them under the
name `or`, a single one also without an array; what else it has does not matter. -/
inductive Spelled : Json → Selection → Prop where
  | exact (value : String) : Spelled (.text value) (.exact value)
  | allOf (values : List String) : Spelled (.texts values) (.allOf values)
  | anyOfOne {members : Entries Json} {value : String}
      (hor : Entries.get? members "or" = some (.text value)) :
      Spelled (.object members) (.anyOf [value])
  | anyOf {members : Entries Json} {values : List String}
      (hor : Entries.get? members "or" = some (.texts values)) :
      Spelled (.object members) (.anyOf values)

variable {value : Json} {values : List String} {selection : Selection}

theorem oneOrMany?_eq_some_iff :
    oneOrMany? value = some values ↔
      (∃ single, value = .text single ∧ values = [single]) ∨ value = .texts values := by
  simp only [oneOrMany?, Option.orElse_eq_some, Option.map_eq_some_iff, Option.map_eq_none_iff,
    Json.text?_eq_some_iff, Json.texts?_eq_some_iff, eq_comm (b := values)]
  refine or_congr_right (and_iff_right_of_imp ?_)
  rintro rfl
  rfl

theorem exists_object_of_member? {name : String} {member : Json}
    (h : value.member? name = some member) :
    ∃ members, value = .object members ∧ Entries.get? members name = some member := by
  cases value with
  | object members => exact ⟨members, rfl, h⟩
  | _ => exact nomatch h

/-- Exactly the values of the grammar are read. A form is tried only if those before it have failed,
and they fail on all values that have it. -/
theorem ofJson?_eq_some_iff : ofJson? value = some selection ↔ Spelled value selection := by
  rw [ofJson?, Option.orElse_eq_some, Option.orElse_eq_some]
  constructor
  · rintro (h | ⟨-, h | ⟨-, h⟩⟩)
    · obtain ⟨string, hstring, rfl⟩ := Option.map_eq_some_iff.1 h
      rw [Json.text?_eq_some_iff.1 hstring]
      exact .exact string
    · obtain ⟨strings, hstrings, rfl⟩ := Option.map_eq_some_iff.1 h
      rw [Json.texts?_eq_some_iff.1 hstrings]
      exact .allOf strings
    · obtain ⟨strings, hstrings, rfl⟩ := Option.map_eq_some_iff.1 h
      obtain ⟨member, hmember, hread⟩ := Option.bind_eq_some_iff.1 hstrings
      obtain ⟨members, rfl, hor⟩ := exists_object_of_member? hmember
      rcases oneOrMany?_eq_some_iff.1 hread with ⟨single, rfl, rfl⟩ | rfl
      · exact .anyOfOne hor
      · exact .anyOf hor
  · intro h
    have read {members : Entries Json} {member : Json} {strings : List String}
        (hor : Entries.get? members "or" = some member) (hread : oneOrMany? member = some strings) :
        (((Json.object members).member? "or").bind oneOrMany?).map anyOf =
          some (.anyOf strings) := by
      rw [Json.member?, hor, Option.bind_some, hread, Option.map_some]
    cases h with
    | exact string => exact Or.inl rfl
    | allOf strings =>
      refine Or.inr ⟨rfl, Or.inl ?_⟩
      rw [Json.texts?_eq_some_iff.2 rfl, Option.map_some]
    | anyOfOne hor =>
      exact Or.inr ⟨rfl, Or.inr ⟨rfl, read hor (oneOrMany?_eq_some_iff.2 (Or.inl ⟨_, rfl, rfl⟩))⟩⟩
    | anyOf hor =>
      exact Or.inr ⟨rfl, Or.inr ⟨rfl, read hor (oneOrMany?_eq_some_iff.2 (Or.inr rfl))⟩⟩

theorem ofJson?_toJson (selection : Selection) : ofJson? selection.toJson = some selection := by
  rw [ofJson?_eq_some_iff]
  cases selection with
  | exact value => exact .exact value
  | allOf values => exact .allOf values
  | anyOf values => exact .anyOf rfl

end Selection

namespace Selections

open Selection (Spelled)

theorem ofJson?_object_eq_some_iff {members : Entries Json} {selections : Selections} :
    ofJson? (.object members) = some selections ↔
      ∃ pairs,
        (members.mapM fun member => (Selection.ofJson? member.2).map (member.1, ·)) = some pairs ∧
        Entries.ofPairs pairs = selections := by
  rw [ofJson?, Json.members?, Option.bind_some, ofMembers?, Option.map_eq_some_iff]

/-- The selections of all facets are read from objects with a selection under every name. One value
that is no selection spoils the others. -/
theorem exists_ofJson?_eq_some_iff {value : Json} :
    (∃ selections, ofJson? value = some selections) ↔
      ∃ members, value = .object members ∧
        ∀ member ∈ members, ∃ selection, Spelled member.2 selection := by
  have named (member : String × Json) :
      (∃ pair, (Selection.ofJson? member.2).map (member.1, ·) = some pair) ↔
        ∃ selection, Spelled member.2 selection := by
    simp [Option.map_eq_some_iff, Selection.ofJson?_eq_some_iff]
  constructor
  · rintro ⟨selections, h⟩
    cases value with
    | object members =>
      obtain ⟨pairs, hpairs, -⟩ := ofJson?_object_eq_some_iff.1 h
      have hall := (exists_mapM_eq_some_iff members).1 ⟨pairs, hpairs⟩
      exact ⟨members, rfl, fun member hmember => (named member).1 (hall member hmember)⟩
    | _ => exact nomatch h
  · rintro ⟨members, rfl, hall⟩
    obtain ⟨pairs, hpairs⟩ := (exists_mapM_eq_some_iff members).2 fun member hmember =>
      (named member).2 (hall member hmember)
    exact ⟨_, ofJson?_object_eq_some_iff.2 ⟨pairs, hpairs, rfl⟩⟩

/-- What is selected for a facet is what its own value says. -/
theorem get?_of_ofJson? {members : Entries Json} {selections : Selections}
    (hnames : (Entries.keys members).Nodup) (h : ofJson? (.object members) = some selections) :
    Entries.keys selections = Entries.keys members ∧
      ∀ name, Entries.get? selections name =
        (Entries.get? members name).bind Selection.ofJson? := by
  obtain ⟨pairs, hpairs, rfl⟩ := ofJson?_object_eq_some_iff.1 h
  have hread := Entries.get?_of_mapM hpairs
  rw [Entries.ofPairs_of_nodup (hread.1 ▸ hnames)]
  exact hread

/-- Exactly the values of the grammar are selections, and what is written of a selection is read
back. The selections of all facets are read exactly if the value under every name is a selection,
and then each facet has the selection that its own value stands for. -/
theorem read_exactly :
    (∀ value selection, Selection.ofJson? value = some selection ↔ Spelled value selection) ∧
      (∀ selection : Selection, Selection.ofJson? selection.toJson = some selection) ∧
      (∀ value, (∃ selections, ofJson? value = some selections) ↔
        ∃ members, value = .object members ∧
          ∀ member ∈ members, ∃ selection, Spelled member.2 selection) ∧
      ∀ members selections, (Entries.keys members).Nodup →
        ofJson? (.object members) = some selections →
        Entries.keys selections = Entries.keys members ∧
          ∀ name value, Entries.get? members name = some value →
            ∃ selection, Entries.get? selections name = some selection ∧
              Spelled value selection := by
  refine ⟨fun _ _ => Selection.ofJson?_eq_some_iff, Selection.ofJson?_toJson,
    fun _ => exists_ofJson?_eq_some_iff, fun members selections hnames h => ?_⟩
  obtain ⟨hkeys, hget⟩ := get?_of_ofJson? hnames h
  refine ⟨hkeys, fun name value hvalue => ?_⟩
  have hmember : (name, value) ∈ members := (Entries.get?_eq_some_iff_mem hnames).1 hvalue
  obtain ⟨_, hobject, hall⟩ := exists_ofJson?_eq_some_iff.1 ⟨selections, h⟩
  obtain rfl := Json.object.inj hobject
  obtain ⟨selection, hselection⟩ := hall _ hmember
  refine ⟨selection, ?_, hselection⟩
  rw [hget, hvalue, Option.bind_some]
  exact Selection.ofJson?_eq_some_iff.2 hselection

/-- One facet of each form, and one with a single value out of an array, besides a member
that does not matter. -/
theorem read_exactly_shapes :
    let members : Entries Json :=
      [("brand", .text "Acme"), ("size", .texts ["L", "XL", "L"]),
        ("color", .object [("or", .texts ["red", "blue"])]),
        ("tag", .object [("and", .null), ("or", .text "sale")])]
    let selections : Selections :=
      [("brand", .exact "Acme"), ("size", .allOf ["L", "XL", "L"]),
        ("color", .anyOf ["red", "blue"]), ("tag", .anyOf ["sale"])]
    (Entries.keys members).Nodup ∧ ofJson? (.object members) = some selections ∧
      Spelled (.object [("and", .null), ("or", .text "sale")]) (.anyOf ["sale"]) := by
  intro members selections
  have hnames : (Entries.keys members).Nodup := by decide
  have hread : ofJson? (.object members) = some selections := by decide
  obtain ⟨-, hget⟩ := read_exactly.2.2.2 members selections hnames hread
  obtain ⟨selection, hselection, hspelled⟩ := hget "tag" _ rfl
  obtain rfl : Selection.anyOf ["sale"] = selection := Option.some.inj hselection
  exact ⟨hnames, hread, hspelled⟩

end Selections

end Faceted
