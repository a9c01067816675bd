import Faceted.Json.Basic
import Faceted.Proofs.Entries

/-!
# Reading lists and entries back

What is written item by item is read item by item, and entries that may be left out can be told
apart by their names if the names come in a fixed order and do not repeat. Reading is exact here: it
accepts what was written and nothing else.

## Main definitions

* `Entries.ofSlots` — values under names in a fixed order, where a value may be missing
* `Entries.slots?` — the values that were written so, if that is what the entries are

## Main results

* `mapM_eq_some_iff` — a reader that is exact on items is exact on lists of them
* `exists_mapM_eq_some_iff` — a list is read if every item is
* `Entries.get?_of_mapM` — what is read under each name
* `Entries.slots?_eq_some_iff` — what is read from entries is what they were written from
-/

namespace Faceted

/-! ### Item by item -/

section Items

variable {α β : Type} {read : β → Option α} {write : α → β}

/-- A reader that accepts exactly what is written of proper values accepts exactly the lists of
what is written of them. -/
theorem mapM_eq_some_iff_of_proper (proper : α → Prop)
    (h : ∀ item value, read item = some value ↔ proper value ∧ item = write value) (items : List β)
    (values : List α) :
    items.mapM read = some values ↔ (∀ value ∈ values, proper value) ∧
      items = values.map write := by
  -- The reader stops at the first item that was not written, so that both lists are
  -- taken apart together.
  induction items generalizing values with
  | nil => cases values <;> simp
  | cons item items ih =>
    cases values with
    | nil => simp [List.mapM_cons, Option.bind_eq_some_iff]
    | cons value values =>
      simp only [List.mapM_cons, Option.bind_eq_bind, Option.bind_eq_some_iff, h, ih,
        Option.pure_def, Option.some_inj, List.cons.injEq, List.map_cons, List.forall_mem_cons]
      constructor
      · rintro ⟨_, ⟨hvalue, hitem⟩, _, ⟨hvalues, hitems⟩, rfl, rfl⟩
        exact ⟨⟨hvalue, hvalues⟩, hitem, hitems⟩
      · rintro ⟨⟨hvalue, hvalues⟩, hitem, hitems⟩
        exact ⟨value, ⟨hvalue, hitem⟩, values, ⟨hvalues, hitems⟩, rfl, rfl⟩

theorem mapM_eq_some_iff (h : ∀ item value, read item = some value ↔ item = write value)
    (items : List β) (values : List α) :
    items.mapM read = some values ↔ items = values.map write := by
  have exact := mapM_eq_some_iff_of_proper (fun _ => True)
    (fun item value => by rw [h, true_and]) items values
  simpa using exact

/-- One item that cannot be read spoils the list, and nothing else does. -/
theorem exists_mapM_eq_some_iff (items : List β) :
    (∃ values, items.mapM read = some values) ↔
      ∀ item ∈ items, ∃ value, read item = some value := by
  induction items with
  | nil => simp
  | cons item items ih =>
    rw [List.forall_mem_cons, ← ih]
    simp only [List.mapM_cons, Option.bind_eq_bind, Option.bind_eq_some_iff, Option.pure_def,
      Option.some_inj]
    constructor
    · rintro ⟨_, value, hvalue, values, hvalues, rfl⟩
      exact ⟨⟨value, hvalue⟩, values, hvalues⟩
    · rintro ⟨⟨value, hvalue⟩, values, hvalues⟩
      exact ⟨value :: values, value, hvalue, values, hvalues, rfl⟩

end Items

/-! ### Strings -/

namespace Json

theorem text?_eq_some_iff {value : Json} {string : String} :
    value.text? = some string ↔ value = .text string := by
  cases value <;> simp [text?]

theorem texts?_eq_some_iff {value : Json} {strings : List String} :
    value.texts? = some strings ↔ value = .texts strings := by
  cases value with
  | array items =>
    rw [texts?, mapM_eq_some_iff fun _ _ => text?_eq_some_iff, texts, Json.array.injEq]
  | _ => simp [texts?, texts]

end Json

namespace Entries

variable {α β : Type}

/-! ### Name by name -/

/-- If the values of entries are read one by one, then what is read stands under the same names. -/
theorem get?_of_mapM {read : β → Option α} {entries : Entries β} {values : Entries α}
    (h : entries.mapM (fun entry => (read entry.2).map (entry.1, ·)) = some values) :
    keys values = keys entries ∧ ∀ name, get? values name = (get? entries name).bind read := by
  induction entries generalizing values with
  | nil =>
    obtain rfl := Option.some.inj h
    exact ⟨rfl, fun _ => rfl⟩
  | cons entry rest ih =>
    obtain ⟨key, item⟩ := entry
    simp only [List.mapM_cons, Option.bind_eq_bind, Option.bind_eq_some_iff, Option.pure_def,
      Option.some_inj, Option.map_eq_some_iff] at h
    obtain ⟨_, ⟨value, hvalue, rfl⟩, more, hmore, rfl⟩ := h
    obtain ⟨hkeys, hget⟩ := ih hmore
    refine ⟨congrArg (key :: ·) hkeys, fun name => ?_⟩
    rw [get?, get?]
    split
    · exact hvalue.symm
    · exact hget name

/-! ### In a fixed order -/

/-- Values under names in a fixed order; a name without a value is left out. -/
def ofSlots (names : List String) (values : List (Option α)) : Entries α :=
  (names.zip values).filterMap fun slot => slot.2.map (slot.1, ·)

/-- What the entries have under each of the names, if they have nothing else and come in
the order of the names. -/
def slots? : List String → Entries α → Option (List (Option α))
  | [], [] => some []
  | [], _ :: _ => none
  | _ :: names, [] => (slots? names []).map (none :: ·)
  | name :: names, (key, value) :: rest =>
    if key = name then (slots? names rest).map (some value :: ·)
    else (slots? names ((key, value) :: rest)).map (none :: ·)

@[simp] theorem ofSlots_nil (values : List (Option α)) : ofSlots [] values = [] := rfl

@[simp] theorem ofSlots_cons (name : String) (names : List String) (value? : Option α)
    (values : List (Option α)) :
    ofSlots (name :: names) (value? :: values) = (value?.map (name, ·)).toList ++
      ofSlots names values := by
  cases value? <;> simp [ofSlots]

theorem mem_of_mem_keys_ofSlots {names : List String} {values : List (Option α)} {name : String}
    (h : name ∈ keys (ofSlots names values)) : name ∈ names := by
  obtain ⟨entry, hentry, rfl⟩ := List.mem_map.1 h
  obtain ⟨slot, hslot, hsome⟩ := List.mem_filterMap.1 hentry
  obtain ⟨value, -, rfl⟩ := Option.map_eq_some_iff.1 hsome
  exact (List.of_mem_zip hslot).1

/-- Names that do not repeat tell which values were left out. -/
theorem slots?_ofSlots {names : List String} (hnames : names.Nodup) (values : List (Option α))
    (hlength : values.length = names.length) :
    slots? names (ofSlots names values) = some values := by
  induction names generalizing values with
  | nil =>
    obtain rfl := List.length_eq_zero_iff.1 hlength
    rfl
  | cons name names ih =>
    obtain ⟨hname, hnames⟩ := List.nodup_cons.1 hnames
    obtain ⟨value?, values, rfl⟩ := List.exists_cons_of_length_eq_add_one hlength
    have hrest := ih hnames values (Nat.succ.inj hlength)
    rw [ofSlots_cons]
    cases value? with
    | some value => simp [slots?, hrest]
    | none =>
      rw [Option.map_none, Option.toList_none, List.nil_append]
      cases hentries : ofSlots names values with
      | nil => rw [slots?, ← hentries, hrest, Option.map_some]
      | cons entry more =>
        -- The first entry is for a later name, so that it does not fill the slot of this one.
        obtain ⟨key, value⟩ := entry
        have hlisted : key ∈ keys (ofSlots names values) := hentries ▸ List.mem_cons_self
        have hkey : key ∈ names := mem_of_mem_keys_ofSlots hlisted
        have hne : key ≠ name := fun heq => hname (heq ▸ hkey)
        rw [slots?, if_neg hne, ← hentries, hrest, Option.map_some]

theorem eq_ofSlots_of_slots? {names : List String} {entries : Entries α} {values : List (Option α)}
    (h : slots? names entries = some values) :
    values.length = names.length ∧ entries = ofSlots names values := by
  -- A name is passed if there are no entries left, filled by an entry under it,
  -- or passed by another.
  fun_induction slots? names entries generalizing values with
  | case1 =>
    obtain rfl := Option.some.inj h
    exact ⟨rfl, rfl⟩
  | case2 => exact nomatch h
  | case3 name names ih =>
    obtain ⟨values, hvalues, rfl⟩ := Option.map_eq_some_iff.1 h
    obtain ⟨hlength, hentries⟩ := ih hvalues
    exact ⟨by simp [hlength], by simpa using hentries⟩
  | case4 names key value rest ih =>
    obtain ⟨values, hvalues, rfl⟩ := Option.map_eq_some_iff.1 h
    obtain ⟨hlength, hentries⟩ := ih hvalues
    exact ⟨by simp [hlength], by simp [hentries]⟩
  | case5 name names key value rest hne ih =>
    obtain ⟨values, hvalues, rfl⟩ := Option.map_eq_some_iff.1 h
    obtain ⟨hlength, hentries⟩ := ih hvalues
    exact ⟨by simp [hlength], by simpa using hentries⟩

/-- Entries are read as exactly the values that they were written from. -/
theorem slots?_eq_some_iff {names : List String} (hnames : names.Nodup) {entries : Entries α}
    {values : List (Option α)} :
    slots? names entries = some values ↔
      values.length = names.length ∧ entries = ofSlots names values := by
  refine ⟨eq_ofSlots_of_slots?, ?_⟩
  rintro ⟨hlength, rfl⟩
  exact slots?_ofSlots hnames values hlength

end Entries

end Faceted
