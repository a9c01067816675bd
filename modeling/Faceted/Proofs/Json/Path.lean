import Faceted.Proofs.Json.Overlay

/-!
# A document under a fragment, path by path

A path of names leads through the objects of a value to what is below them. Along the paths of a
fragment a document is overlaid, and off them it stays as it is: where the fragment ends in
something other than an object, that decides what the path leads to, and an array continues the
array of the document; where an object of the fragment lacks the next name, the path leads to what
the document has. An object of the fragment makes an object out of whatever was there, in which the
names that were there keep their places.

## Main definitions

* `Json.membersAt` — the members of the object that a path leads to
* `Json.Lays` — what a merged value has at a path, by what the fragment has there

## Main results

* `at?_overlayValue` — what a fragment has at a path is laid over what is there at the same path
* `at?_overlayValue_of_notMem` — off the paths of the fragment nothing changes
* `lays_overlay` — a document under a fragment, at every path
-/

namespace Faceted.Json

open Entries

/-! ### Following paths -/

/-- The members of the object that a path leads to. Where there is no object there are none. -/
def membersAt (value : Json) (path : List String) : Entries Json :=
  ((value.at? path).bind members?).getD []

theorem at?_append (value : Json) (path more : List String) :
    value.at? (path ++ more) = (value.at? path).bind fun inner => inner.at? more := by
  induction path generalizing value with
  | nil => rfl
  | cons name path ih =>
    rw [List.cons_append, at?, at?, Option.bind_assoc]
    exact congrArg _ (funext ih)

theorem members?_eq_none_iff {value : Json} :
    value.members? = none ↔ value.container? ≠ some .object := by
  cases value <;> simp [members?, container?]

theorem member?_eq_none_of_members? {value : Json} (h : value.members? = none) (name : String) :
    value.member? name = none := by
  cases value with
  | object members => exact absurd h (Option.some_ne_none members)
  | _ => rfl

theorem at?_cons_of_members? {value : Json} (h : value.members? = none) (name : String)
    (path : List String) : value.at? (name :: path) = none := by
  rw [at?, member?_eq_none_of_members? h, Option.bind_none]

/-- Below a value there is something only if the value is an object. -/
theorem exists_members_of_at? {value inner : Json} {name : String} {path : List String}
    (h : value.at? (name :: path) = some inner) :
    ∃ members, value = .object members ∧
      ∃ next, get? members name = some next ∧ next.at? path = some inner := by
  cases value with
  | object members => exact ⟨members, rfl, Option.bind_eq_some_iff.1 h⟩
  | _ => exact absurd h (by simp [at?, member?])

theorem Distinct.of_at? {value inner : Json} (h : value.Distinct) {path : List String}
    (hinner : value.at? path = some inner) : inner.Distinct := by
  induction path generalizing value with
  | nil => exact Option.some.inj hinner ▸ h
  | cons name path ih =>
    obtain ⟨members, rfl, next, hnext, hrest⟩ := exists_members_of_at? hinner
    exact ih (h.of_get? hnext) hrest

/-! ### One value over another -/

section OverlayValue

variable {value : Json} (old : Option Json)

/-- An object is laid over the object that is there, or over one without members. -/
theorem overlayValue_object {members : Entries Json} (h : (keys members).Nodup) :
    overlayValue old (.object members) =
      .object (overlay ((old.bind members?).getD []) members) := by
  cases old with
  | none => rw [overlayValue_none, Option.bind_none, Option.getD_none, overlay_nil_left h]
  | some base =>
    cases base with
    | object there =>
      rw [overlayValue]
      rfl
    | _ =>
      rw [overlayValue]
      · exact congrArg object (overlay_nil_left h).symm
      · simp

/-- Anything but an object takes the place of what is there, unless an array meets an array. -/
theorem overlayValue_of_members? (h : value.members? = none)
    (hold : ∀ items more, old = some (.array items) → value ≠ .array more) :
    overlayValue old value = value := by
  cases old with
  | none => exact overlayValue_none value
  | some base =>
    apply overlayValue_of_not_like
    rintro ⟨kind, hbase, hvalue⟩
    cases kind with
    | object => exact members?_eq_none_iff.1 h hvalue
    | array =>
      obtain ⟨items, rfl⟩ := container?_eq_some_array_iff.1 hbase
      obtain ⟨more, rfl⟩ := container?_eq_some_array_iff.1 hvalue
      exact hold items more rfl rfl

theorem members?_overlayValue (h : value.members? = none) :
    (overlayValue old value).members? = none := by
  rw [members?_eq_none_iff, container?_overlayValue]
  exact members?_eq_none_iff.1 h

theorem member?_overlayValue_object {members : Entries Json} (h : (keys members).Nodup)
    (name : String) :
    (overlayValue old (.object members)).member? name =
      ((get? members name).map (overlayValue (old.bind fun base => base.member? name))).or
        (old.bind fun base => base.member? name) := by
  have there :
      get? ((old.bind members?).getD []) name = old.bind fun base => base.member? name := by
    cases old with
    | none => rfl
    | some base => cases base <;> rfl
  rw [overlayValue_object old h, ← there]
  exact get?_overlay _ h name

end OverlayValue

/-! ### What a fragment does along its paths, and off them -/

section Paths

variable {fragment : Json} {path : List String}

/-- What a fragment has at a path is laid over what is there at the same path. -/
theorem at?_overlayValue (hdistinct : fragment.Distinct) {value : Json}
    (h : fragment.at? path = some value) (old : Option Json) :
    (overlayValue old fragment).at? path =
      some (overlayValue (old.bind fun base => base.at? path) value) := by
  induction path generalizing fragment old with
  | nil =>
    obtain rfl : fragment = value := Option.some.inj h
    exact congrArg (fun base => some (overlayValue base fragment)) (Option.bind_fun_some old).symm
  | cons name path ih =>
    obtain ⟨members, rfl, inner, hinner, hvalue⟩ := exists_members_of_at? h
    -- Below the name the same happens with what the document has there.
    rw [at?, member?_overlayValue_object old hdistinct.nodup_keys, hinner, Option.map_some,
      Option.some_or, Option.bind_some, ih (hdistinct.of_get? hinner) hvalue, Option.bind_assoc]
    rfl

/-- Where an object of a fragment lacks a name, what is at this name and below it stays as it is. -/
theorem at?_overlayValue_of_notMem (hdistinct : fragment.Distinct) {members : Entries Json}
    (h : fragment.at? path = some (.object members)) {name : String} (hname : name ∉ keys members)
    (rest : List String) (old : Option Json) :
    (overlayValue old fragment).at? (path ++ name :: rest) =
      old.bind fun base => base.at? (path ++ name :: rest) := by
  have hnodup : (keys members).Nodup := (hdistinct.of_at? h).nodup_keys
  rw [at?_append, at?_overlayValue hdistinct h, Option.bind_some, at?,
    member?_overlayValue_object _ hnodup, (get?_eq_none_iff members name).2 hname, Option.map_none,
    Option.none_or, Option.bind_assoc, Option.bind_assoc]
  apply congrArg
  funext base
  rw [at?_append]
  rfl

end Paths

/-- What a merged value has at a path, by what the fragment has there. -/
structure Lays (base fragment merged : Json) (path : List String) : Prop where
  /-- An array of the fragment continues the array that is there. -/
  append (items more : List Json) : base.at? path = some (.array items) →
    fragment.at? path = some (.array more) → merged.at? path = some (.array (items ++ more))
  /-- Anything else in the fragment that is no object takes the place of what is there. -/
  replace (value : Json) : fragment.at? path = some value → value.members? = none →
    (∀ items more, base.at? path = some (.array items) → value ≠ .array more) →
      merged.at? path = some value
  /-- Where the fragment has something other than an object, there is nothing below. -/
  below (value : Json) : fragment.at? path = some value → value.members? = none →
    ∀ name rest, merged.at? (path ++ name :: rest) = none
  /-- A path is left alone if an object of the fragment lacks the name with which it goes on. -/
  keep (front : List String) (members : Entries Json) (name : String) (rest : List String) :
    path = front ++ name :: rest → fragment.at? front = some (.object members) →
      name ∉ keys members → merged.at? path = base.at? path
  /-- An object of the fragment makes an object. The names that were there come first, in their
  order, and then the new ones of the fragment in its order. -/
  join (members : Entries Json) : fragment.at? path = some (.object members) →
    ∃ joined, merged.at? path = some (.object joined) ∧
      keys joined = keys (base.membersAt path) ++
        (keys members).filter fun name => name ∉ keys (base.membersAt path)

/-- A document under a fragment has at every path what the two have there, one laid over the
other. A fragment without members changes nothing, and over a document without members the
fragment is all there is. -/
theorem lays_overlay {base fragment : Entries Json} (h : (object fragment).Distinct) :
    (∀ path, Lays (.object base) (.object fragment) (.object (overlay base fragment)) path) ∧
      overlay base [] = base ∧ overlay [] fragment = fragment := by
  have merged :
      object (overlay base fragment) = overlayValue (some (.object base)) (.object fragment) := by
    rw [overlayValue]
  refine ⟨fun path => ?_, overlay_nil base, overlay_nil_left h.nodup_keys⟩
  rw [merged]
  constructor
  case append =>
    intro items more hitems hmore
    rw [at?_overlayValue h hmore, Option.bind_some, hitems, overlayValue]
  case replace =>
    intro value hvalue hmembers hnoArrays
    rw [at?_overlayValue h hvalue, Option.bind_some, overlayValue_of_members? _ hmembers hnoArrays]
  case below =>
    intro value hvalue hmembers name rest
    rw [at?_append, at?_overlayValue h hvalue, Option.bind_some]
    exact at?_cons_of_members? (members?_overlayValue _ hmembers) name rest
  case keep =>
    rintro front members name rest rfl hfront hname
    exact at?_overlayValue_of_notMem h hfront hname rest _
  case join =>
    intro members hmembers
    have hnodup : (keys members).Nodup := (h.of_at? hmembers).nodup_keys
    refine ⟨overlay ((object base).membersAt path) members, ?_, keys_overlay_of_nodup _ hnodup⟩
    rw [at?_overlayValue h hmembers, Option.bind_some, overlayValue_object _ hnodup]
    rfl

/-- A fragment with a further condition, another size and an order, over a document with a condition
and a size: the condition is appended, the size replaced, and the order comes last. -/
theorem lays_overlay_conditions :
    let base : Entries Json :=
      [("query", .object [("must", .array [.text "a"]), ("boost", .nat 1)]), ("size", .nat 10)]
    let fragment : Entries Json :=
      [("sort", .null), ("size", .object [("most", .nat 5)]),
        ("query", .object [("must", .array [.text "b"])])]
    let merged := Json.object (overlay base fragment)
    (object fragment).Distinct ∧
      merged.at? ["query", "must"] = some (.array [.text "a", .text "b"]) ∧
      merged.at? ["query", "boost"] = some (.nat 1) ∧ merged.at? ["sort"] = some .null ∧
      merged.at? ["sort", "order"] = none ∧
      (∃ joined, merged.at? ["size"] = some (.object joined) ∧ keys joined = ["most"]) ∧
      ∃ joined, merged.at? [] = some (.object joined) ∧
        keys joined = ["query", "size", "sort"] := by
  intro base fragment merged
  have hdistinct : (object fragment).Distinct := by
    simp [fragment, Distinct, DistinctMembers, DistinctItems, keys, Json.nat]
  have laid (path : List String) : Lays (.object base) (.object fragment) merged path :=
    (lays_overlay hdistinct).1 path
  refine ⟨hdistinct, (laid _).append [.text "a"] [.text "b"] rfl rfl,
    (laid _).keep ["query"] _ "boost" [] rfl rfl (by decide),
    (laid _).replace .null rfl rfl (by simp),
    (laid ["sort"]).below .null rfl rfl "order" [], ?_, ?_⟩
  · exact (laid ["size"]).join _ rfl
  · exact (laid []).join _ rfl

end Faceted.Json
