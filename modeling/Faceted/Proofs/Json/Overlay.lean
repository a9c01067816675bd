import Faceted.Json.Overlay
import Faceted.Proofs.Entries

/-!
# What a document holds under a fragment

Laying a fragment over a document treats each name on its own: where the fragment has nothing the
document stays as it is, and where it has a value that value is laid over what was there. The names
that are new come last.

## Main results

* `keys_overlay`, `keys_overlay_of_nodup` — the names of the document, then those
  that only the fragment has
* `get?_overlay` — what is under a name, if the fragment does not repeat its names
* `isObject_overlay` — objects laid over an object, or over nothing, make an object
* `overlay_of_nodup` — a fragment with new names only is appended
* `overlayValue_of_not_like`, `container?_overlayValue` — a value takes the place of what is not
  like it, and whatever it is laid over it stays of its kind
* `HoldsMembers.overlay`, `HoldsItems.overlay` — objects are merged and arrays appended, also where
  one of the two is absent
-/

namespace Faceted.Json

open Entries

/-- The names of a document under a fragment are those of the document, then the new ones of the
fragment. The names of the document may be given as a list with repetitions. -/
theorem keys_overlay {base : Entries Json} {names : List String} (fragment : Entries Json)
    (h : keys base = names.eraseDups) :
    keys (overlay base fragment) = (names ++ keys fragment).eraseDups := by
  induction fragment generalizing base names with
  | nil => simpa [keys] using h
  | cons entry rest ih =>
    obtain ⟨name, value⟩ := entry
    rw [overlay, ih (keys_put_of_eraseDups h name _)]
    simp [keys]

/-- A fragment that does not repeat its names leaves those of the document in their places; its new
ones come last, in its order. -/
theorem keys_overlay_of_nodup (base : Entries Json) {fragment : Entries Json}
    (h : (keys fragment).Nodup) :
    keys (overlay base fragment) =
      keys base ++ (keys fragment).filter fun name => name ∉ keys base := by
  induction fragment generalizing base with
  | nil => simp [keys]
  | cons entry rest ih =>
    obtain ⟨name, value⟩ := entry
    obtain ⟨hname, hrest⟩ := List.nodup_cons.1 h
    rw [overlay, ih _ hrest]
    exact keys_put_append_filter base _ hname

theorem mem_keys_overlay {base fragment : Entries Json} {name : String} :
    name ∈ keys (overlay base fragment) ↔ name ∈ keys base ∨ name ∈ keys fragment := by
  induction fragment generalizing base with
  | nil => simp [keys]
  | cons entry rest ih =>
    obtain ⟨key, value⟩ := entry
    rw [overlay, ih, mem_keys_put, or_assoc]
    exact or_congr Iff.rfl List.mem_cons.symm

theorem nodup_keys_overlay {base : Entries Json} (fragment : Entries Json) (h : (keys base).Nodup) :
    (keys (overlay base fragment)).Nodup := by
  induction fragment generalizing base with
  | nil => simpa using h
  | cons entry rest ih =>
    obtain ⟨name, value⟩ := entry
    rw [overlay]
    exact ih (nodup_keys_put h name _)

theorem get?_overlay_of_notMem {base fragment : Entries Json} {name : String}
    (h : name ∉ keys fragment) : get? (overlay base fragment) name = get? base name := by
  induction fragment generalizing base with
  | nil => simp
  | cons entry rest ih =>
    obtain ⟨key, value⟩ := entry
    obtain ⟨hkey, hrest⟩ := not_or.1 (mt List.mem_cons.2 h)
    rw [overlay, ih hrest, get?_put_of_ne _ _ hkey]

/-- A fragment that does not repeat its names treats each of them on its own. -/
theorem get?_overlay (base : Entries Json) {fragment : Entries Json}
    (hnodup : (keys fragment).Nodup) (name : String) :
    get? (overlay base fragment) name =
      ((get? fragment name).map (overlayValue (get? base name))).or (get? base name) := by
  induction fragment generalizing base with
  | nil => simp
  | cons entry rest ih =>
    obtain ⟨key, value⟩ := entry
    obtain ⟨hkey, hrest⟩ := List.nodup_cons.1 hnodup
    rw [overlay]
    by_cases hname : key = name
    · -- The rest of the fragment does not have the name again.
      subst hname
      rw [get?_overlay_of_notMem hkey]
      simp [get?]
    · rw [ih _ hrest, get?_put_of_ne _ _ (Ne.symm hname), get?_cons_of_ne _ _ hname]

/-- A name under which there is at most an object keeps that, as long as only objects are laid over
it. -/
theorem isObject_overlay {base fragment : Entries Json} {name : String}
    (hbase : ∀ value ∈ get? base name, ∃ members, value = .object members)
    (hfragment : ∀ value, (name, value) ∈ fragment → ∃ members, value = .object members) :
    ∀ value ∈ get? (overlay base fragment) name, ∃ members, value = .object members := by
  induction fragment generalizing base with
  | nil => simpa using hbase
  | cons entry rest ih =>
    obtain ⟨key, value⟩ := entry
    rw [overlay]
    refine ih ?_ fun value hvalue => hfragment value (List.mem_cons_of_mem _ hvalue)
    by_cases hname : key = name
    · subst hname
      obtain ⟨members, rfl⟩ := hfragment value List.mem_cons_self
      intro laid hlaid
      rw [get?_put_self, Option.mem_some_iff] at hlaid
      subst hlaid
      -- Over nothing the value is put as it is, and over an object the two are merged.
      cases hold : get? base key with
      | none => exact ⟨members, overlayValue_none _⟩
      | some old =>
        obtain ⟨oldMembers, rfl⟩ := hbase old hold
        exact ⟨overlay oldMembers members, by simp [overlayValue]⟩
    · rw [get?_put_of_ne _ _ (Ne.symm hname)]
      exact hbase

/-- A fragment none of whose names is there or comes twice is appended as it is. -/
theorem overlay_of_nodup {base fragment : Entries Json} (h : (keys (base ++ fragment)).Nodup) :
    overlay base fragment = base ++ fragment := by
  induction fragment generalizing base with
  | nil => rw [overlay_nil, List.append_nil]
  | cons entry rest ih =>
    obtain ⟨name, value⟩ := entry
    have hname : name ∉ keys base := by
      rw [keys, List.map_append, List.map_cons] at h
      intro hmem
      exact (List.nodup_append.1 h).2.2 name hmem name List.mem_cons_self rfl
    rw [overlay, (get?_eq_none_iff base name).2 hname, overlayValue_none, put_of_notMem hname,
      ih (by simpa using h), List.append_assoc, List.singleton_append]

theorem overlay_nil_left {fragment : Entries Json} (h : (keys fragment).Nodup) :
    overlay [] fragment = fragment :=
  overlay_of_nodup h

/-! ### Values of one kind -/

/-- The two kinds of values that are merged with their like. -/
inductive Container where
  | object
  | array
deriving DecidableEq

/-- The kind of a value, if it is one that is merged with its like. -/
def container? : Json → Option Container
  | .object _ => some .object
  | .array _ => some .array
  | _ => none

theorem container?_eq_some_object_iff {value : Json} :
    value.container? = some .object ↔ ∃ members, value = .object members := by
  cases value <;> simp [container?]

theorem container?_eq_some_array_iff {value : Json} :
    value.container? = some .array ↔ ∃ items, value = .array items := by
  cases value <;> simp [container?]

/-- Two values are alike if they are both objects, or both arrays. -/
def Like (first second : Json) : Prop :=
  ∃ kind, first.container? = some kind ∧ second.container? = some kind

theorem Like.symm {first second : Json} (h : first.Like second) : second.Like first :=
  let ⟨kind, hfirst, hsecond⟩ := h
  ⟨kind, hsecond, hfirst⟩

theorem Like.trans {first second third : Json} (h : first.Like second) (h' : second.Like third) :
    first.Like third := by
  obtain ⟨kind, hfirst, hsecond⟩ := h
  obtain ⟨other, hsecond', hthird⟩ := h'
  obtain rfl : kind = other := Option.some.inj (hsecond.symm.trans hsecond')
  exact ⟨kind, hfirst, hthird⟩

/-- A value takes the place of one that is not like it. -/
theorem overlayValue_of_not_like {base value : Json} (h : ¬ base.Like value) :
    overlayValue (some base) value = value := by
  cases value with
  | object members =>
    rw [overlayValue]
    rintro there hthere
    exact h ⟨.object, container?_eq_some_object_iff.2 ⟨there, Option.some.inj hthere⟩, rfl⟩
  | array more =>
    rw [overlayValue]
    rintro items hitems
    exact h ⟨.array, container?_eq_some_array_iff.2 ⟨items, Option.some.inj hitems⟩, rfl⟩
  | _ => rw [overlayValue] <;> simp

/-- Whatever a value is laid over, it stays of its kind. -/
theorem container?_overlayValue (old : Option Json) (value : Json) :
    (overlayValue old value).container? = value.container? := by
  cases old with
  | none => rw [overlayValue_none]
  | some base =>
    by_cases h : base.Like value
    · obtain ⟨kind, hbase, hvalue⟩ := h
      cases kind with
      | object =>
        obtain ⟨there, rfl⟩ := container?_eq_some_object_iff.1 hbase
        obtain ⟨members, rfl⟩ := container?_eq_some_object_iff.1 hvalue
        rw [overlayValue]
        rfl
      | array =>
        obtain ⟨items, rfl⟩ := container?_eq_some_array_iff.1 hbase
        obtain ⟨more, rfl⟩ := container?_eq_some_array_iff.1 hvalue
        rw [overlayValue]
        rfl
    · rw [overlayValue_of_not_like h]

theorem overlayValue_like_iff {old : Option Json} {value other : Json} :
    (overlayValue old value).Like other ↔ value.Like other := by
  rw [Like, container?_overlayValue, Like]

/-! ### Objects and arrays that may be absent -/

/-- A place holds an object with these members. A place without a value counts as an object without
members. -/
def HoldsMembers (place : Option Json) (members : Entries Json) : Prop :=
  place = some (.object members) ∨ place = none ∧ members = []

/-- A place holds an array of these items. A place without a value counts as
an array without items. -/
def HoldsItems (place : Option Json) (items : List Json) : Prop :=
  place = some (.array items) ∨ place = none ∧ items = []

theorem at?_cons (members : Entries Json) (name : String) (path : List String) :
    (object members).at? (name :: path) = (get? members name).bind fun value => value.at? path :=
  rfl

theorem at?_singleton (members : Entries Json) (name : String) :
    (object members).at? [name] = get? members name := by
  rw [at?_cons]
  cases get? members name with
  | none => rfl
  | some value => rfl

/-- What is found below a place that holds an object is found in the object. -/
theorem HoldsMembers.bind_at? {place : Option Json} {members : Entries Json}
    (h : HoldsMembers place members) (name : String) (path : List String) :
    (place.bind fun value => value.at? (name :: path)) = (object members).at? (name :: path) := by
  rcases h with rfl | ⟨rfl, rfl⟩
  · rfl
  · rfl

theorem Distinct.of_get? {members : Entries Json} (h : (object members).Distinct) {name : String}
    {value : Json} (hvalue : get? members name = some value) : value.Distinct := by
  rw [Distinct] at h
  obtain ⟨-, hmembers⟩ := h
  induction members with
  | nil => exact absurd hvalue (by simp)
  | cons entry rest ih =>
    obtain ⟨key, first⟩ := entry
    rw [DistinctMembers] at hmembers
    by_cases hkey : key = name
    · rw [get?, if_pos hkey, Option.some_inj] at hvalue
      exact hvalue ▸ hmembers.1
    · rw [get?_cons_of_ne _ _ hkey] at hvalue
      exact ih hvalue hmembers.2

theorem Distinct.nodup_keys {members : Entries Json} (h : (object members).Distinct) :
    (keys members).Nodup := by
  rw [Distinct] at h
  exact h.1

theorem HoldsMembers.distinct {place : Option Json} {members : Entries Json}
    (h : HoldsMembers place members) (hplace : ∀ value ∈ place, value.Distinct) :
    (object members).Distinct := by
  rcases h with rfl | ⟨-, rfl⟩
  · exact hplace _ rfl
  · rw [Distinct, DistinctMembers]
    exact ⟨List.nodup_nil, trivial⟩

section Overlay

variable {base fragment : Entries Json} {name : String}

/-- An object under a name is laid over the object that is there, also where one
of the two is absent. -/
theorem HoldsMembers.overlay {members more : Entries Json} (hnodup : (keys fragment).Nodup)
    (hmore : (keys more).Nodup) (hbase : HoldsMembers (get? base name) members)
    (hfragment : HoldsMembers (get? fragment name) more) :
    HoldsMembers (get? (overlay base fragment) name) (overlay members more) := by
  rw [get?_overlay base hnodup]
  rcases hfragment with hfragment | ⟨hfragment, rfl⟩
  · rw [hfragment, Option.map_some, Option.some_or]
    rcases hbase with hbase | ⟨hbase, rfl⟩
    · exact Or.inl (by rw [hbase, overlayValue])
    · rw [hbase, overlayValue_none, overlay_nil_left hmore]
      exact Or.inl rfl
  · rw [hfragment, overlay_nil]
    exact hbase

/-- Items under a name are appended to the array that is there, also where one
of the two is absent. -/
theorem HoldsItems.overlay {items more : List Json} (hnodup : (keys fragment).Nodup)
    (hbase : HoldsItems (get? base name) items) (hfragment : HoldsItems (get? fragment name) more) :
    HoldsItems (get? (Json.overlay base fragment) name) (items ++ more) := by
  rw [get?_overlay base hnodup]
  rcases hfragment with hfragment | ⟨hfragment, rfl⟩
  · rw [hfragment, Option.map_some, Option.some_or]
    rcases hbase with hbase | ⟨hbase, rfl⟩
    · exact Or.inl (by rw [hbase, overlayValue])
    · rw [hbase, overlayValue_none]
      exact Or.inl rfl
  · rw [hfragment, List.append_nil]
    exact hbase

/-- A name that the document does not have holds what the fragment has. -/
theorem get?_overlay_of_eq_none (hnodup : (keys fragment).Nodup) (hbase : get? base name = none) :
    get? (Json.overlay base fragment) name = get? fragment name := by
  rw [get?_overlay base hnodup, hbase, Option.or_none]
  cases get? fragment name with
  | none => rfl
  | some value => rw [Option.map_some, overlayValue_none]

end Overlay

end Faceted.Json
