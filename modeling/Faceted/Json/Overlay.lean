import Faceted.Json.Basic

/-!
# Laying one object over another

A fragment is laid over a document: where both have an object, they are joined member by member;
where both have an array, the fragment's items are appended; anywhere else the fragment's value
replaces what was there. Members that are new come last.

## Main definitions

* `Json.overlay` — lays the members of a fragment over those of a document
* `Json.overlayValue` — lays one value over another
* `Json.at?` — what an object holds at a path of names
-/

namespace Faceted.Json

mutual

/-- Lays a fragment over `base`, member by member. -/
def overlay (base : Entries Json) : List (String × Json) → Entries Json
  | [] => base
  | (name, value) :: rest =>
    overlay (Entries.put base name (overlayValue (Entries.get? base name) value)) rest

/-- Lays a value over the one that is there, if any. -/
def overlayValue (old : Option Json) : Json → Json
  | .object fragment =>
    match old with
    | some (.object base) => .object (overlay base fragment)
    | _ => .object fragment
  | .array fragment =>
    match old with
    | some (.array base) => .array (base ++ fragment)
    | _ => .array fragment
  | value => value

end

/-- What a value holds at a path of member names. -/
def at? : Json → List String → Option Json
  | value, [] => some value
  | value, name :: path => (value.member? name).bind fun inner => inner.at? path

@[simp] theorem overlay_nil (base : Entries Json) : overlay base [] = base := by
  simp [overlay]

theorem overlayValue_none (value : Json) : overlayValue none value = value := by
  cases value <;> simp [overlayValue]

end Faceted.Json
