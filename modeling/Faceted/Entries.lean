/-!
# Named values in order

Search documents, selections and aggregations all hold values under names, and the order in which
the names first appeared is part of what is sent and shown. This file gives that container: a list
of pairs in which writing a name again replaces its value in place.

## Main definitions

* `Entries` — pairs of a name and a value
* `Entries.get?` — the value under a name
* `Entries.put` — writes a value, in place if the name is there and at the end if it is new
* `Entries.ofPairs` — writes pairs one after the other
* `Entries.byName` — the same pairs, names ascending by code point

## Main statements

* `get?_put_self`, `get?_put_of_ne` — a write is read back and leaves the other names alone
* `keys_put` — a write keeps the names and their order, a new name comes last
* `get?_eq_none_iff` — exactly the names that are not keys have no value
-/

namespace Faceted

/-- Values under names, in the order in which the names first appeared. -/
abbrev Entries (α : Type) := List (String × α)

namespace Entries

variable {α β : Type}

/-- The value under `name`: that of the first pair with this name. -/
def get? : Entries α → String → Option α
  | [], _ => none
  | (key, value) :: rest, name => if key = name then some value else get? rest name

/-- Writes `value` under `name`. A name that is there keeps its place, a new one comes last. -/
def put : Entries α → String → α → Entries α
  | [], name, value => [(name, value)]
  | (key, old) :: rest, name, value =>
    if key = name then (key, value) :: rest else (key, old) :: put rest name value

/-- The names, in order. -/
def keys (entries : Entries α) : List String :=
  entries.map Prod.fst

/-- Whether there is a value under `name`. -/
def has (entries : Entries α) (name : String) : Bool :=
  (get? entries name).isSome

/-- Takes out the value under `name`; the others keep their order. -/
def erase (entries : Entries α) (name : String) : Entries α :=
  entries.filter fun entry => entry.1 != name

/-- Writes pairs one after the other: a repeated name keeps its first place and
takes its last value. -/
def ofPairs (pairs : List (String × α)) : Entries α :=
  pairs.foldl (fun entries pair => put entries pair.1 pair.2) []

/-- The same pairs with their names in ascending order of code points. -/
def byName (entries : Entries α) : Entries α :=
  entries.mergeSort fun a b => decide (a.1 ≤ b.1)

/-! ### Reading what was written -/

@[simp] theorem get?_nil (name : String) : get? ([] : Entries α) name = none := rfl

@[simp] theorem get?_put_self (entries : Entries α) (name : String) (value : α) :
    get? (put entries name value) name = some value := by
  induction entries with
  | nil => simp [put, get?]
  | cons entry rest ih =>
    obtain ⟨key, old⟩ := entry
    by_cases h : key = name <;> simp [put, get?, h, ih]

theorem get?_put_of_ne (entries : Entries α) {name other : String} (value : α) (h : other ≠ name) :
    get? (put entries name value) other = get? entries other := by
  induction entries with
  | nil => simp [put, get?, Ne.symm h]
  | cons entry rest ih =>
    obtain ⟨key, old⟩ := entry
    by_cases hk : key = name
    · subst hk
      simp [put, get?, Ne.symm h]
    · simp only [put, if_neg hk, get?, ih]

theorem get?_eq_none_iff (entries : Entries α) (name : String) :
    get? entries name = none ↔ name ∉ keys entries := by
  induction entries with
  | nil => simp [keys]
  | cons entry rest ih =>
    obtain ⟨key, old⟩ := entry
    by_cases h : key = name
    · simp [get?, keys, h]
    · simpa [get?, keys, h, Ne.symm h] using ih

theorem has_eq_true_iff (entries : Entries α) (name : String) :
    has entries name = true ↔ name ∈ keys entries := by
  rw [has, ← Option.ne_none_iff_isSome, ne_eq, get?_eq_none_iff, Decidable.not_not]

/-! ### The names after a write -/

theorem keys_put (entries : Entries α) (name : String) (value : α) :
    keys (put entries name value) =
      if name ∈ keys entries then keys entries else keys entries ++ [name] := by
  induction entries with
  | nil => simp [put, keys]
  | cons entry rest ih =>
    obtain ⟨key, old⟩ := entry
    by_cases h : key = name
    · simp [put, keys, h]
    · simp only [put, if_neg h, keys, List.map_cons, List.mem_cons, Ne.symm h, false_or] at ih ⊢
      rw [ih]
      by_cases hm : name ∈ rest.map Prod.fst <;> simp [hm]

theorem nodup_keys_put {entries : Entries α} (h : (keys entries).Nodup) (name : String)
    (value : α) : (keys (put entries name value)).Nodup := by
  rw [keys_put]
  split
  · exact h
  · rename_i hn
    refine List.nodup_append.2 ⟨h, by simp, ?_⟩
    rintro a ha b hb rfl
    exact hn (List.mem_singleton.1 hb ▸ ha)

end Entries

end Faceted
