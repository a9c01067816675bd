import Faceted.Entries
import Faceted.Proofs.Split

/-!
# Laws of named values

What the names of a container are after many writes, and what a concatenation of containers holds. A
container that is only ever written to lists every name once, at the place of its first write; as a
list operation this is `List.eraseDups`, so that the order of names is compared with it throughout.

## Main results

* `keys_ofPairs` — the names written by a list of pairs, in the order of their first occurrence
* `get?_append` — a concatenation is read from the front
* `get?_foldl_put`, `get?_ofPairs` — of several pairs with one name the last counts
* `get?_perm` — without repeated names the order does not matter for what is read
* `ext_of_nodup` — names in order and what is read under them make up a container
* `keys_foldl_put_of_nodup` — names that are written come after those that are there
* `put_comm` — a name that is there may be overwritten before or after another is written
-/

namespace Faceted.Entries

variable {α : Type}

/-! ### Reading -/

theorem get?_cons_of_ne {key name : String} (value : α) (rest : Entries α) (h : key ≠ name) :
    get? ((key, value) :: rest) name = get? rest name := by
  rw [get?, if_neg h]

theorem get?_append (front back : Entries α) (name : String) :
    get? (front ++ back) name = (get? front name).or (get? back name) := by
  induction front with
  | nil => simp
  | cons entry rest ih =>
    obtain ⟨key, value⟩ := entry
    by_cases h : key = name <;> simp [get?, h, ih]

theorem get?_eq_find? (entries : Entries α) (name : String) :
    get? entries name = (entries.find? fun entry => decide (entry.1 = name)).map Prod.snd := by
  induction entries with
  | nil => rfl
  | cons entry rest ih =>
    obtain ⟨key, value⟩ := entry
    by_cases h : key = name <;> simp [get?, h, ih]

theorem get?_map_value {β : Type} (entries : Entries α) (f : α → β) (name : String) :
    get? (entries.map fun entry => (entry.1, f entry.2)) name =
      (get? entries name).map f := by
  rw [get?_eq_find?, get?_eq_find?, List.find?_map, Option.map_map, Option.map_map]
  rfl

/-- Of several writes to one name the last counts, and a name that is not
written keeps its value. -/
theorem get?_foldl_put (pairs : List (String × α)) (entries : Entries α) (name : String) :
    get? (pairs.foldl (fun entries pair => put entries pair.1 pair.2) entries) name =
      (get? pairs.reverse name).or (get? entries name) := by
  -- From the end: the last pair is the last to be written, and the first to be found.
  induction pairs using List.reverseRecOn with
  | nil => rfl
  | append_singleton pairs pair ih =>
    obtain ⟨key, value⟩ := pair
    rw [List.foldl_append, List.foldl_cons, List.foldl_nil, List.reverse_append,
      List.reverse_singleton, List.singleton_append]
    by_cases h : key = name
    · subst h
      simp [get?]
    · rw [get?_put_of_ne _ _ (Ne.symm h), ih, get?_cons_of_ne _ _ h]

/-- Of several pairs with one name the last counts. -/
theorem get?_ofPairs (pairs : List (String × α)) (name : String) :
    get? (ofPairs pairs) name =
      (pairs.reverse.find? fun pair => decide (pair.1 = name)).map Prod.snd := by
  rw [ofPairs, get?_foldl_put, get?_nil, Option.or_none, get?_eq_find?]

/-- Where no name is repeated, a name has the value it is listed with. -/
theorem get?_eq_some_iff_mem {entries : Entries α} (hnodup : (keys entries).Nodup) {name : String}
    {value : α} : get? entries name = some value ↔ (name, value) ∈ entries := by
  induction entries with
  | nil => simp
  | cons entry rest ih =>
    obtain ⟨key, first⟩ := entry
    obtain ⟨hkey, hrest⟩ := List.nodup_cons.1 hnodup
    rw [List.mem_cons, Prod.mk.injEq]
    by_cases h : key = name
    · subst h
      have hmem : (key, value) ∉ rest := fun hmem =>
        hkey (List.mem_map.2 ⟨_, hmem, rfl⟩)
      simp [get?, hmem, eq_comm]
    · rw [get?_cons_of_ne _ _ h, ih hrest, or_iff_right fun heq => h heq.1.symm]

/-- Where no name is repeated, the order of the names does not matter for what they have. -/
theorem get?_perm {entries others : Entries α} (hperm : entries.Perm others)
    (hnodup : (keys entries).Nodup) (name : String) : get? entries name = get? others name := by
  have hothers : (keys others).Nodup := (hperm.map Prod.fst).nodup hnodup
  refine Option.ext fun value => ?_
  rw [get?_eq_some_iff_mem hnodup, get?_eq_some_iff_mem hothers, hperm.mem_iff]

/-- Two containers that list the same names, each of them once, and have the same under
every name are the same. -/
theorem ext_of_nodup {entries others : Entries α} (hnodup : (keys entries).Nodup)
    (hkeys : keys entries = keys others) (hget : ∀ name, get? entries name = get? others name) :
    entries = others := by
  induction entries generalizing others with
  | nil => exact (List.map_eq_nil_iff.1 hkeys.symm).symm
  | cons entry rest ih =>
    obtain ⟨key, value⟩ := entry
    obtain ⟨hkey, hrest⟩ := List.nodup_cons.1 hnodup
    cases others with
    | nil => exact absurd hkeys (List.cons_ne_nil _ _)
    | cons other more =>
      obtain ⟨otherKey, otherValue⟩ := other
      obtain rfl : key = otherKey := (List.cons.inj hkeys).1
      have htail : keys rest = keys more := (List.cons.inj hkeys).2
      obtain rfl : value = otherValue := by simpa [get?] using hget key
      refine congrArg ((key, value) :: ·) (ih hrest htail fun name => ?_)
      by_cases hname : key = name
      · -- The name of the first pair does not come again in either of the two.
        subst hname
        rw [(get?_eq_none_iff rest key).2 hkey, (get?_eq_none_iff more key).2 (htail ▸ hkey)]
      · rw [← get?_cons_of_ne value rest hname, ← get?_cons_of_ne value more hname]
        exact hget name

/-- What is computed from the names alone is found under each name that is there. -/
theorem get?_filterMap_name {β : Type} (entries : Entries α) (value? : String → Option β)
    (name : String) :
    get? (entries.filterMap fun entry => (value? entry.1).map (entry.1, ·)) name =
      if name ∈ keys entries then value? name else none := by
  induction entries with
  | nil => rfl
  | cons entry rest ih =>
    obtain ⟨key, first⟩ := entry
    rw [List.filterMap_cons]
    by_cases h : key = name
    · subst h
      cases hvalue : value? key with
      | none => simp [hvalue, ih]
      | some value => simp [get?, keys]
    · have hmem : name ∈ keys ((key, first) :: rest) ↔ name ∈ keys rest := by
        simp [keys, Ne.symm h]
      cases hvalue : value? key with
      | none => simp [ih, hmem]
      | some value => simp [get?_cons_of_ne _ _ h, ih, hmem]

/-- Where every name has the value that is computed from it, the names decide what is found. -/
theorem get?_map_name (names : List String) (value : String → α) (name : String) :
    get? (names.map fun listed => (listed, value listed)) name =
      if name ∈ names then some (value name) else none := by
  induction names with
  | nil => rfl
  | cons listed rest ih =>
    rw [List.map_cons]
    by_cases h : listed = name
    · subst h
      simp [get?]
    · rw [get?_cons_of_ne _ _ h, ih]
      simp [Ne.symm h]

/-- What has just been written under a name may as well never have been there. -/
theorem put_put (entries : Entries α) (name : String) (first second : α) :
    put (put entries name first) name second = put entries name second := by
  induction entries with
  | nil => simp [put]
  | cons entry rest ih =>
    obtain ⟨key, old⟩ := entry
    by_cases h : key = name <;> simp [put, h, ih]

/-- A name that is there is overwritten in its place, so that it does not matter which other
name was written before. -/
theorem put_comm {entries : Entries α} {name other : String} (hmem : name ∈ keys entries)
    (hne : name ≠ other) (value second : α) :
    put (put entries other second) name value = put (put entries name value) other second := by
  induction entries with
  | nil => exact absurd hmem List.not_mem_nil
  | cons entry rest ih =>
    obtain ⟨key, old⟩ := entry
    by_cases hkey : key = name
    · subst hkey
      simp [put, hne]
    · -- Further down the other name may be found first, or be appended at the end.
      have hrest : name ∈ keys rest := (List.mem_cons.1 hmem).resolve_left (Ne.symm hkey)
      by_cases hother : key = other <;> simp [put, hkey, hother, Ne.symm hne, ih hrest]

theorem has_put_of_ne (entries : Entries α) {name other : String} (value : α) (h : other ≠ name) :
    has (put entries name value) other = has entries other := by
  rw [has, has, get?_put_of_ne entries value h]

theorem mem_keys_put (entries : Entries α) (name key : String) (value : α) :
    key ∈ keys (put entries name value) ↔ key ∈ keys entries ∨ key = name := by
  rw [keys_put]
  split
  next h => exact (or_iff_left_of_imp fun heq => heq ▸ h).symm
  next h => rw [List.mem_append, List.mem_singleton]

theorem mem_keys_put_self (entries : Entries α) (name : String) (value : α) :
    name ∈ keys (put entries name value) := by
  rw [← has_eq_true_iff, has, get?_put_self]
  rfl

theorem put_of_notMem {entries : Entries α} {name : String} (h : name ∉ keys entries) (value : α) :
    put entries name value = entries ++ [(name, value)] := by
  induction entries with
  | nil => rfl
  | cons entry rest ih =>
    obtain ⟨key, old⟩ := entry
    obtain ⟨hkey, hrest⟩ := not_or.1 (mt List.mem_cons.2 h)
    rw [put, if_neg (Ne.symm hkey), ih hrest, List.cons_append]

/-- Where no name is repeated, writing pairs one after the other lists them as they are. -/
theorem ofPairs_of_nodup {pairs : Entries α} (h : (keys pairs).Nodup) : ofPairs pairs = pairs := by
  induction pairs using List.reverseRecOn with
  | nil => rfl
  | append_singleton pairs pair ih =>
    rw [keys, List.map_append] at h
    obtain ⟨hpairs, -, hname⟩ := List.nodup_append.1 h
    have hnew : pair.1 ∉ keys pairs := fun hmem => hname _ hmem _ (by simp) rfl
    have hwritten : pairs.foldl (fun entries pair => put entries pair.1 pair.2) [] = pairs :=
      ih hpairs
    rw [ofPairs, List.foldl_append, hwritten, List.foldl_cons, List.foldl_nil, put_of_notMem hnew]

/-! ### The order of names -/

/-- Names that are appended one by one, unless they are there already, are those of the whole list
in the order of their first occurrence. -/
theorem eraseDups_foldl_concat (names more : List String) :
    (more.foldl (fun names name => if names.contains name then names else names ++ [name])
      names).eraseDups = (names ++ more).eraseDups := by
  induction more generalizing names with
  | nil => simp
  | cons name rest ih =>
    rw [List.foldl_cons, ih]
    by_cases h : name ∈ names
    · -- `names` may have repetitions itself, so the two sides are compared only after erasing them.
      rw [if_pos (List.contains_iff_mem.2 h), List.eraseDups_append, List.eraseDups_append,
        List.cons_removeAll, if_neg (by simpa using h)]
    · rw [if_neg (mt List.contains_iff_mem.1 h), List.append_assoc]
      rfl

/-- If the names of a container are those of a list without its repetitions, then a write extends
the list by one name. -/
theorem keys_put_of_eraseDups {entries : Entries α} {names : List String}
    (h : keys entries = names.eraseDups) (name : String) (value : α) :
    keys (put entries name value) = (names ++ [name]).eraseDups := by
  rw [keys_put, eraseDups_concat, h]
  simp only [List.mem_eraseDups]

theorem keys_foldl_put (pairs : List (String × α)) {entries : Entries α} {names : List String}
    (h : keys entries = names.eraseDups) :
    keys (pairs.foldl (fun entries pair => put entries pair.1 pair.2) entries) =
      (names ++ pairs.map Prod.fst).eraseDups := by
  induction pairs generalizing entries names with
  | nil => simpa using h
  | cons pair rest ih =>
    rw [List.foldl_cons, ih (keys_put_of_eraseDups h pair.1 pair.2)]
    simp

/-- Writing pairs one after the other lists their names in the order in which they first occur. -/
theorem keys_ofPairs (pairs : List (String × α)) :
    keys (ofPairs pairs) = (pairs.map Prod.fst).eraseDups := by
  have start : keys ([] : Entries α) = ([] : List String).eraseDups := rfl
  exact keys_foldl_put pairs start

/-- One more write comes before those that are still to be made, and its name is the first of the
new ones, unless it is there already. -/
theorem keys_put_append_filter (entries : Entries α) {name : String} (value : α)
    {more : List String} (h : name ∉ more) :
    keys (put entries name value) ++
        more.filter (fun other => other ∉ keys (put entries name value)) =
      keys entries ++ (name :: more).filter fun other => other ∉ keys entries := by
  by_cases hname : name ∈ keys entries
  · rw [keys_put, if_pos hname, List.filter_cons_of_neg (by simpa using hname)]
  · have hmore : more.filter (fun other => other ∉ keys entries ++ [name]) =
        more.filter fun other => other ∉ keys entries := by
      refine List.filter_congr fun other hother => ?_
      have hne : other ≠ name := fun heq => h (heq ▸ hother)
      simp [hne]
    rw [keys_put, if_neg hname, hmore, List.filter_cons_of_pos (by simpa using hname),
      List.append_assoc, List.singleton_append]

/-- Writing pairs with different names keeps the names that are there in their places; the new ones
come last, in the order of the pairs. -/
theorem keys_foldl_put_of_nodup {pairs : List (String × α)} (entries : Entries α)
    (h : (pairs.map Prod.fst).Nodup) :
    keys (pairs.foldl (fun entries pair => put entries pair.1 pair.2) entries) =
      keys entries ++ (pairs.map Prod.fst).filter fun name => name ∉ keys entries := by
  induction pairs generalizing entries with
  | nil => simp
  | cons pair rest ih =>
    obtain ⟨hname, hrest⟩ := List.nodup_cons.1 h
    rw [List.foldl_cons, ih _ hrest, keys_put_append_filter entries pair.2 hname, List.map_cons]

end Faceted.Entries
