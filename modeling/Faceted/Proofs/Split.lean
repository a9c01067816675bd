import Mathlib.Data.List.Induction
import Mathlib.Data.List.Nodup

/-!
# Splitting a list by a key

Hits are grouped by tenant and clauses by kind, and both are grouped as they come: an item joins the
part of its key, and an item whose key is new opens a part at the end. Done for a whole list this
gives its stable split. The parts come in the order in which their keys first appear, and each part
has the items of its key in the order of the list.

## Main definitions

* `splitByKey` — the stable split of a list
* `addToPart` — adds one item to the part of its key

## Main results

* `foldl_addToPart` — adding item by item gives the stable split
* `foldl_eq_map_splitByKey` — so does adding to groups that hold the parts in another form
* `perm_splitByKey` — the parts together have the items of the list
* `pairwise_splitByKey` — in an ordered list, each part begins before the later ones
-/

namespace Faceted

/-! ### The order of first appearance -/

section Keys

variable {κ : Type} [BEq κ] [LawfulBEq κ]

/-- A further key counts only if it is new. -/
theorem eraseDups_concat (keys : List κ) (key : κ) :
    (keys ++ [key]).eraseDups = if key ∈ keys then keys.eraseDups else keys.eraseDups ++ [key] := by
  rw [List.eraseDups_append, List.cons_removeAll, List.nil_removeAll]
  by_cases h : key ∈ keys <;> simp [h, List.eraseDups_cons]

theorem nodup_eraseDups (keys : List κ) : keys.eraseDups.Nodup := by
  induction keys using List.reverseRecOn with
  | nil => exact List.nodup_nil
  | append_singleton keys key ih =>
    rw [eraseDups_concat]
    split
    next => exact ih
    next hnew =>
      rw [← List.concat_eq_append]
      exact ih.concat (mt List.mem_eraseDups.1 hnew)

/-- Which keys are new depends on the keys that have come before, and not on how often they have. -/
theorem eraseDups_append_congr {first second : List κ} (h : first.eraseDups = second.eraseDups)
    (more : List κ) : (first ++ more).eraseDups = (second ++ more).eraseDups := by
  induction more using List.reverseRecOn with
  | nil => rwa [List.append_nil, List.append_nil]
  | append_singleton more key ih =>
    have hmem : key ∈ first ++ more ↔ key ∈ second ++ more := by
      rw [← List.mem_eraseDups, ih, List.mem_eraseDups]
    rw [← List.append_assoc, ← List.append_assoc, eraseDups_concat, eraseDups_concat, ih]
    simp only [hmem]

theorem eraseDups_append_eraseDups (keys more : List κ) :
    (keys ++ more.eraseDups).eraseDups = (keys ++ more).eraseDups := by
  induction more using List.reverseRecOn with
  | nil => rfl
  | append_singleton more key ih =>
    rw [← List.append_assoc, eraseDups_concat (keys ++ more), eraseDups_concat more]
    by_cases hmore : key ∈ more
    · rw [if_pos hmore, if_pos (List.mem_append_right _ hmore), ih]
    · rw [if_neg hmore, ← List.append_assoc, eraseDups_concat, ih]
      simp only [List.mem_append, List.mem_eraseDups]

/-- Keys that come in several lists may be thinned out list by list first. -/
theorem eraseDups_flatMap_eraseDups {ι : Type} (lists : List ι) (keys : ι → List κ) :
    (lists.flatMap fun list => (keys list).eraseDups).eraseDups =
      (lists.flatMap keys).eraseDups := by
  induction lists using List.reverseRecOn with
  | nil => rfl
  | append_singleton lists list ih =>
    rw [List.flatMap_append, List.flatMap_append, List.flatMap_singleton, List.flatMap_singleton,
      eraseDups_append_eraseDups, eraseDups_append_congr ih]

end Keys

section Split

variable {κ α : Type} [DecidableEq κ]

/-- The stable split of a list: a part for each key, in the order in which the keys first appear,
with the items of this key in their order. -/
def splitByKey (key : α → κ) (items : List α) : List (κ × List α) :=
  (items.map key).eraseDups.map fun k => (k, items.filter fun item => key item = k)

/-- Adds an item to the part of a key, which is opened at the end if there is none. -/
def addToPart (parts : List (κ × List α)) (key : κ) (item : α) : List (κ × List α) :=
  match parts with
  | [] => [(key, [item])]
  | part :: rest =>
    if part.1 = key then (part.1, part.2 ++ [item]) :: rest else part :: addToPart rest key item

/-! ### Adding item by item -/

theorem addToPart_of_notMem {keys : List κ} {key : κ} (hkey : key ∉ keys) (members : κ → List α)
    (item : α) :
    addToPart (keys.map fun k => (k, members k)) key item =
      (keys.map fun k => (k, members k)) ++ [(key, [item])] := by
  induction keys with
  | nil => rfl
  | cons k rest ih =>
    rw [List.mem_cons, not_or] at hkey
    rw [List.map_cons, addToPart, if_neg (Ne.symm hkey.1), ih hkey.2, List.cons_append]

theorem addToPart_of_mem {keys : List κ} {key : κ} (hkey : key ∈ keys) (hkeys : keys.Nodup)
    (members : κ → List α) (item : α) :
    addToPart (keys.map fun k => (k, members k)) key item =
      keys.map fun k => (k, if k = key then members k ++ [item] else members k) := by
  induction keys with
  | nil => exact absurd hkey List.not_mem_nil
  | cons k rest ih =>
    obtain ⟨hk, hrest⟩ := List.nodup_cons.1 hkeys
    by_cases heq : k = key
    · subst heq
      -- The other parts stay as they are, because no other key is this one.
      have others : ∀ other ∈ rest, (other, members other) =
          (other, if other = k then members other ++ [item] else members other) := by
        intro other hother
        rw [if_neg (ne_of_mem_of_not_mem hother hk)]
      simp only [List.map_cons, addToPart, if_true]
      rw [List.map_congr_left others]
    · have hmem : key ∈ rest := (List.mem_cons.1 hkey).resolve_left (Ne.symm heq)
      simp only [List.map_cons, addToPart, if_neg heq, ih hmem hrest]

/-- One more item joins the part of its key. -/
theorem splitByKey_concat (key : α → κ) (items : List α) (item : α) :
    splitByKey key (items ++ [item]) = addToPart (splitByKey key items) (key item) item := by
  have members (k : κ) : ((items ++ [item]).filter fun other => key other = k) =
      if k = key item then (items.filter fun other => key other = k) ++ [item]
      else items.filter fun other => key other = k := by
    rw [List.filter_append]
    by_cases h : k = key item
    · simp [h]
    · simp [h, Ne.symm h]
  rw [splitByKey, splitByKey, List.map_append, List.map_singleton, eraseDups_concat]
  by_cases hmem : key item ∈ items.map key
  · rw [if_pos hmem, addToPart_of_mem (List.mem_eraseDups.2 hmem) (nodup_eraseDups _)]
    simp only [members]
  · have hnew : key item ∉ (items.map key).eraseDups := mt List.mem_eraseDups.1 hmem
    have hnone : (items.filter fun other => key other = key item) = [] :=
      List.filter_eq_nil_iff.2 fun other hother heq =>
        hmem (List.mem_map.2 ⟨other, hother, of_decide_eq_true heq⟩)
    have others : ∀ k ∈ (items.map key).eraseDups,
        (k, (items ++ [item]).filter fun other => key other = k) =
          (k, items.filter fun other => key other = k) := fun k hk => by
      rw [members, if_neg (ne_of_mem_of_not_mem hk hnew)]
    rw [if_neg hmem, addToPart_of_notMem hnew, List.map_append, List.map_congr_left others,
      List.map_singleton, members, if_pos rfl, hnone, List.nil_append]

/-- Adding the items of a list one by one gives its stable split. -/
theorem foldl_addToPart (key : α → κ) (items : List α) :
    items.foldl (fun parts item => addToPart parts (key item) item) [] = splitByKey key items := by
  induction items using List.reverseRecOn with
  | nil => rfl
  | append_singleton items item ih => rw [List.foldl_concat, ih, splitByKey_concat]

/-- Groups of any form that take items as the parts of a split do are the stable split,
each part as a group. -/
theorem foldl_eq_map_splitByKey {γ : Type} {key : α → κ} {place : List γ → α → List γ}
    (ofPart : κ × List α → γ) (hnew : ∀ item, place [] item = [ofPart (key item, [item])])
    (hplace : ∀ part rest item, place (ofPart part :: rest) item =
      if part.1 = key item then ofPart (part.1, part.2 ++ [item]) :: rest
      else ofPart part :: place rest item) (items : List α) :
    items.foldl place [] = (splitByKey key items).map ofPart := by
  have step (parts : List (κ × List α)) (item : α) :
      place (parts.map ofPart) item = (addToPart parts (key item) item).map ofPart := by
    induction parts with
    | nil => exact hnew item
    | cons part rest ih =>
      rw [List.map_cons, hplace, addToPart, ih]
      split
      · rfl
      · rfl
  rw [← foldl_addToPart, ← List.map_nil]
  exact List.foldl_hom (List.map ofPart) step

/-! ### The parts of a split -/

theorem map_fst_splitByKey (key : α → κ) (items : List α) :
    (splitByKey key items).map Prod.fst = (items.map key).eraseDups := by
  simp [splitByKey, Function.comp_def]

theorem nodup_fst_splitByKey (key : α → κ) (items : List α) :
    ((splitByKey key items).map Prod.fst).Nodup := by
  rw [map_fst_splitByKey]
  exact nodup_eraseDups _

theorem eq_filter_of_mem_splitByKey {key : α → κ} {items : List α} {part : κ × List α}
    (h : part ∈ splitByKey key items) : part.2 = items.filter fun item => key item = part.1 := by
  obtain ⟨k, -, rfl⟩ := List.mem_map.1 h
  rfl

/-- The part of a key, if there is one, has the items of this key. -/
theorem flatMap_filter_splitByKey (key : α → κ) (items : List α) (k : κ) :
    ((splitByKey key items).filter fun part => part.1 = k).flatMap Prod.snd =
      items.filter fun item => key item = k := by
  rw [splitByKey, List.filter_map, List.flatMap_map]
  have own : ((items.map key).eraseDups.filter fun other => other = k) =
      List.replicate (if k ∈ (items.map key).eraseDups then 1 else 0) k := by
    rw [List.filter_eq, (nodup_eraseDups _).count]
  refine (congrArg (List.flatMap _) own).trans ?_
  split
  · exact List.flatMap_singleton _ k
  next hnone =>
    -- Without a part of this key there is no item of it either.
    rw [List.mem_eraseDups] at hnone
    refine (List.filter_eq_nil_iff.2 fun item hitem heq => hnone ?_).symm
    exact List.mem_map.2 ⟨item, hitem, of_decide_eq_true heq⟩

theorem ne_nil_of_mem_splitByKey {key : α → κ} {items : List α} {part : κ × List α}
    (h : part ∈ splitByKey key items) : part.2 ≠ [] := by
  have hkey : part.1 ∈ (splitByKey key items).map Prod.fst := List.mem_map_of_mem h
  rw [map_fst_splitByKey, List.mem_eraseDups] at hkey
  obtain ⟨item, hitem, hkey⟩ := List.mem_map.1 hkey
  rw [eq_filter_of_mem_splitByKey h]
  exact List.ne_nil_of_mem (List.mem_filter.2 ⟨hitem, decide_eq_true hkey⟩)

theorem perm_addToPart (parts : List (κ × List α)) (key : κ) (item : α) :
    ((addToPart parts key item).flatMap Prod.snd).Perm (parts.flatMap Prod.snd ++ [item]) := by
  induction parts with
  | nil => simp [addToPart]
  | cons part rest ih =>
    rw [addToPart]
    split
    · -- The item stands at the end of the first part, and belongs behind all parts.
      rw [List.flatMap_cons, List.flatMap_cons, List.append_assoc, List.append_assoc]
      exact List.perm_append_comm.append_left part.2
    · rw [List.flatMap_cons, List.flatMap_cons, List.append_assoc]
      exact ih.append_left part.2

/-- The parts together have the items of the list, each as often. -/
theorem perm_splitByKey (key : α → κ) (items : List α) :
    ((splitByKey key items).flatMap Prod.snd).Perm items := by
  induction items using List.reverseRecOn with
  | nil => exact List.Perm.nil
  | append_singleton items item ih =>
    rw [splitByKey_concat]
    exact (perm_addToPart _ _ _).trans (ih.append_right _)

/-- One part has an item before all items of another. -/
def BeginsBefore (before : α → α → Prop) (first second : κ × List α) : Prop :=
  ∃ item ∈ first.2, ∀ other ∈ second.2, before item other

/-- A part after the addition was there before, has been extended, or is new. -/
theorem of_mem_addToPart {parts : List (κ × List α)} {key : κ} {item : α} {part : κ × List α}
    (h : part ∈ addToPart parts key item) :
    part ∈ parts ∨ (∃ old ∈ parts, part = (old.1, old.2 ++ [item])) ∨ part = (key, [item]) := by
  induction parts with
  | nil => exact Or.inr (Or.inr (List.mem_singleton.1 h))
  | cons first rest ih =>
    rw [addToPart] at h
    split at h
    · rcases List.mem_cons.1 h with rfl | h
      · exact Or.inr (Or.inl ⟨first, List.mem_cons_self, rfl⟩)
      · exact Or.inl (List.mem_cons_of_mem _ h)
    · rcases List.mem_cons.1 h with rfl | h
      · exact Or.inl List.mem_cons_self
      · rcases ih h with h | ⟨old, hold, rfl⟩ | h
        · exact Or.inl (List.mem_cons_of_mem _ h)
        · exact Or.inr (Or.inl ⟨old, List.mem_cons_of_mem _ hold, rfl⟩)
        · exact Or.inr (Or.inr h)

theorem pairwise_addToPart {before : α → α → Prop} {parts : List (κ × List α)} {item : α}
    (hparts : parts.Pairwise (BeginsBefore before)) (hne : ∀ part ∈ parts, part.2 ≠ [])
    (hitem : ∀ part ∈ parts, ∀ other ∈ part.2, before other item) (key : κ) :
    (addToPart parts key item).Pairwise (BeginsBefore before) := by
  induction parts with
  | nil => simp [addToPart]
  | cons first rest ih =>
    obtain ⟨hfirst, hrest⟩ := List.pairwise_cons.1 hparts
    rw [List.forall_mem_cons] at hne hitem
    rw [addToPart]
    split
    · -- An extended part still begins where it did.
      refine List.pairwise_cons.2 ⟨fun second hsecond => ?_, hrest⟩
      obtain ⟨best, hbest, h⟩ := hfirst second hsecond
      exact ⟨best, List.mem_append_left _ hbest, h⟩
    · refine List.pairwise_cons.2 ⟨fun second hsecond => ?_, ih hrest hne.2 hitem.2⟩
      rcases of_mem_addToPart hsecond with h | ⟨old, hold, rfl⟩ | rfl
      · exact hfirst second h
      · obtain ⟨best, hbest, h⟩ := hfirst old hold
        refine ⟨best, hbest, fun other hother => ?_⟩
        rcases List.mem_append.1 hother with hother | hother
        · exact h other hother
        · exact List.mem_singleton.1 hother ▸ hitem.1 best hbest
      · obtain ⟨best, hbest⟩ := List.exists_mem_of_ne_nil _ hne.1
        exact ⟨best, hbest, fun other hother => List.mem_singleton.1 hother ▸ hitem.1 best hbest⟩

/-- In an ordered list, a part has an item before all items of each later part. -/
theorem pairwise_splitByKey {before : α → α → Prop} {items : List α} (h : items.Pairwise before)
    (key : α → κ) : (splitByKey key items).Pairwise (BeginsBefore before) := by
  induction items using List.reverseRecOn with
  | nil => exact List.Pairwise.nil
  | append_singleton items item ih =>
    obtain ⟨hitems, -, hlast⟩ := List.pairwise_append.1 h
    rw [splitByKey_concat]
    refine pairwise_addToPart (ih hitems) (fun _ => ne_nil_of_mem_splitByKey) ?_ (key item)
    intro part hpart other hother
    rw [eq_filter_of_mem_splitByKey hpart] at hother
    exact hlast other (List.mem_filter.1 hother).1 item (List.mem_singleton_self item)

end Split

end Faceted
