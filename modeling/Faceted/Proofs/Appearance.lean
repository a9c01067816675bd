import Mathlib.Data.List.Dedup
import Mathlib.Data.List.Pairwise
import Faceted.Proofs.Split

/-!
# First and last appearances

A list with repetitions can be thinned out in two ways: each item is kept where it first appears,
which is `List.eraseDups`, or where it last appears, which is `List.dedup`. The two orders differ as
soon as an item comes back after another one that does not.

## Main definitions

* `IsFirst`, `IsLast` — where an item appears for the first and the last time
* `FirstBefore`, `LastBefore` — the orders of first and of last appearances

## Main results

* `pairwise_eraseDups`, `pairwise_dedup` — the two ways of thinning out follow these orders
* `eq_of_perm_of_firstBefore`, `eq_of_perm_of_lastBefore` — only one arrangement follows each order
* `dedup_eq_eraseDups_iff` — when the two ways agree
-/

namespace Faceted

variable {κ : Type}

/-- An item appears at a place, and not before. -/
def IsFirst (items : List κ) (place : Nat) (item : κ) : Prop :=
  items[place]? = some item ∧ ∀ other, items[other]? = some item → place ≤ other

/-- An item appears at a place, and not after. -/
def IsLast (items : List κ) (place : Nat) (item : κ) : Prop :=
  items[place]? = some item ∧ ∀ other, items[other]? = some item → other ≤ place

/-- The first appearance of one item is before that of another. -/
def FirstBefore (items : List κ) (first second : κ) : Prop :=
  ∃ i j, IsFirst items i first ∧ IsFirst items j second ∧ i < j

/-- The last appearance of one item is before that of another. -/
def LastBefore (items : List κ) (first second : κ) : Prop :=
  ∃ i j, IsLast items i first ∧ IsLast items j second ∧ i < j

section Order

variable {items : List κ} {first second : κ}

theorem IsFirst.unique {item : κ} {i j : Nat} (hi : IsFirst items i item)
    (hj : IsFirst items j item) : i = j :=
  Nat.le_antisymm (hi.2 j hj.1) (hj.2 i hi.1)

theorem IsLast.unique {item : κ} {i j : Nat} (hi : IsLast items i item) (hj : IsLast items j item) :
    i = j :=
  Nat.le_antisymm (hj.2 i hi.1) (hi.2 j hj.1)

theorem FirstBefore.asymm (h : FirstBefore items first second) :
    ¬ FirstBefore items second first := by
  rintro ⟨k, l, hk, hl, hlt⟩
  obtain ⟨i, j, hi, hj, hij⟩ := h
  rw [hi.unique hl, hj.unique hk] at hij
  exact Nat.lt_asymm hij hlt

theorem LastBefore.asymm (h : LastBefore items first second) : ¬ LastBefore items second first := by
  rintro ⟨k, l, hk, hl, hlt⟩
  obtain ⟨i, j, hi, hj, hij⟩ := h
  rw [hi.unique hl, hj.unique hk] at hij
  exact Nat.lt_asymm hij hlt

/-- Only one arrangement follows the order of first appearances. -/
theorem eq_of_perm_of_firstBefore {kept other : List κ} (hkept : kept.Pairwise (FirstBefore items))
    (hother : other.Pairwise (FirstBefore items)) (hperm : kept.Perm other) : kept = other :=
  hperm.eq_of_pairwise (fun _ _ _ _ h hback => absurd hback h.asymm) hkept hother

/-- Only one arrangement follows the order of last appearances. -/
theorem eq_of_perm_of_lastBefore {kept other : List κ} (hkept : kept.Pairwise (LastBefore items))
    (hother : other.Pairwise (LastBefore items)) (hperm : kept.Perm other) : kept = other :=
  hperm.eq_of_pairwise (fun _ _ _ _ h hback => absurd hback h.asymm) hkept hother

end Order

/-! ### One more item -/

section Extend

variable {items : List κ} {place : Nat} {item : κ}

/-- An item put in front leaves the last appearances where they were. -/
theorem IsLast.cons (h : IsLast items place item) (front : κ) :
    IsLast (front :: items) (place + 1) item := by
  refine ⟨h.1, fun other hother => ?_⟩
  cases other with
  | zero => exact Nat.zero_le _
  | succ other => exact Nat.succ_le_succ (h.2 other hother)

/-- An item put in front that does not come again appears there for the last time. -/
theorem isLast_zero (h : item ∉ items) : IsLast (item :: items) 0 item := by
  refine ⟨rfl, fun other hother => ?_⟩
  cases other with
  | zero => exact Nat.le_refl 0
  | succ other =>
    rw [List.getElem?_cons_succ] at hother
    exact absurd (List.mem_of_getElem? hother) h

/-- An item put at the end leaves the first appearances where they were. -/
theorem IsFirst.concat (h : IsFirst items place item) (last : κ) :
    IsFirst (items ++ [last]) place item := by
  have hplace : place < items.length := (List.getElem?_eq_some_iff.1 h.1).1
  refine ⟨(List.getElem?_append_left hplace).trans h.1, fun other hother => ?_⟩
  by_cases hlt : other < items.length
  · exact h.2 other ((List.getElem?_append_left hlt).symm.trans hother)
  · exact Nat.le_trans (Nat.le_of_lt hplace) (Nat.le_of_not_lt hlt)

/-- A new item put at the end appears there for the first time. -/
theorem isFirst_length (h : item ∉ items) : IsFirst (items ++ [item]) items.length item := by
  refine ⟨List.getElem?_concat_length, fun other hother => Nat.le_of_not_lt fun hlt => ?_⟩
  rw [List.getElem?_append_left hlt] at hother
  exact h (List.mem_of_getElem? hother)

theorem exists_isLast (h : item ∈ items) : ∃ place, IsLast items place item := by
  induction items with
  | nil => exact absurd h List.not_mem_nil
  | cons front rest ih =>
    by_cases hrest : item ∈ rest
    · obtain ⟨place, hplace⟩ := ih hrest
      exact ⟨place + 1, hplace.cons front⟩
    · obtain rfl : item = front := (List.mem_cons.1 h).resolve_right hrest
      exact ⟨0, isLast_zero hrest⟩

theorem exists_isFirst (h : item ∈ items) : ∃ place, IsFirst items place item := by
  induction items using List.reverseRecOn with
  | nil => exact absurd h List.not_mem_nil
  | append_singleton items last ih =>
    by_cases hitems : item ∈ items
    · obtain ⟨place, hplace⟩ := ih hitems
      exact ⟨place, hplace.concat last⟩
    · obtain rfl : item = last := by
        rcases List.mem_append.1 h with h | h
        · exact absurd h hitems
        · exact List.mem_singleton.1 h
      exact ⟨items.length, isFirst_length hitems⟩

theorem LastBefore.cons {first second : κ} (h : LastBefore items first second) (front : κ) :
    LastBefore (front :: items) first second := by
  obtain ⟨i, j, hi, hj, hij⟩ := h
  exact ⟨i + 1, j + 1, hi.cons front, hj.cons front, Nat.succ_lt_succ hij⟩

theorem FirstBefore.concat {first second : κ} (h : FirstBefore items first second) (last : κ) :
    FirstBefore (items ++ [last]) first second := by
  obtain ⟨i, j, hi, hj, hij⟩ := h
  exact ⟨i, j, hi.concat last, hj.concat last, hij⟩

end Extend

/-! ### Thinning out -/

section Thin

variable [BEq κ] [LawfulBEq κ]

/-- Where each item is kept at its first appearance, items follow the order of first appearances. -/
theorem pairwise_eraseDups (items : List κ) : items.eraseDups.Pairwise (FirstBefore items) := by
  induction items using List.reverseRecOn with
  | nil => exact List.Pairwise.nil
  | append_singleton items last ih =>
    have earlier := ih.imp fun h => h.concat last
    rw [eraseDups_concat]
    split
    next => exact earlier
    next h =>
      refine List.pairwise_append.2 ⟨earlier, List.pairwise_singleton _ _,
        fun item hitem other hother => ?_⟩
      obtain ⟨place, hplace⟩ := exists_isFirst (List.mem_eraseDups.1 hitem)
      rw [List.mem_singleton.1 hother]
      exact ⟨place, items.length, hplace.concat last, isFirst_length h,
        (List.getElem?_eq_some_iff.1 hplace.1).1⟩

variable [DecidableEq κ]

/-- Where each item is kept at its last appearance, items follow the order of last appearances. -/
theorem pairwise_dedup (items : List κ) : items.dedup.Pairwise (LastBefore items) := by
  induction items with
  | nil => exact List.Pairwise.nil
  | cons front rest ih =>
    have later := ih.imp fun h => h.cons front
    by_cases h : front ∈ rest
    · rw [List.dedup_cons_of_mem h]
      exact later
    · rw [List.dedup_cons_of_notMem h]
      refine List.pairwise_cons.2 ⟨fun item hitem => ?_, later⟩
      obtain ⟨place, hplace⟩ := exists_isLast (List.mem_dedup.1 hitem)
      exact ⟨0, place + 1, isLast_zero h, hplace.cons front, Nat.succ_pos place⟩

/-- It makes no difference whether first or last appearances are kept exactly if these
come in the same order. -/
theorem dedup_eq_eraseDups_iff (items : List κ) :
    items.dedup = items.eraseDups ↔
      ∀ first second, FirstBefore items first second → LastBefore items first second := by
  constructor
  · intro heq first second hfirst
    -- Both orders go along the one list; they cannot go apart for any two of its items.
    have along : items.dedup.Pairwise fun first second =>
        (FirstBefore items first second → LastBefore items first second) ∧
          (FirstBefore items second first → LastBefore items second first) := by
      have firsts := heq ▸ pairwise_eraseDups items
      exact (firsts.and (pairwise_dedup items)).imp fun h =>
        ⟨fun _ => h.2, fun hback => absurd hback h.1.asymm⟩
    have symmetric : Std.Symm fun first second =>
        (FirstBefore items first second → LastBefore items first second) ∧
          (FirstBefore items second first → LastBefore items second first) :=
      ⟨fun _ _ h => h.symm⟩
    have pairs := along.forall_of_forall fun item _ =>
      ⟨fun h => absurd h h.asymm, fun h => absurd h h.asymm⟩
    obtain ⟨i, j, hi, hj, -⟩ := id hfirst
    exact (pairs (List.mem_dedup.2 (List.mem_of_getElem? hi.1))
      (List.mem_dedup.2 (List.mem_of_getElem? hj.1))).1 hfirst
  · intro h
    refine eq_of_perm_of_lastBefore (pairwise_dedup items)
      ((pairwise_eraseDups items).imp fun {first second} => h first second) ?_
    rw [List.perm_ext_iff_of_nodup (List.nodup_dedup items) (nodup_eraseDups items)]
    intro item
    rw [List.mem_dedup, List.mem_eraseDups]

end Thin

end Faceted
