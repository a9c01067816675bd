import Faceted.Backend.Address
import Faceted.Proofs.Text.Ends

/-!
# One slash at every seam

An address is put together from a base and an index, which settings give with any number of slashes
at their ends. The index may even be nothing but slashes, and then there is one seam less. The
second step of putting an address together drops what the first one left at its end, so that the
address depends only on what is between the slashes.

## Main definitions

* `Address.slashes` — a number of slashes
* `Address.bareBase`, `Address.bareIndex` — a base and an index without the slashes at the seams

## Main results

* `Address.search_eq` — the address by what is between the slashes
* `Address.search_normal_form` — the address to which searches are posted
-/

namespace Faceted

namespace Address

open Text

/-- A number of slashes. -/
def slashes (count : Nat) : String := String.ofList (List.replicate count '/')

/-- A base without the slashes at its end. -/
def bareBase (base : String) : String := String.ofList (dropBack isSlash base.toList)

/-- An index without the slashes at both ends. -/
def bareIndex (index : String) : String :=
  String.ofList (dropBack isSlash (dropFront isSlash index.toList))

@[simp] theorem toList_bareBase (base : String) :
    (bareBase base).toList = dropBack isSlash base.toList := String.toList_ofList

@[simp] theorem toList_bareIndex (index : String) :
    (bareIndex index).toList = dropBack isSlash (dropFront isSlash index.toList) :=
  String.toList_ofList

/-! ### Between the slashes -/

theorem isSlash_slash : isSlash '/' = true := rfl

theorem isSlash_of_mem_replicate (count : Nat) : ∀ c ∈ List.replicate count '/', isSlash c = true :=
  fun c hc => by rw [List.eq_of_mem_replicate hc, isSlash_slash]

/-- Characters that are all slashes are a number of slashes. -/
theorem ofList_eq_slashes {chars : List Char} (h : ∀ c ∈ chars, isSlash c = true) :
    String.ofList chars = slashes chars.length :=
  congrArg String.ofList (List.eq_replicate_iff.2 ⟨rfl, fun c hc => beq_iff_eq.1 (h c hc)⟩)

theorem exists_ofList_eq_dropBack (chars : List Char) :
    ∃ count, String.ofList chars = String.ofList (dropBack isSlash chars) ++ slashes count := by
  refine ⟨(chars.rtakeWhile isSlash).length, ?_⟩
  rw [← ofList_eq_slashes fun c hc => List.mem_rtakeWhile_imp hc, ← String.ofList_append,
    dropBack_eq_rdropWhile, List.rdropWhile_append_rtakeWhile]

theorem exists_eq_bareBase (base : String) : ∃ count, base = bareBase base ++ slashes count := by
  obtain ⟨count, hcount⟩ := exists_ofList_eq_dropBack base.toList
  exact ⟨count, String.ofList_toList.symm.trans hcount⟩

theorem exists_eq_bareIndex (index : String) :
    ∃ front back, index = slashes front ++ bareIndex index ++ slashes back := by
  obtain ⟨back, hback⟩ := exists_ofList_eq_dropBack (dropFront isSlash index.toList)
  refine ⟨(index.toList.takeWhile isSlash).length, back, ?_⟩
  rw [bareIndex, String.append_assoc, ← hback,
    ← ofList_eq_slashes fun c hc => List.mem_takeWhile_imp hc, ← String.ofList_append, dropFront,
    List.takeWhile_append_dropWhile, String.ofList_toList]

theorem bareBase_append_slashes (base : String) (count : Nat) :
    bareBase (base ++ slashes count) = bareBase base := by
  rw [bareBase, slashes, String.toList_append, String.toList_ofList,
    dropBack_append_of_forall (isSlash_of_mem_replicate count), bareBase]

theorem bareIndex_slashes_append (index : String) (front back : Nat) :
    bareIndex (slashes front ++ index ++ slashes back) = bareIndex index := by
  rw [bareIndex, slashes, slashes, String.toList_append, String.toList_append, String.toList_ofList,
    String.toList_ofList, dropBack_dropFront_append_of_forall (isSlash_of_mem_replicate back),
    dropFront_append_of_forall (isSlash_of_mem_replicate front), bareIndex]

theorem getLast?_dropBack_ne (chars : List Char) : (dropBack isSlash chars).getLast? ≠ some '/' :=
  fun h => Bool.false_ne_true ((of_getLast?_dropBack h).symm.trans isSlash_slash)

theorem head?_bareIndex_ne (index : String) : (bareIndex index).toList.head? ≠ some '/' := by
  rw [toList_bareIndex]
  intro h
  have hne : dropBack isSlash (dropFront isSlash index.toList) ≠ [] := by
    intro hnil
    rw [hnil] at h
    exact nomatch h
  rw [head?_dropBack hne] at h
  exact Bool.false_ne_true ((of_head?_dropFront h).symm.trans isSlash_slash)

/-! ### The address -/

/-- Where searches are posted to depends only on what is between the slashes at the seams. -/
theorem search_eq (base index : String) :
    search base index =
      (if bareIndex index = "" then bareBase base else bareBase base ++ "/" ++ bareIndex index)
        ++ "/_search" := by
  have hslash : dropBack isSlash ('/' :: dropFront isSlash index.toList) =
      if bareIndex index = "" then []
      else '/' :: dropBack isSlash (dropFront isSlash index.toList) := by
    have happend := dropBack_append isSlash ['/'] (dropFront isSlash index.toList)
    rw [List.singleton_append] at happend
    simp only [happend, bareIndex, String.ofList_eq_empty_iff]
    rfl
  have hbase : dropBack isSlash (dropBack isSlash base.toList) = dropBack isSlash base.toList :=
    List.rdropWhile_idempotent isSlash base.toList
  have hpath : '/' :: dropFront isSlash "_search".toList = "/_search".toList := by decide
  apply String.toList_injective
  rw [search, append, append, String.toList_ofList, String.toList_ofList, dropBack_append,
    hslash, hpath, String.toList_append]
  -- Without an index the address ends with the slash of the first step, which the last step drops.
  split
  next => rw [if_pos rfl, hbase, toList_bareBase]
  next =>
    rw [if_neg (List.cons_ne_nil _ _), String.toList_append, String.toList_append, toList_bareBase,
      toList_bareIndex, List.append_assoc, List.append_assoc, List.append_assoc]
    rfl

/-- Searches are posted below the bare base: to the bare index if there is one. So slashes that
are added at a seam make no difference, and exactly one is written there, since the bare parts
neither end nor begin with one at a seam. All that a base and an index have between the slashes
at the seams is kept. -/
theorem search_normal_form (base index : String) :
    search base index =
        (if bareIndex index = "" then bareBase base else bareBase base ++ "/" ++ bareIndex index)
          ++ "/_search" ∧
      (∀ after front back : Nat,
        search (base ++ slashes after) (slashes front ++ index ++ slashes back) =
          search base index) ∧
      (∃ after, base = bareBase base ++ slashes after) ∧
      (∃ front back, index = slashes front ++ bareIndex index ++ slashes back) ∧
      (bareBase base).toList.getLast? ≠ some '/' ∧
      (bareIndex index).toList.head? ≠ some '/' ∧
      (bareIndex index).toList.getLast? ≠ some '/' := by
  refine ⟨search_eq base index, fun after front back => ?_, exists_eq_bareBase base,
    exists_eq_bareIndex index, ?_, head?_bareIndex_ne index, ?_⟩
  · rw [search_eq, search_eq, bareBase_append_slashes, bareIndex_slashes_append]
  · rw [toList_bareBase]
    exact getLast?_dropBack_ne _
  · rw [toList_bareIndex]
    exact getLast?_dropBack_ne _

end Address

end Faceted
