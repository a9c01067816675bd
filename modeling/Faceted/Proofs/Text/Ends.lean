import Mathlib.Data.List.DropRight
import Faceted.Text.Blank

/-!
# What is dropped at the ends of a text

Texts are put together and trimmed, and addresses are put together from parts with slashes at their
ends. In both cases characters of a class are dropped at an end for as long as there are any, so
that the rest depends only on what is between them. The class of a trimmed text is the white space
of Unicode, of which there are twenty-five characters.

## Main definitions

* `Text.whiteSpace` — the characters of Unicode that are white space
* `Text.IsTrimmed` — a text is what another one has between the blanks at its ends

## Main results

* `Text.dropBack_append`, `Text.dropFront_append` — what is dropped of a text put together from two
* `Text.isTrimmed_iff` — a text has one trimmed form
-/

namespace Faceted.Text

/-! ### Characters of a class -/

section Ends

variable {p : Char → Bool} {c : Char}

theorem dropBack_eq_rdropWhile (p : Char → Bool) (chars : List Char) :
    dropBack p chars = chars.rdropWhile p := rfl

/-- The front of a text loses something at its end only if all of its back is dropped. -/
theorem dropBack_append (p : Char → Bool) (front back : List Char) :
    dropBack p (front ++ back) =
      if dropBack p back = [] then dropBack p front else front ++ dropBack p back := by
  simp only [dropBack, List.reverse_append, List.dropWhile_append, List.isEmpty_iff,
    List.reverse_eq_nil_iff]
  split
  next => rfl
  next => rw [List.reverse_append, List.reverse_reverse]

theorem dropBack_of_forall {chars : List Char} (h : ∀ c ∈ chars, p c = true) :
    dropBack p chars = [] := by
  rw [dropBack_eq_rdropWhile, List.rdropWhile_eq_nil_iff]
  exact h

theorem dropBack_append_of_forall {back : List Char} (h : ∀ c ∈ back, p c = true)
    (front : List Char) : dropBack p (front ++ back) = dropBack p front := by
  rw [dropBack_append, if_pos (dropBack_of_forall h)]

theorem dropFront_append_of_forall {front : List Char} (h : ∀ c ∈ front, p c = true)
    (back : List Char) : dropFront p (front ++ back) = dropFront p back :=
  List.dropWhile_append_of_pos h

theorem dropFront_of_forall {chars : List Char} (h : ∀ c ∈ chars, p c = true) :
    dropFront p chars = [] := by
  rw [← List.append_nil chars, dropFront_append_of_forall h]
  rfl

/-- The back of a text loses something at its front only if all of its front is dropped. -/
theorem dropFront_append (p : Char → Bool) (front back : List Char) :
    dropFront p (front ++ back) =
      if dropFront p front = [] then dropFront p back else dropFront p front ++ back := by
  by_cases hnil : front.dropWhile p = []
  · simp [dropFront, List.dropWhile_append, hnil]
  · simp [dropFront, List.dropWhile_append, hnil]

/-- What is left between both ends does not depend on what is added at the
back and dropped again. -/
theorem dropBack_dropFront_append_of_forall {back : List Char} (h : ∀ c ∈ back, p c = true)
    (chars : List Char) :
    dropBack p (dropFront p (chars ++ back)) = dropBack p (dropFront p chars) := by
  rw [dropFront_append, dropFront_of_forall h]
  split
  next hnil => rw [hnil]
  next => exact dropBack_append_of_forall h _

theorem of_head?_dropFront {chars : List Char} (h : (dropFront p chars).head? = some c) :
    p c = false := by
  have hfirst := List.head?_dropWhile_not p chars
  rwa [← dropFront, h] at hfirst

theorem of_getLast?_dropBack {chars : List Char} (h : (dropBack p chars).getLast? = some c) :
    p c = false := by
  rw [dropBack, List.getLast?_reverse] at h
  exact of_head?_dropFront h

/-- What is dropped at the end only leaves the front as it is. -/
theorem head?_dropBack {chars : List Char} (h : dropBack p chars ≠ []) :
    (dropBack p chars).head? = chars.head? := by
  obtain ⟨rest, hrest⟩ := List.rdropWhile_prefix p chars
  obtain ⟨first, more, hcons⟩ := List.exists_cons_of_ne_nil h
  have hfirst := congrArg List.head? hrest
  rw [← dropBack_eq_rdropWhile, hcons, List.cons_append, List.head?_cons] at hfirst
  rw [hcons, List.head?_cons, hfirst]

/-- A text that begins with another character loses nothing at its front. -/
theorem dropFront_eq_self {chars : List Char} (h : ∀ c ∈ chars.head?, p c = false) :
    dropFront p chars = chars := by
  cases chars with
  | nil => rfl
  | cons first rest =>
    rw [dropFront, List.dropWhile_cons_of_neg]
    rw [h first rfl]
    exact Bool.false_ne_true

theorem dropBack_eq_self {chars : List Char} (h : ∀ c ∈ chars.getLast?, p c = false) :
    dropBack p chars = chars := by
  have hreverse : dropFront p chars.reverse = chars.reverse :=
    dropFront_eq_self fun c hc => h c (by rwa [List.head?_reverse] at hc)
  rw [dropBack, ← dropFront, hreverse, List.reverse_reverse]

end Ends

/-! ### White space -/

/-- The characters of Unicode that are white space. -/
def whiteSpace : List Char :=
  ['\u0009', '\u000a', '\u000b', '\u000c', '\u000d', '\u0020', '\u0085', '\u00a0', '\u1680',
    '\u2000', '\u2001', '\u2002', '\u2003', '\u2004', '\u2005', '\u2006', '\u2007', '\u2008',
    '\u2009', '\u200a', '\u2028', '\u2029', '\u202f', '\u205f', '\u3000']

theorem isBlank_iff (c : Char) : isBlank c = true ↔ c ∈ whiteSpace := by
  simp only [whiteSpace, List.mem_cons, List.not_mem_nil, or_false, ← Char.toNat_inj]
  simp only [isBlank, Bool.or_eq_true, Bool.and_eq_true, decide_eq_true_eq, beq_iff_eq]
  simp only [Char.reduceToNat]
  omega

/-- A text is what another one has between the blanks at its ends. -/
structure IsTrimmed (whole part : String) : Prop where
  between : ∃ front back, whole.toList = front ++ part.toList ++ back ∧
    (∀ c ∈ front, c ∈ whiteSpace) ∧ ∀ c ∈ back, c ∈ whiteSpace
  first : ∀ c ∈ part.toList.head?, c ∉ whiteSpace
  last : ∀ c ∈ part.toList.getLast?, c ∉ whiteSpace

theorem isBlank_eq_false_iff (c : Char) : isBlank c = false ↔ c ∉ whiteSpace := by
  rw [← isBlank_iff, Bool.not_eq_true]

theorem isTrimmed_trim (whole : String) : IsTrimmed whole (trim whole) := by
  have hlist : (trim whole).toList = dropBack isBlank (dropFront isBlank whole.toList) :=
    String.toList_ofList
  refine ⟨⟨whole.toList.takeWhile isBlank, (dropFront isBlank whole.toList).rtakeWhile isBlank,
    ?_, ?_, ?_⟩, ?_, ?_⟩
  · rw [hlist, List.append_assoc, dropBack_eq_rdropWhile, List.rdropWhile_append_rtakeWhile]
    exact List.takeWhile_append_dropWhile.symm
  · intro c hc
    exact (isBlank_iff c).1 (List.mem_takeWhile_imp hc)
  · intro c hc
    exact (isBlank_iff c).1 (List.mem_rtakeWhile_imp hc)
  · intro c hc
    rw [hlist] at hc
    have hne : dropBack isBlank (dropFront isBlank whole.toList) ≠ [] := by
      rintro hnil
      rw [hnil] at hc
      cases hc
    rw [head?_dropBack hne] at hc
    exact (isBlank_eq_false_iff c).1 (of_head?_dropFront hc)
  · intro c hc
    rw [hlist] at hc
    exact (isBlank_eq_false_iff c).1 (of_getLast?_dropBack hc)

/-- A text has one trimmed form. -/
theorem isTrimmed_iff {whole part : String} : IsTrimmed whole part ↔ part = trim whole := by
  constructor
  · rintro ⟨⟨front, back, hwhole, hfront, hback⟩, hfirst, hlast⟩
    have hfront : ∀ c ∈ front, isBlank c = true := fun c hc => (isBlank_iff c).2 (hfront c hc)
    have hback : ∀ c ∈ back, isBlank c = true := fun c hc => (isBlank_iff c).2 (hback c hc)
    -- The blanks in front are dropped first, and those behind do not change what is left of them.
    rw [trim, hwhole, List.append_assoc, dropFront_append_of_forall hfront,
      dropBack_dropFront_append_of_forall hback,
      dropFront_eq_self fun c hc => (isBlank_eq_false_iff c).2 (hfirst c hc),
      dropBack_eq_self fun c hc => (isBlank_eq_false_iff c).2 (hlast c hc), String.ofList_toList]
  · rintro rfl
    exact isTrimmed_trim whole

end Faceted.Text
