import Faceted.Proofs.Decimal.Tenths
import Faceted.Proofs.Search.Scoring

/-!
# Levels of relevance in the text of a query

The levels of relevance of a catalog are appended to the text that a query matches, each with the
half of it that raises the score. A half is exact as a double and is written as by hand, so the
levels can be told from the text of the query: no term has a blank in it, the terms are joined by
blanks, and the number in a term ends where its bracket does.

## Main definitions

* `Compile.levelText` — the term of a level, written by hand

## Main results

* `Compile.boost_eq` — the term of a level of 32 bits
* `Compile.withRelevance_inj` — the levels can be told from the text
* `compile_relevance` — the text of a query with levels of relevance
-/

namespace Faceted

open Text

namespace Compile

/-! ### One level -/

/-- The term of a level, written by hand. -/
def levelText (level : Nat) : String :=
  "(post_type_relevance:" ++ toString level ++ ")^" ++ Decimal.halfText level

/-- A level of 32 bits has a term with exactly the half of it. -/
theorem boost_eq {level : Nat} (hlt : level < 2 ^ 32) : boost level = levelText level := by
  unfold boost levelText boostFactor
  rw [Decimal.text_half (by omega)]

theorem value_boostFactor {level : Nat} (hlt : level < 2 ^ 32) :
    Decimal.value (boostFactor level) = level / 2 :=
  Decimal.value_half (by omega)

theorem map_boost_eq {levels : List Nat} (hlevels : ∀ level ∈ levels, level < 2 ^ 32) :
    levels.map boost = levels.map levelText :=
  List.map_congr_left fun level hlevel => boost_eq (hlevels level hlevel)

/-- Only digits are in a number. -/
theorem notMem_toString {c : Char} (hc : c.isDigit = false) (n : Nat) :
    c ∉ (toString n).toList := by
  rw [Nat.toString_eq_ofList_toDigits, String.toList_ofList]
  intro hmem
  rw [Nat.isDigit_of_mem_toDigits (by decide) (by decide) hmem] at hc
  exact Bool.false_ne_true hc.symm

theorem blank_notMem_levelText (level : Nat) : ' ' ∉ (levelText level).toList := by
  have hend : ' ' ∉ (if level % 2 = 0 then "" else ".5" : String).toList := by split <;> decide
  have hname : ' ' ∉ "(post_type_relevance:".toList := by decide
  have hpower : ' ' ∉ ")^".toList := by decide
  have hdigits (n : Nat) : ' ' ∉ (toString n).toList := notMem_toString rfl n
  unfold levelText
  simp only [Decimal.halfText, String.toList_append, List.mem_append, not_or]
  exact ⟨⟨⟨hname, hdigits level⟩, hpower⟩, hdigits (level / 2), hend⟩

/-- What stands before the first separator and what stands behind it. -/
theorem append_cons_inj {α : Type} [DecidableEq α] {separator : α}
    {before behind before' behind' : List α} (hbefore : separator ∉ before)
    (hbefore' : separator ∉ before')
    (h : before ++ separator :: behind = before' ++ separator :: behind') :
    before = before' ∧ behind = behind' := by
  have htake (items more : List α) (hitems : separator ∉ items) :
      (items ++ separator :: more).takeWhile (fun item => item ≠ separator) = items := by
    have hkept : ∀ item ∈ items, decide (item ≠ separator) = true := fun item hitem =>
      decide_eq_true (ne_of_mem_of_not_mem hitem hitems)
    rw [List.takeWhile_append_of_pos hkept, List.takeWhile_cons_of_neg (by simp), List.append_nil]
  have heq : before = before' := by
    rw [← htake before behind hbefore, h, htake before' behind' hbefore']
  subst heq
  exact ⟨rfl, List.cons_injective (List.append_cancel_left h)⟩

/-- The number in a term ends where its bracket does. -/
theorem levelText_inj {level other : Nat} (h : levelText level = levelText other) :
    level = other := by
  have hdigits (n : Nat) : ')' ∉ (toString n).toList := notMem_toString rfl n
  have hterm (n : Nat) : (levelText n).toList = "(post_type_relevance:".toList
      ++ ((toString n).toList ++ ')' :: ('^' :: (Decimal.halfText n).toList)) := by
    unfold levelText
    simp only [String.toList_append, List.append_assoc]
    rfl
  have hlists := congrArg String.toList h
  rw [hterm, hterm] at hlists
  have hnumber :=
    (append_cons_inj (hdigits level) (hdigits other) (List.append_cancel_left hlists)).1
  exact Nat.repr_inj.1 (String.toList_injective hnumber)

/-! ### All levels -/

/-- The terms of some levels, and the last one behind them. -/
def terms (levels : List Nat) : String :=
  " OR ".intercalate (levels.map levelText ++ [noBoost])

theorem terms_nil : terms [] = noBoost := rfl

theorem toList_terms_cons (level : Nat) (levels : List Nat) :
    (terms (level :: levels)).toList =
      (levelText level).toList ++ ' ' :: ("OR ".toList ++ (terms levels).toList) := by
  rw [terms, List.map_cons, List.cons_append,
    String.intercalate_cons_of_ne_nil (List.append_ne_nil_of_right_ne_nil _ (List.cons_ne_nil _ _))]
  simp [terms]

theorem blank_notMem_noBoost : ' ' ∉ noBoost.toList := by decide

theorem terms_inj {levels others : List Nat} (h : terms levels = terms others) :
    levels = others := by
  induction levels generalizing others with
  | nil =>
    cases others with
    | nil => rfl
    | cons other others =>
      -- Of the two lists of terms only one has a blank.
      have hblank := blank_notMem_noBoost
      rw [← terms_nil, h, toList_terms_cons] at hblank
      exact absurd (by simp) hblank
  | cons level levels ih =>
    cases others with
    | nil =>
      have hblank := blank_notMem_noBoost
      rw [← terms_nil, ← h, toList_terms_cons] at hblank
      exact absurd (by simp) hblank
    | cons other others =>
      have hlists := congrArg String.toList h
      rw [toList_terms_cons, toList_terms_cons] at hlists
      obtain ⟨hlevel, hrest⟩ :=
        append_cons_inj (blank_notMem_levelText level) (blank_notMem_levelText other) hlists
      rw [levelText_inj (String.toList_injective hlevel),
        ih (String.toList_injective (List.append_cancel_left hrest))]

theorem withRelevance_eq {levels : List Nat} (hlevels : ∀ level ∈ levels, level < 2 ^ 32)
    (search : String) :
    withRelevance levels search =
      if levels = [] then search else search ++ " AND (" ++ terms levels ++ ")" := by
  rw [withRelevance, map_boost_eq hlevels, terms]
  simp only [List.isEmpty_iff]

/-- The levels can be told from the text. -/
theorem withRelevance_inj {levels others : List Nat} (hlevels : ∀ level ∈ levels, level < 2 ^ 32)
    (hothers : ∀ level ∈ others, level < 2 ^ 32) {search : String}
    (h : withRelevance levels search = withRelevance others search) : levels = others := by
  -- With levels the text is longer than without.
  have hlonger (between : String) : search ≠ search ++ " AND (" ++ between ++ ")" := by
    intro heq
    have hlength := congrArg String.length heq
    have hopen : " AND (".length = 6 := rfl
    simp only [String.length_append, hopen] at hlength
    omega
  rw [withRelevance_eq hlevels, withRelevance_eq hothers] at h
  split at h
  next hnone =>
    split at h
    next hnone' => rw [hnone, hnone']
    next => exact absurd h (hlonger _)
  next =>
    split at h
    next => exact absurd h.symm (hlonger _)
    next => exact terms_inj ((String.append_right_inj _).1 ((String.append_left_inj _).1 h))

end Compile

/-- Unless a hook changes the text clause, a query with a scored field has a text clause.
Without levels of relevance it matches the text with its operators in capitals. With levels of
32 bits it matches that text followed by the terms of the levels, in order, and the term without
a level, joined by `OR` in brackets behind an `AND`. The factor of each level is worth exactly
half of it and is written out in full: the whole part, and `.5` if the level is odd. Other
levels give another text. -/
theorem compile_relevance (catalog : Catalog) (hooks : Hooks) (tenant : TenantSettings)
    (text : String) (selections : Selections) (hclause : hooks.fullText = none)
    (hscored : (compile catalog hooks tenant text selections).scored ≠ [])
    (hlevels : ∀ level ∈ catalog.relevance, level < 2 ^ 32) :
    ∃ clause, (compile catalog hooks tenant text selections).fullText = some clause ∧
      clause.query =
        (if catalog.relevance = [] then raiseOperators text
        else raiseOperators text ++ " AND ("
          ++ " OR ".intercalate
            ((catalog.relevance.map fun level =>
                "(post_type_relevance:" ++ toString level ++ ")^" ++ Decimal.halfText level)
              ++ ["(post_type_relevance:0)"])
          ++ ")") ∧
      (∀ level ∈ catalog.relevance, Decimal.value (Compile.boostFactor level) = level / 2) ∧
      ∀ others : List Nat, (∀ level ∈ others, level < 2 ^ 32) →
        ∃ other,
          (compile { catalog with relevance := others } hooks tenant text selections).fullText =
            some other ∧
          (other.query = clause.query ↔ others = catalog.relevance) := by
  have hfullText := compile_fullText_of_no_hook catalog hooks tenant text selections hclause
  simp only [if_neg hscored] at hfullText
  refine ⟨_, hfullText, Compile.withRelevance_eq hlevels _,
    fun level hlevel => Compile.value_boostFactor (hlevels level hlevel), fun others hothers => ?_⟩
  -- The levels have no part in what is scored.
  have hother := compile_fullText_of_no_hook { catalog with relevance := others } hooks tenant text
    selections hclause
  have hscored' :
      (compile { catalog with relevance := others } hooks tenant text selections).scored ≠ [] := by
    rw [compile_scored] at hscored ⊢
    exact hscored
  simp only [if_neg hscored'] at hother
  refine ⟨_, hother, Compile.withRelevance_inj hothers hlevels, ?_⟩
  rintro rfl
  rfl

/-- The greatest level of 32 bits is odd, and half of it is written without an exponent. -/
theorem compile_relevance_greatest :
    let catalog :=
      (({ fields := ["title"], relevance := [2, 3, 4294967295] } : CatalogTable).setWeight
        .field "title" 1.0).toCatalog
    let query := compile catalog {} {} "shoes" []
    query.scored ≠ [] ∧ (∀ level ∈ catalog.relevance, level < 2 ^ 32) ∧
      query.fullText.map FullText.query =
        some ("shoes AND ((post_type_relevance:2)^1 OR (post_type_relevance:3)^1.5"
          ++ " OR (post_type_relevance:4294967295)^2147483647.5 OR (post_type_relevance:0))") := by
  intro catalog query
  have hscored : query.scored ≠ [] := by decide
  have hlevels : ∀ level ∈ catalog.relevance, level < 2 ^ 32 := by decide
  obtain ⟨clause, hclause, hquery, -⟩ :=
    compile_relevance catalog {} {} "shoes" [] rfl hscored hlevels
  refine ⟨hscored, hlevels, ?_⟩
  rw [hclause, Option.map_some, hquery]
  decide +kernel

end Faceted
