import Mathlib
import Faceted.Text.Operators

/-!
# Which operators are put in capitals

Operators are put in capitals by a scan from left to right for each word. An operator takes its
two blanks with it, so that of two equal operators with one blank between them the scan finds
the first only. In a row of such operators it finds the first, the third and so on; the others
stay as they are written. Operators of different words do not get in each other's way, since
each word has a scan of its own.

## Main definitions

* `insideNext`, `insideAt` — what is left of an operator after one character, and when the
  scan has come to a place
* `stretchAt`, `inCapitals` — the text of an operator at a place, and in capitals
* `InRow` — an operator with its number in a row of operators that share blanks

## Main results

* `getElem?_raise` — a scan, character by character
* `InRow.insideAt_eq` — the scan misses every second operator of a row
* `stretchAt_raise`, `stretchAt_raise_of_disjoint` — the operators of a word after its scan, and
  after the scan of a word with other letters
* `raiseOperators_rows` — the operators of a text after both scans
-/

namespace Faceted.Text

/-! ### Where an operator stands -/

section Stands

variable {word text : List Char}

/-- A character that is no letter is the only one that becomes it in lower case. -/
theorem eq_of_toLower {c other : Char} (hother : other.isAlpha = false) (h : c.toLower = other) :
    c = other := by
  have hletter : c.isAlpha = false := by rw [← Char.isAlpha_toLower_eq_isAlpha, h, hother]
  have hcapital : ¬ c.isUpper := by simp_all [Char.isAlpha]
  rw [← h, Char.toLower_eq_of_not_isUpper hcapital]

/-- A blank is the only character that is a blank in lower case. -/
theorem eq_blank_of_toLower {c : Char} (h : c.toLower = ' ') : c = ' ' :=
  eq_of_toLower rfl h

theorem standsAt_iff : standsAt word text = true ↔
    (text.map Char.toLower).take (word.length + 2) = ' ' :: (word ++ [' ']) := by
  rw [standsAt, beq_iff_eq, List.map_take]

/-- Operators stand in the same places in texts that agree in lower case. -/
theorem standsAt_drop_congr {other : List Char} (h : text.map Char.toLower = other.map Char.toLower)
    (place : Nat) : standsAt word (text.drop place) = standsAt word (other.drop place) := by
  rw [Bool.eq_iff_iff, standsAt_iff, standsAt_iff, List.map_drop, h, List.map_drop]

/-- The characters of an operator that stands at a place. -/
theorem getElem?_of_standsAt {place offset : Nat} (h : standsAt word (text.drop place) = true)
    (hoffset : offset < word.length + 2) :
    (text[place + offset]?).map Char.toLower = (' ' :: (word ++ [' ']))[offset]? := by
  rw [← standsAt_iff.1 h, List.getElem?_take_of_lt hoffset, List.getElem?_map, List.getElem?_drop]

/-- Two operators of one word have at most a blank in common. -/
theorem le_of_standsAt (hword : ' ' ∉ word) {place later : Nat}
    (h : standsAt word (text.drop place) = true) (hlater : standsAt word (text.drop later) = true)
    (hlt : place < later) : place + (word.length + 1) ≤ later := by
  by_contra hnot
  -- The blank with which the later one begins would be a letter of the earlier one.
  obtain ⟨offset, rfl⟩ := Nat.exists_eq_add_of_lt hlt
  have hblank := getElem?_of_standsAt hlater (Nat.succ_pos _)
  have hinside : offset + 1 < word.length + 2 := by omega
  have hletter := getElem?_of_standsAt h hinside
  rw [Nat.add_zero, Nat.add_assoc, hletter, List.getElem?_cons_zero, List.getElem?_cons_succ,
    List.getElem?_append_left (by omega)] at hblank
  exact hword (List.mem_of_getElem? hblank)

end Stands

/-! ### The scan -/

section Scan

variable (word text : List Char)

/-- How many characters of an operator are still to be copied after the first
character of a text. -/
def insideNext (inside : Nat) : Nat :=
  if inside = 0 then if standsAt word text then word.length + 1 else 0 else inside - 1

/-- How many characters of an operator are still to be copied when the scan has come to a place. -/
def insideAt : Nat → Nat
  | 0 => 0
  | place + 1 => insideNext word (text.drop place) (insideAt place)

theorem tail_raise (inside : Nat) :
    (raise word inside text).tail = raise word (insideNext word text inside) text.tail := by
  cases text with
  | nil => simp [raise]
  | cons c rest =>
    cases inside with
    | zero => by_cases h : standsAt word (c :: rest) <;> simp [raise, insideNext, h]
    | succ inside => simp [raise, insideNext]

/-- From a place on the scan is one of the rest of the text, with what is left of an operator. -/
theorem drop_raise (place : Nat) :
    (raise word 0 text).drop place = raise word (insideAt word text place) (text.drop place) := by
  induction place with
  | zero => rfl
  | succ place ih => rw [← List.tail_drop, ih, tail_raise, List.tail_drop, insideAt]

theorem head?_raise (inside : Nat) :
    (raise word inside text).head? =
      if inside = 0 then text.head? else text.head?.map Char.toUpper := by
  cases text with
  | nil => simp [raise]
  | cons c rest =>
    cases inside with
    | zero => by_cases h : standsAt word (c :: rest) <;> simp [raise, h]
    | succ inside => simp [raise]

/-- What is inside an operator is put in capitals, and everything else is copied. -/
theorem getElem?_raise (place : Nat) :
    (raise word 0 text)[place]? =
      if insideAt word text place = 0 then text[place]? else text[place]?.map Char.toUpper := by
  rw [← List.head?_drop, drop_raise, head?_raise, List.head?_drop]

variable {word text} {place : Nat}

theorem insideAt_succ_of_standsAt (h : standsAt word (text.drop place) = true)
    (hinside : insideAt word text place = 0) {offset : Nat} (hoffset : offset ≤ word.length) :
    insideAt word text (place + offset + 1) = word.length + 1 - offset := by
  induction offset with
  | zero => rw [Nat.add_zero, insideAt, insideNext, if_pos hinside, if_pos h, Nat.sub_zero]
  | succ offset ih =>
    have hprevious := ih (by omega)
    rw [← Nat.add_assoc, insideAt, insideNext, if_neg (by omega), hprevious]
    omega

/-- Inside an operator there is a place at which it began. -/
theorem exists_standsAt_of_insideAt (h : insideAt word text place ≠ 0) :
    ∃ start, standsAt word (text.drop start) = true ∧ insideAt word text start = 0 ∧ start < place ∧
      start + (word.length + 2) = place + insideAt word text place := by
  induction place with
  | zero => exact absurd rfl h
  | succ place ih =>
    rw [insideAt, insideNext] at h ⊢
    by_cases hinside : insideAt word text place = 0
    · rw [if_pos hinside] at h ⊢
      by_cases hstands : standsAt word (text.drop place) = true
      · refine ⟨place, hstands, hinside, Nat.lt_succ_self place, ?_⟩
        rw [if_pos hstands]
        omega
      · exact absurd (if_neg hstands) h
    · rw [if_neg hinside] at h ⊢
      obtain ⟨start, hstands, hstart, hlt, hend⟩ := ih hinside
      exact ⟨start, hstands, hstart, by omega, by omega⟩

/-- A character inside an operator is one of its letters, or the blank that ends it. -/
theorem mem_of_insideAt (h : insideAt word text place ≠ 0) {c : Char} (hc : text[place]? = some c) :
    c.toLower ∈ word ∨ c = ' ' := by
  obtain ⟨start, hstands, -, hlt, hend⟩ := exists_standsAt_of_insideAt h
  obtain ⟨offset, rfl⟩ := Nat.exists_eq_add_of_lt hlt
  have hinside : offset + 1 < word.length + 2 := by omega
  have hletter := getElem?_of_standsAt hstands hinside
  rw [← Nat.add_assoc, hc, Option.map_some, List.getElem?_cons_succ] at hletter
  rcases List.mem_append.1 (List.mem_of_getElem? hletter.symm) with hmem | hmem
  · exact Or.inl hmem
  · exact Or.inr (eq_blank_of_toLower (List.mem_singleton.1 hmem))

end Scan

/-! ### Operators of other words -/

/-- The text of an operator at a place. -/
def stretchAt (word text : List Char) (place : Nat) : List Char :=
  (text.drop place).take (word.length + 2)

theorem getElem?_stretchAt {word text : List Char} {place offset : Nat}
    (hoffset : offset < word.length + 2) :
    (stretchAt word text place)[offset]? = text[place + offset]? := by
  rw [stretchAt, List.getElem?_take_of_lt hoffset, List.getElem?_drop]

/-- Two stretches are the same if they agree character by character. -/
theorem stretchAt_ext {word text other : List Char} {place : Nat}
    (h : ∀ offset < word.length + 2, text[place + offset]? = other[place + offset]?) :
    stretchAt word text place = stretchAt word other place := by
  apply List.ext_getElem?
  intro offset
  by_cases hoffset : offset < word.length + 2
  · rw [getElem?_stretchAt hoffset, getElem?_stretchAt hoffset, h offset hoffset]
  · have hlength (chars : List Char) : (stretchAt word chars place).length ≤ offset :=
      Nat.le_trans (List.length_take_le _ _) (Nat.le_of_not_lt hoffset)
    rw [List.getElem?_eq_none (hlength text), List.getElem?_eq_none (hlength other)]

theorem map_toLower_raise (word : List Char) (inside : Nat) (text : List Char) :
    (raise word inside text).map Char.toLower = text.map Char.toLower := by
  induction text generalizing inside with
  | nil => simp [raise]
  | cons c rest ih =>
    cases inside with
    | zero => by_cases h : standsAt word (c :: rest) <;> simp [raise, h, ih]
    | succ inside => simp [raise, ih]

/-- Putting operators in capitals leaves every operator in its place. -/
theorem standsAt_drop_raise (word other text : List Char) (place : Nat) :
    standsAt other ((raise word 0 text).drop place) = standsAt other (text.drop place) :=
  standsAt_drop_congr (map_toLower_raise word 0 text) place

/-- The operators of one word are left alone when those of a word with other letters are put in
capitals. -/
theorem stretchAt_raise_of_disjoint {word other text : List Char} (hdisjoint : word.Disjoint other)
    {place : Nat} (h : standsAt other (text.drop place) = true) :
    stretchAt other (raise word 0 text) place = stretchAt other text place := by
  apply stretchAt_ext
  intro offset hoffset
  rw [getElem?_raise]
  split
  next => rfl
  next hinside =>
    cases hc : text[place + offset]? with
    | none => rfl
    | some c =>
      -- The character is in both operators, so that it can only be a blank that they share.
      have hblank : c = ' ' := by
        rcases mem_of_insideAt hinside hc with hmem | hblank
        · have hletter := getElem?_of_standsAt h hoffset
          rw [hc, Option.map_some] at hletter
          have hother := List.mem_of_getElem? hletter.symm
          rw [List.mem_cons, List.mem_append, List.mem_singleton] at hother
          rcases hother with hblank | hother | hblank
          · exact eq_blank_of_toLower hblank
          · exact absurd hother (hdisjoint hmem)
          · exact eq_blank_of_toLower hblank
        · exact hblank
      subst hblank
      rfl

/-! ### Rows of operators -/

/-- The operator at a place is the one with this number, from zero on, in a row of operators of
which each begins with the blank that ends the one before. -/
inductive InRow (word text : List Char) : Nat → Nat → Prop
  | first {place : Nat} : standsAt word (text.drop place) = true →
    (∀ before, before + (word.length + 1) = place → standsAt word (text.drop before) = false) →
      InRow word text 0 place
  | next {number place : Nat} : InRow word text number place →
    standsAt word (text.drop (place + (word.length + 1))) = true →
      InRow word text (number + 1) (place + (word.length + 1))

section InRow

variable {word text : List Char} {place : Nat}

theorem InRow.stands {number : Nat} (h : InRow word text number place) :
    standsAt word (text.drop place) = true := by
  cases h with
  | first hstands _ => exact hstands
  | next _ hstands => exact hstands

theorem exists_inRow (h : standsAt word (text.drop place) = true) :
    ∃ number, InRow word text number place := by
  induction place using Nat.strong_induction_on with
  | _ place ih =>
    by_cases hbefore : ∃ before, before + (word.length + 1) = place ∧
        standsAt word (text.drop before) = true
    · obtain ⟨before, rfl, hstands⟩ := hbefore
      obtain ⟨number, hnumber⟩ := ih before (by omega) hstands
      exact ⟨number + 1, hnumber.next h⟩
    · refine ⟨0, .first h fun before hplace => ?_⟩
      by_contra hstands
      exact hbefore ⟨before, hplace, by simpa using hstands⟩

/-- When the scan comes to an operator, then it is inside another one only if
the two share a blank. -/
theorem insideAt_of_standsAt (hword : ' ' ∉ word) (h : standsAt word (text.drop place) = true) :
    insideAt word text place = 0 ∨
      insideAt word text place = 1 ∧ ∃ before, before + (word.length + 1) = place ∧
        standsAt word (text.drop before) = true ∧ insideAt word text before = 0 := by
  by_cases hinside : insideAt word text place = 0
  · exact Or.inl hinside
  · obtain ⟨start, hstands, hstart, hlt, hend⟩ := exists_standsAt_of_insideAt hinside
    have hle := le_of_standsAt hword hstands h hlt
    exact Or.inr ⟨by omega, start, by omega, hstands, hstart⟩

/-- Every second operator of a row is missed: the scan comes to it when the blank with which
it begins is used up. -/
theorem InRow.insideAt_eq (hword : ' ' ∉ word) {number : Nat} (h : InRow word text number place) :
    insideAt word text place = number % 2 := by
  induction h with
  | first hstands hfirst =>
    rcases insideAt_of_standsAt hword hstands with hinside | ⟨-, before, hplace, hbefore, -⟩
    · exact hinside
    · exact absurd hbefore (by simp [hfirst before hplace])
  | @next number place hrow hstands ih =>
    rcases Nat.mod_two_eq_zero_or_one number with heven | hodd
    · have hnext := insideAt_succ_of_standsAt hrow.stands (ih.trans heven) (Nat.le_refl word.length)
      rw [← Nat.add_assoc, hnext]
      omega
    · rcases insideAt_of_standsAt hword hstands with hinside | ⟨-, before, hplace, -, hbefore⟩
      · omega
      · obtain rfl : before = place := by omega
        omega

/-- The scan of a row reaches the letters of a missed operator outside of any operator. -/
theorem insideAt_succ_of_missed (hword : ' ' ∉ word) (h : standsAt word (text.drop place) = true)
    (hinside : insideAt word text place = 1) {offset : Nat} (hoffset : offset ≤ word.length) :
    insideAt word text (place + offset + 1) = 0 := by
  induction offset with
  | zero => rw [Nat.add_zero, insideAt, insideNext, if_neg (by omega), hinside]
  | succ offset ih =>
    have hstands : ¬ standsAt word (text.drop (place + offset + 1)) = true := by
      intro hstands
      have := le_of_standsAt hword h hstands (by omega)
      omega
    rw [← Nat.add_assoc, insideAt, insideNext, if_pos (ih (by omega)), if_neg hstands]

/-- An operator in capitals, with its blanks. -/
def inCapitals (word : List Char) : List Char :=
  ' ' :: (word.map Char.toUpper ++ [' '])

theorem map_toUpper_stretchAt (h : standsAt word (text.drop place) = true) :
    (stretchAt word text place).map Char.toUpper = inCapitals word := by
  have hlower : (stretchAt word text place).map Char.toLower = ' ' :: (word ++ [' ']) := by
    rw [stretchAt, List.map_take]
    exact standsAt_iff.1 h
  calc (stretchAt word text place).map Char.toUpper
      = ((stretchAt word text place).map Char.toLower).map Char.toUpper := by
        rw [List.map_map]
        exact List.map_congr_left fun c _ => (Char.toUpper_toLower_eq_toUpper c).symm
    _ = inCapitals word := by
        rw [hlower, List.map_cons, List.map_append]
        rfl

theorem getElem?_eq_blank (h : standsAt word (text.drop place) = true) :
    text[place]? = some ' ' := by
  have hblank := getElem?_of_standsAt h (Nat.succ_pos _)
  obtain ⟨c, hc, hlower⟩ := Option.map_eq_some_iff.1 hblank
  rw [← eq_blank_of_toLower hlower]
  exact hc

theorem getElem?_raise_of_standsAt (h : standsAt word (text.drop place) = true) :
    (raise word 0 text)[place]? = some ' ' := by
  rw [getElem?_raise, getElem?_eq_blank h]
  split <;> rfl

/-- Of a row of operators the first, the third and so on are put in capitals, and the others
are left as they are. -/
theorem stretchAt_raise (hword : ' ' ∉ word) {number : Nat} (h : InRow word text number place) :
    stretchAt word (raise word 0 text) place =
      if number % 2 = 0 then inCapitals word else stretchAt word text place := by
  have hinside := h.insideAt_eq hword
  split
  next heven =>
    have hmap : (stretchAt word text place).map Char.toUpper =
        stretchAt word (text.map Char.toUpper) place := by
      rw [stretchAt, stretchAt, List.map_take, List.map_drop]
    rw [← map_toUpper_stretchAt h.stands, hmap]
    apply stretchAt_ext
    intro offset hoffset
    rw [List.getElem?_map]
    cases offset with
    | zero =>
      rw [Nat.add_zero, getElem?_raise_of_standsAt h.stands, getElem?_eq_blank h.stands]
      rfl
    | succ offset =>
      have hnext := insideAt_succ_of_standsAt h.stands (hinside.trans heven)
        (Nat.le_of_lt_succ (Nat.lt_of_succ_lt_succ hoffset))
      rw [← Nat.add_assoc, getElem?_raise, if_neg (by omega)]
  next hodd =>
    apply stretchAt_ext
    intro offset hoffset
    cases offset with
    | zero =>
      rw [Nat.add_zero, getElem?_raise_of_standsAt h.stands, getElem?_eq_blank h.stands]
    | succ offset =>
      have hnext := insideAt_succ_of_missed hword h.stands
        (hinside.trans (Nat.mod_two_ne_zero.1 hodd))
        (Nat.le_of_lt_succ (Nat.lt_of_succ_lt_succ hoffset))
      rw [← Nat.add_assoc, getElem?_raise, if_pos hnext]

theorem InRow.congr {other : List Char}
    (h : ∀ place, standsAt word (text.drop place) = standsAt word (other.drop place))
    {number : Nat} (hrow : InRow word text number place) : InRow word other number place := by
  induction hrow with
  | first hstands hfirst =>
    exact .first (h _ ▸ hstands) fun before hplace => h before ▸ hfirst before hplace
  | next _ hstands ih => exact ih.next (h _ ▸ hstands)

end InRow

/-! ### Both operators -/

/-- The words that are operators. -/
def operators : List (List Char) :=
  [['a', 'n', 'd'], ['o', 'r']]

/-- In a text whose operators were put in capitals, each operator stands where it stood, and is in
capitals if it is the first, the third and so on of a row in which each operator begins with the
blank that ends the one before; the others are as they were. So there are no operators but those in
capitals exactly if every second one of a row was in capitals before. -/
theorem raiseOperators_rows (text : String) :
    ∀ word ∈ operators,
      (∀ place, standsAt word ((raiseOperators text).toList.drop place) = true ↔
        ∃ number, InRow word text.toList number place) ∧
      (∀ number place, InRow word text.toList number place →
        stretchAt word (raiseOperators text).toList place =
          if number % 2 = 0 then inCapitals word else stretchAt word text.toList place) ∧
      ((∀ place, standsAt word ((raiseOperators text).toList.drop place) = true →
          stretchAt word (raiseOperators text).toList place = inCapitals word) ↔
        ∀ number place, InRow word text.toList number place → number % 2 = 1 →
          stretchAt word text.toList place = inCapitals word) := by
  intro word hword
  have hstands (place : Nat) : standsAt word ((raiseOperators text).toList.drop place) =
      standsAt word (text.toList.drop place) := by
    rw [raiseOperators, String.toList_ofList, standsAt_drop_raise, standsAt_drop_raise]
  have hrow (place : Nat) : standsAt word ((raiseOperators text).toList.drop place) = true ↔
      ∃ number, InRow word text.toList number place := by
    rw [hstands]
    exact ⟨exists_inRow, fun ⟨_, h⟩ => h.stands⟩
  have hstretch (number place : Nat) (h : InRow word text.toList number place) :
      stretchAt word (raiseOperators text).toList place =
        if number % 2 = 0 then inCapitals word else stretchAt word text.toList place := by
    rw [raiseOperators, String.toList_ofList]
    rw [operators, List.mem_cons, List.mem_singleton] at hword
    -- Each of the two scans leaves the operators of the other one alone.
    rcases hword with rfl | rfl
    · have hfirst : standsAt ['a', 'n', 'd']
          ((raise ['a', 'n', 'd'] 0 text.toList).drop place) = true := by
        rw [standsAt_drop_raise]
        exact h.stands
      rw [stretchAt_raise_of_disjoint (by simp) hfirst, stretchAt_raise (by decide) h]
    · have hsecond : InRow ['o', 'r'] (raise ['a', 'n', 'd'] 0 text.toList) number place :=
        h.congr fun place => (standsAt_drop_raise _ _ _ place).symm
      rw [stretchAt_raise (by decide) hsecond, stretchAt_raise_of_disjoint (by simp) h.stands]
  refine ⟨hrow, hstretch, ?_⟩
  constructor
  · intro hcapitals number place h hodd
    have hmissed := hstretch number place h
    rw [if_neg (by omega)] at hmissed
    rw [← hmissed]
    exact hcapitals place ((hrow place).2 ⟨number, h⟩)
  · intro hmissed place h
    obtain ⟨number, hnumber⟩ := (hrow place).1 h
    rw [hstretch number place hnumber]
    rcases Nat.mod_two_eq_zero_or_one number with heven | hodd
    · rw [if_pos heven]
    · rw [if_neg (by omega)]
      exact hmissed number place hnumber hodd

/-- Of three operators in a row the first and the third are in capitals in the end. -/
theorem raiseOperators_rows_three :
    let text := "cats or or Or dogs"
    ['o', 'r'] ∈ operators ∧
      InRow ['o', 'r'] text.toList 0 4 ∧ InRow ['o', 'r'] text.toList 1 7 ∧
      InRow ['o', 'r'] text.toList 2 10 ∧
      stretchAt ['o', 'r'] (raiseOperators text).toList 4 = [' ', 'O', 'R', ' '] ∧
      stretchAt ['o', 'r'] (raiseOperators text).toList 7 = [' ', 'o', 'r', ' '] ∧
      stretchAt ['o', 'r'] (raiseOperators text).toList 10 = [' ', 'O', 'R', ' '] := by
  intro text
  have hmem : ['o', 'r'] ∈ operators := by simp [operators]
  have hfirst : InRow ['o', 'r'] text.toList 0 4 := by
    refine .first (by decide) fun before hplace => ?_
    obtain rfl : before = 1 := by simpa using hplace
    decide
  have hsecond : InRow ['o', 'r'] text.toList 1 7 := hfirst.next (by decide)
  have hthird : InRow ['o', 'r'] text.toList 2 10 := hsecond.next (by decide)
  have hrows := (raiseOperators_rows text ['o', 'r'] hmem).2.1
  exact ⟨hmem, hfirst, hsecond, hthird, hrows 0 4 hfirst,
    (hrows 1 7 hsecond).trans (by decide), hrows 2 10 hthird⟩

/-- The second of two operators that share a blank is missed. -/
theorem raiseOperators_and_and :
    raiseOperators "x and and y" = "x AND and y" ∧
      standsAt ['a', 'n', 'd'] ((raiseOperators "x and and y").toList.drop 5) = true ∧
      stretchAt ['a', 'n', 'd'] (raiseOperators "x and and y").toList 5 ≠
        inCapitals ['a', 'n', 'd'] := by
  decide

end Faceted.Text
