import Faceted.Proofs.Text.Bytes

/-!
# What putting operators in capitals changes

Putting operators in capitals changes nothing but the letters of operators: each of the two scans
puts letters in capitals at places that do not depend on the case of the text, so that neither the
order of the scans matters nor how often they are made. A text keeps its length, its bytes keep
their number, and a text that asks for fuzzy matching, or is empty, does so before and after.

## Main definitions

* `raisedPlaces` — the places of the letters that are put in capitals

## Main results

* `getElem?_raise_raise` — two scans, character by character
* `raise_raise_self`, `raise_raise_comm` — repeated scans, and scans in the other order
* `getElem?_raiseOperators_of_mem`, `getElem?_raiseOperators_of_notMem` — a text with its operators
  in capitals, character by character
* `raiseOperators_raises_letters` — what changes, and what does not
-/

namespace Faceted.Text

/-! ### Repeated scans -/

section Scans

variable {word text other : List Char} {place : Nat}

theorem insideAt_congr (h : text.map Char.toLower = other.map Char.toLower) (place : Nat) :
    insideAt word text place = insideAt word other place := by
  have hstands (place : Nat) : standsAt word (text.drop place) = standsAt word (other.drop place) :=
    standsAt_drop_congr h place
  induction place with
  | zero => rfl
  | succ place ih => rw [insideAt, insideAt, ih, insideNext, insideNext, hstands]

theorem toLower_toLower (c : Char) : c.toLower.toLower = c.toLower := by
  rw [← Char.toLower_toUpper_eq_toLower c.toLower, Char.toUpper_toLower_eq_toUpper,
    Char.toLower_toUpper_eq_toLower]

theorem toUpper_toUpper (c : Char) : c.toUpper.toUpper = c.toUpper := by
  rw [← Char.toUpper_toLower_eq_toUpper c.toUpper, Char.toLower_toUpper_eq_toLower,
    Char.toUpper_toLower_eq_toUpper]

/-- After two scans the characters are in capitals that are inside an operator of either. -/
theorem getElem?_raise_raise (first second text : List Char) (place : Nat) :
    (raise second 0 (raise first 0 text))[place]? =
      if insideAt first text place = 0 ∧ insideAt second text place = 0 then text[place]?
      else text[place]?.map Char.toUpper := by
  have hcapitals : Char.toUpper ∘ Char.toUpper = Char.toUpper := funext toUpper_toUpper
  rw [getElem?_raise, insideAt_congr (map_toLower_raise first 0 text), getElem?_raise]
  by_cases hfirst : insideAt first text place = 0
  · simp [hfirst]
  · simp [hfirst, hcapitals]

/-- To scan a text once more changes nothing. -/
theorem raise_raise_self (word text : List Char) :
    raise word 0 (raise word 0 text) = raise word 0 text := by
  apply List.ext_getElem?
  intro place
  rw [getElem?_raise_raise, getElem?_raise]
  simp only [and_self]

/-- Which word is scanned for first does not matter. -/
theorem raise_raise_comm (first second text : List Char) :
    raise second 0 (raise first 0 text) = raise first 0 (raise second 0 text) := by
  apply List.ext_getElem?
  intro place
  simp only [getElem?_raise_raise, and_comm]

/-- The scan of a word is inside an operator with a letter still to come exactly at the letters of
the operators that it puts in capitals. -/
theorem one_lt_insideAt_iff (hword : ' ' ∉ word) :
    1 < insideAt word text place ↔
      ∃ number start, InRow word text number start ∧ number % 2 = 0 ∧
        start < place ∧ place ≤ start + word.length := by
  constructor
  · intro hinside
    obtain ⟨start, hstands, hstart, hlt, hend⟩ :=
      exists_standsAt_of_insideAt (Nat.ne_of_gt (Nat.lt_of_succ_lt hinside))
    obtain ⟨number, hrow⟩ := exists_inRow hstands
    exact ⟨number, start, hrow, (hrow.insideAt_eq hword).symm.trans hstart, hlt, by omega⟩
  · rintro ⟨number, start, hrow, heven, hlt, hle⟩
    obtain ⟨offset, rfl⟩ := Nat.exists_eq_add_of_lt hlt
    rw [insideAt_succ_of_standsAt hrow.stands ((hrow.insideAt_eq hword).trans heven) (by omega)]
    omega

/-- The last character of an operator is a blank. -/
theorem getElem?_of_insideAt_eq_one (h : insideAt word text place = 1) :
    text[place]? = some ' ' := by
  obtain ⟨start, hstands, -, -, hend⟩ := exists_standsAt_of_insideAt (h ▸ Nat.one_ne_zero)
  obtain rfl : place = start + (word.length + 1) := by omega
  have hblank := getElem?_of_standsAt hstands (Nat.lt_succ_self (word.length + 1))
  rw [List.getElem?_cons_succ, List.getElem?_concat_length] at hblank
  obtain ⟨c, hc, hlower⟩ := Option.map_eq_some_iff.1 hblank
  rw [← eq_blank_of_toLower hlower]
  exact hc

end Scans

/-! ### The letters of operators -/

/-- The places of the letters that are put in capitals: those of the first, the third and so on of
each row of operators. -/
def raisedPlaces (text : List Char) : Set Nat :=
  {place | ∃ word ∈ operators, ∃ number start, InRow word text number start ∧ number % 2 = 0 ∧
    start < place ∧ place ≤ start + word.length}

theorem blank_notMem_of_mem_operators {word : List Char} (h : word ∈ operators) : ' ' ∉ word := by
  revert word
  decide

theorem mem_raisedPlaces_iff (text : List Char) (place : Nat) :
    place ∈ raisedPlaces text ↔ ∃ word ∈ operators, 1 < insideAt word text place := by
  constructor
  · rintro ⟨word, hword, hletter⟩
    exact ⟨word, hword, (one_lt_insideAt_iff (blank_notMem_of_mem_operators hword)).2 hletter⟩
  · rintro ⟨word, hword, hinside⟩
    exact ⟨word, hword, (one_lt_insideAt_iff (blank_notMem_of_mem_operators hword)).1 hinside⟩

/-- Which letters are put in capitals does not depend on their case. -/
theorem raisedPlaces_congr {text other : List Char}
    (h : text.map Char.toLower = other.map Char.toLower) :
    raisedPlaces text = raisedPlaces other := by
  ext place
  simp only [mem_raisedPlaces_iff, insideAt_congr h]

section Raised

variable {text : String} {place : Nat}

theorem toList_raiseOperators (text : String) :
    (raiseOperators text).toList = raise ['o', 'r'] 0 (raise ['a', 'n', 'd'] 0 text.toList) :=
  String.toList_ofList

theorem map_toLower_raiseOperators (text : String) :
    (raiseOperators text).toList.map Char.toLower = text.toList.map Char.toLower := by
  rw [toList_raiseOperators, map_toLower_raise, map_toLower_raise]

theorem getElem?_raiseOperators_of_mem (h : place ∈ raisedPlaces text.toList) :
    (raiseOperators text).toList[place]? = text.toList[place]?.map Char.toUpper := by
  obtain ⟨word, hword, hinside⟩ := (mem_raisedPlaces_iff _ _).1 h
  rw [operators, List.mem_cons, List.mem_singleton] at hword
  rw [toList_raiseOperators, getElem?_raise_raise]
  refine if_neg fun hoff => ?_
  rcases hword with rfl | rfl
  · omega
  · omega

theorem getElem?_raiseOperators_of_notMem (h : place ∉ raisedPlaces text.toList) :
    (raiseOperators text).toList[place]? = text.toList[place]? := by
  have hinside (word : List Char) (hword : word ∈ operators) :
      insideAt word text.toList place ≤ 1 := by
    by_contra hlt
    exact h ((mem_raisedPlaces_iff _ _).2 ⟨word, hword, Nat.lt_of_not_le hlt⟩)
  have hand := hinside ['a', 'n', 'd'] (by simp [operators])
  have hor := hinside ['o', 'r'] (by simp [operators])
  rw [toList_raiseOperators, getElem?_raise_raise]
  split
  next => rfl
  next hoff =>
    -- The place is that of the blank that ends an operator of one of the words.
    have hblank : text.toList[place]? = some ' ' := by
      rcases not_and_or.1 hoff with hne | hne
      · exact getElem?_of_insideAt_eq_one (show insideAt ['a', 'n', 'd'] _ place = 1 by omega)
      · exact getElem?_of_insideAt_eq_one (show insideAt ['o', 'r'] _ place = 1 by omega)
    rw [hblank]
    rfl

end Raised

/-! ### What stays -/

theorem utf8ByteSize_eq_of_map_toLower {text other : String}
    (h : text.toList.map Char.toLower = other.toList.map Char.toLower) :
    text.utf8ByteSize = other.utf8ByteSize := by
  have size (text : String) :
      text.utf8ByteSize = (bytesOf (text.toList.map Char.toLower)).length := by
    rw [← map_lowerByte_bytesOf, List.length_map, length_bytesOf, String.ofList_toList]
  rw [size, size, h]

theorem raiseOperators_eq_empty_iff (text : String) : raiseOperators text = "" ↔ text = "" := by
  rw [← String.toList_eq_nil_iff, ← String.toList_eq_nil_iff, ← List.map_eq_nil_iff,
    map_toLower_raiseOperators, List.map_eq_nil_iff]

/-- A text asks for fuzzy matching exactly if it does so in lower case. -/
theorem isFuzzy_eq_contains_map_toLower (text : String) :
    isFuzzy text = (text.toList.map Char.toLower).contains fuzzyMark := by
  rw [isFuzzy, Bool.eq_iff_iff, List.contains_iff_mem, List.contains_iff_mem, List.mem_map]
  constructor
  · intro hmark
    exact ⟨fuzzyMark, hmark, rfl⟩
  · rintro ⟨c, hc, hlower⟩
    rwa [← eq_of_toLower rfl hlower]

theorem isFuzzy_raiseOperators (text : String) : isFuzzy (raiseOperators text) = isFuzzy text := by
  rw [isFuzzy_eq_contains_map_toLower, map_toLower_raiseOperators,
    ← isFuzzy_eq_contains_map_toLower]

/-- To put operators in capitals once more changes nothing. -/
theorem raiseOperators_raiseOperators (text : String) :
    raiseOperators (raiseOperators text) = raiseOperators text := by
  apply String.toList_injective
  rw [toList_raiseOperators, toList_raiseOperators,
    raise_raise_comm ['o', 'r'] ['a', 'n', 'd'] (raise ['a', 'n', 'd'] 0 text.toList),
    raise_raise_self, raise_raise_self]

/-- Putting the operators of a text in capitals changes their letters and nothing else. The bytes
of the text are cut between characters only. A text keeps the number of its bytes and is the same
in lower case; the characters that are put in capitals are letters of operators that stand
between blanks, in places that can be told from the text in lower case. A second time nothing
changes, nor does it matter which operator is searched for first. What is empty or asks for fuzzy
matching does so before and after. -/
theorem raiseOperators_raises_letters (text : String) :
    let raised := raiseOperators text
    let between := String.ofList (raise ['a', 'n', 'd'] 0 text.toList)
    ((∀ cut ∈ cuts ['a', 'n', 'd'] text.toUTF8.data.toList, String.Pos.Raw.IsValid text ⟨cut⟩) ∧
        between.toUTF8.data.toList = raiseBytes ['a', 'n', 'd'] text.toUTF8.data.toList ∧
        (∀ cut ∈ cuts ['o', 'r'] between.toUTF8.data.toList, String.Pos.Raw.IsValid between ⟨cut⟩) ∧
        raised.toUTF8.data.toList = raiseBytes ['o', 'r'] between.toUTF8.data.toList) ∧
      raised.utf8ByteSize = text.utf8ByteSize ∧
      raised.toList.map Char.toLower = text.toList.map Char.toLower ∧
      (∀ place, place ∉ raisedPlaces text.toList → raised.toList[place]? = text.toList[place]?) ∧
      (∀ place ∈ raisedPlaces text.toList,
        raised.toList[place]? = text.toList[place]?.map Char.toUpper ∧
          ∃ word ∈ operators, ∃ start, standsAt word (text.toList.drop start) = true ∧
            start < place ∧ place ≤ start + word.length) ∧
      raisedPlaces text.toList = raisedPlaces (text.toList.map Char.toLower) ∧
      raiseOperators raised = raised ∧
      raise ['a', 'n', 'd'] 0 (raise ['o', 'r'] 0 text.toList) = raised.toList ∧
      (raised = "" ↔ text = "") ∧ (fuzzyMark ∈ raised.toList ↔ fuzzyMark ∈ text.toList) := by
  intro raised between
  have hlower : raised.toList.map Char.toLower = text.toList.map Char.toLower :=
    map_toLower_raiseOperators text
  have hagain : text.toList.map Char.toLower = (text.toList.map Char.toLower).map Char.toLower := by
    rw [List.map_map]
    exact List.map_congr_left fun c _ => (toLower_toLower c).symm
  have hbytes :
      between.toUTF8.data.toList = raiseBytes ['a', 'n', 'd'] text.toUTF8.data.toList := by
    rw [toList_toUTF8, toList_toUTF8, raiseBytes_bytesOf, String.toList_ofList]
  have hraised : raised.toUTF8.data.toList = raiseBytes ['o', 'r'] between.toUTF8.data.toList := by
    rw [toList_toUTF8, toList_toUTF8, raiseBytes_bytesOf, String.toList_ofList,
      toList_raiseOperators]
  have hletters : ∀ place ∈ raisedPlaces text.toList,
      raised.toList[place]? = text.toList[place]?.map Char.toUpper ∧
        ∃ word ∈ operators, ∃ start, standsAt word (text.toList.drop start) = true ∧
          start < place ∧ place ≤ start + word.length := by
    intro place hplace
    obtain ⟨word, hword, number, start, hrow, -, hlt, hle⟩ := id hplace
    exact ⟨getElem?_raiseOperators_of_mem hplace, word, hword, start, hrow.stands, hlt, hle⟩
  have hfuzzy : fuzzyMark ∈ raised.toList ↔ fuzzyMark ∈ text.toList := by
    rw [← List.contains_iff_mem, ← List.contains_iff_mem, ← isFuzzy, ← isFuzzy,
      isFuzzy_raiseOperators]
  exact ⟨⟨fun cut hcut => isValid_of_mem_cuts _ text hcut, hbytes,
      fun cut hcut => isValid_of_mem_cuts _ between hcut, hraised⟩,
    utf8ByteSize_eq_of_map_toLower hlower, hlower,
    fun place hplace => getElem?_raiseOperators_of_notMem hplace, hletters,
    raisedPlaces_congr hagain, raiseOperators_raiseOperators text,
    (raise_raise_comm _ _ _).trans (toList_raiseOperators text).symm,
    raiseOperators_eq_empty_iff text, hfuzzy⟩

/-- After a character of two bytes an operator is cut out where it stands, and its
letters are put in capitals. -/
theorem raiseOperators_raises_letters_umlaut :
    let text := "süß And sour"
    5 ∈ cuts ['a', 'n', 'd'] text.toUTF8.data.toList ∧ String.Pos.Raw.IsValid text ⟨5⟩ ∧
      5 ∈ raisedPlaces text.toList ∧ (raiseOperators text).toList[5]? = some 'N' := by
  intro text
  have hcut : 5 ∈ cuts ['a', 'n', 'd'] text.toUTF8.data.toList := by
    rw [toList_toUTF8]
    decide
  have hplace : 5 ∈ raisedPlaces text.toList := by
    refine ⟨['a', 'n', 'd'], by simp [operators], 0, 3, .first (by decide) fun before hbefore => ?_,
      rfl, by decide, by decide⟩
    simp at hbefore
  obtain ⟨⟨hvalid, -⟩, -, -, -, hletters, -⟩ := raiseOperators_raises_letters text
  exact ⟨hcut, hvalid 5 hcut, hplace, (hletters 5 hplace).1.trans (by decide)⟩

end Faceted.Text
