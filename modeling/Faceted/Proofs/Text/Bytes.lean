import Faceted.Proofs.Text.Operators

/-!
# Operators in the bytes of a text

Operators are found in the bytes of a text: in a copy whose capital letters are in lower case, from
left to right, and without using a byte twice. What is found is cut out of the text and the operator
in capitals is put in its place. No byte of a character that takes several is taken for a blank, so
that an operator is only found where a character begins. All cuts lie between characters, and what
comes out are the bytes of the text as the scan of its characters leaves it.

## Main definitions

* `bytesOf` — the bytes of characters
* `occurrences` — where bytes are found
* `splice` — other bytes in the place of those that were found
* `cuts`, `raiseBytes` — where a text is cut for an operator, and its bytes with
  the operator in capitals

## Main results

* `scan_induction` — a text, operator by operator
* `isValid_of_mem_cuts` — a text is only cut between characters
* `raiseBytes_bytesOf` — the bytes of a text whose operators were put in capitals
-/

namespace Faceted.Text

/-! ### Bytes of characters -/

/-- The bytes of characters, one after another. -/
def bytesOf (text : List Char) : List UInt8 :=
  text.flatMap String.utf8EncodeChar

/-- Puts a capital letter in lower case. Other bytes are left alone, those of longer
characters among them. -/
def lowerByte (byte : UInt8) : UInt8 :=
  if 65 ≤ byte ∧ byte ≤ 90 then byte + 32 else byte

theorem bytesOf_append (front back : List Char) :
    bytesOf (front ++ back) = bytesOf front ++ bytesOf back :=
  List.flatMap_append

theorem bytesOf_cons (c : Char) (rest : List Char) :
    bytesOf (c :: rest) = String.utf8EncodeChar c ++ bytesOf rest := rfl

theorem toList_toUTF8 (text : String) : text.toUTF8.data.toList = bytesOf text.toList := by
  rw [String.toUTF8_eq_toByteArray, ← String.utf8Encode_toList, List.utf8Encode,
    List.data_toByteArray]
  rfl

theorem length_bytesOf (text : List Char) :
    (bytesOf text).length = (String.ofList text).utf8ByteSize := by
  rw [← String.size_toByteArray, String.toByteArray_ofList, List.utf8Encode, ← ByteArray.size_data,
    List.data_toByteArray]
  rfl

/-- A character is one small byte, or all its bytes are large. -/
theorem utf8EncodeChar_small_or_large (c : Char) :
    c.val.toNat ≤ 127 ∧ String.utf8EncodeChar c = [UInt8.ofNat c.val.toNat] ∨
      127 < c.val.toNat ∧ ∀ byte ∈ String.utf8EncodeChar c, 127 < byte.toNat := by
  fun_cases String.utf8EncodeChar c
  case case1 v hsmall => exact Or.inl ⟨hsmall, rfl⟩
  -- However many bytes there are, the first bit is set in each of them.
  all_goals
    refine Or.inr ⟨Nat.lt_of_not_le ‹_›, ?_⟩
    simp only [List.mem_cons, List.not_mem_nil, or_false, forall_eq_or_imp, forall_eq,
      UInt8.toNat_ofNat']
    omega

theorem lowerByte_of_large {byte : UInt8} (h : 127 < byte.toNat) : lowerByte byte = byte := by
  refine if_neg fun hcapital => ?_
  have hle := UInt8.le_iff_toNat_le.1 hcapital.2
  exact absurd (Nat.lt_of_lt_of_le h hle) (by decide)

theorem toLower_of_large {c : Char} (h : 127 < c.val.toNat) : c.toLower = c := by
  refine Char.toLower_eq_of_not_isUpper fun hcapital => ?_
  have hle := UInt32.le_iff_toNat_le.1 (of_decide_eq_true hcapital).2
  exact absurd (Nat.lt_of_lt_of_le h hle) (by decide)

/-- A character is put in lower case byte by byte. -/
theorem map_lowerByte_utf8EncodeChar (c : Char) :
    (String.utf8EncodeChar c).map lowerByte = String.utf8EncodeChar c.toLower := by
  rcases utf8EncodeChar_small_or_large c with ⟨hsmall, -⟩ | ⟨hlarge, hbytes⟩
  · have small : ∀ n < 128, (String.utf8EncodeChar (Char.ofNat n)).map lowerByte =
        String.utf8EncodeChar (Char.ofNat n).toLower := by decide
    rw [← Char.ofNat_toNat c]
    exact small c.toNat (Nat.lt_succ_of_le hsmall)
  · rw [toLower_of_large hlarge]
    exact (List.map_congr_left fun byte hbyte => lowerByte_of_large (hbytes byte hbyte)).trans
      (List.map_id' _)

theorem map_lowerByte_bytesOf (text : List Char) :
    (bytesOf text).map lowerByte = bytesOf (text.map Char.toLower) := by
  rw [bytesOf, bytesOf, List.map_flatMap, List.flatMap_map]
  simp only [map_lowerByte_utf8EncodeChar]

/-- No byte after the first of a character is that of a blank. -/
theorem blank_notMem_tail (c : Char) : 32 ∉ (String.utf8EncodeChar c).tail := by
  intro hblank
  rcases utf8EncodeChar_small_or_large c with ⟨-, hone⟩ | ⟨-, hbytes⟩
  · rw [hone] at hblank
    exact List.not_mem_nil hblank
  · exact absurd (hbytes 32 (List.mem_of_mem_tail hblank)) (by decide)

/-- Bytes of characters begin with those of others only if the characters do. -/
theorem bytesOf_isPrefixOf_iff (front text : List Char) :
    (bytesOf front).isPrefixOf (bytesOf text) = true ↔ front <+: text := by
  rw [List.isPrefixOf_iff_prefix]
  constructor
  · rintro ⟨rest, hrest⟩
    apply List.isPrefix_of_utf8Encode_append_eq_utf8Encode rest.toByteArray
    rw [List.utf8Encode, List.utf8Encode, ← List.toByteArray_append]
    exact congrArg List.toByteArray hrest
  · rintro ⟨rest, rfl⟩
    exact ⟨bytesOf rest, (bytesOf_append front rest).symm⟩

/-! ### Searching and replacing -/

/-- Where `needle` begins in bytes, from left to right and without overlap. The bytes begin at
`offset`, and the first of them, as many as `used`, belong to what was found before. -/
def occurrences (needle : List UInt8) : Nat → Nat → List UInt8 → List Nat
  | _, _, [] => []
  | offset, used + 1, _ :: rest => occurrences needle (offset + 1) used rest
  | offset, 0, byte :: rest =>
    if needle.isPrefixOf (byte :: rest) then
      offset :: occurrences needle (offset + 1) (needle.length - 1) rest
    else occurrences needle (offset + 1) 0 rest

/-- Puts `replacement` in the place of the stretches that begin at the given offsets, each of them
of the same width; bytes are copied from `last` on. -/
def splice (width : Nat) (replacement bytes : List UInt8) : Nat → List Nat → List UInt8
  | last, [] => bytes.drop last
  | last, start :: starts =>
    (bytes.take start).drop last ++ replacement
      ++ splice width replacement bytes (start + width) starts

/-- An operator in lower case, with its blanks. -/
def needle (word : List Char) : List Char :=
  ' ' :: (word ++ [' '])

/-- Where an operator begins in the bytes of a text, in any case. -/
def startsIn (word : List Char) (bytes : List UInt8) : List Nat :=
  occurrences (bytesOf (needle word)) 0 0 (bytes.map lowerByte)

/-- Where a text is cut: before and after each operator that is found. -/
def cuts (word : List Char) (bytes : List UInt8) : List Nat :=
  (startsIn word bytes).flatMap fun start => [start, start + (bytesOf (needle word)).length]

/-- The bytes of a text, with what is found replaced by the operator in capitals. -/
def raiseBytes (word : List Char) (bytes : List UInt8) : List UInt8 :=
  splice (bytesOf (needle word)).length (bytesOf (inCapitals word)) bytes 0 (startsIn word bytes)

section Occurrences

variable (needle : List UInt8)

theorem occurrences_used (offset used : Nat) (bytes : List UInt8) :
    occurrences needle offset used bytes =
      occurrences needle (offset + used) 0 (bytes.drop used) := by
  induction used generalizing offset bytes with
  | zero => rfl
  | succ used ih =>
    cases bytes with
    | nil => simp [occurrences]
    | cons byte rest => rw [occurrences, ih, List.drop_succ_cons, Nat.add_right_comm, Nat.add_assoc]

/-- What is found is not searched again. -/
theorem occurrences_append (hne : needle ≠ []) (offset : Nat) (rest : List UInt8) :
    occurrences needle offset 0 (needle ++ rest) =
      offset :: occurrences needle (offset + needle.length) 0 rest := by
  obtain ⟨byte, needle, rfl⟩ := List.exists_cons_of_ne_nil hne
  have hprefix : (byte :: needle).isPrefixOf (byte :: (needle ++ rest)) = true :=
    List.isPrefixOf_iff_prefix.2 ⟨rest, rfl⟩
  rw [List.cons_append, occurrences, if_pos hprefix, occurrences_used]
  simp [Nat.add_assoc, Nat.add_comm 1]

/-- Bytes that do not begin what is searched for are passed over. -/
theorem occurrences_of_notMem {byte : UInt8} {front : List UInt8} (h : byte ∉ front) (offset : Nat)
    (rest : List UInt8) :
    occurrences (byte :: needle) offset 0 (front ++ rest) =
      occurrences (byte :: needle) (offset + front.length) 0 rest := by
  induction front generalizing offset with
  | nil => rfl
  | cons other front ih =>
    obtain ⟨hother, hfront⟩ := not_or.1 (mt List.mem_cons.2 h)
    have hprefix : ¬ (byte :: needle).isPrefixOf (other :: (front ++ rest)) = true := by
      simp [List.isPrefixOf, hother]
    rw [List.cons_append, occurrences, if_neg hprefix, ih hfront, List.length_cons,
      Nat.add_right_comm, Nat.add_assoc]

end Occurrences

/-! ### The scan of a text -/

section Scan

variable {word : List Char}

/-- A text is gone through operator by operator: a scan has come to its end, or it has come to an
operator and goes on after its second blank, or it copies a character. -/
theorem scan_induction (word : List Char) {motive : List Char → Prop} (nil : motive [])
    (stands : ∀ text, standsAt word text = true →
      motive (text.drop (word.length + 2)) → motive text)
    (copied : ∀ c rest, ¬ standsAt word (c :: rest) = true → motive rest → motive (c :: rest))
    (text : List Char) : motive text := by
  induction hlength : text.length using Nat.strong_induction_on generalizing text with
  | _ length ih =>
    cases text with
    | nil => exact nil
    | cons c rest =>
      subst hlength
      by_cases h : standsAt word (c :: rest) = true
      · exact stands _ h (ih _ (by simp) _ rfl)
      · exact copied c rest h (ih _ (by simp) rest rfl)

theorem raise_inside (inside : Nat) (text : List Char) :
    raise word inside text = (text.take inside).map Char.toUpper ++
      raise word 0 (text.drop inside) := by
  induction inside generalizing text with
  | zero => rfl
  | succ inside ih =>
    cases text with
    | nil => simp [raise]
    | cons c rest =>
      rw [raise, ih, List.take_succ_cons, List.drop_succ_cons, List.map_cons, List.cons_append]

/-- An operator is replaced, and the scan goes on after it. -/
theorem raise_of_standsAt {text : List Char} (h : standsAt word text = true) :
    raise word 0 text = inCapitals word ++ raise word 0 (text.drop (word.length + 2)) := by
  have hcapitals : (stretchAt word text 0).map Char.toUpper = inCapitals word :=
    map_toUpper_stretchAt h
  have hblank : text[0]? = some ' ' := getElem?_eq_blank h
  cases text with
  | nil => exact absurd hblank (by simp)
  | cons c rest =>
    obtain rfl : c = ' ' := by simpa using hblank
    rw [raise, if_pos h, raise_inside, ← hcapitals]
    rfl

/-- An operator, in any case, takes as many bytes as in lower case. -/
theorem length_bytesOf_take {text : List Char} (h : standsAt word text = true) :
    (bytesOf (text.take (word.length + 2))).length = (bytesOf (needle word)).length := by
  have hlower : (text.take (word.length + 2)).map Char.toLower = needle word := by
    rw [List.map_take]
    exact standsAt_iff.1 h
  rw [← hlower, ← map_lowerByte_bytesOf, List.length_map]

theorem needle_isPrefix_iff {text : List Char} :
    needle word <+: text.map Char.toLower ↔ standsAt word text = true := by
  have hlength : (needle word).length = word.length + 2 := by simp [needle]
  rw [standsAt_iff, List.prefix_iff_eq_take, hlength, eq_comm]
  rfl

/-- What is found in the bytes of a text is what the scan of its characters comes to: an operator
with its blanks, after which both go on. -/
theorem occurrences_of_standsAt {text : List Char} (h : standsAt word text = true) (offset : Nat) :
    occurrences (bytesOf (needle word)) offset 0 (bytesOf (text.map Char.toLower)) =
      offset :: occurrences (bytesOf (needle word)) (offset + (bytesOf (needle word)).length) 0
        (bytesOf ((text.drop (word.length + 2)).map Char.toLower)) := by
  have hne : bytesOf (needle word) ≠ [] := by
    simp [needle, bytesOf_cons, String.utf8EncodeChar_ne_nil]
  have hsplit : text.map Char.toLower =
      needle word ++ (text.drop (word.length + 2)).map Char.toLower := by
    rw [needle, ← standsAt_iff.1 h, List.map_drop, List.take_append_drop]
  rw [hsplit, bytesOf_append, occurrences_append _ hne]

/-- Where no operator stands, none is found before the next character. -/
theorem occurrences_of_not_standsAt {c : Char} {rest : List Char}
    (h : ¬ standsAt word (c :: rest) = true) (offset : Nat) :
    occurrences (bytesOf (needle word)) offset 0 (bytesOf ((c :: rest).map Char.toLower)) =
      occurrences (bytesOf (needle word)) (offset + (bytesOf [c]).length) 0
        (bytesOf (rest.map Char.toLower)) := by
  have hprefix :
      ¬ (bytesOf (needle word)).isPrefixOf (bytesOf ((c :: rest).map Char.toLower)) = true := by
    rwa [bytesOf_isPrefixOf_iff, needle_isPrefix_iff]
  have hlength : (bytesOf [c]).length = (String.utf8EncodeChar c.toLower).length := by
    rw [← map_lowerByte_utf8EncodeChar, List.length_map]
    simp [bytesOf]
  -- The other bytes of the character are passed over, since none of them is a blank.
  have hpassed := occurrences_of_notMem (bytesOf (word ++ [' '])) (blank_notMem_tail c.toLower)
    (offset + 1) (bytesOf (rest.map Char.toLower))
  obtain ⟨byte, more, hbytes⟩ :=
    List.exists_cons_of_ne_nil (String.utf8EncodeChar_ne_nil (c := c.toLower))
  rw [List.map_cons, bytesOf_cons, hbytes, List.cons_append] at hprefix ⊢
  rw [hlength, hbytes, occurrences, if_neg hprefix]
  rw [hbytes, List.tail_cons] at hpassed
  rw [List.length_cons, Nat.add_comm more.length 1, ← Nat.add_assoc]
  exact hpassed

/-- What is found in the bytes of a text begins where a character begins, and
is an operator there. -/
theorem exists_append_of_mem_occurrences (before text : List Char) :
    ∀ start ∈ occurrences (bytesOf (needle word)) (bytesOf before).length 0
        (bytesOf (text.map Char.toLower)),
      ∃ front back, before ++ text = front ++ back ∧ start = (bytesOf front).length ∧
        standsAt word back = true := by
  induction text using scan_induction word generalizing before with
  | nil => simp [bytesOf, occurrences]
  | stands text h ih =>
    rw [occurrences_of_standsAt h, ← length_bytesOf_take h, ← List.length_append, ← bytesOf_append]
    intro start hstart
    rcases List.mem_cons.1 hstart with rfl | hlater
    · exact ⟨before, text, rfl, rfl, h⟩
    · have hfound := ih (before ++ text.take (word.length + 2)) start hlater
      rwa [List.append_assoc, List.take_append_drop] at hfound
  | copied c rest h ih =>
    rw [occurrences_of_not_standsAt h, ← List.length_append, ← bytesOf_append]
    intro start hstart
    have hfound := ih (before ++ [c]) start hstart
    rwa [List.append_assoc] at hfound

/-- What is put together from the bytes of a text is, from any place on that the scan comes to, what
the scan makes of the characters. -/
theorem splice_occurrences (before text : List Char) {last : Nat}
    (hlast : last ≤ (bytesOf before).length) :
    splice (bytesOf (needle word)).length (bytesOf (inCapitals word))
      (bytesOf (before ++ text)) last
        (occurrences (bytesOf (needle word)) (bytesOf before).length 0
          (bytesOf (text.map Char.toLower))) =
      (bytesOf before).drop last ++ bytesOf (raise word 0 text) := by
  induction text using scan_induction word generalizing before last with
  | nil => simp [bytesOf, occurrences, splice, raise]
  | stands text h ih =>
    have hlength : (bytesOf (before ++ text.take (word.length + 2))).length =
        (bytesOf before).length + (bytesOf (needle word)).length := by
      rw [bytesOf_append, List.length_append, length_bytesOf_take h]
    have hafter := ih (before ++ text.take (word.length + 2)) (Nat.le_refl _)
    rw [List.append_assoc, List.take_append_drop, List.drop_length, List.nil_append,
      hlength] at hafter
    have hcopied : (bytesOf (before ++ text)).take (bytesOf before).length = bytesOf before := by
      rw [bytesOf_append, List.take_left]
    rw [occurrences_of_standsAt h, splice, hafter, hcopied, raise_of_standsAt h, bytesOf_append,
      List.append_assoc]
  | copied c rest h ih =>
    have hlast' : last ≤ (bytesOf (before ++ [c])).length := by
      rw [bytesOf_append, List.length_append]
      omega
    have hafter := ih (before ++ [c]) hlast'
    rw [List.append_assoc, bytesOf_append before [c], List.length_append,
      List.drop_append_of_le_length hlast] at hafter
    rw [occurrences_of_not_standsAt h]
    simpa [raise, h, bytesOf_cons, bytesOf] using hafter

end Scan

/-! ### Texts -/

/-- A text is only cut between characters. -/
theorem isValid_of_mem_cuts (word : List Char) (text : String) {cut : Nat}
    (h : cut ∈ cuts word text.toUTF8.data.toList) : String.Pos.Raw.IsValid text ⟨cut⟩ := by
  rw [toList_toUTF8] at h
  obtain ⟨start, hstart, hcut⟩ := List.mem_flatMap.1 h
  rw [startsIn, map_lowerByte_bytesOf] at hstart
  obtain ⟨front, back, hsplit, rfl, hstands⟩ :=
    exists_append_of_mem_occurrences [] text.toList start hstart
  -- The text up to the cut is a list of characters in both cases.
  suffices ∃ front back, text.toList = front ++ back ∧ cut = (bytesOf front).length by
    obtain ⟨front, back, hsplit, rfl⟩ := this
    refine String.Pos.Raw.isValid_iff_exists_append.2 ⟨String.ofList front,
      String.ofList back, ?_, ?_⟩
    · rw [← String.ofList_append, ← hsplit, String.ofList_toList]
    · rw [length_bytesOf]
      rfl
  rcases List.mem_cons.1 hcut with rfl | hafter
  · exact ⟨front, back, hsplit, rfl⟩
  · refine ⟨front ++ back.take (word.length + 2), back.drop (word.length + 2), ?_, ?_⟩
    · rw [List.append_assoc, List.take_append_drop]
      exact hsplit
    · rw [bytesOf_append, List.length_append, length_bytesOf_take hstands]
      exact List.mem_singleton.1 hafter

/-- Replaced in the bytes of a text or in its characters, operators are in
capitals in the same places. -/
theorem raiseBytes_bytesOf (word text : List Char) :
    raiseBytes word (bytesOf text) = bytesOf (raise word 0 text) := by
  rw [raiseBytes, startsIn, map_lowerByte_bytesOf]
  exact splice_occurrences [] text (Nat.zero_le _)

end Faceted.Text
