import Mathlib.Data.List.Infix
import Mathlib.Data.Nat.Find
import Faceted.Text.Utf8

/-!
# Bytes and the text they spell

The bytes of characters spell a text. Bytes that break off a character spell the replacement
character instead, once for as many of them as still begin a character, and a byte that begins none
spells it by itself. So there is a text for any bytes, and only one: what a machine reads that looks
at each byte once and remembers what it may be followed by.

The machine is right since it never waits in vain. Whenever it has read a part of a character, then
with each byte that it takes next the part still begins one.

## Main definitions

* `Utf8.IsBroken` — bytes that break off a character, up to where the next one may begin
* `Utf8.Spells` — the text that bytes spell
* `Utf8.HasBytes` — the bytes of a character as the digits of its code
* `Utf8.Awaits` — a part of a character that was read, and the state that it leaves

## Main results

* `decodeFrom_encode` — the bytes of a character are read as the character
* `IsBroken.reads` — a broken part is replaced
* `spells_iff` — bytes are shown as the text that they spell
* `decode_encode` — the bytes of a text are shown as the text
-/

namespace Faceted.Text.Utf8

open String (utf8EncodeChar)

/-! ### The text that bytes spell -/

/-- Bytes begin a character, or are all of one. -/
def Begins (part : List UInt8) : Prop :=
  ∃ c : Char, part <+: utf8EncodeChar c

/-- No character stands where this part begins, and it ends where the bytes stop beginning one: it
is the longest that begins a character, or else a byte by itself. -/
structure IsBroken (part rest : List UInt8) : Prop where
  nonempty : part ≠ []
  broken (c : Char) : ¬ utf8EncodeChar c <+: part ++ rest
  begins : Begins part ∨ part.length = 1
  longest (byte : UInt8) (more : List UInt8) : rest = byte :: more → ¬ Begins (part ++ [byte])

/-- Bytes spell characters: each by its own bytes, and the replacement character by
every broken part of one. -/
inductive Spells : List UInt8 → List Char → Prop where
  | nil : Spells [] []
  | character (c : Char) {rest : List UInt8} {chars : List Char} (h : Spells rest chars) :
      Spells (utf8EncodeChar c ++ rest) (c :: chars)
  | broken {part rest : List UInt8} {chars : List Char} (hbroken : IsBroken part rest)
      (h : Spells rest chars) : Spells (part ++ rest) ('\ufffd' :: chars)

/-- The bytes of characters spell them. -/
theorem spells_flatMap (chars : List Char) : Spells (chars.flatMap utf8EncodeChar) chars := by
  induction chars with
  | nil => exact .nil
  | cons c chars ih => exact .character c ih

theorem Begins.of_append {part more : List UInt8} (h : Begins (part ++ more)) : Begins part := by
  obtain ⟨c, hc⟩ := h
  exact ⟨c, (List.prefix_append part more).trans hc⟩

theorem utf8EncodeChar_ne_nil (c : Char) : utf8EncodeChar c ≠ [] :=
  List.ne_nil_of_length_pos (by rw [String.length_utf8EncodeChar]; exact c.utf8Size_pos)

/-! ### Characters as bytes -/

/-- The code of a character is written to base 64, the first digit with a mark of how many there are
and every further one with a mark of its own. No digit is left out that is not zero, and none is
written that could be left out; the codes that stand for no character are left out too. -/
inductive HasBytes : Char → List UInt8 → Prop where
  | one {code : Nat} (hlt : code < 0x80) : HasBytes (Char.ofNat code) [UInt8.ofNat code]
  | two {first second : Nat} (hle : 2 ≤ first) (hlt : first < 0x20) (hsecond : second < 64) :
      HasBytes (Char.ofNat (first * 64 + second))
        [UInt8.ofNat (first + 0xC0), UInt8.ofNat (second + 0x80)]
  | three {first second third : Nat} (hlt : first < 0x10) (hsecond : second < 64)
      (hthird : third < 64) (hleast : first = 0 → 0x20 ≤ second)
      (hgreatest : first = 0xD → second < 0x20) :
      HasBytes (Char.ofNat ((first * 64 + second) * 64 + third))
        [UInt8.ofNat (first + 0xE0), UInt8.ofNat (second + 0x80), UInt8.ofNat (third + 0x80)]
  | four {first second third fourth : Nat} (hlt : first < 5) (hsecond : second < 64)
      (hthird : third < 64) (hfourth : fourth < 64) (hleast : first = 0 → 0x10 ≤ second)
      (hgreatest : first = 4 → second < 0x10) :
      HasBytes (Char.ofNat (((first * 64 + second) * 64 + third) * 64 + fourth))
        [UInt8.ofNat (first + 0xF0), UInt8.ofNat (second + 0x80), UInt8.ofNat (third + 0x80),
          UInt8.ofNat (fourth + 0x80)]

theorem val_ofNat {code : Nat} (h : code.isValidChar) : (Char.ofNat code).val.toNat = code := by
  rw [Char.ofNat, dif_pos h]
  exact UInt32.toNat_ofNatLT

theorem HasBytes.eq_encode {c : Char} {bytes : List UInt8} (h : HasBytes c bytes) :
    utf8EncodeChar c = bytes := by
  cases h with
  | one hlt =>
    rw [utf8EncodeChar, val_ofNat (Or.inl (by omega))]
    exact if_pos (by omega)
  | @two first second hle hlt hsecond =>
    have hhigh : (first * 64 + second) / 64 % 32 = first := by omega
    have hlow : (first * 64 + second) % 64 = second := by omega
    rw [utf8EncodeChar, val_ofNat (Or.inl (by omega))]
    simp only [hhigh, hlow]
    rw [if_neg (by omega), if_pos (by omega)]
  | @three first second third hlt hsecond hthird hleast hgreatest =>
    have hhigh : ((first * 64 + second) * 64 + third) / 4096 % 16 = first := by omega
    have hmiddle : ((first * 64 + second) * 64 + third) / 64 % 64 = second := by omega
    have hlow : ((first * 64 + second) * 64 + third) % 64 = third := by omega
    have hvalid : ((first * 64 + second) * 64 + third).isValidChar := by
      rw [Nat.isValidChar]
      omega
    rw [utf8EncodeChar, val_ofNat hvalid]
    simp only [hhigh, hmiddle, hlow]
    rw [if_neg (by omega), if_neg (by omega), if_pos (by omega)]
  | @four first second third fourth hlt hsecond hthird hfourth hleast hgreatest =>
    have hhigh : (((first * 64 + second) * 64 + third) * 64 + fourth) / 262144 % 8 = first := by
      omega
    have hupper : (((first * 64 + second) * 64 + third) * 64 + fourth) / 4096 % 64 = second := by
      omega
    have hlower : (((first * 64 + second) * 64 + third) * 64 + fourth) / 64 % 64 = third := by
      omega
    have hlow : (((first * 64 + second) * 64 + third) * 64 + fourth) % 64 = fourth := by omega
    rw [utf8EncodeChar, val_ofNat (Or.inr (by omega))]
    simp only [hhigh, hupper, hlower, hlow]
    rw [if_neg (by omega), if_neg (by omega), if_neg (by omega)]

theorem exists_hasBytes (c : Char) : ∃ bytes, HasBytes c bytes := by
  obtain ⟨code, rfl, hvalid⟩ : ∃ code, c = Char.ofNat code ∧ code.isValidChar :=
    ⟨c.toNat, (Char.ofNat_toNat c).symm, c.valid⟩
  rw [Nat.isValidChar] at hvalid
  have hdigits : code = code / 64 * 64 + code % 64 := (Nat.div_add_mod' code 64).symm
  have hupper : code / 64 = code / 64 / 64 * 64 + code / 64 % 64 := (Nat.div_add_mod' _ 64).symm
  have htop : code / 64 / 64 = code / 64 / 64 / 64 * 64 + code / 64 / 64 % 64 :=
    (Nat.div_add_mod' _ 64).symm
  -- A code has as many digits as it needs, so that no leading digit is zero.
  by_cases hone : code < 0x80
  · exact ⟨_, .one hone⟩
  by_cases htwo : code < 0x800
  · rw [hdigits]
    exact ⟨_, .two (by omega) (by omega) (by omega)⟩
  by_cases hthree : code < 0x10000
  · rw [hdigits, hupper]
    exact ⟨_, .three (by omega) (by omega) (by omega) (by omega) (by omega)⟩
  · rw [hdigits, hupper, htop]
    exact ⟨_, .four (by omega) (by omega) (by omega) (by omega) (by omega) (by omega)⟩

theorem hasBytes_encode (c : Char) : HasBytes c (utf8EncodeChar c) := by
  obtain ⟨bytes, h⟩ := exists_hasBytes c
  rwa [h.eq_encode]

theorem HasBytes.begins {c : Char} {part bytes : List UInt8} (h : HasBytes c bytes)
    (hpart : part <+: bytes) : Begins part :=
  ⟨c, h.eq_encode ▸ hpart⟩

/-- A byte after the first one has a digit. -/
theorem exists_digit {byte : UInt8} (hleast : 0x80 ≤ byte.toNat) (hgreatest : byte.toNat ≤ 0xBF) :
    ∃ digit < 64, byte.toNat = digit + 0x80 ∧ byte = UInt8.ofNat (digit + 0x80) := by
  obtain ⟨digit, hdigit⟩ := Nat.exists_eq_add_of_le' hleast
  exact ⟨digit, by omega, hdigit, hdigit ▸ (UInt8.ofNat_toNat).symm⟩

/-! ### Reading the bytes of a character -/

theorem begin_one {n : Nat} (hlt : n < 0x80) : begin n = some (.inl (Char.ofNat n)) :=
  if_pos hlt

theorem begin_two : ∀ n < 0x20, 2 ≤ n → begin (n + 0xC0) = some (.inr ⟨n, 1, 0x80, 0xBF⟩) := by
  decide

theorem begin_three : ∀ n < 0x10, begin (n + 0xE0) =
    some (.inr ⟨n, 2, if n = 0 then 0xA0 else 0x80, if n = 0xD then 0x9F else 0xBF⟩) := by
  decide

theorem begin_four : ∀ n < 5, begin (n + 0xF0) =
    some (.inr ⟨n, 3, if n = 0 then 0x90 else 0x80, if n = 4 then 0x8F else 0xBF⟩) := by
  decide

theorem begin_none {n : Nat} (hle : 0x80 ≤ n) (h : n < 0xC2 ∨ 0xF5 ≤ n) : begin n = none := by
  rw [begin, if_neg (Nat.not_lt.2 hle)]
  rcases h with h | h
  · rw [if_pos h]
  · rw [if_neg (by omega), if_neg (by omega), if_neg (by omega), if_neg (by omega),
      if_neg (by omega), if_neg (by omega), if_neg (by omega), if_neg (by omega)]

section Read

variable {n : Nat} {pending : Pending} {byte : UInt8}

theorem decodeFrom_inl {c : Char} (hlt : n < 256) (h : begin n = some (.inl c))
    (rest : List UInt8) : decodeFrom none (UInt8.ofNat n :: rest) = c :: decodeFrom none rest := by
  rw [decodeFrom, step, first, UInt8.toNat_ofNat_of_lt' hlt, h]
  rfl

theorem decodeFrom_inr (hlt : n < 256) (h : begin n = some (.inr pending)) (rest : List UInt8) :
    decodeFrom none (UInt8.ofNat n :: rest) = decodeFrom (some pending) rest := by
  rw [decodeFrom, step, first, UInt8.toNat_ofNat_of_lt' hlt, h]
  rfl

/-- A byte that begins no character is replaced. -/
theorem decodeFrom_of_begin_eq_none (h : begin byte.toNat = none) (rest : List UInt8) :
    decodeFrom none (byte :: rest) = replacement :: decodeFrom none rest := by
  rw [decodeFrom, step, first, h]
  rfl

/-- A byte that may come next, before the last one. -/
theorem decodeFrom_next (hleast : pending.least ≤ byte.toNat)
    (hgreatest : byte.toNat ≤ pending.greatest) (howed : 1 < pending.owed) (rest : List UInt8) :
    decodeFrom (some pending) (byte :: rest) =
      decodeFrom (some ⟨pending.bits * 64 + (byte.toNat - 0x80), pending.owed - 1, 0x80, 0xBF⟩)
        rest := by
  rw [decodeFrom, step, if_pos ⟨hleast, hgreatest⟩, if_neg (Nat.not_le.2 howed)]
  rfl

/-- The last byte of a character. -/
theorem decodeFrom_last (hleast : pending.least ≤ byte.toNat)
    (hgreatest : byte.toNat ≤ pending.greatest) (howed : pending.owed ≤ 1) (rest : List UInt8) :
    decodeFrom (some pending) (byte :: rest) =
      Char.ofNat (pending.bits * 64 + (byte.toNat - 0x80)) :: decodeFrom none rest := by
  rw [decodeFrom, step, if_pos ⟨hleast, hgreatest⟩, if_pos howed]
  rfl

/-- Any other byte breaks the character off, and is read on its own. -/
theorem decodeFrom_broken (h : ¬ (pending.least ≤ byte.toNat ∧ byte.toNat ≤ pending.greatest))
    (rest : List UInt8) :
    decodeFrom (some pending) (byte :: rest) = replacement :: decodeFrom none (byte :: rest) := by
  rw [decodeFrom, step, if_neg h]
  rfl

end Read

/-! ### Parts of a character -/

/-- Reading a part of a character leaves it pending, and with each byte that may come next the part
still begins a character. -/
structure Awaits (part : List UInt8) (pending : Pending) : Prop where
  reads (rest : List UInt8) : decodeFrom none (part ++ rest) = decodeFrom (some pending) rest
  begins (byte : UInt8) : pending.least ≤ byte.toNat → byte.toNat ≤ pending.greatest →
    Begins (part ++ [byte])

/-- The longer part after a byte that may come next, if that is not the last. -/
theorem Awaits.reads_next {part : List UInt8} {pending : Pending} (h : Awaits part pending)
    {n : Nat} (hlt : n < 64) (hleast : pending.least ≤ n + 0x80)
    (hgreatest : n + 0x80 ≤ pending.greatest) (howed : 1 < pending.owed) (rest : List UInt8) :
    decodeFrom none (part ++ [UInt8.ofNat (n + 0x80)] ++ rest) =
      decodeFrom (some ⟨pending.bits * 64 + n, pending.owed - 1, 0x80, 0xBF⟩) rest := by
  have hbyte : (UInt8.ofNat (n + 0x80)).toNat = n + 0x80 :=
    UInt8.toNat_ofNat_of_lt' (Nat.lt_trans (Nat.add_lt_add_right hlt _) (by decide))
  have hnext := decodeFrom_next (hleast.trans_eq hbyte.symm) (hbyte.trans_le hgreatest) howed rest
  rw [List.append_assoc, h.reads, List.singleton_append, hnext, hbyte, Nat.add_sub_cancel]

/-- The whole character after its last byte. -/
theorem Awaits.reads_last {part : List UInt8} {bits : Nat} (h : Awaits part ⟨bits, 1, 0x80, 0xBF⟩)
    {n : Nat} (hlt : n < 64) (rest : List UInt8) :
    decodeFrom none (part ++ [UInt8.ofNat (n + 0x80)] ++ rest) =
      Char.ofNat (bits * 64 + n) :: decodeFrom none rest := by
  have hbyte : (UInt8.ofNat (n + 0x80)).toNat = n + 0x80 :=
    UInt8.toNat_ofNat_of_lt' (Nat.lt_trans (Nat.add_lt_add_right hlt _) (by decide))
  have hlast : decodeFrom (some ⟨bits, 1, 0x80, 0xBF⟩) (UInt8.ofNat (n + 0x80) :: rest) = _ :=
    decodeFrom_last (by simp only [hbyte]; omega) (by simp only [hbyte]; omega) le_rfl rest
  rw [List.append_assoc, h.reads, List.singleton_append, hlast, hbyte, Nat.add_sub_cancel]

section Awaits

variable {first second third : Nat}

theorem awaits_two (hle : 2 ≤ first) (hlt : first < 0x20) :
    Awaits [UInt8.ofNat (first + 0xC0)] ⟨first, 1, 0x80, 0xBF⟩ where
  reads := decodeFrom_inr (by omega) (begin_two first hlt hle)
  begins byte hleast hgreatest := by
    obtain ⟨second, hsecond, -, rfl⟩ := exists_digit hleast hgreatest
    exact (HasBytes.two hle hlt hsecond).begins List.prefix_rfl

theorem awaits_three_first (hlt : first < 0x10) :
    Awaits [UInt8.ofNat (first + 0xE0)]
      ⟨first, 2, if first = 0 then 0xA0 else 0x80, if first = 0xD then 0x9F else 0xBF⟩ where
  reads := decodeFrom_inr (by omega) (begin_three first hlt)
  begins byte hleast hgreatest := by
    have hrange : 0x80 ≤ byte.toNat ∧ byte.toNat ≤ 0xBF ∧ (first = 0 → 0xA0 ≤ byte.toNat) ∧
        (first = 0xD → byte.toNat ≤ 0x9F) := by
      simp only at hleast hgreatest
      split at hleast <;> split at hgreatest <;> omega
    obtain ⟨second, hsecond, hbyte, rfl⟩ := exists_digit hrange.1 hrange.2.1
    have hbytes := @HasBytes.three first second 0 hlt hsecond (by omega) (by omega) (by omega)
    exact hbytes.begins ⟨_, rfl⟩

theorem awaits_three_second (hlt : first < 0x10) (hsecond : second < 64)
    (hleast : first = 0 → 0x20 ≤ second) (hgreatest : first = 0xD → second < 0x20) :
    Awaits [UInt8.ofNat (first + 0xE0), UInt8.ofNat (second + 0x80)]
      ⟨first * 64 + second, 1, 0x80, 0xBF⟩ where
  reads := (awaits_three_first hlt).reads_next hsecond (by simp only; split <;> omega)
    (by simp only; split <;> omega) (by simp)
  begins byte hfrom hto := by
    obtain ⟨third, hthird, -, rfl⟩ := exists_digit hfrom hto
    exact (HasBytes.three hlt hsecond hthird hleast hgreatest).begins List.prefix_rfl

theorem awaits_four_first (hlt : first < 5) :
    Awaits [UInt8.ofNat (first + 0xF0)]
      ⟨first, 3, if first = 0 then 0x90 else 0x80, if first = 4 then 0x8F else 0xBF⟩ where
  reads := decodeFrom_inr (by omega) (begin_four first hlt)
  begins byte hleast hgreatest := by
    have hrange : 0x80 ≤ byte.toNat ∧ byte.toNat ≤ 0xBF ∧ (first = 0 → 0x90 ≤ byte.toNat) ∧
        (first = 4 → byte.toNat ≤ 0x8F) := by
      simp only at hleast hgreatest
      split at hleast <;> split at hgreatest <;> omega
    obtain ⟨second, hsecond, hbyte, rfl⟩ := exists_digit hrange.1 hrange.2.1
    have hbytes := @HasBytes.four first second 0 0 hlt hsecond (by omega) (by omega) (by omega)
      (by omega)
    exact hbytes.begins ⟨_, rfl⟩

variable (hlt : first < 5) (hsecond : second < 64) (hleast : first = 0 → 0x10 ≤ second)
  (hgreatest : first = 4 → second < 0x10)

include hlt hsecond hleast hgreatest

theorem awaits_four_second :
    Awaits [UInt8.ofNat (first + 0xF0), UInt8.ofNat (second + 0x80)]
      ⟨first * 64 + second, 2, 0x80, 0xBF⟩ where
  reads := (awaits_four_first hlt).reads_next hsecond (by simp only; split <;> omega)
    (by simp only; split <;> omega) (by simp)
  begins byte hfrom hto := by
    obtain ⟨third, hthird, -, rfl⟩ := exists_digit hfrom hto
    have hbytes := @HasBytes.four first second third 0 hlt hsecond hthird (by omega) hleast
      hgreatest
    exact hbytes.begins ⟨_, rfl⟩

theorem awaits_four_third (hthird : third < 64) :
    Awaits [UInt8.ofNat (first + 0xF0), UInt8.ofNat (second + 0x80), UInt8.ofNat (third + 0x80)]
      ⟨(first * 64 + second) * 64 + third, 1, 0x80, 0xBF⟩ where
  reads := (awaits_four_second hlt hsecond hleast hgreatest).reads_next hthird
    (by simp only; omega) (by simp only; omega) (by simp)
  begins byte hfrom hto := by
    obtain ⟨fourth, hfourth, -, rfl⟩ := exists_digit hfrom hto
    exact (HasBytes.four hlt hsecond hthird hfourth hleast hgreatest).begins List.prefix_rfl

end Awaits

/-! ### Whole characters and broken ones -/

/-- The bytes of a character are read as the character. -/
theorem decodeFrom_encode (c : Char) (rest : List UInt8) :
    decodeFrom none (utf8EncodeChar c ++ rest) = c :: decodeFrom none rest := by
  have h := hasBytes_encode c
  generalize utf8EncodeChar c = bytes at h
  cases h with
  | one hlt => exact decodeFrom_inl (by omega) (begin_one hlt) rest
  | two hle hlt hsecond => exact (awaits_two hle hlt).reads_last hsecond rest
  | three hlt hsecond hthird hleast hgreatest =>
    exact (awaits_three_second hlt hsecond hleast hgreatest).reads_last hthird rest
  | four hlt hsecond hthird hfourth hleast hgreatest =>
    exact (awaits_four_third hlt hsecond hleast hgreatest hthird).reads_last hfourth rest

theorem exists_awaits {part : List UInt8} {c : Char} (hstart : part <+: utf8EncodeChar c)
    (hnil : part ≠ []) (hwhole : part ≠ utf8EncodeChar c) : ∃ pending, Awaits part pending := by
  have h := hasBytes_encode c
  generalize utf8EncodeChar c = bytes at h hstart hwhole
  -- A part that is neither empty nor whole lacks some of the further bytes, and never the first.
  cases h with
  | one =>
    simp only [List.prefix_cons_iff, List.prefix_nil] at hstart
    rcases hstart with rfl | ⟨_, rfl, rfl⟩
    · exact absurd rfl hnil
    · exact absurd rfl hwhole
  | two hle hlt =>
    simp only [List.prefix_cons_iff, List.prefix_nil] at hstart
    rcases hstart with rfl | ⟨_, rfl, rfl | ⟨_, rfl, rfl⟩⟩
    · exact absurd rfl hnil
    · exact ⟨_, awaits_two hle hlt⟩
    · exact absurd rfl hwhole
  | three hlt hsecond hthird hleast hgreatest =>
    simp only [List.prefix_cons_iff, List.prefix_nil] at hstart
    rcases hstart with rfl | ⟨_, rfl, rfl | ⟨_, rfl, rfl | ⟨_, rfl, rfl⟩⟩⟩
    · exact absurd rfl hnil
    · exact ⟨_, awaits_three_first hlt⟩
    · exact ⟨_, awaits_three_second hlt hsecond hleast hgreatest⟩
    · exact absurd rfl hwhole
  | four hlt hsecond hthird hfourth hleast hgreatest =>
    simp only [List.prefix_cons_iff, List.prefix_nil] at hstart
    rcases hstart with rfl | ⟨_, rfl, rfl | ⟨_, rfl, rfl | ⟨_, rfl, rfl | ⟨_, rfl, rfl⟩⟩⟩⟩
    · exact absurd rfl hnil
    · exact ⟨_, awaits_four_first hlt⟩
    · exact ⟨_, awaits_four_second hlt hsecond hleast hgreatest⟩
    · exact ⟨_, awaits_four_third hlt hsecond hleast hgreatest hthird⟩
    · exact absurd rfl hwhole

/-- A byte that begins no character is read as none. -/
theorem begin_eq_none {byte : UInt8} (h : ¬ Begins [byte]) : begin byte.toNat = none := by
  have hlt := byte.toNat_lt
  have hbyte {n : Nat} (hn : byte.toNat = n) : [byte] = [UInt8.ofNat n] := by
    rw [← hn, UInt8.ofNat_toNat]
  by_cases hone : byte.toNat < 0x80
  · refine absurd ⟨Char.ofNat byte.toNat, ?_⟩ h
    rw [(HasBytes.one hone).eq_encode, ← hbyte rfl]
  by_cases hrange : byte.toNat < 0xC2 ∨ 0xF5 ≤ byte.toNat
  · exact begin_none (Nat.not_lt.1 hone) hrange
  -- Each byte in between begins a character, since some byte may come next.
  refine absurd ?_ h
  by_cases htwo : byte.toNat < 0xE0
  · obtain ⟨bits, hbits⟩ := Nat.exists_eq_add_of_le' (show 0xC0 ≤ byte.toNat by omega)
    rw [hbyte hbits]
    exact ((awaits_two (by omega) (by omega)).begins 0x80 le_rfl (by simp)).of_append
  by_cases hthree : byte.toNat < 0xF0
  · obtain ⟨bits, hbits⟩ := Nat.exists_eq_add_of_le' (show 0xE0 ≤ byte.toNat by omega)
    rw [hbyte hbits]
    have hfirst := @awaits_three_first bits (by omega)
    by_cases hzero : bits = 0
    · exact (hfirst.begins 0xA0 (by simp [hzero]) (by simp [hzero])).of_append
    · exact (hfirst.begins 0x80 (by simp [hzero]) (by simp only; split <;> simp)).of_append
  · obtain ⟨bits, hbits⟩ := Nat.exists_eq_add_of_le' (show 0xF0 ≤ byte.toNat by omega)
    rw [hbyte hbits]
    have hfirst := @awaits_four_first bits (by omega)
    by_cases hzero : bits = 0
    · exact (hfirst.begins 0x90 (by simp [hzero]) (by simp [hzero])).of_append
    · exact (hfirst.begins 0x80 (by simp [hzero]) (by simp only; split <;> simp)).of_append

theorem IsBroken.reads {part rest : List UInt8} (h : IsBroken part rest) :
    decodeFrom none (part ++ rest) = replacement :: decodeFrom none rest := by
  by_cases hbegins : Begins part
  · obtain ⟨c, hstart⟩ := hbegins
    have hwhole : part ≠ utf8EncodeChar c := by
      rintro rfl
      exact h.broken c (List.prefix_append _ rest)
    obtain ⟨pending, hawaits⟩ := exists_awaits hstart h.nonempty hwhole
    -- What comes next, if anything, cannot be what the machine waits for: the part would be longer.
    rw [hawaits.reads]
    cases rest with
    | nil => rfl
    | cons byte more =>
      refine decodeFrom_broken (fun hrange => ?_) more
      exact h.longest byte more rfl (hawaits.begins byte hrange.1 hrange.2)
  · obtain ⟨byte, rfl⟩ := List.length_eq_one_iff.1 (h.begins.resolve_left hbegins)
    exact decodeFrom_of_begin_eq_none (begin_eq_none hbegins) rest

/-- Where no character begins, there is a broken part. -/
theorem exists_isBroken {bytes : List UInt8} (hne : bytes ≠ [])
    (hbroken : ∀ c : Char, ¬ utf8EncodeChar c <+: bytes) :
    ∃ part rest, bytes = part ++ rest ∧ IsBroken part rest := by
  classical
  -- The longest part that begins a character, but at least one byte.
  obtain ⟨count, hcount, hbegins, hlongest⟩ : ∃ count ≤ bytes.length, Begins (bytes.take count) ∧
      ∀ longer ≤ bytes.length, count < longer → ¬ Begins (bytes.take longer) := by
    refine ⟨Nat.findGreatest (fun count => Begins (bytes.take count)) bytes.length,
      Nat.findGreatest_le _, ?_, fun longer hle hlt => ?_⟩
    · exact Nat.findGreatest_spec (P := fun count => Begins (bytes.take count)) (Nat.zero_le _)
        ⟨'a', List.nil_prefix⟩
    · exact Nat.findGreatest_is_greatest hlt hle
  refine ⟨bytes.take (max count 1), bytes.drop (max count 1), (List.take_append_drop _ _).symm, ?_⟩
  have hpos : 0 < bytes.length := List.length_pos_iff.2 hne
  constructor
  case nonempty =>
    rw [Ne, List.take_eq_nil_iff, not_or]
    exact ⟨by omega, hne⟩
  case broken =>
    rwa [List.take_append_drop]
  case begins =>
    by_cases hzero : count = 0
    · right
      rw [List.length_take]
      omega
    · left
      rwa [max_eq_left (Nat.one_le_iff_ne_zero.2 hzero)]
  case longest =>
    intro byte more hrest
    have hlt : max count 1 < bytes.length := by
      have hlength := congrArg List.length hrest
      rw [List.length_drop, List.length_cons] at hlength
      omega
    rw [List.drop_eq_getElem_cons hlt] at hrest
    rw [← (List.cons.inj hrest).1, List.take_append_getElem]
    exact hlongest _ hlt (by omega)

/-! ### What bytes are read as -/

theorem Spells.eq_decodeFrom {bytes : List UInt8} {chars : List Char} (h : Spells bytes chars) :
    chars = decodeFrom none bytes := by
  induction h with
  | nil => rfl
  | character c _ ih => rw [decodeFrom_encode, ih]
  | broken hbroken _ ih => rw [hbroken.reads, ih, replacement]

/-- All bytes spell something. -/
theorem exists_spells (bytes : List UInt8) : ∃ chars, Spells bytes chars := by
  induction hlength : bytes.length using Nat.strong_induction_on generalizing bytes with
  | _ length ih =>
    subst hlength
    -- Whatever is read next takes at least one byte, and the rest is shorter.
    have shorter {part rest : List UInt8} (hpart : part ≠ []) :
        rest.length < (part ++ rest).length := by
      rw [List.length_append]
      exact Nat.lt_add_of_pos_left (List.length_pos_iff.2 hpart)
    by_cases hne : bytes = []
    · exact ⟨[], hne ▸ .nil⟩
    · by_cases hcharacter : ∃ c : Char, utf8EncodeChar c <+: bytes
      · obtain ⟨c, rest, rfl⟩ := hcharacter
        obtain ⟨chars, h⟩ := ih _ (shorter (utf8EncodeChar_ne_nil c)) rest rfl
        exact ⟨_, .character c h⟩
      · obtain ⟨part, rest, rfl, hbroken⟩ := exists_isBroken hne (not_exists.1 hcharacter)
        obtain ⟨chars, h⟩ := ih _ (shorter hbroken.nonempty) rest rfl
        exact ⟨_, .broken hbroken h⟩

/-- Bytes spell one text, and it is the one that they are shown as. -/
theorem spells_iff {bytes : List UInt8} {text : String} :
    Spells bytes text.toList ↔ text = decode bytes := by
  rw [decode, ← String.toList_inj, String.toList_ofList]
  refine ⟨Spells.eq_decodeFrom, fun h => ?_⟩
  obtain ⟨chars, hchars⟩ := exists_spells bytes
  rwa [h, ← hchars.eq_decodeFrom]

/-- The bytes of a text are shown as the text. -/
theorem decode_encode (text : String) : decode (text.toList.flatMap utf8EncodeChar) = text :=
  (spells_iff.1 (spells_flatMap text.toList)).symm

/-- A character that breaks off after two of its three bytes is replaced once, and so is a byte that
begins none. -/
example : decode [0xE2, 0x82, 0x41, 0xFF] = "\ufffdA\ufffd" := by decide

end Faceted.Text.Utf8
