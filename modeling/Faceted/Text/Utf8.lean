/-!
# Decoding bytes that may not be UTF-8

The body of a refused request is shown to people even if it is not UTF-8: each longest part that
begins a character but does not complete it, and each byte that begins none, is shown as the
replacement character.

## Main definitions

* `Text.Utf8.Pending` — the character being read
* `Text.Utf8.decode` — the text that bytes are shown as
-/

namespace Faceted.Text.Utf8

/-- The character being read: its bits so far, how many bytes are still to come, and the range that
the next byte must lie in. -/
structure Pending where
  bits : Nat
  owed : Nat
  least : Nat
  greatest : Nat
deriving DecidableEq, Repr

/-- The replacement character. -/
def replacement : Char := '\ufffd'

/-- What a first byte begins: nothing, a whole character, or one that further bytes complete. -/
def begin (byte : Nat) : Option (Char ⊕ Pending) :=
  if byte < 0x80 then some (.inl (Char.ofNat byte))
  else if byte < 0xC2 then none
  else if byte < 0xE0 then some (.inr ⟨byte - 0xC0, 1, 0x80, 0xBF⟩)
  else if byte = 0xE0 then some (.inr ⟨0, 2, 0xA0, 0xBF⟩)
  else if byte = 0xED then some (.inr ⟨0xD, 2, 0x80, 0x9F⟩)
  else if byte < 0xF0 then some (.inr ⟨byte - 0xE0, 2, 0x80, 0xBF⟩)
  else if byte = 0xF0 then some (.inr ⟨0, 3, 0x90, 0xBF⟩)
  else if byte < 0xF4 then some (.inr ⟨byte - 0xF0, 3, 0x80, 0xBF⟩)
  else if byte = 0xF4 then some (.inr ⟨4, 3, 0x80, 0x8F⟩)
  else none

/-- Reads a byte between characters. -/
def first (byte : Nat) : List Char × Option Pending :=
  match begin byte with
  | none => ([replacement], none)
  | some (.inl c) => ([c], none)
  | some (.inr pending) => ([], some pending)

/-- Reads one byte: the characters that are finished, and the one being read. -/
def step (pending : Option Pending) (byte : Nat) : List Char × Option Pending :=
  match pending with
  | none => first byte
  | some p =>
    if p.least ≤ byte ∧ byte ≤ p.greatest then
      let bits := p.bits * 64 + (byte - 0x80)
      if p.owed ≤ 1 then ([Char.ofNat bits], none) else ([], some ⟨bits, p.owed - 1, 0x80, 0xBF⟩)
    else
      let (chars, next) := first byte
      (replacement :: chars, next)

/-- The characters of bytes, with a character being read. -/
def decodeFrom (pending : Option Pending) : List UInt8 → List Char
  | [] => if pending.isSome then [replacement] else []
  | byte :: rest =>
    let (chars, next) := step pending byte.toNat
    chars ++ decodeFrom next rest

/-- The text that bytes are shown as. -/
def decode (bytes : List UInt8) : String :=
  String.ofList (decodeFrom none bytes)

end Faceted.Text.Utf8
