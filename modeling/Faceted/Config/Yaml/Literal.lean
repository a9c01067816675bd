import Faceted.Config.Yaml.Quoted

/-!
# Block scalars

After a bar or an angle bracket the following lines are a scalar as they stand, as long as they
are indented enough. A bar keeps their line breaks; an angle bracket folds lines that do not
begin with a blank. A sign and a digit in the header say what becomes of the last line break and
how far the lines are indented.

## Main definitions

* `Yaml.Ending` — what becomes of the line breaks at the end
* `Yaml.header?` — the header of a block scalar
* `Yaml.Seam` — what stands between two lines
* `Yaml.blockFrom` — the lines of a block scalar
* `Yaml.block?` — the text of a block scalar
-/

namespace Faceted.Config.Yaml

/-- What becomes of the line breaks at the end of a block scalar. -/
inductive Ending where
  /-- One stays. -/
  | clip
  /-- None stays. -/
  | strip
  /-- All stay. -/
  | keep
deriving DecidableEq, Repr

/-- The ending that a sign asks for. -/
def ending? (c : Char) : Option Ending :=
  [('+', Ending.keep), ('-', Ending.strip)].lookup c

/-- The sign and the digit of a header, in either order, and what follows. The digit is not zero,
and it is zero in the answer if there is none. -/
def header? (rest : List Spot) : Option (Ending × Nat × List Spot) :=
  match signOf rest with
  | (some ending, rest) => do
    let (width, rest) ← digitOf? rest
    return (ending, width, rest)
  | (none, rest) => do
    let (width, after) ← digitOf? rest
    if width = 0 then return (.clip, 0, rest)
    else
      let (ending, after) := signOf after
      return (ending.getD .clip, width, after)
where
  /-- The sign at the front. -/
  signOf : List Spot → Option Ending × List Spot
    | s :: rest => match ending? s.char with
      | some ending => (some ending, rest)
      | none => (none, s :: rest)
    | [] => (none, [])
  /-- The digit at the front. -/
  digitOf? : List Spot → Option (Nat × List Spot)
    | s :: rest =>
      if s.char == '0' then none
      else match digit? 10 s.char with
        | some width => some (width, rest)
        | none => some (0, s :: rest)
    | [] => some (0, [])

/-- The greatest column that spaces reach in empty lines and in the line after them. -/
def widest : List Spot → Nat
  | [] => 0
  | s :: rest =>
    if s.char == ' ' then widest rest
    else if s.isBreak then max s.column (widest rest)
    else s.column

/-- What stands between two lines of a block scalar. -/
inductive Seam where
  /-- Before the first line: this many empty ones. -/
  | opening (empty : Nat)
  /-- After a line and its line break: whether the line began with a blank, and how many empty ones
  follow. -/
  | broken (blank : Bool) (empty : Nat)
  /-- The text ended within a line. -/
  | cut
deriving DecidableEq, Repr

namespace Seam

/-- The seam after one more empty line. -/
def addEmpty : Seam → Seam
  | .opening empty => .opening (empty + 1)
  | .broken blank empty => .broken blank (empty + 1)
  | .cut => .cut

/-- What a seam stands for before a line; `blank` says whether that line begins with a blank. Where
lines are folded a single line break counts as a blank, and further ones as themselves. -/
def text (folded blank : Bool) : Seam → List Char
  | .opening empty => List.replicate empty '\n'
  | .broken blankBefore empty =>
    if folded && !blankBefore && !blank then
      if empty = 0 then [' '] else List.replicate empty '\n'
    else List.replicate (empty + 1) '\n'
  | .cut => []

/-- The line break that ends the last line, if it was read. -/
def lastBreak : Seam → List Char
  | .broken _ _ => ['\n']
  | _ => []

/-- The empty lines at the end. -/
def emptyLines : Seam → List Char
  | .opening empty => List.replicate empty '\n'
  | .broken _ empty => List.replicate empty '\n'
  | .cut => []

end Seam

/-- Where the reading of a block scalar stands. -/
inductive Lining where
  /-- In the indentation of a line. -/
  | margin (seam : Seam)
  /-- In a line, which began with a blank or not. -/
  | within (blank : Bool)
deriving DecidableEq, Repr

/-- The lines of a block scalar that are indented by `indent`; answers their text, what stands after
the last one, and the rest. -/
def blockFrom (folded : Bool) (indent : Nat) : Lining → List Spot → List Char × Seam × List Spot
  | .margin seam, [] => ([], seam, [])
  | .within _, [] => ([], .cut, [])
  | .margin seam, s :: rest =>
    if s.char == ' ' && s.column < indent then blockFrom folded indent (.margin seam) rest
    else if s.isBreak then blockFrom folded indent (.margin seam.addEmpty) rest
    else if s.column = indent && !s.isEnd then
      let (text, last, rest) := blockFrom folded indent (.within s.isBlank) rest
      (seam.text folded s.isBlank ++ s.char :: text, last, rest)
    else ([], seam, s :: rest)
  | .within blank, s :: rest =>
    if s.isBreak then blockFrom folded indent (.margin (.broken blank 0)) rest
    else if s.isEnd then ([], .cut, s :: rest)
    else
      let (text, last, rest) := blockFrom folded indent (.within blank) rest
      (s.char :: text, last, rest)

/-- What a block scalar without lines stands for at the end of the text; `closed` says whether a
line break ended its header. -/
def emptyText (ending : Ending) (closed : Bool) (seam : Seam) : List Char :=
  match ending with
  | .strip => []
  | .clip => if closed then ['\n'] else []
  | .keep => if !closed then [] else if seam.emptyLines.isEmpty then ['\n'] else seam.emptyLines

/-- The text at the end of a block scalar that is indented by `indent`. If the text of the file ends
at a place that is indented as much, its last line counts as ended. -/
def lastText (ending : Ending) (indent : Nat) (seam : Seam) (rest : List Spot) : List Char :=
  let unbroken := rest.head?.any fun s => s.isEnd && max indent 1 ≤ s.column
  (if ending = .strip then [] else seam.lastBreak ++ if unbroken then ['\n'] else [])
    ++ if ending = .keep then seam.emptyLines else []

/-- The text of a block scalar after its bar or angle bracket, and what follows. `outer` is the
indentation of the block that it stands in. -/
def block? (folded : Bool) (outer : Int) (rest : List Spot) : Option (List Char × List Spot) := do
  let (ending, width, rest) ← header? rest
  let rest ← pastLine? rest
  let (closed, rest) ←
    match rest with
    | [] => some (false, [])
    | s :: after =>
      if s.isBreak then some (true, after) else if s.isEnd then some (false, rest) else none
  if rest.head?.any fun s => s.char == '\t' then none
  else
    let indent :=
      if width = 0 then max (widest rest) (outer + 1).toNat
      else (max outer 0).toNat + width
    let (text, seam, rest) := blockFrom folded indent (.margin (.opening 0)) rest
    match seam, rest with
    | .opening _, s :: rest =>
      if s.isEnd then some (emptyText ending closed seam, s :: rest)
      else if s.column < indent && outer < s.column then none
      else some (lastText ending indent seam (s :: rest), s :: rest)
    | _, _ => some (text ++ lastText ending indent seam rest, rest)

end Faceted.Config.Yaml
