import ClusterGraph.Decimal.Literal
import ClusterGraph.Json.Mismatch

/-!
# The words of JSON texts

Blanks, string literals, numbers and the words `null`, `true` and `false`. A scanner takes a text
and gives what it read with the text that follows. It fails when the text ends too early
(`truncated`), when it breaks the grammar (`malformed`), or, further up, when the text holds
something else than expected (`mismatch`).

Strings are read in two steps: `scanPieces` cuts a literal into characters and units of sixteen
bits, and `joinPieces` joins pairs of surrogates into characters. Numbers are also read in two
steps: `scanNumber` finds their parts and `NumberText.toJson?` their value.
-/

namespace ClusterGraph

/-- Why a text could not be read. -/
inductive ReadError where
  /-- The text ends inside something. -/
  | truncated
  /-- The text breaks the grammar. -/
  | malformed
  /-- The text holds something else than expected. -/
  | mismatch (cause : Mismatch)

/-- Takes a mismatch as an error of reading. -/
def ReadError.ofExcept {α : Type} : Except Mismatch α → Except ReadError α
  | .ok a => .ok a
  | .error cause => .error (.mismatch cause)

/-- Reads from the front of a text and gives the rest of it. -/
abbrev Scan (α : Type) := List Char → Except ReadError (α × List Char)

namespace Json

/-! ### Blanks and words -/

/-- Whether a character is a blank between the words of a text. -/
def isBlank (c : Char) : Bool := c == ' ' || c == '\n' || c == '\t' || c == '\r'

/-- Drops leading blanks. -/
def skipBlanks (cs : List Char) : List Char := cs.dropWhile isBlank

/-- Reads the given characters. -/
def scanWord : List Char → List Char → Except ReadError (List Char)
  | [], cs => .ok cs
  | _ :: _, [] => .error .truncated
  | w :: word, c :: cs => if c = w then scanWord word cs else .error .malformed

/-! ### Strings -/

/-- The value of a digit in base sixteen. -/
def hexValue? (c : Char) : Option Nat :=
  if '0' ≤ c ∧ c ≤ '9' then some (c.toNat - '0'.toNat)
  else if 'a' ≤ c ∧ c ≤ 'f' then some (c.toNat - 'a'.toNat + 10)
  else if 'A' ≤ c ∧ c ≤ 'F' then some (c.toNat - 'A'.toNat + 10)
  else none

/-- The value of four digits in base sixteen. -/
def hexUnit? (a b c d : Char) : Option Nat :=
  match hexValue? a, hexValue? b, hexValue? c, hexValue? d with
  | some a, some b, some c, some d => some (((a * 16 + b) * 16 + c) * 16 + d)
  | _, _, _, _ => none

/-- Four digits were expected at the head of this text and are not there. They are missing when
fewer than four bytes are left. -/
def brokenUnit (cs : List Char) : ReadError :=
  if (cs.take 4).foldl (fun n c => n + c.utf8Size) 0 < 4 then .truncated else .malformed

/-- A part of a string literal: a character, or an escaped unit of sixteen bits. -/
inductive Piece where
  | char (c : Char)
  | unit (n : Nat)
deriving DecidableEq

/-- The character that a letter after a backslash stands for. -/
def escapedChar? (c : Char) : Option Char :=
  if c = '"' then some '"'
  else if c = '\\' then some '\\'
  else if c = '/' then some '/'
  else if c = 'b' then some '\x08'
  else if c = 'f' then some '\x0c'
  else if c = 'n' then some '\n'
  else if c = 'r' then some '\r'
  else if c = 't' then some '\t'
  else none

/-- The pieces of a string literal behind its opening quote up to where the literal ends or
breaks, and the text behind its closing quote. -/
def scanPieces : List Char → List Piece × Except ReadError (List Char)
  | [] => ([], .error .truncated)
  | '"' :: rest => ([], .ok rest)
  | ['\\'] => ([], .error .truncated)
  | '\\' :: 'u' :: a :: b :: c :: d :: rest =>
    match hexUnit? a b c d with
    | some n =>
      let (pieces, ending) := scanPieces rest
      (.unit n :: pieces, ending)
    | none => ([], .error (brokenUnit [a, b, c, d]))
  | '\\' :: 'u' :: rest => ([], .error (brokenUnit rest))
  | '\\' :: c :: rest =>
    match escapedChar? c with
    | some c =>
      let (pieces, ending) := scanPieces rest
      (.char c :: pieces, ending)
    | none => ([], .error .malformed)
  | c :: rest =>
    if c.toNat < 0x20 then ([], .error .malformed)
    else
      let (pieces, ending) := scanPieces rest
      (.char c :: pieces, ending)

/-- Whether a unit is the first of a surrogate pair. -/
def isLead (n : Nat) : Bool := 0xD800 ≤ n && n < 0xDC00

/-- Whether a unit is the second of a surrogate pair. -/
def isTrail (n : Nat) : Bool := 0xDC00 ≤ n && n < 0xE000

/-- The outcome of joining surrogate pairs. -/
inductive Joined where
  | text (cs : List Char)
  /-- The pieces end behind the first unit of a pair. -/
  | dangling
  /-- A unit is not part of a pair. -/
  | unpaired
deriving DecidableEq

/-- Puts a character in front. -/
def Joined.cons (c : Char) : Joined → Joined
  | text cs => text (c :: cs)
  | other => other

/-- Joins surrogate pairs into characters. -/
def joinPieces : List Piece → Joined
  | [] => .text []
  | .char c :: rest => (joinPieces rest).cons c
  | [.unit n] =>
    if isLead n then .dangling
    else if isTrail n then .unpaired
    else .text [Char.ofNat n]
  | .unit n :: .unit m :: rest =>
    if isLead n then
      if isTrail m then
        (joinPieces rest).cons (Char.ofNat (0x10000 + (n - 0xD800) * 0x400 + (m - 0xDC00)))
      else .unpaired
    else if isTrail n then .unpaired
    else (joinPieces (.unit m :: rest)).cons (Char.ofNat n)
  | .unit n :: .char c :: rest =>
    if isLead n ∨ isTrail n then .unpaired
    else (joinPieces (.char c :: rest)).cons (Char.ofNat n)

/-- Reads a string literal behind its opening quote. -/
def scanString : Scan String := fun cs =>
  let (pieces, ending) := scanPieces cs
  match joinPieces pieces, ending with
  | .text cs, .ok rest => .ok (String.ofList cs, rest)
  | .unpaired, _ => .error .malformed
  | .dangling, .ok _ => .error .malformed
  | _, .error e => .error e

/-- Passes over a string literal behind its opening quote; units need not be paired. -/
def skipString : Scan Unit := fun cs => (scanPieces cs).2.map fun rest => ((), rest)

/-! ### Numbers -/

/-- The parts of a number. -/
structure NumberText where
  negative : Bool
  /-- The digits before the point. -/
  whole : List Char
  /-- The digits after the point, when there is one. -/
  fraction : Option (List Char)
  /-- Whether the exponent is negative, and its digits, when there is one. -/
  exponent : Option (Bool × List Char)

/-- Reads one or more digits; `atEnd` says what it means when the text ends instead. -/
def scanDigits (atEnd : ReadError) : Scan (List Char) := fun cs =>
  match cs with
  | [] => .error atEnd
  | c :: _ =>
    if c.isDigit then .ok (cs.takeWhile Char.isDigit, cs.dropWhile Char.isDigit)
    else .error .malformed

/-- Reads the digits before a point: a zero alone, or digits that do not start with zero. -/
def scanWhole (atEnd : ReadError) : Scan (List Char) := fun cs => do
  let (digits, rest) ← scanDigits atEnd cs
  match digits with
  | '0' :: _ :: _ => .error .malformed
  | _ => .ok (digits, rest)

/-- Reads a point and digits, if there is a point. -/
def scanFraction (atEnd : ReadError) : Scan (Option (List Char))
  | '.' :: rest => do
    let (digits, rest) ← scanDigits atEnd rest
    .ok (some digits, rest)
  | cs => .ok (none, cs)

/-- Reads an exponent, if there is one. -/
def scanExponent (atEnd : ReadError) : Scan (Option (Bool × List Char))
  | mark :: rest =>
    if mark = 'e' ∨ mark = 'E' then do
      let (negative, rest) := splitSign rest
      let (digits, rest) ← scanDigits atEnd rest
      .ok (some (negative, digits), rest)
    else .ok (none, mark :: rest)
  | [] => .ok (none, [])

/-- Reads the parts of a number. -/
def scanNumberText (atEnd : ReadError) : Scan NumberText := fun cs => do
  let (negative, cs) := match cs with
    | '-' :: rest => (true, rest)
    | cs => (false, cs)
  let (whole, cs) ← scanWhole atEnd cs
  let (fraction, cs) ← scanFraction atEnd cs
  let (exponent, cs) ← scanExponent atEnd cs
  .ok (⟨negative, whole, fraction, exponent⟩, cs)

/-- The largest significand that is kept exactly. -/
def maxSignificand : Nat := 1 <<< 64 - 1

/-- Appends digits to a significand while it stays in range: the new significand, and how many
digits were appended. -/
def appendDigits (significand count : Nat) : List Char → Nat × Nat
  | [] => (significand, count)
  | c :: rest =>
    let next := 10 * significand + (c.toNat - '0'.toNat)
    if maxSignificand < next then (significand, count)
    else appendDigits next (count + 1) rest

/-- The power of ten, as the nearest number. -/
def powerOfTen (n : Nat) : Float := Decimal.toFloat ⟨1, n⟩ false

/-- Multiplies by a power of ten in steps of at most 308; none when the result is too large. Two
steps downward take every significand to zero, so `fuel` of three is enough. -/
def scaleByTen : Nat → Float → Int → Option Float
  | 0, x, _ => some x
  | fuel + 1, x, exponent =>
    if exponent.natAbs ≤ 308 then
      if 0 ≤ exponent then
        let y := x * powerOfTen exponent.natAbs
        if y.isInf then none else some y
      else some (x / powerOfTen exponent.natAbs)
    else if x == 0.0 then some x
    else if 0 ≤ exponent then none
    else scaleByTen fuel (x / powerOfTen 308) (exponent + 308)

/-- The largest exponent that is told apart. -/
def maxExponent : Nat := 1 <<< 31 - 1

namespace NumberText

/-- The number `significand · 10 ^ exponent` with the sign and the written exponent of a text;
none when it is too large. -/
def toFloat? (t : NumberText) (significand : Nat) (exponent : Int) : Option Float :=
  let signed (x : Float) : Float := if t.negative then -x else x
  match t.exponent with
  | none => (scaleByTen 3 (Decimal.toFloat ⟨significand, 0⟩ false) exponent).map signed
  | some (negative, digits) =>
    let written := digitsValue digits
    if maxExponent < written then
      if significand ≠ 0 ∧ !negative then none else some (signed 0.0)
    else
      let exponent := if negative then exponent - written else exponent + written
      (scaleByTen 3 (Decimal.toFloat ⟨significand, 0⟩ false) exponent).map signed

/-- The value of a number: whole while it has neither point nor exponent and fits into 64 bits,
otherwise a binary64 number; none when it is too large for that.

Digits that do not fit into the significand count through the exponent when they stand before the
point, and are dropped after it. -/
def toJson? (t : NumberText) : Option Json :=
  let (significand, kept) := appendDigits 0 0 t.whole
  let dropped := t.whole.length - kept
  match t.fraction with
  | some digits =>
    let (significand, kept) := appendDigits significand 0 digits
    (t.toFloat? significand ((dropped : Int) - kept)).map float
  | none =>
    if t.exponent.isSome || dropped ≠ 0 then (t.toFloat? significand dropped).map float
    else if !t.negative then some (unsigned significand)
    else if significand = 0 ∨ 1 <<< 63 < significand then
      some (float (-(Decimal.toFloat ⟨significand, 0⟩ false)))
    else some (signed (-(significand : Int)))

end NumberText

/-- Reads a number. -/
def scanNumber : Scan Json := fun cs => do
  let (t, rest) ← scanNumberText .truncated cs
  match t.toJson? with
  | some value => .ok (value, rest)
  | none => .error .malformed

/-- Passes over a number; it may be too large, and must not end with the text. -/
def skipNumber : Scan Unit := fun cs => do
  let (_, rest) ← scanNumberText .malformed cs
  .ok ((), rest)

end Json

end ClusterGraph
