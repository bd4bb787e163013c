import ClusterGraph.Json.Reader
import ClusterGraph.Json5.Basic
import ClusterGraph.Text.Identifier

/-!
# The grammar of JSON5

JSON5 adds to JSON comments, more blanks, a comma behind the last item, names as keys, strings
between single quotes, more escapes, and more forms of numbers. A text that breaks the grammar is
refused as a whole, so the scanners here do not tell errors apart.
-/

namespace ClusterGraph.Json5

open Json

/-! ### Blanks and comments -/

/-- Whether a character ends a line. -/
def isLineEnd (c : Char) : Bool :=
  c == '\n' || c == '\r' || c.toNat == 0x2028 || c.toNat == 0x2029

/-- The blanks that do not end a line: tabs, feeds, the byte order mark, and the Unicode general
category Zs. -/
def spaceRanges : Text.Ranges :=
  [(0x09, 0x09), (0x0B, 0x0C), (0x20, 0x20), (0xA0, 0xA0), (0x1680, 0x1680), (0x2000, 0x200A),
    (0x202F, 0x202F), (0x205F, 0x205F), (0x3000, 0x3000), (0xFEFF, 0xFEFF)]

/-- Whether a character may stand between the words of a text. -/
def isSpace (c : Char) : Bool := isLineEnd c || spaceRanges.contains c

/-- What is being skipped. -/
inductive Skipping where
  | spaces
  | lineComment
  | blockComment

/-- Skips blanks and comments; none when a comment is not closed. -/
def skipFrom : Skipping → List Char → Option (List Char)
  | .spaces, '/' :: '*' :: rest => skipFrom .blockComment rest
  | .spaces, '/' :: '/' :: rest => skipFrom .lineComment rest
  | .spaces, c :: rest => if isSpace c then skipFrom .spaces rest else some (c :: rest)
  | .spaces, [] => some []
  | .lineComment, c :: rest =>
    if isLineEnd c then skipFrom .spaces rest else skipFrom .lineComment rest
  | .lineComment, [] => some []
  | .blockComment, '*' :: '/' :: rest => skipFrom .spaces rest
  | .blockComment, _ :: rest => skipFrom .blockComment rest
  | .blockComment, [] => none

/-- Skips blanks and comments. A comment that is not closed leaves its slash, with which nothing
can start. -/
def skip (cs : List Char) : List Char := (skipFrom .spaces cs).getD ['/']

/-- Blanks and comments stand between words, and a comma may stand behind the last item. -/
def spacing : Spacing := ⟨skip, true⟩

/-! ### Strings and names -/

/-- Whether a backslash before this character makes an escape of one character. -/
def isEscapable (c : Char) : Bool := !(c.isDigit || c == 'x' || c == 'u' || isLineEnd c)

/-- The parts of a string up to its closing quote, and the text behind it. A backslash before the
end of a line drops both. -/
def scanParts (quote : Char) : List Char → Option (List Part × List Char)
  | [] => none
  | '\\' :: 'x' :: a :: b :: rest =>
    match hexValue? a, hexValue? b, scanParts quote rest with
    | some a, some b, some (parts, rest) => some (.byte (a * 16 + b) :: parts, rest)
    | _, _, _ => none
  | '\\' :: 'u' :: a :: b :: c :: d :: rest =>
    match hexUnit? a b c d, scanParts quote rest with
    | some n, some (parts, rest) => some (.unit n :: parts, rest)
    | _, _ => none
  | '\\' :: '\r' :: '\n' :: rest => scanParts quote rest
  | ['\\'] => none
  | '\\' :: c :: rest =>
    match scanParts quote rest with
    | none => none
    | some (parts, rest) =>
      if isLineEnd c then some (parts, rest)
      else if c = '0' then some (.zero :: parts, rest)
      else if isEscapable c then some (.escaped c :: parts, rest)
      else none
  | c :: rest =>
    if c = quote then some ([], rest)
    else if isLineEnd c then none
    else (scanParts quote rest).map fun (parts, rest) => (.literal c :: parts, rest)

/-- The parts of a name and the text behind it; `first` says that none has been read yet. -/
def scanName (first : Bool) : List Char → List Part × List Char
  | '\\' :: 'u' :: a :: b :: c :: d :: rest =>
    match hexUnit? a b c d with
    | some n =>
      let (parts, rest) := scanName false rest
      (.unit n :: parts, rest)
    | none => ([], '\\' :: 'u' :: a :: b :: c :: d :: rest)
  | c :: rest =>
    if (if first then Text.isIdentifierStart c else Text.isIdentifierPart c) then
      let (parts, rest) := scanName false rest
      (.literal c :: parts, rest)
    else ([], c :: rest)
  | [] => ([], [])

/-- Reads a string. -/
def scanQuoted : Scan (List Part)
  | c :: rest =>
    if c = '"' ∨ c.toNat = 39 then
      match scanParts c rest with
      | some result => .ok result
      | none => .error .malformed
    else .error .malformed
  | [] => .error .malformed

/-- Reads a key: a string or a name. -/
def scanKey : Scan (List Part) := fun cs =>
  match cs with
  | [] => .error .malformed
  | c :: _ =>
    if c = '"' ∨ c.toNat = 39 then scanQuoted cs
    else
      match scanName true cs with
      | ([], _) => .error .malformed
      | result => .ok result

/-! ### Numbers -/

/-- The sign at the front of a number as written, and what follows it. -/
def signPart : List Char → List Char × List Char
  | '+' :: rest => (['+'], rest)
  | '-' :: rest => (['-'], rest)
  | cs => ([], cs)

/-- An exponent as written, and what follows it; empty when there is none. -/
def exponentPart (cs : List Char) : List Char × List Char :=
  match cs with
  | mark :: rest =>
    if mark = 'e' ∨ mark = 'E' then
      let (sign, rest) := signPart rest
      let digits := rest.takeWhile Char.isDigit
      if digits.isEmpty then ([], cs) else (mark :: sign ++ digits, rest.dropWhile Char.isDigit)
    else ([], cs)
  | [] => ([], [])

/-- A decimal number without sign as written, and what follows it; empty when there is none. The
digits before the point do not start with a zero, unless it stands alone. -/
def decimalPart (cs : List Char) : List Char × List Char :=
  let whole := match cs with
    | '0' :: _ => ['0']
    | _ => cs.takeWhile Char.isDigit
  match cs.drop whole.length with
  | '.' :: rest =>
    let fraction := rest.takeWhile Char.isDigit
    if whole.isEmpty && fraction.isEmpty then ([], cs)
    else
      let (exponent, rest) := exponentPart (rest.dropWhile Char.isDigit)
      (whole ++ '.' :: fraction ++ exponent, rest)
  | rest =>
    if whole.isEmpty then ([], cs)
    else
      let (exponent, rest) := exponentPart rest
      (whole ++ exponent, rest)

/-- Whether a character is a digit in base sixteen. -/
def isHexDigit (c : Char) : Bool := (hexValue? c).isSome

/-- A number without sign as written, and what follows it; empty when there is none. -/
def unsignedPart (cs : List Char) : List Char × List Char :=
  match cs with
  | '0' :: x :: rest =>
    let digits := rest.takeWhile isHexDigit
    if (x = 'x' ∨ x = 'X') ∧ !digits.isEmpty then
      ('0' :: x :: digits, rest.dropWhile isHexDigit)
    else decimalPart cs
  | 'I' :: 'n' :: 'f' :: 'i' :: 'n' :: 'i' :: 't' :: 'y' :: rest => ("Infinity".toList, rest)
  | 'N' :: 'a' :: 'N' :: rest => ("NaN".toList, rest)
  | _ => decimalPart cs

/-- Reads a number. -/
def scanNumber : Scan Json5 := fun cs =>
  let (sign, rest) := signPart cs
  match unsignedPart rest with
  | ([], _) => .error .malformed
  | (text, rest) => .ok (.number (sign ++ text), rest)

/-! ### Values -/

/-- Reads a word, a number or a string. -/
def readScalar : Scan Json5 := fun cs =>
  match cs with
  | 'n' :: rest => do .ok (.null, ← scanWord "ull".toList rest)
  | 't' :: rest => do .ok (.bool true, ← scanWord "rue".toList rest)
  | 'f' :: rest => do .ok (.bool false, ← scanWord "alse".toList rest)
  | c :: _ =>
    if c = '"' ∨ c.toNat = 39 then do
      let (parts, rest) ← scanQuoted cs
      .ok (.string parts, rest)
    else scanNumber cs
  | [] => .error .malformed

/-- Reads any value, with room for so many arrays and objects inside one another. -/
def readValue : (room : Nat) → Scan Json5 := fun room cs =>
  match skip cs with
  | [] => .error .malformed
  | c :: rest =>
    if c = '[' then
      match room with
      | 0 => .error .malformed
      | room + 1 => do
        let (items, rest) ← readItems spacing (readValue room) rest
        .ok (.array items, rest)
    else if c = openBrace then
      match room with
      | 0 => .error .malformed
      | room + 1 => do
        let (fields, rest) ← readFields spacing scanKey (readValue room) rest
        .ok (.object fields, rest)
    else readScalar (c :: rest)

/-- Reads a whole text; none when it breaks the grammar. Nothing limits the nesting but the length
of the text. -/
def ofText? (text : String) : Option Json5 :=
  let cs := text.toList
  match readValue (cs.length + 1) cs with
  | .ok (value, rest) => if (skip rest).isEmpty then some value else none
  | .error _ => none

end ClusterGraph.Json5
