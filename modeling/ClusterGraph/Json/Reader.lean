import ClusterGraph.Json.Scanner

/-!
# Reading JSON

One pass over a text from left to right; the first problem met is the one reported. `nextItem` and
`nextKey` step through arrays and objects, `foldItems` and `foldFields` read them with a given
reader for what they hold, and `readValue` reads any value. What may be nested is limited by
`room`, the number of arrays and objects that may still be opened inside one another.
-/

namespace ClusterGraph.Json

/-! ### Steps through arrays and objects -/

/-- What a format allows around the items of arrays and the entries of objects. -/
structure Spacing where
  /-- Drops what may stand between two words. -/
  skip : List Char → List Char
  /-- Whether a comma may stand behind the last item or entry. -/
  trailingComma : Bool

/-- In JSON only blanks stand between words, and no comma behind the last item. -/
def spacing : Spacing := ⟨skipBlanks, false⟩

/-- Where a step through an array or an object leads. -/
inductive Next (α : Type) where
  /-- Behind the closing bracket. -/
  | done (rest : List Char)
  /-- To something else, with the text behind it. -/
  | more (a : α) (rest : List Char)

/-- Steps to the next item of an array: the text starts with it. -/
def nextItem (sp : Spacing) (first : Bool) (cs : List Char) : Except ReadError (Next Unit) :=
  match sp.skip cs with
  | [] => .error .truncated
  | ']' :: rest => .ok (.done rest)
  | c :: rest =>
    if first then .ok (.more () (c :: rest))
    else if c = ',' then
      match sp.skip rest with
      | [] => .error .truncated
      | ']' :: rest => if sp.trailingComma then .ok (.done rest) else .error .malformed
      | rest => .ok (.more () rest)
    else .error .malformed

/-- Steps to the next entry of an object and reads its key with `key`. -/
def nextKey {α : Type} (sp : Spacing) (key : Scan α) (first : Bool) (cs : List Char) :
    Except ReadError (Next α) :=
  match sp.skip cs with
  | [] => .error .truncated
  | c :: rest =>
    if c = closeBrace then .ok (.done rest)
    else if first then do
      let (k, rest) ← key (c :: rest)
      .ok (.more k rest)
    else if c = ',' then
      match sp.skip rest with
      | [] => .error .truncated
      | c :: rest =>
        if c = closeBrace && sp.trailingComma then .ok (.done rest)
        else do
          let (k, rest) ← key (c :: rest)
          .ok (.more k rest)
    else .error .malformed

/-- Passes the colon between a key and its value. -/
def passColon (sp : Spacing) (cs : List Char) : Except ReadError (List Char) :=
  match sp.skip cs with
  | [] => .error .truncated
  | ':' :: rest => .ok rest
  | _ => .error .malformed

/-- Reads the items of an array behind its opening bracket. Each step reads a character, so a
`fuel` above the length of the text is enough. -/
def foldItems {σ : Type} (sp : Spacing) (item : σ → Scan σ) : (fuel : Nat) → Bool → σ → Scan σ
  | 0, _, _, _ => .error .malformed
  | fuel + 1, first, acc, cs => do
    match ← nextItem sp first cs with
    | .done rest => .ok (acc, rest)
    | .more () rest =>
      let (acc, rest) ← item acc rest
      foldItems sp item fuel false acc rest

/-- Reads the entries of an object behind its opening bracket; `field` reads from behind the key.
Each step reads a character, so a `fuel` above the length of the text is enough. -/
def foldFields {α σ : Type} (sp : Spacing) (key : Scan α) (field : σ → α → Scan σ) :
    (fuel : Nat) → Bool → σ → Scan σ
  | 0, _, _, _ => .error .malformed
  | fuel + 1, first, acc, cs => do
    match ← nextKey sp key first cs with
    | .done rest => .ok (acc, rest)
    | .more k rest =>
      let (acc, rest) ← field acc k rest
      foldFields sp key field fuel false acc rest

/-- Reads all items of an array behind its opening bracket. -/
def readItems {α : Type} (sp : Spacing) (item : Scan α) : Scan (List α) := fun cs => do
  let step : List α → Scan (List α) := fun acc cs => do
    let (a, rest) ← item cs
    .ok (a :: acc, rest)
  let (reversed, rest) ← foldItems sp step (cs.length + 1) true [] cs
  .ok (reversed.reverse, rest)

/-- Reads all entries of an object behind its opening bracket. -/
def readFields {α β : Type} (sp : Spacing) (key : Scan α) (value : Scan β) :
    Scan (List (α × β)) := fun cs => do
  let step : List (α × β) → α → Scan (List (α × β)) := fun acc k cs => do
    let (b, rest) ← value (← passColon sp cs)
    .ok ((k, b) :: acc, rest)
  let (reversed, rest) ← foldFields sp key step (cs.length + 1) true [] cs
  .ok (reversed.reverse, rest)

/-- Reads a key, which must be a string, with a scanner for what is behind its opening quote. -/
def quotedKey {α : Type} (string : Scan α) : Scan α
  | '"' :: rest => string rest
  | _ => .error .malformed

/-! ### Values -/

/-- Reads a word, a number or a string. Anything else is malformed. -/
def readScalar : Scan Json := fun cs =>
  match cs with
  | [] => .error .truncated
  | 'n' :: rest => do .ok (null, ← scanWord "ull".toList rest)
  | 't' :: rest => do .ok (bool true, ← scanWord "rue".toList rest)
  | 'f' :: rest => do .ok (bool false, ← scanWord "alse".toList rest)
  | '"' :: rest => do
    let (s, rest) ← scanString rest
    .ok (string s, rest)
  | c :: _ => if c = '-' ∨ c.isDigit then scanNumber cs else .error .malformed

/-- Passes over a word, a number or a string. -/
def skipScalar : Scan Unit := fun cs =>
  match cs with
  | '"' :: rest => skipString rest
  | c :: _ =>
    if c = '-' ∨ c.isDigit then skipNumber cs
    else do
      let (_, rest) ← readScalar cs
      .ok ((), rest)
  | [] => .error .truncated

/-- Reads any value, with room for so many arrays and objects inside one another. -/
def readValue : (room : Nat) → Scan Json := fun room cs =>
  match skipBlanks cs with
  | [] => .error .truncated
  | c :: rest =>
    if c = '[' then
      match room with
      | 0 => .error .malformed
      | room + 1 => do
        let (items, rest) ← readItems spacing (readValue room) rest
        .ok (array items, rest)
    else if c = openBrace then
      match room with
      | 0 => .error .malformed
      | room + 1 => do
        let (fields, rest) ← readFields spacing (quotedKey scanString) (readValue room) rest
        .ok (object fields, rest)
    else readScalar (c :: rest)

/-- Passes over any value. Only its grammar is checked: numbers may be too large, escaped units
need not be paired, and nothing limits the nesting but the length of the text. -/
def skipValueWithin : (room : Nat) → Scan Unit := fun room cs =>
  match skipBlanks cs with
  | [] => .error .truncated
  | c :: rest =>
    if c = '[' then
      match room with
      | 0 => .error .malformed
      | room + 1 => do
        let (_, rest) ← readItems spacing (skipValueWithin room) rest
        .ok ((), rest)
    else if c = openBrace then
      match room with
      | 0 => .error .malformed
      | room + 1 => do
        let (_, rest) ← readFields spacing (quotedKey skipString) (skipValueWithin room) rest
        .ok ((), rest)
    else skipScalar (c :: rest)

/-- Passes over any value. -/
def skipValue : Scan Unit := fun cs => skipValueWithin (cs.length + 1) cs

/-! ### Expected types -/

/-- The text holds a value that is not `expected`. Words, numbers and strings are read first, so
that they can be shown; arrays and objects are not. -/
def rejectValue {α : Type} (expected : String) (cs : List Char) : Except ReadError α :=
  match skipBlanks cs with
  | [] => .error .truncated
  | c :: rest =>
    if c = '[' then .error (.mismatch (.wrongType .array expected))
    else if c = openBrace then .error (.mismatch (.wrongType .object expected))
    else do
      let (value, _) ← readScalar (c :: rest)
      .error (.mismatch (.wrongType value.found expected))

/-- Reads a string where `expected` is expected. -/
def readString (expected : String) : Scan String := fun cs =>
  match skipBlanks cs with
  | '"' :: rest => scanString rest
  | rest => rejectValue expected rest

/-- Reads a truth value. -/
def readBool : Scan Bool := fun cs =>
  match skipBlanks cs with
  | 't' :: rest => do .ok (true, ← scanWord "rue".toList rest)
  | 'f' :: rest => do .ok (false, ← scanWord "alse".toList rest)
  | rest => rejectValue "a boolean" rest

/-- Reads a string, or `null` for none. -/
def readString? : Scan (Option String) := fun cs =>
  match skipBlanks cs with
  | 'n' :: rest => do .ok (none, ← scanWord "ull".toList rest)
  | rest => do
    let (s, rest) ← readString "a string" rest
    .ok (some s, rest)

/-- Only blanks may follow a value that was read as a whole text. -/
def endOfText {α : Type} : α × List Char → Except ReadError α
  | (a, rest) => if (skipBlanks rest).isEmpty then .ok a else .error .malformed

end ClusterGraph.Json
