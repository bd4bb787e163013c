import ClusterGraph.Json.Scanner
import ClusterGraph.Json5.Basic

/-!
# The values of JSON5 texts

Strings get their characters, and numbers their value: as a binary64 number where one is asked
for (`Json5.toFloat`), and otherwise, when they are written without point and exponent, as a whole
number of 64 bits (`Json5.toJson`).
-/

namespace ClusterGraph.Json5

/-! ### Strings -/

/-- The character that an escaped character stands for. -/
def unescape (c : Char) : Char :=
  if c = 'b' then '\x08'
  else if c = 'f' then '\x0c'
  else if c = 'n' then '\n'
  else if c = 'r' then '\r'
  else if c = 't' then '\t'
  else if c = 'v' then '\x0b'
  else c

/-- What is written in a part, read as a number in base sixteen. -/
def Part.hex? : Part → Option Nat
  | .literal c => Json.hexValue? c
  | .escaped c => Json.hexValue? c
  | .zero => some 0
  | .byte n => some n
  | .unit n => some n

/-- The character of a surrogate pair. The offset of the planes above the first is combined with
the upper bits by "or". -/
def pairChar (lead trail : Nat) : Char :=
  Char.ofNat (((lead - 0xD800) <<< 10) ||| (trail - 0xDC00 + 0x10000))

/-- The characters of a string. -/
def characters : List Part → Except Fault (List Char)
  | [] => .ok []
  | .literal c :: rest => do .ok (c :: (← characters rest))
  | .escaped c :: rest => do .ok (unescape c :: (← characters rest))
  | .zero :: rest => do .ok (Char.ofNat 0 :: (← characters rest))
  | .byte n :: rest => do .ok (Char.ofNat n :: (← characters rest))
  | [.unit n] =>
    if Json.isTrail n then .error .unexpectedTrail
    else if Json.isLead n then .error .missingTrail
    else .ok [Char.ofNat n]
  | .unit n :: next :: rest =>
    if Json.isTrail n then .error .unexpectedTrail
    else if Json.isLead n then
      match next.hex? with
      | none => .error .hex
      | some m =>
        if Json.isTrail m then do .ok (pairChar n m :: (← characters rest))
        else .error .notATrail
    else do .ok (Char.ofNat n :: (← characters (next :: rest)))

/-- The text of a string. -/
def text (parts : List Part) : Except Fault String := (characters parts).map String.ofList

/-! ### Numbers -/

/-- The digits of a number in base sixteen, if it is written as one without a sign. -/
def hexDigits? : List Char → Option (List Char)
  | '0' :: x :: c :: rest => if x = 'x' ∨ x = 'X' then some (c :: rest) else none
  | _ => none

/-- The value of digits in base sixteen; it must fit into 32 bits. -/
def hexNumber (digits : List Char) : Except Fault Nat :=
  let n := digits.foldl (fun n c => n * 16 + (Json.hexValue? c).getD 0) 0
  if n < 1 <<< 32 then .ok n else .error .hex

/-- Whether a number is written as infinity, perhaps with a minus. -/
def isInfinity (cs : List Char) : Bool := cs == "Infinity".toList || cs == "-Infinity".toList

/-- Whether a number is written as not-a-number, perhaps with a minus. -/
def isNaN (cs : List Char) : Bool := cs == "NaN".toList || cs == "-NaN".toList

/-- Whether a number is read as a whole one. -/
def isWhole (cs : List Char) : Bool :=
  !cs.contains '.' && ((hexDigits? cs).isSome || !(cs.contains 'e' || cs.contains 'E')) &&
    !isInfinity cs && !isNaN cs

/-- A number as a whole one of 64 bits with a sign. -/
def wholeNumber (cs : List Char) : Except Fault Int :=
  match hexDigits? cs with
  | some digits => (hexNumber digits).map Int.ofNat
  | none =>
    let i := signedValue cs
    if (splitSign cs).2.all Char.isDigit && decide (-(1 <<< 63 : Nat) ≤ i) &&
        decide (i < (1 <<< 63 : Nat)) then .ok i
    else .error .integer

/-- A number as a binary64 number. Infinity and not-a-number may be written, the first not with a
plus; digits must give a finite number. -/
def floatNumber (cs : List Char) : Except Fault Float :=
  if isInfinity cs then .ok (signedFloat (splitSign cs).1 infinityBits)
  else if isNaN cs then .ok nan
  else match hexDigits? cs with
    | some digits => (hexNumber digits).map fun n => Decimal.toFloat ⟨n, 0⟩ false
    | none =>
      let body := (splitSign cs).2
      if body = "Infinity".toList ∨ body = "NaN".toList then .error .numberTooLarge
      else if body.any fun c => c == 'x' || c == 'X' then .error .number
      else
        let x := literalValue cs
        if x.isFinite then .ok x else .error .numberTooLarge

/-! ### Values -/

/-- A value where a binary64 number is asked for. -/
def toFloat : Json5 → Except Fault Float
  | .number cs => floatNumber cs
  | _ => .error .number

mutual

/-- A value where no type is asked for. -/
def toJson : Json5 → Except Fault Json
  | .null => .ok .null
  | .bool b => .ok (.bool b)
  | .string parts => (text parts).map Json.string
  | .number cs =>
    if isWhole cs then (wholeNumber cs).map Json.signed else (floatNumber cs).map Json.float
  | .array items => (itemsToJson items).map Json.array
  | .object fields => (fieldsToJson fields).map Json.object

/-- Values one after another. -/
def itemsToJson : List Json5 → Except Fault (List Json)
  | [] => .ok []
  | item :: rest => do
    let value ← item.toJson
    .ok (value :: (← itemsToJson rest))

/-- Keys and values one after another. -/
def fieldsToJson : List (List Part × Json5) → Except Fault (List (String × Json))
  | [] => .ok []
  | (key, value) :: rest => do
    let key ← text key
    let value ← value.toJson
    .ok ((key, value) :: (← fieldsToJson rest))

end

/-! ### Expected types -/

/-- The value is not `expected`. Words, numbers and strings get their value first, so that they
can be shown. -/
def reject {α : Type} (expected : String) (value : Json5) : Except Fault α :=
  match value with
  | .array _ => .error (.mismatch (.wrongType .array expected))
  | .object _ => .error (.mismatch (.wrongType .object expected))
  | value => do .error (.mismatch (.wrongType (← value.toJson).found expected))

/-- A truth value. -/
def toBool : Json5 → Except Fault Bool
  | .bool b => .ok b
  | value => reject "a boolean" value

/-- A text. -/
def toText : Json5 → Except Fault String
  | .string parts => text parts
  | value => reject "a string" value

/-- A text, or none from `null`. -/
def toText? : Json5 → Except Fault (Option String)
  | .null => .ok none
  | value => value.toText.map some

/-- Takes a mismatch as a fault. -/
def Fault.ofExcept {α : Type} : Except Mismatch α → Except Fault α
  | .ok a => .ok a
  | .error cause => .error (.mismatch cause)

/-- Takes the value of an entry, which must not have been read yet. -/
def takeEntry {α : Type} (name : String) (seen : Option α) (value : Except Fault α) :
    Except Fault (Option α) :=
  takeOnce (.mismatch (.repeatedField name)) seen value

end ClusterGraph.Json5
