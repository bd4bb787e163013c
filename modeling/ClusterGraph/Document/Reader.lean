import ClusterGraph.Json.Reader
import ClusterGraph.Json.Writer
import ClusterGraph.Statement.OfJson

/-!
# Documents from JSON texts

`Document.read` reads a document from a JSON text in one pass. A document is an object with the
entries `type`, `strict`, `id` and `stmts`, of which only the first is required, or an array of
these in order. A statement directly in the document is read as a whole, with its `type` checked
on the way, and then as `Statement.ofFields` or `Statement.ofItems` says; the values of unknown
entries of the document are passed over and not looked at.
-/

namespace ClusterGraph

open Json

namespace GraphKind

/-- The kind that a keyword opens. -/
def ofKeyword (word : String) : Except Mismatch GraphKind :=
  if word = "graph" then .ok .graph
  else if word = "digraph" then .ok .digraph
  else .error (.unknownWord word ["graph", "digraph"])

/-- Reads a kind: its keyword, or an object with the keyword as its only key and `null` under
it. -/
def read (room : Nat) : Scan GraphKind := fun cs =>
  match skipBlanks cs with
  | [] => .error .truncated
  | c :: rest =>
    if c = '"' then do
      let (word, rest) ← scanString rest
      .ok (← ReadError.ofExcept (ofKeyword word), rest)
    else if c = openBrace then
      if room = 0 then .error .malformed
      else do
        let (word, rest) ← match skipBlanks rest with
          | [] => .error .truncated
          | rest => quotedKey scanString rest
        let kind ← ReadError.ofExcept (ofKeyword word)
        let rest ← passColon spacing rest
        let rest ← match skipBlanks rest with
          | 'n' :: rest => scanWord "ull".toList rest
          | rest => rejectValue "unit" rest
        match skipBlanks rest with
        | [] => .error .truncated
        | c :: rest => if c = closeBrace then .ok (kind, rest) else .error .malformed
    else .error .malformed

end GraphKind

namespace Statement

/-- What has been read of a statement: its kind, and its other entries in reverse. -/
structure Partial where
  kind : Option StatementKind
  fields : List (String × Json)

/-- Reads an entry of a statement from behind its key. -/
def readField (room : Nat) (acc : Partial) (key : String) : Scan Partial := fun cs =>
  if key = "type" then
    match acc.kind with
    | some _ => .error (.mismatch (.repeatedField "type"))
    | none => do
      let (name, rest) ← readString StatementKind.expected (← passColon spacing cs)
      .ok ({ acc with kind := some (.ofName name) }, rest)
  else do
    let (value, rest) ← readValue room (← passColon spacing cs)
    .ok ({ acc with fields := (key, value) :: acc.fields }, rest)

/-- Reads a statement that stands directly in a document. -/
def read (room : Nat) : Scan Statement := fun cs =>
  match skipBlanks cs with
  | [] => .error .truncated
  | c :: rest =>
    if c = '[' then
      match room with
      | 0 => .error .malformed
      | room + 1 => do
        match ← nextItem spacing true rest with
        | .done _ => .error (.mismatch (.missingField "type"))
        | .more () rest =>
          let (name, rest) ← readString StatementKind.expected rest
          let step : List Json → Scan (List Json) := fun acc cs => do
            let (value, rest) ← readValue room cs
            .ok (value :: acc, rest)
          let (reversed, rest) ← foldItems spacing step (rest.length + 1) false [] rest
          let stmt ← ReadError.ofExcept (ofItems (.ofName name) reversed.reverse)
          .ok (stmt, rest)
    else if c = openBrace then
      match room with
      | 0 => .error .malformed
      | room + 1 => do
        let (acc, rest) ← foldFields spacing (quotedKey scanString) (readField room)
          (rest.length + 1) true ⟨none, []⟩ rest
        match acc.kind with
        | none => .error (.mismatch (.missingField "type"))
        | some kind =>
          let stmt ← ReadError.ofExcept (ofFields kind acc.fields.reverse)
          .ok (stmt, rest)
    else rejectValue expected (c :: rest)

/-- Reads a list of statements. -/
def readList (room : Nat) : Scan (List Statement) := fun cs =>
  match skipBlanks cs with
  | [] => .error .truncated
  | c :: rest =>
    if c = '[' then
      match room with
      | 0 => .error .malformed
      | room + 1 => readItems spacing (read room) rest
    else rejectValue "a sequence" (c :: rest)

end Statement

namespace Document

/-- How JSON names what it holds. -/
def wording : Wording := ⟨"null", numberStyle⟩

/-- The number of arrays and objects that a text may open inside one another. -/
def nestingLimit : Nat := 127

/-- The entries of a document that have been read. -/
structure Partial where
  kind : Option GraphKind
  strict : Option Bool
  id : Option (Option String)
  stmts : Option (List Statement)

/-- Reads the value of an entry that must not have been read yet. -/
def readOnce {α : Type} (name : String) (seen : Option α) (value : Scan α) : Scan (Option α) :=
  fun cs =>
    match seen with
    | some _ => .error (.mismatch (.repeatedField name))
    | none => do
      let (a, rest) ← value (← passColon spacing cs)
      .ok (some a, rest)

/-- Reads an entry of a document from behind its key. -/
def readField (room : Nat) (acc : Partial) (key : String) : Scan Partial := fun cs =>
  if key = "type" then do
    let (kind, rest) ← readOnce key acc.kind (GraphKind.read room) cs
    .ok ({ acc with kind := kind }, rest)
  else if key = "strict" then do
    let (strict, rest) ← readOnce key acc.strict readBool cs
    .ok ({ acc with strict := strict }, rest)
  else if key = "id" then do
    let (id, rest) ← readOnce key acc.id readString? cs
    .ok ({ acc with id := id }, rest)
  else if key = "stmts" then do
    let (stmts, rest) ← readOnce key acc.stmts (Statement.readList room) cs
    .ok ({ acc with stmts := stmts }, rest)
  else do
    let ((), rest) ← skipValue (← passColon spacing cs)
    .ok (acc, rest)

/-- The document with these entries; all but the kind have defaults. -/
def ofPartial (acc : Partial) : Except ReadError Document :=
  match acc.kind with
  | none => .error (.mismatch (.missingField "type"))
  | some kind => .ok ⟨kind, acc.strict.getD false, acc.id.getD none, acc.stmts.getD []⟩

/-- Reads the next item of a document, or takes its default when there is none left. -/
def readItem {α : Type} (value : Scan α) (default : α) : Scan α := fun cs => do
  match ← nextItem spacing false cs with
  | .done _ => .ok (default, cs)
  | .more () rest => value rest

/-- Reads the items of a document behind the opening bracket of its array. -/
def readItemsOf (room : Nat) : Scan Document := fun cs => do
  match ← nextItem spacing true cs with
  | .done _ => .error (.mismatch (.wrongLength 0 "struct ParseTree with 4 elements"))
  | .more () rest =>
    let (kind, rest) ← GraphKind.read room rest
    let (strict, rest) ← readItem readBool false rest
    let (id, rest) ← readItem readString? none rest
    let (stmts, rest) ← readItem (Statement.readList room) [] rest
    match skipBlanks rest with
    | [] => .error .truncated
    | ']' :: rest => .ok (⟨kind, strict, id, stmts⟩, rest)
    | _ => .error .malformed

/-- Reads a document from the front of a text. -/
def scan (room : Nat) : Scan Document := fun cs =>
  match skipBlanks cs with
  | [] => .error .truncated
  | c :: rest =>
    if c = '[' then readItemsOf (room - 1) rest
    else if c = openBrace then do
      let (acc, rest) ← foldFields spacing (quotedKey scanString) (readField (room - 1))
        (rest.length + 1) true ⟨none, none, none, none⟩ rest
      .ok (← ofPartial acc, rest)
    else rejectValue "struct ParseTree" (c :: rest)

/-- Reads a document from a whole JSON text. -/
def read (text : String) : Except ReadError Document :=
  scan nestingLimit text.toList >>= endOfText

end Document

end ClusterGraph
