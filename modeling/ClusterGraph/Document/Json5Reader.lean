import ClusterGraph.Document.Reader
import ClusterGraph.Json5.Reader
import ClusterGraph.Json5.Value

/-!
# Documents from JSON5 texts

The same documents as in JSON, written in JSON5. The kind may also be the first key of any object;
what stands under that key, and behind it, is not looked at. Of an array that is too long the rest
is not looked at. Nothing limits the nesting.
-/

namespace ClusterGraph.Document

open Json5

/-- Reads the kind of a document. -/
def kindOfJson5 : Json5 → Except Fault GraphKind
  | .string parts => do Fault.ofExcept (GraphKind.ofKeyword (← Json5.text parts))
  | .object ((key, _) :: _) => do Fault.ofExcept (GraphKind.ofKeyword (← Json5.text key))
  | .object [] => .error .emptyObject
  | _ => .error .notAWord

/-- Reads a statement. -/
def statementOfJson5 (value : Json5) : Except Fault Statement := do
  Fault.ofExcept (Statement.ofJson (← value.toJson))

/-- Reads statements one after another. -/
def statementsOfJson5 : Json5 → Except Fault (List Statement)
  | .array items => items.mapM statementOfJson5
  | value => reject "a sequence" value

/-- Reads one entry of a document. -/
def fieldOfJson5 (acc : Partial) (key : String) (value : Json5) : Except Fault Partial :=
  if key = "type" then do .ok { acc with kind := ← takeEntry key acc.kind (kindOfJson5 value) }
  else if key = "strict" then do .ok { acc with strict := ← takeEntry key acc.strict value.toBool }
  else if key = "id" then do .ok { acc with id := ← takeEntry key acc.id value.toText? }
  else if key = "stmts" then do
    .ok { acc with stmts := ← takeEntry key acc.stmts (statementsOfJson5 value) }
  else do
    let _ ← value.toJson
    .ok acc

/-- Reads entries one after another. -/
def fieldsOfJson5 (acc : Partial) : List (List Part × Json5) → Except Fault Partial
  | [] => .ok acc
  | (key, value) :: rest => do fieldsOfJson5 (← fieldOfJson5 acc (← Json5.text key) value) rest

/-- The names of the entries, in the order of an array. -/
def fieldNames : List String := ["type", "strict", "id", "stmts"]

/-- Reads items one after another, each as the entry of a name. -/
def itemsOfJson5 (acc : Partial) : List (String × Json5) → Except Fault Partial
  | [] => .ok acc
  | (name, value) :: rest => do itemsOfJson5 (← fieldOfJson5 acc name value) rest

/-- The document with these entries; all but the kind have defaults. -/
def ofEntries (acc : Partial) (missing : Mismatch) : Except Fault Document :=
  match acc.kind with
  | none => .error (.mismatch missing)
  | some kind => .ok ⟨kind, acc.strict.getD false, acc.id.getD none, acc.stmts.getD []⟩

/-- Reads a document from a value. -/
def ofJson5 (value : Json5) : Except Fault Document :=
  let none : Partial := ⟨none, none, none, none⟩
  match value with
  | .object fields => do ofEntries (← fieldsOfJson5 none fields) (.missingField "type")
  | .array items => do
    ofEntries (← itemsOfJson5 none (fieldNames.zip items))
      (.wrongLength 0 "struct ParseTree with 4 elements")
  | value => reject "struct ParseTree" value

/-- Reads a document from a whole JSON5 text. -/
def readJson5 (text : String) : Except Json5.Error Document :=
  match Json5.ofText? text with
  | none => .error .grammar
  | some value =>
    match ofJson5 value with
    | .ok doc => .ok doc
    | .error cause => .error (.fault cause)

end ClusterGraph.Document
