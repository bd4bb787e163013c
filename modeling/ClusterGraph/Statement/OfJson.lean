import ClusterGraph.Json.Mismatch
import ClusterGraph.Statement

/-!
# Statements from JSON values

`Statement.ofJson` reads a statement from a JSON value. A statement is an object with an entry
`type`, or an array whose first item is the type and whose further items are the fields in order.
The type comes first: a missing, repeated or wrongly typed one is reported before anything else.
Then the other entries are checked in the order of the text. Unknown entries are passed over,
fields with a default may be missing, and no field may occur twice.
-/

namespace ClusterGraph

/-- The kinds of statements. -/
inductive StatementKind where
  | node
  | edge
  | subgraph
  | attr
  | inlineAttr
  | unknown
deriving DecidableEq

namespace StatementKind

/-- The kind with this name; every other name is of an unknown kind. -/
def ofName (name : String) : StatementKind :=
  if name = "node" then node
  else if name = "edge" then edge
  else if name = "subgraph" then subgraph
  else if name = "attr" then attr
  else if name = "inlineAttr" then inlineAttr
  else unknown

/-- The kind with this position in the list of kinds. -/
def ofIndex : Nat → StatementKind
  | 0 => node
  | 1 => edge
  | 2 => subgraph
  | 3 => attr
  | 4 => inlineAttr
  | _ => unknown

/-- What is expected where a type stands. -/
def expected : String := "variant identifier"

/-- The kind that a value names: by its name, or by its position. -/
def ofJson : Json → Except Mismatch StatementKind
  | .string name => .ok (ofName name)
  | .unsigned n => .ok (ofIndex n)
  | value => .error (.wrongType value.found expected)

/-- The kind that the entry `type` names. -/
def ofFields : Option StatementKind → List (String × Json) → Except Mismatch StatementKind
  | some kind, [] => .ok kind
  | none, [] => .error (.missingField "type")
  | seen, (key, value) :: rest =>
    if key = "type" then
      match seen with
      | some _ => .error (.repeatedField "type")
      | none => do ofFields (some (← ofJson value)) rest
    else ofFields seen rest

end StatementKind

/-! ### Fields without statements in them -/

/-- Reads a text. -/
def Json.asString : Json → Except Mismatch String
  | .string s => .ok s
  | value => .error (.wrongType value.found "a string")

/-- Reads a text, or none from `null`. -/
def Json.asString? : Json → Except Mismatch (Option String)
  | .null => .ok none
  | value => value.asString.map some

/-- Reads attributes entry by entry; the last value of a repeated name wins. -/
def Attrs.ofFields (attrs : Attrs) : List (String × Json) → Except Mismatch Attrs
  | [] => .ok attrs
  | (key, value) :: rest => do (attrs.insert key (← value.asString)).ofFields rest

/-- Reads attributes. -/
def Attrs.ofJson : Json → Except Mismatch Attrs
  | .object fields => Attrs.empty.ofFields fields
  | value => .error (.wrongType value.found "a map")

/-- The target with this keyword. -/
def AttrTarget.ofKeyword (word : String) : Except Mismatch AttrTarget :=
  if word = "node" then .ok .node
  else if word = "edge" then .ok .edge
  else if word = "graph" then .ok .graph
  else .error (.unknownWord word ["node", "edge", "graph"])

/-- Reads a target: its keyword, or an object with the keyword as its only key and nothing under
it. -/
def AttrTarget.ofJson : Json → Except Mismatch AttrTarget
  | .string word => AttrTarget.ofKeyword word
  | .object [(word, value)] => do
    let target ← AttrTarget.ofKeyword word
    match value with
    | .null => .ok target
    | .object [] => .ok target
    | value => .error (.wrongType value.found "unit")
  | .object _ => .error (.wrongValue .object "map with a single key")
  | value => .error (.wrongType value.found "string or map")

/-- Takes the value of a field, which must not have one yet. -/
def takeField {α : Type} (name : String) (seen : Option α) (value : Except Mismatch α) :
    Except Mismatch (Option α) :=
  takeOnce (.repeatedField name) seen value

/-- The value of a field that has no default. -/
def requireField {α : Type} (name : String) : Option α → Except Mismatch α
  | some a => .ok a
  | none => .error (.missingField name)

namespace Statement

/-- A node from the entries of an object. -/
def nodeOfFields (id : Option String) (attrs : Option Attrs) :
    List (String × Json) → Except Mismatch Statement
  | [] => do .ok (.node (← requireField "id" id) (attrs.getD Attrs.empty))
  | (key, value) :: rest =>
    if key = "id" then do nodeOfFields (← takeField "id" id value.asString) attrs rest
    else if key = "attrs" then do
      nodeOfFields id (← takeField "attrs" attrs (Attrs.ofJson value)) rest
    else nodeOfFields id attrs rest

/-- An attribute statement from the entries of an object. -/
def attrOfFields (target : Option AttrTarget) (attrs : Option Attrs) :
    List (String × Json) → Except Mismatch Statement
  | [] => do .ok (.attr (← requireField "attrType" target) (attrs.getD Attrs.empty))
  | (key, value) :: rest =>
    if key = "attrType" then do
      attrOfFields (← takeField "attrType" target (AttrTarget.ofJson value)) attrs rest
    else if key = "attrs" then do
      attrOfFields target (← takeField "attrs" attrs (Attrs.ofJson value)) rest
    else attrOfFields target attrs rest

/-- An inline attribute statement from the entries of an object. -/
def inlineAttrOfFields (attrs : Option Attrs) : List (String × Json) → Except Mismatch Statement
  | [] => .ok (.inlineAttr (attrs.getD Attrs.empty))
  | (key, value) :: rest =>
    if key = "attrs" then do
      inlineAttrOfFields (← takeField "attrs" attrs (Attrs.ofJson value)) rest
    else inlineAttrOfFields attrs rest

/-- All items of an array were to be read, and only `count` were. -/
def checkLength (length count : Nat) : Except Mismatch Unit :=
  if length ≤ count then .ok ()
  else .error (.wrongLength length
    (if count = 1 then "1 element in sequence" else toString count ++ " elements in sequence"))

/-- Attributes from an item that may be missing. -/
def attrsOfItem : Option Json → Except Mismatch Attrs
  | none => .ok Attrs.empty
  | some value => Attrs.ofJson value

/-- A node from the items of an array. -/
def nodeOfItems : List Json → Except Mismatch Statement
  | [] => .error (.wrongLength 0 "struct NodeStmt with 2 elements")
  | id :: rest => do
    let id ← id.asString
    let attrs ← attrsOfItem rest.head?
    checkLength (rest.length + 1) 2
    .ok (.node id attrs)

/-- An attribute statement from the items of an array. -/
def attrOfItems : List Json → Except Mismatch Statement
  | [] => .error (.wrongLength 0 "struct AttrStmt with 2 elements")
  | target :: rest => do
    let target ← AttrTarget.ofJson target
    let attrs ← attrsOfItem rest.head?
    checkLength (rest.length + 1) 2
    .ok (.attr target attrs)

/-- An inline attribute statement from the items of an array. -/
def inlineAttrOfItems (items : List Json) : Except Mismatch Statement := do
  let attrs ← attrsOfItem items.head?
  checkLength items.length 1
  .ok (.inlineAttr attrs)

/-! ### Statements -/

/-- What is expected where a statement stands. -/
def expected : String := "internally tagged enum Statement"

/-- Reads a statement of a kind from the entries of an object, given the readings as an edge and
as a subgraph, the two kinds that hold further statements. -/
def chooseFields (kind : StatementKind) (fields : List (String × Json))
    (edge subgraph : Unit → Except Mismatch Statement) : Except Mismatch Statement :=
  match kind with
  | .node => nodeOfFields none none fields
  | .edge => edge ()
  | .subgraph => subgraph ()
  | .attr => attrOfFields none none fields
  | .inlineAttr => inlineAttrOfFields none fields
  | .unknown => .ok .unknown

/-- Reads a statement of a kind from the items of an array, given the readings as an edge and as a
subgraph. -/
def chooseItems (kind : StatementKind) (items : List Json)
    (edge subgraph : Unit → Except Mismatch Statement) : Except Mismatch Statement :=
  match kind with
  | .node => nodeOfItems items
  | .edge => edge ()
  | .subgraph => subgraph ()
  | .attr => attrOfItems items
  | .inlineAttr => inlineAttrOfItems items
  | .unknown => do
    checkLength items.length 0
    .ok .unknown

mutual

/-- Reads a statement. -/
def ofJson : Json → Except Mismatch Statement
  | .object fields => do
    let kind ← StatementKind.ofFields none fields
    chooseFields kind fields (fun _ => edgeOfFields none none fields)
      (fun _ => subgraphOfFields none none fields)
  | .array [] => .error (.missingField "type")
  | .array (kind :: items) => do
    let kind ← StatementKind.ofJson kind
    chooseItems kind items (fun _ => edgeOfItems items) (fun _ => subgraphOfItems items)
  | value => .error (.wrongType value.found expected)

/-- Reads a list of statements. -/
def listOfJson : Json → Except Mismatch (List Statement)
  | .array items => listOfItems items
  | value => .error (.wrongType value.found "a sequence")

/-- Reads statements one after another. -/
def listOfItems : List Json → Except Mismatch (List Statement)
  | [] => .ok []
  | item :: rest => do
    let stmt ← ofJson item
    .ok (stmt :: (← listOfItems rest))

/-- An edge statement from the entries of an object. -/
def edgeOfFields (elems : Option (List Statement)) (attrs : Option Attrs) :
    List (String × Json) → Except Mismatch Statement
  | [] => .ok (.edge (elems.getD []) (attrs.getD Attrs.empty))
  | (key, value) :: rest =>
    if key = "elems" then
      match elems with
      | some _ => .error (.repeatedField "elems")
      | none => do edgeOfFields (some (← listOfJson value)) attrs rest
    else if key = "attrs" then do
      edgeOfFields elems (← takeField "attrs" attrs (Attrs.ofJson value)) rest
    else edgeOfFields elems attrs rest

/-- A subgraph from the entries of an object. -/
def subgraphOfFields (id : Option (Option String)) (stmts : Option (List Statement)) :
    List (String × Json) → Except Mismatch Statement
  | [] => .ok (.subgraph (id.getD none) (stmts.getD []))
  | (key, value) :: rest =>
    if key = "id" then do subgraphOfFields (← takeField "id" id value.asString?) stmts rest
    else if key = "stmts" then
      match stmts with
      | some _ => .error (.repeatedField "stmts")
      | none => do subgraphOfFields id (some (← listOfJson value)) rest
    else subgraphOfFields id stmts rest

/-- An edge statement from the items of an array. -/
def edgeOfItems : List Json → Except Mismatch Statement
  | [] => .ok (.edge [] Attrs.empty)
  | elems :: rest => do
    let elems ← listOfJson elems
    let attrs ← attrsOfItem rest.head?
    checkLength (rest.length + 1) 2
    .ok (.edge elems attrs)

/-- A subgraph from the items of an array. -/
def subgraphOfItems : List Json → Except Mismatch Statement
  | [] => .ok (.subgraph none [])
  | [id] => do .ok (.subgraph (← id.asString?) [])
  | id :: stmts :: rest => do
    let id ← id.asString?
    let stmts ← listOfJson stmts
    checkLength (rest.length + 2) 2
    .ok (.subgraph id stmts)

end

/-- Reads a statement of a kind from the entries of an object. -/
def ofFields (kind : StatementKind) (fields : List (String × Json)) : Except Mismatch Statement :=
  chooseFields kind fields (fun _ => edgeOfFields none none fields)
    (fun _ => subgraphOfFields none none fields)

/-- Reads a statement of a kind from the items of an array. -/
def ofItems (kind : StatementKind) (items : List Json) : Except Mismatch Statement :=
  chooseItems kind items (fun _ => edgeOfItems items) (fun _ => subgraphOfItems items)

end Statement

end ClusterGraph
