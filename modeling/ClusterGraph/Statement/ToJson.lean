import ClusterGraph.Json.Writer
import ClusterGraph.Statement

/-!
# Statement trees as JSON

A statement is an object whose first entry, `type`, names its kind. All entries are present: an
absent id is `null`, and a statement of an unknown kind has its `type` alone.
-/

namespace ClusterGraph

/-- Attributes as an object, by increasing name. -/
def Attrs.toJson (attrs : Attrs) : Json := Json.ofTexts attrs.entries

mutual

/-- A statement as an object. -/
def Statement.toJson : Statement → Json
  | .node id attrs =>
    .object [("type", .string "node"), ("id", .string id), ("attrs", attrs.toJson)]
  | .edge elems attrs =>
    .object [("type", .string "edge"), ("elems", .array (Statement.listToJson elems)),
      ("attrs", attrs.toJson)]
  | .subgraph id stmts =>
    .object [("type", .string "subgraph"), ("id", Json.ofString? id),
      ("stmts", .array (Statement.listToJson stmts))]
  | .attr target attrs =>
    .object [("type", .string "attr"), ("attrType", .string target.keyword),
      ("attrs", attrs.toJson)]
  | .inlineAttr attrs => .object [("type", .string "inlineAttr"), ("attrs", attrs.toJson)]
  | .unknown => .object [("type", .string "unknown")]

/-- Statements as items. -/
def Statement.listToJson : List Statement → List Json
  | [] => []
  | stmt :: rest => stmt.toJson :: Statement.listToJson rest

end

/-- A document as an object. -/
def Document.toJson (doc : Document) : Json :=
  .object [("type", .string doc.kind.keyword), ("strict", .bool doc.strict),
    ("id", Json.ofString? doc.id), ("stmts", .array (Statement.listToJson doc.stmts))]

/-- The text of a document, without blanks. -/
def Document.text (doc : Document) : String := doc.toJson.text false

end ClusterGraph
