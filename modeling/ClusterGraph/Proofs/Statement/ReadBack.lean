import ClusterGraph.Proofs.Label.Overlay
import ClusterGraph.Proofs.Json.ReadBack
import ClusterGraph.Statement.OfJson
import ClusterGraph.Statement.ToJson

/-!
# Statements are read back from their values

A statement is written as the name of its kind and its fields (`Statement.toJson_eq`). Read from
its fields alone or from the whole object, it is the same statement again
(`Statement.ofFields_fieldsToJson`, `Statement.ofJson_toJson`): ids stay present or absent,
attributes are equal, and a statement of an unknown kind is of an unknown kind again.
-/

namespace ClusterGraph

/-! ### Attributes -/

namespace Attrs

theorem empty_overlay (attrs : Attrs) : empty.overlay attrs = attrs :=
  ext_get? fun key => by rw [get?_overlay, get?_empty, Option.or_none]

/-- Entries that are read one after another are set one after another. -/
private theorem ofFields_map_string (attrs : Attrs) (pairs : List (String × String)) :
    attrs.ofFields (pairs.map fun pair => (pair.1, .string pair.2)) =
      .ok (attrs.insertAll pairs) := by
  induction pairs generalizing attrs with
  | nil => rfl
  | cons pair rest ih => simp only [List.map_cons, ofFields, Json.asString, ok_bind, ih]; rfl

theorem ofJson_toJson (attrs : Attrs) : ofJson attrs.toJson = .ok attrs := by
  have h := ofFields_map_string empty attrs.entries
  rwa [← overlay, empty_overlay] at h

end Attrs

theorem Json.asString?_ofString? (s : Option String) : (ofString? s).asString? = .ok s := by
  cases s <;> rfl

theorem AttrTarget.ofJson_keyword (target : AttrTarget) :
    ofJson (.string target.keyword) = .ok target := by
  cases target <;> rfl

/-! ### Statements -/

namespace Statement

/-- The name that the kind of a statement is written as. -/
def kindName : Statement → String
  | .node _ _ => "node"
  | .edge _ _ => "edge"
  | .subgraph _ _ => "subgraph"
  | .attr _ _ => "attr"
  | .inlineAttr _ => "inlineAttr"
  | .unknown => "unknown"

/-- The fields of a statement, without its kind. -/
def fieldsToJson : Statement → List (String × Json)
  | .node id attrs => [("id", .string id), ("attrs", attrs.toJson)]
  | .edge elems attrs => [("elems", .array (listToJson elems)), ("attrs", attrs.toJson)]
  | .subgraph id stmts => [("id", Json.ofString? id), ("stmts", .array (listToJson stmts))]
  | .attr target attrs => [("attrType", .string target.keyword), ("attrs", attrs.toJson)]
  | .inlineAttr attrs => [("attrs", attrs.toJson)]
  | .unknown => []

theorem toJson_eq (stmt : Statement) :
    stmt.toJson = .object (("type", .string stmt.kindName) :: stmt.fieldsToJson) := by
  cases stmt <;> rw [toJson] <;> rfl

theorem ne_type_of_mem_fieldsToJson {stmt : Statement} {field : String × Json}
    (h : field ∈ stmt.fieldsToJson) : field.1 ≠ "type" := by
  have hnames : ∀ name ∈ stmt.fieldsToJson.map Prod.fst, name ≠ "type" := by
    cases stmt <;> simp [fieldsToJson]
  exact hnames field.1 (List.mem_map_of_mem h)

/-- The kind is not looked for among fields with other names. -/
theorem ofFields_kind {kind : StatementKind} {fields : List (String × Json)}
    (h : ∀ field ∈ fields, field.1 ≠ "type") :
    StatementKind.ofFields (some kind) fields = .ok kind := by
  induction fields with
  | nil => rfl
  | cons field rest ih =>
    obtain ⟨hne, hrest⟩ := List.forall_mem_cons.1 h
    rw [StatementKind.ofFields, if_neg hne, ih hrest]

/-- The entry with the kind is no field of any kind of statement. -/
theorem ofFields_type (kind : StatementKind) (value : Json) (fields : List (String × Json)) :
    ofFields kind (("type", value) :: fields) = ofFields kind fields := by
  cases kind <;> simp [ofFields, chooseFields, nodeOfFields, edgeOfFields, subgraphOfFields,
    attrOfFields, inlineAttrOfFields]

/-- A statement that is read back from its fields is read back from the whole object. -/
theorem ofJson_toJson_of_ofFields {stmt : Statement}
    (h : ofFields (.ofName stmt.kindName) stmt.fieldsToJson = .ok stmt) :
    ofJson stmt.toJson = .ok stmt := by
  have hkind : StatementKind.ofFields none
      (("type", .string stmt.kindName) :: stmt.fieldsToJson) = .ok (.ofName stmt.kindName) := by
    simp only [StatementKind.ofFields, if_true, StatementKind.ofJson, ok_bind,
      ofFields_kind fun _ => ne_type_of_mem_fieldsToJson]
  rw [toJson_eq, ofJson, hkind, ok_bind, ← h]
  exact ofFields_type _ _ _

theorem takeField_none {α : Type} (name : String) (value : Except Mismatch α) :
    takeField name none value = value.map some := rfl

mutual

/-- A statement is read back from its kind and its fields. -/
theorem ofFields_fieldsToJson : (stmt : Statement) →
    ofFields (.ofName stmt.kindName) stmt.fieldsToJson = .ok stmt
  | .node id attrs => by
    change nodeOfFields none none _ = _
    simp [fieldsToJson, nodeOfFields, takeField_none, Json.asString, Attrs.ofJson_toJson,
      requireField]
  | .edge elems attrs => by
    have helems := listOfItems_listToJson elems
    change edgeOfFields none none _ = _
    simp [fieldsToJson, edgeOfFields, takeField_none, listOfJson, helems, Attrs.ofJson_toJson]
  | .subgraph id stmts => by
    have hstmts := listOfItems_listToJson stmts
    change subgraphOfFields none none _ = _
    simp [fieldsToJson, subgraphOfFields, takeField_none, listOfJson, hstmts,
      Json.asString?_ofString?]
  | .attr target attrs => by
    change attrOfFields none none _ = _
    simp [fieldsToJson, attrOfFields, takeField_none, AttrTarget.ofJson_keyword,
      Attrs.ofJson_toJson, requireField]
  | .inlineAttr attrs => by
    change inlineAttrOfFields none _ = _
    simp [fieldsToJson, inlineAttrOfFields, takeField_none, Attrs.ofJson_toJson]
  | .unknown => rfl

/-- Statements are read back one after another. -/
theorem listOfItems_listToJson : (stmts : List Statement) →
    listOfItems (listToJson stmts) = .ok stmts
  | [] => rfl
  | stmt :: rest => by
    have hstmt := ofJson_toJson_of_ofFields (ofFields_fieldsToJson stmt)
    simp only [listToJson, listOfItems, hstmt, ok_bind, listOfItems_listToJson rest]

end

/-- A statement is read back from its value. -/
theorem ofJson_toJson (stmt : Statement) : ofJson stmt.toJson = .ok stmt :=
  ofJson_toJson_of_ofFields (ofFields_fieldsToJson stmt)

end Statement

end ClusterGraph
