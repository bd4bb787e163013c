import ClusterGraph.Proofs.Document.Json5ReadBack

/-!
# Line ends in the texts of documents

A line ends in the text of a document, in the sense of JSON5, exactly when one of the ids, names
and values of the document holds a line or paragraph separator (`Document.oneLine_text`): the
words of the format hold none, and line feeds and carriage returns are escaped.
-/

namespace ClusterGraph

open Json Json5

/-! ### The texts in a document -/

/-- The names and the values of attributes. -/
def Attrs.texts (attrs : Attrs) : List String :=
  attrs.entries.flatMap fun entry => [entry.1, entry.2]

namespace Statement

mutual

/-- The ids, attribute names and attribute values in a statement. -/
def texts : Statement → List String
  | .node id attrs => id :: attrs.texts
  | .edge elems attrs => textsOfAll elems ++ attrs.texts
  | .subgraph id stmts => id.toList ++ textsOfAll stmts
  | .attr _ attrs => attrs.texts
  | .inlineAttr attrs => attrs.texts
  | .unknown => []

/-- The ids, attribute names and attribute values in statements. -/
def textsOfAll : List Statement → List String
  | [] => []
  | stmt :: rest => stmt.texts ++ textsOfAll rest

end

end Statement

/-- The ids, attribute names and attribute values in a document. -/
def Document.texts (doc : Document) : List String := doc.id.toList ++ Statement.textsOfAll doc.stmts

/-! ### Line ends -/

namespace Json

/-- The literal of a text breaks its line where the text holds a separator, and nowhere else. -/
theorem oneLine_string {s : String} : OneLine (Json.string s).compact ↔ NoSeparator s :=
  oneLine_stringText

/-- A text that is missing breaks no line. -/
theorem oneLine_ofString? {s : Option String} :
    OneLine (ofString? s).compact ↔ ∀ s' ∈ s.toList, NoSeparator s' := by
  have hnull : OneLine Json.null.compact := by decide
  cases s with
  | none => simp [ofString?, hnull]
  | some s => simp [ofString?, oneLine_string]

end Json

/-- Attributes break their line where a name or a value does. -/
theorem Attrs.oneLine_toJson {attrs : Attrs} :
    OneLine attrs.toJson.compact ↔ ∀ s ∈ attrs.texts, NoSeparator s := by
  rw [toJson, ofTexts, oneLine_object, oneLine_compactFields, texts, List.forall_mem_flatMap,
    List.forall_mem_map]
  refine forall₂_congr fun entry _ => ?_
  simp [oneLine_fieldText, oneLine_stringText, oneLine_string]

namespace Statement

/-- The kinds of statements are called by plain words. -/
theorem noSeparator_kindName (stmt : Statement) : NoSeparator stmt.kindName := by
  have hwords : ∀ name ∈ ["node", "edge", "subgraph", "attr", "inlineAttr", "unknown"],
      NoSeparator name := by decide
  exact hwords stmt.kindName (by cases stmt <;> simp [kindName])

/-- The fields of statements are called by plain words. -/
theorem noSeparator_of_mem_fieldsToJson {stmt : Statement} {f : String × Json}
    (h : f ∈ stmt.fieldsToJson) : NoSeparator f.1 := by
  have hwords : ∀ name ∈ ["id", "attrs", "elems", "stmts", "attrType"], NoSeparator name := by
    decide
  have hnames : ∀ name ∈ stmt.fieldsToJson.map Prod.fst,
      name ∈ ["id", "attrs", "elems", "stmts", "attrType"] := by
    cases stmt <;> simp [fieldsToJson]
  exact hwords f.1 (hnames f.1 (List.mem_map_of_mem h))

/-- The names of fields and kinds hold no separators. -/
theorem oneLine_toJson_iff_fields (stmt : Statement) :
    OneLine stmt.toJson.compact ↔ ∀ f ∈ stmt.fieldsToJson, OneLine f.2.compact := by
  have htype : OneLine (fieldText ("type", .string stmt.kindName)) :=
    oneLine_fieldText.2 ⟨oneLine_stringText.2 (show NoSeparator "type" by decide),
      oneLine_string.2 stmt.noSeparator_kindName⟩
  rw [toJson_eq, oneLine_object, oneLine_compactFields, List.forall_mem_cons, and_iff_right htype]
  refine forall₂_congr fun f hf => ?_
  rw [oneLine_fieldText, oneLine_stringText, and_iff_right (noSeparator_of_mem_fieldsToJson hf)]

mutual

/-- By induction on the statement, its text breaks its line where one of its own texts does. -/
theorem oneLine_toJson : (stmt : Statement) →
    (OneLine stmt.toJson.compact ↔ ∀ s ∈ stmt.texts, NoSeparator s)
  | .node id attrs => by
    simp [oneLine_toJson_iff_fields, fieldsToJson, texts, oneLine_string, Attrs.oneLine_toJson]
  | .edge elems attrs => by
    have helems := oneLine_listToJson elems
    simp [oneLine_toJson_iff_fields, fieldsToJson, texts, oneLine_array, helems,
      Attrs.oneLine_toJson, or_imp, forall_and]
  | .subgraph id stmts => by
    have hstmts := oneLine_listToJson stmts
    simp [oneLine_toJson_iff_fields, fieldsToJson, texts, oneLine_array, hstmts,
      oneLine_ofString?, or_imp, forall_and]
  | .attr target attrs => by
    have htarget : NoSeparator target.keyword := by cases target <;> decide
    simp [oneLine_toJson_iff_fields, fieldsToJson, texts, oneLine_string, htarget,
      Attrs.oneLine_toJson]
  | .inlineAttr attrs => by
    simp [oneLine_toJson_iff_fields, fieldsToJson, texts, Attrs.oneLine_toJson]
  | .unknown => by simp [oneLine_toJson_iff_fields, fieldsToJson, texts]

/-- Statements break their line where one of their texts does. -/
theorem oneLine_listToJson : (stmts : List Statement) →
    (OneLine (compactItems (listToJson stmts)) ↔ ∀ s ∈ textsOfAll stmts, NoSeparator s)
  | [] => by simp [listToJson, compactItems, textsOfAll]
  | stmt :: rest => by
    have hrest := oneLine_listToJson rest
    rw [oneLine_compactItems] at hrest ⊢
    rw [listToJson, List.forall_mem_cons, oneLine_toJson stmt, hrest, textsOfAll,
      List.forall_mem_append]

end

end Statement

namespace Document

/-- A line ends in the text of a document when a separator stands in one of its ids, names and
values. -/
theorem oneLine_text (doc : Document) :
    OneLine doc.text.toList ↔ ∀ s ∈ doc.texts, NoSeparator s := by
  have hkind : NoSeparator doc.kind.keyword := by cases doc.kind <;> decide
  have hstrict : OneLine (Json.bool doc.strict).compact := by cases doc.strict <;> decide
  have hwords : ∀ name ∈ ["type", "strict", "id", "stmts"], NoSeparator name := by decide
  rw [toList_text, toJson_eq, oneLine_object, oneLine_compactFields]
  simp only [fieldsToJson, List.forall_mem_cons, List.not_mem_nil, false_implies, implies_true,
    and_true, oneLine_fieldText, oneLine_stringText, oneLine_string, oneLine_ofString?,
    oneLine_array, Statement.oneLine_listToJson, texts, List.forall_mem_append, hkind,
    hstrict] at hwords ⊢
  simp only [hwords, true_and]

end Document

end ClusterGraph
