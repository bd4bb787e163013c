import ClusterGraph.Document.Json5Reader
import ClusterGraph.Proofs.Document.ReadBack
import ClusterGraph.Proofs.Json5.ReadBack

/-!
# Documents read from their texts as JSON5

The text of a document, read as JSON5, gives the same document unless a line ends inside one of its
ids, names or values in the sense of JSON5 (`Document.readJson5_text`). Line feeds and carriage
returns are escaped in the text, so this concerns the line and paragraph separators U+2028 and
U+2029 alone. How deeply a document is nested makes no difference.
-/

namespace ClusterGraph

namespace Document

open Json Json5

theorem numberFree_toJson (doc : Document) : doc.toJson.NumberFree :=
  ⟨trivial, trivial, numberFree_ofString? doc.id, Statement.numberFree_listToJson doc.stmts,
    trivial⟩

/-! ### Entries -/

theorem kindOfJson5_ofJson (kind : GraphKind) :
    kindOfJson5 (Json5.ofJson (.string kind.keyword)) = .ok kind := by
  rw [Json5.ofJson, kindOfJson5, text_map_partOf, ok_bind]
  cases kind <;> rfl

theorem toText?_ofJson (s : Option String) : (Json5.ofJson (ofString? s)).toText? = .ok s := by
  cases s with
  | none => rfl
  | some s => simp only [ofString?, Json5.ofJson, toText?, toText, text_map_partOf, map_ok]

theorem statementOfJson5_ofJson (stmt : Statement) :
    statementOfJson5 (Json5.ofJson stmt.toJson) = .ok stmt := by
  rw [statementOfJson5, toJson_ofJson _ stmt.numberFree_toJson, ok_bind, Statement.ofJson_toJson]
  rfl

theorem statementsOfJson5_ofJson (stmts : List Statement) :
    statementsOfJson5 (Json5.ofJson (.array (Statement.listToJson stmts))) = .ok stmts := by
  simp only [Json5.ofJson, statementsOfJson5, ofJsonItems_eq_map, Statement.listToJson_eq_map,
    List.map_map, List.mapM_map, Function.comp_def, statementOfJson5_ofJson]
  have h := List.mapM_pure (m := Except Fault) (l := stmts) (f := fun stmt => stmt)
  rwa [List.map_id'] at h

/-! ### Documents -/

/-- An entry is read by its name and its value. -/
theorem fieldsOfJson5_ofJsonFields_cons (acc : Partial) (name : String) (value : Json)
    (rest : List (String × Json)) :
    fieldsOfJson5 acc (ofJsonFields ((name, value) :: rest)) =
      (do fieldsOfJson5 (← fieldOfJson5 acc name (Json5.ofJson value)) (ofJsonFields rest)) := by
  rw [ofJsonFields, fieldsOfJson5, text_map_partOf, ok_bind]

/-- The value of a document in JSON5 is read as the document. -/
theorem ofJson5_ofJson (doc : Document) : ofJson5 (Json5.ofJson doc.toJson) = .ok doc := by
  have hstrict : (Json5.ofJson (.bool doc.strict)).toBool = .ok doc.strict := rfl
  have hfields : fieldsOfJson5 ⟨none, none, none, none⟩ (ofJsonFields doc.fieldsToJson) =
      .ok ⟨some doc.kind, some doc.strict, some doc.id, some doc.stmts⟩ := by
    simp [fieldsToJson, fieldsOfJson5_ofJsonFields_cons, fieldOfJson5, takeEntry, takeOnce,
      kindOfJson5_ofJson, hstrict, toText?_ofJson, statementsOfJson5_ofJson]
    rfl
  rw [toJson_eq, Json5.ofJson, ofJson5, hfields]
  rfl

/-- The text of a document is read as JSON5 to the same document, and refused when a line ends in
it. -/
theorem readJson5_text (doc : Document) : readJson5 doc.text =
    if OneLine doc.text.toList then .ok doc else .error .grammar := by
  rw [toList_text, readJson5, text, ofText?_compact doc.numberFree_toJson]
  by_cases h : OneLine doc.toJson.compact
  · simp only [if_pos h, ofJson5_ofJson]
  · simp only [if_neg h]

end Document

end ClusterGraph
