import ClusterGraph.Document.Reader
import ClusterGraph.Proofs.Statement.ReadBack

/-!
# Documents are read back from their texts

The text of a document is read back to the same document exactly when its arrays and objects are
not nested more deeply than the reader allows (`Document.read_text`). Statements directly in the
document and statements inside statements are read in two different ways; both give back what was
written. Nothing is assumed about the characters of ids, names and values.
-/

namespace ClusterGraph

open Json

/-! ### No numbers in documents -/

/-- Attributes are texts. -/
theorem Attrs.numberFree_toJson (attrs : Attrs) : attrs.toJson.NumberFree := by
  refine numberFreeFields_iff.2 fun f hf => ?_
  obtain ⟨pair, -, rfl⟩ := List.mem_map.1 hf
  exact trivial

theorem Json.numberFree_ofString? (s : Option String) : (ofString? s).NumberFree := by
  cases s <;> exact trivial

namespace Statement

mutual

/-- By induction on the statement, what is written of it holds no number. -/
theorem numberFree_toJson : (stmt : Statement) → stmt.toJson.NumberFree
  | .node _ attrs => ⟨trivial, trivial, attrs.numberFree_toJson, trivial⟩
  | .edge elems attrs => ⟨trivial, numberFree_listToJson elems, attrs.numberFree_toJson, trivial⟩
  | .subgraph id stmts =>
    ⟨trivial, numberFree_ofString? id, numberFree_listToJson stmts, trivial⟩
  | .attr _ attrs => ⟨trivial, trivial, attrs.numberFree_toJson, trivial⟩
  | .inlineAttr attrs => ⟨trivial, attrs.numberFree_toJson, trivial⟩
  | .unknown => ⟨trivial, trivial⟩

theorem numberFree_listToJson : (stmts : List Statement) → NumberFreeItems (listToJson stmts)
  | [] => trivial
  | stmt :: rest => ⟨numberFree_toJson stmt, numberFree_listToJson rest⟩

end

/-- The fields of a statement hold no number. -/
theorem numberFree_fieldsToJson {stmt : Statement} {field : String × Json}
    (h : field ∈ stmt.fieldsToJson) : field.2.NumberFree := by
  have hfree := stmt.numberFree_toJson
  rw [toJson_eq] at hfree
  exact numberFreeFields_iff.1 hfree.2 field h

/-! ### Statements directly in a document -/

/-- What reading the entries of a statement adds to what has been read: its kind, which must not
have been read yet, and its other entries as they are, if there is room for their values. -/
def Partial.add (stmt : Statement) (room : Nat) (acc : Partial) (field : String × Json) :
    Except ReadError Partial :=
  if field.1 = "type" then
    match acc.kind with
    | some _ => .error (.mismatch (.repeatedField "type"))
    | none => .ok { acc with kind := some (.ofName stmt.kindName) }
  else okIf (field.2.depth ≤ room) { acc with fields := field :: acc.fields }

/-- The kind of a statement is read from the first entry that is written. -/
private theorem gives_readField_type (stmt : Statement) (room : Nat) (acc : Partial) :
    Gives (scanField (quotedKey scanString) (readField room acc))
      (fieldText ("type", .string stmt.kindName))
      (acc.add stmt room ("type", .string stmt.kindName)) := by
  intro rest
  obtain ⟨kind, fields⟩ := acc
  cases kind with
  | some kind => simp only [scanField_fieldText, readField, Partial.add, if_true, map_error]
  | none =>
    simp only [scanField_fieldText, readField, Partial.add, if_true, passColon_colon
      keepsWords_spacing, ok_bind, compact, gives_readString _ stmt.kindName rest, map_ok]

/-- The fields of a statement are kept as they were written. -/
private theorem gives_readField_of_ne (stmt : Statement) {field : String × Json} (room : Nat)
    (hne : field.1 ≠ "type") (hfree : field.2.NumberFree) (acc : Partial) :
    Gives (scanField (quotedKey scanString) (readField room acc)) (fieldText field)
      (acc.add stmt room field) := by
  intro rest
  simp only [scanField_fieldText, readField, Partial.add, if_neg hne, passColon_colon
    keepsWords_spacing, ok_bind, gives_readValue field.2 hfree room rest, ifFits, map_okIf]
  exact okIf_bind_ok rfl

/-- Fields behind the type are kept as they are read, unless one lies too deep. -/
private theorem foldlM_add {stmt : Statement} {room : Nat} {fields : List (String × Json)}
    (hne : ∀ field ∈ fields, field.1 ≠ "type") (acc : Partial) :
    fields.foldlM (Partial.add stmt room) acc =
      okIf (∀ field ∈ fields, field.2.depth ≤ room)
        { acc with fields := fields.reverse ++ acc.fields } := by
  induction fields generalizing acc with
  | nil => rw [okIf_pos fun _ h => absurd h List.not_mem_nil]; rfl
  | cons field rest ih =>
    obtain ⟨hfield, hrest⟩ := List.forall_mem_cons.1 hne
    rw [List.foldlM_cons, Partial.add, if_neg hfield,
      okIf_bind (f := fun acc => rest.foldlM (Partial.add stmt room) acc) (ih hrest _),
      List.reverse_cons, List.append_assoc]
    exact okIf_congr (by rw [List.forall_mem_cons]) _

/-- A statement is read behind an opening brace, field by field, and made when its kind is known. -/
theorem read_openBrace (room : Nat) (cs : List Char) : read (room + 1) (openBrace :: cs) =
    (do
      let (acc, rest) ← foldFields spacing (quotedKey scanString) (readField room)
        (cs.length + 1) true ⟨none, []⟩ cs
      match acc.kind with
      | none => .error (.mismatch (.missingField "type"))
      | some kind =>
        let stmt ← ReadError.ofExcept (ofFields kind acc.fields.reverse)
        .ok (stmt, rest)) := rfl

/-- A statement fits when its fields fit with one level less. -/
theorem depth_toJson_le_iff (stmt : Statement) (room : Nat) :
    stmt.toJson.depth ≤ room + 1 ↔ ∀ f ∈ stmt.fieldsToJson, f.2.depth ≤ room := by
  rw [toJson_eq, depth_object_le_iff, List.forall_mem_cons]
  exact and_iff_right (Nat.zero_le room)

/-- A statement directly in a document is read back when there is room for what is nested. -/
theorem gives_read (stmt : Statement) (room : Nat) :
    Gives (read room) stmt.toJson.compact (okIf (stmt.toJson.depth ≤ room) stmt) := by
  intro rest
  cases room with
  | zero =>
    rw [toJson_eq, okIf_neg (by simp [depth])]
    rfl
  | succ room =>
    -- the type comes first, and no other entry has its name
    have hstep : ∀ f ∈ ("type", .string stmt.kindName) :: stmt.fieldsToJson, ∀ acc,
        Gives (scanField (quotedKey scanString) (readField room acc)) (fieldText f)
          (acc.add stmt room f) :=
      List.forall_mem_cons.2 ⟨gives_readField_type stmt room, fun f hf =>
        gives_readField_of_ne stmt room (ne_type_of_mem_fieldsToJson hf)
          (numberFree_fieldsToJson hf)⟩
    have hrun := foldFields_compactFields keepsWords_spacing hstep ⟨none, []⟩ rest
      (Nat.lt_succ_self _)
    rw [List.foldlM_cons, Partial.add, if_pos rfl, ok_bind,
      foldlM_add fun _ => ne_type_of_mem_fieldsToJson, List.append_nil, map_okIf] at hrun
    rw [okIf_congr (depth_toJson_le_iff stmt room), toJson_eq, map_okIf]
    simp only [compact, List.cons_append, List.append_assoc, List.nil_append, read_openBrace, hrun]
    refine okIf_bind_ok ?_
    simp only [List.reverse_reverse, ofFields_fieldsToJson, ReadError.ofExcept, ok_bind]

theorem listToJson_eq_map (stmts : List Statement) : listToJson stmts = stmts.map toJson := by
  induction stmts with
  | nil => rfl
  | cons stmt rest ih => rw [listToJson, ih, List.map_cons]

/-- Statements are read behind an opening bracket, with room for one level less. -/
theorem readList_openBracket (room : Nat) (cs : List Char) :
    readList (room + 1) ('[' :: cs) = readItems spacing (read room) cs := rfl

/-- The statements of a document are read back when there is room for what is nested. -/
theorem gives_readList (stmts : List Statement) (room : Nat) :
    Gives (readList room) (array (listToJson stmts)).compact
      (okIf ((array (listToJson stmts)).depth ≤ room) stmts) := by
  intro rest
  cases room with
  | zero =>
    rw [okIf_neg (by simp [depth])]
    rfl
  | succ room =>
    have hfree := numberFreeItems_iff.1 (numberFree_listToJson stmts)
    have hitems : ∀ v ∈ listToJson stmts, Gives (read room) v.compact
        (do okIf (v.depth ≤ room) (← ReadError.ofExcept (ofJson v))) := by
      intro v hv
      rw [listToJson_eq_map] at hv
      obtain ⟨stmt, -, rfl⟩ := List.mem_map.1 hv
      rw [ofJson_toJson]
      exact gives_read stmt room
    have hread := gives_readItems keepsWords_spacing (fun v hv => startsWord_compact (hfree v hv))
      hitems rest
    -- the values are those of the statements, so together they give the list back
    have hback : (listToJson stmts).mapM
        (fun v => do okIf (v.depth ≤ room) (← ReadError.ofExcept (ofJson v))) =
          okIf (∀ v ∈ listToJson stmts, v.depth ≤ room) stmts := by
      simp only [listToJson_eq_map, List.mapM_map, Function.comp_def, ofJson_toJson,
        ReadError.ofExcept, ok_bind, List.forall_mem_map]
      exact mapM_okIf_self (fun stmt => stmt.toJson.depth ≤ room) stmts
    rw [hback] at hread
    rw [okIf_congr depth_array_le_iff, compact, List.cons_append, List.cons_append,
      readList_openBracket]
    exact hread

end Statement

/-! ### Documents -/

namespace Document

/-- A kind of graph is read back from its keyword. -/
theorem gives_readKind (kind : GraphKind) (room : Nat) :
    Gives (GraphKind.read room) (Json.string kind.keyword).compact (.ok kind) := by
  intro rest
  cases kind <;> rfl

/-- The value of an entry is looked at unless it has been read before. -/
theorem readOnce_colon {α : Type} {value : Scan α} {v : Json} {outcome : Except ReadError α}
    (h : Gives value v.compact outcome) (name : String) (seen : Option α) (rest : List Char) :
    readOnce name seen value (':' :: (v.compact ++ rest)) =
      (takeOnce (.mismatch (.repeatedField name)) seen outcome).map fun seen => (seen, rest) := by
  cases seen with
  | some a => rfl
  | none =>
    simp only [readOnce, takeOnce, passColon_colon keepsWords_spacing, ok_bind, h rest]
    cases outcome <;> rfl

/-- The entries of a document. -/
def fieldsToJson (doc : Document) : List (String × Json) :=
  [("type", .string doc.kind.keyword), ("strict", .bool doc.strict), ("id", ofString? doc.id),
    ("stmts", .array (Statement.listToJson doc.stmts))]

theorem toJson_eq (doc : Document) : doc.toJson = .object doc.fieldsToJson := rfl

/-- What reading the entries of a document adds to what has been read: none may have been read
yet, and there must be room for the statements. -/
def Partial.add (doc : Document) (room : Nat) (acc : Partial) (field : String × Json) :
    Except ReadError Partial :=
  let once {α : Type} (seen : Option α) (outcome : Except ReadError α) :=
    takeOnce (.mismatch (.repeatedField field.1)) seen outcome
  if field.1 = "type" then do .ok { acc with kind := ← once acc.kind (.ok doc.kind) }
  else if field.1 = "strict" then do .ok { acc with strict := ← once acc.strict (.ok doc.strict) }
  else if field.1 = "id" then do .ok { acc with id := ← once acc.id (.ok doc.id) }
  else do
    .ok { acc with stmts := ← once acc.stmts (okIf (field.2.depth ≤ room) doc.stmts) }

/-- Each entry of a document is read back. -/
private theorem gives_readField (doc : Document) (room : Nat) :
    ∀ f ∈ doc.fieldsToJson, ∀ acc,
      Gives (scanField (quotedKey scanString) (readField room acc)) (fieldText f)
        (acc.add doc room f) := by
  intro f hf acc rest
  have hkind := readOnce_colon (gives_readKind doc.kind room) "type" acc.kind rest
  have hstrict := readOnce_colon (gives_readBool doc.strict) "strict" acc.strict rest
  have hid := readOnce_colon (gives_readString? doc.id) "id" acc.id rest
  have hstmts := readOnce_colon (Statement.gives_readList doc.stmts room) "stmts" acc.stmts rest
  simp only [fieldsToJson, List.mem_cons, List.not_mem_nil, or_false] at hf
  rcases hf with rfl | rfl | rfl | rfl
  · simp only [scanField_fieldText, readField, Partial.add, if_true, hkind]
    exact map_bind_pair _ (fun kind => { acc with kind := kind }) rest
  · simp only [scanField_fieldText, readField, Partial.add, hstrict]
    exact map_bind_pair _ (fun strict => { acc with strict := strict }) rest
  · simp only [scanField_fieldText, readField, Partial.add, hid]
    exact map_bind_pair _ (fun id => { acc with id := id }) rest
  · simp only [scanField_fieldText, readField, Partial.add, hstmts]
    exact map_bind_pair _ (fun stmts => { acc with stmts := stmts }) rest

/-- A document is read behind an opening brace, field by field, and made at the end. -/
theorem scan_openBrace (room : Nat) (cs : List Char) : scan room (openBrace :: cs) =
    (do
      let (acc, rest) ← foldFields spacing (quotedKey scanString) (readField (room - 1))
        (cs.length + 1) true ⟨none, none, none, none⟩ cs
      .ok (← ofPartial acc, rest)) := rfl

/-- Only the statements of a document are nested in it. -/
theorem depth_toJson_le_iff (doc : Document) (room : Nat) :
    doc.toJson.depth ≤ room + 1 ↔ (array (Statement.listToJson doc.stmts)).depth ≤ room := by
  rw [toJson_eq, depth_object_le_iff]
  have hid : (ofString? doc.id).depth ≤ room := by cases doc.id <;> exact Nat.zero_le room
  simp only [fieldsToJson, List.forall_mem_cons, List.not_mem_nil, false_implies, implies_true,
    and_true, hid, true_and]
  simp [depth]

/-- A document is read back from the front of a text when there is room for what is nested. -/
theorem gives_scan (doc : Document) (room : Nat) :
    Gives (scan (room + 1)) doc.toJson.compact (okIf (doc.toJson.depth ≤ room + 1) doc) := by
  intro rest
  have hrun := foldFields_compactFields keepsWords_spacing (gives_readField doc room)
    ⟨none, none, none, none⟩ rest (Nat.lt_succ_self _)
  have hadd : doc.fieldsToJson.foldlM (Partial.add doc room) ⟨none, none, none, none⟩ =
      okIf ((array (Statement.listToJson doc.stmts)).depth ≤ room)
        ⟨some doc.kind, some doc.strict, some doc.id, some doc.stmts⟩ := by
    change ((okIf _ doc.stmts).map some >>= fun stmts => Except.ok
      (⟨some doc.kind, some doc.strict, some doc.id, stmts⟩ : Partial)) >>= pure = _
    rw [map_okIf, bind_pure]
    exact okIf_bind_ok rfl
  rw [hadd, map_okIf] at hrun
  rw [okIf_congr (depth_toJson_le_iff doc room), toJson_eq, map_okIf]
  simp only [compact, List.cons_append, List.append_assoc, List.nil_append, scan_openBrace,
    Nat.add_sub_cancel, hrun]
  exact okIf_bind_ok rfl

theorem toList_text (doc : Document) : doc.text.toList = doc.toJson.compact := by
  simp [text, Json.text]

/-- Nothing is left behind the text of a document. -/
theorem scan_text (doc : Document) : scan nestingLimit doc.text.toList =
    okIf (doc.toJson.depth ≤ nestingLimit) (doc, []) := by
  have hscan : Gives (scan nestingLimit) doc.toJson.compact _ := gives_scan doc 126
  have hrun := hscan []
  rw [List.append_nil, map_okIf] at hrun
  rw [toList_text, hrun, nestingLimit]

/-- A document is read back from its text exactly when it is not nested more deeply than the reader
allows; otherwise the text is malformed for the reader. -/
theorem read_text (doc : Document) : read doc.text =
    if doc.toJson.depth ≤ nestingLimit then .ok doc else .error .malformed := by
  rw [read, scan_text]
  exact okIf_bind_ok rfl

end Document

end ClusterGraph
