import ClusterGraph.Proofs.Document.ReadBack
import ClusterGraph.Proofs.Json.Starts
import ClusterGraph.Proofs.Statement.Forms

/-!
# Statements in a document, in any form

A statement directly in a document is read from the text, with its type checked on the way; a
statement inside of another one is read from a value that was read before. Both go through the
text in step (`Statement.toOption_foldFields_readField`), and both make the same of an object whose
types are texts (`Statement.toOption_read`). With what is known of forms, the statements of a
document are read alike whichever form they have and whether they stand directly in the document
or inside of others (`Document.read_forms`).
-/

namespace ClusterGraph

open Json

/-! ### A statement and its entries -/

namespace Statement

/-- What an entry adds to what has been read of a statement. -/
def Partial.take (acc : Partial) (field : String × Json) : Except Mismatch Partial :=
  if field.1 = "type" then do
    .ok { acc with kind := ← takeField "type" acc.kind (StatementKind.ofJson field.2) }
  else .ok { acc with fields := field :: acc.fields }

/-- The statement that has been read, when its kind is known. -/
def ofPartial (acc : Partial) : Except Mismatch Statement := do
  ofFields (← requireField "type" acc.kind) acc.fields.reverse

/-- An entry that is read as a value is also read as an entry of a statement. -/
theorem toOption_readField {room : Nat} {cs rest : List Char} {key : String}
    {fields fields' : List (String × Json)}
    (h : pushField spacing (readValue room) fields key cs = .ok (fields', rest)) :
    ∃ value, fields' = (key, value) :: fields ∧
      ((key = "type" → ∃ name, value = .string name) → ∀ acc : Partial,
        (readField room acc key cs).toOption =
          (acc.take (key, value)).toOption.map fun acc => (acc, rest)) := by
  obtain ⟨cs', hcolon, h⟩ := bind_eq_ok_iff.1 h
  obtain ⟨⟨value, rest'⟩, hvalue, heq⟩ := bind_eq_ok_iff.1 h
  cases heq
  refine ⟨value, rfl, fun htype acc => ?_⟩
  rw [readField, Partial.take, hcolon, ok_bind, ok_bind]
  split
  · next hkey =>
    obtain ⟨name, rfl⟩ := htype hkey
    rw [readString_of_readValue hvalue]
    cases acc.kind <;> rfl
  · rw [hvalue]
    rfl

/-- Entries that are read as values are also read, in step, as the entries of a statement. -/
theorem toOption_foldFields_readField {room fuel : Nat} {first : Bool} {cs rest : List Char}
    {seen reversed : List (String × Json)}
    (h : foldFields spacing (quotedKey scanString) (pushField spacing (readValue room)) fuel first
      seen cs = .ok (reversed, rest)) :
    ∃ fields, reversed = fields.reverse ++ seen ∧ (IsTagged (.object fields) → ∀ acc : Partial,
      (foldFields spacing (quotedKey scanString) (readField room) fuel first acc cs).toOption =
        (fields.foldlM Partial.take acc).toOption.map fun acc => (acc, rest)) := by
  -- Both folds step to the same keys and leave the same text behind each entry.
  induction fuel generalizing first cs seen with
  | zero => cases h
  | succ fuel ih =>
    rw [foldFields] at h
    obtain ⟨next, hnext, h⟩ := bind_eq_ok_iff.1 h
    cases next with
    | done rest' =>
      cases h
      refine ⟨[], rfl, fun _ acc => ?_⟩
      rw [foldFields, hnext]
      rfl
    | more key cs' =>
      obtain ⟨⟨seen', cs''⟩, hfield, h⟩ := bind_eq_ok_iff.1 h
      obtain ⟨value, rfl, hread⟩ := toOption_readField hfield
      obtain ⟨fields, rfl, hfold⟩ := ih h
      refine ⟨(key, value) :: fields, by simp, fun htagged acc => ?_⟩
      have hvalue : key = "type" → ∃ name, value = .string name := by
        rintro rfl
        exact htagged value List.mem_cons_self
      have hrest : IsTagged (.object fields) := fun v hv => htagged v (List.mem_cons_of_mem _ hv)
      rw [foldFields, hnext, ok_bind, toOption_bind, hread hvalue, List.foldlM_cons, toOption_bind,
        Option.bind_map, Option.map_bind]
      congr 1
      funext acc
      exact hfold hrest acc

/-- The type is no field of any kind of statement, wherever it stands. -/
theorem toOption_ofFields_filter (kind : StatementKind) (fields : List (String × Json)) :
    (ofFields kind (fields.filter fun field => field.1 ≠ "type")).toOption =
      (ofFields kind fields).toOption := by
  refine ofFields_congr fun name hname => ?_
  have hne : name ≠ "type" := by
    have hnames : ∀ name ∈ kind.fieldNames, name ≠ "type" := by
      cases kind <;> simp [StatementKind.fieldNames]
    exact hnames name hname
  rw [valuesAt_filter_ne hne]
  exact forall₂_refl (.refl kind name) _

/-- The entries of an object give the statement that is read from the object. -/
theorem toOption_foldlM_take (fields : List (String × Json)) (acc : Partial) :
    (fields.foldlM Partial.take acc >>= ofPartial).toOption =
      (StatementKind.ofFields acc.kind fields).toOption.bind fun kind =>
        (ofFields kind (acc.fields.reverse ++
          fields.filter fun field => field.1 ≠ "type")).toOption := by
  induction fields generalizing acc with
  | nil =>
    obtain ⟨kind, fields⟩ := acc
    cases kind with
    | none => rfl
    | some kind =>
      rw [List.filter_nil, List.append_nil]
      rfl
  | cons field rest ih =>
    obtain ⟨key, value⟩ := field
    obtain ⟨kind, fields⟩ := acc
    rw [List.foldlM_cons, StatementKind.ofFields_cons, Partial.take]
    by_cases hkey : key = "type"
    · subst hkey
      -- the type fills the slot of the kind and is no field
      have hfilter : (("type", value) :: rest).filter (fun field => field.1 ≠ "type") =
          rest.filter fun field => field.1 ≠ "type" := List.filter_cons_of_neg (by simp)
      simp only [hfilter, if_true, bind_assoc, toOption_bind, ok_bind, ih, Option.bind_assoc]
    · -- any other entry is kept for the kind to read
      have hfilter : ((key, value) :: rest).filter (fun field => field.1 ≠ "type") =
          (key, value) :: rest.filter fun field => field.1 ≠ "type" :=
        List.filter_cons_of_pos (by simp [hkey])
      simp only [hfilter, hkey, if_false, ok_bind, ih, List.reverse_cons, List.append_assoc,
        List.singleton_append]

/-- The same statement is made of the entries once they have been read. -/
private theorem toOption_finish (acc : Partial) (rest : List Char) :
    (match acc.kind with
      | none => .error (.mismatch (.missingField "type"))
      | some kind => do
        .ok (← ReadError.ofExcept (ofFields kind acc.fields.reverse), rest) :
      Except ReadError (Statement × List Char)).toOption =
      (ofPartial acc).toOption.map fun stmt => (stmt, rest) := by
  obtain ⟨kind, fields⟩ := acc
  cases kind with
  | none => rfl
  | some kind =>
    simp only [ofPartial, requireField, ok_bind]
    cases ofFields kind fields.reverse <;> rfl

/-- A statement directly in a document is read from its text as it is read from its value. -/
theorem toOption_read {room : Nat} {cs rest : List Char} {v : Json}
    (h : readValue room cs = .ok (v, rest)) (htagged : IsTagged v) :
    (read room cs).toOption = (ofJson v).toOption.map fun stmt => (stmt, rest) := by
  cases starts_of_readValue h with
  | items => exact htagged.elim
  | literal => exact htagged.elim
  | word hword => cases v <;> first | exact htagged.elim | exact hword.elim
  | @fields room _ cs' _ fields hopen hfields =>
    rw [readFields_eq] at hfields
    obtain ⟨⟨reversed, rest'⟩, hfold, heq⟩ := bind_eq_ok_iff.1 hfields
    cases heq
    obtain ⟨fields, rfl, hread⟩ := toOption_foldFields_readField hfold
    simp only [List.append_nil, List.reverse_reverse] at htagged ⊢
    have hstmt : (ofJson (.object fields)).toOption =
        (fields.foldlM Partial.take ⟨none, []⟩ >>= ofPartial).toOption := by
      rw [toOption_foldlM_take, ofJson_object, toOption_bind]
      simp only [List.reverse_nil, List.nil_append, toOption_ofFields_filter]
    have hrun : read (room + 1) cs = read (room + 1) (openBrace :: cs') := by
      rw [read, hopen]
      rfl
    rw [hrun, read_openBrace, hstmt, toOption_bind, toOption_bind, hread htagged, Option.bind_map,
      Option.map_bind]
    congr 1
    funext acc
    exact toOption_finish acc rest'

/-! ### Lists of statements -/

/-- Items that are read as values are also read, in step, as statements. -/
theorem toOption_foldItems_read {room fuel : Nat} {first : Bool} {cs rest : List Char}
    {seen reversed : List Json}
    (h : foldItems spacing (pushItem (readValue room)) fuel first seen cs = .ok (reversed, rest)) :
    ∃ items, reversed = items.reverse ++ seen ∧ ((∀ v ∈ items, IsTagged v) →
      ∀ acc : List Statement,
        (foldItems spacing (pushItem (read room)) fuel first acc cs).toOption =
          (listOfItems items).toOption.map fun stmts => (stmts.reverse ++ acc, rest)) := by
  induction fuel generalizing first cs seen with
  | zero => cases h
  | succ fuel ih =>
    rw [foldItems] at h
    obtain ⟨next, hnext, h⟩ := bind_eq_ok_iff.1 h
    cases next with
    | done rest' =>
      cases h
      refine ⟨[], rfl, fun _ acc => ?_⟩
      rw [foldItems, hnext]
      rfl
    | more u cs' =>
      obtain ⟨⟨seen', cs''⟩, hitem, h⟩ := bind_eq_ok_iff.1 h
      obtain ⟨⟨v, rest'⟩, hvalue, heq⟩ := bind_eq_ok_iff.1 hitem
      cases heq
      obtain ⟨items, rfl, hfold⟩ := ih h
      refine ⟨v :: items, by simp, fun htagged acc => ?_⟩
      obtain ⟨hfirst, hrest⟩ := List.forall_mem_cons.1 htagged
      rw [foldItems, hnext, ok_bind, toOption_bind, pushItem, toOption_bind,
        toOption_read hvalue hfirst, listOfItems, toOption_bind]
      cases ofJson v with
      | error e => rfl
      | ok stmt =>
        refine (hfold hrest (stmt :: acc)).trans ?_
        cases listOfItems items with
        | error e => rfl
        | ok stmts =>
          exact congrArg (fun l => some (l, rest)) (by simp)

/-- The statements of a document are read from their text as they are read from its value. -/
theorem toOption_readList {room : Nat} {cs rest : List Char} {items : List Json}
    (h : readValue room cs = .ok (.array items, rest)) (htagged : ∀ v ∈ items, IsTagged v) :
    (readList room cs).toOption = (listOfItems items).toOption.map fun stmts => (stmts, rest) := by
  cases starts_of_readValue h with
  | word hword => exact hword.elim
  | @items room _ cs' _ _ hopen hitems =>
    rw [readItems_eq] at hitems
    obtain ⟨⟨reversed, rest'⟩, hfold, heq⟩ := bind_eq_ok_iff.1 hitems
    cases heq
    obtain ⟨items, rfl, hread⟩ := toOption_foldItems_read hfold
    simp only [List.append_nil, List.reverse_reverse] at htagged ⊢
    have hrun : readList (room + 1) cs = readList (room + 1) ('[' :: cs') := by
      rw [readList, hopen]
      rfl
    rw [hrun, readList_openBracket, readItems_eq, toOption_bind, hread htagged]
    cases listOfItems items with
    | error e => rfl
    | ok stmts => exact congrArg (fun l => some (l, rest')) (by simp)

end Statement

/-! ### Documents -/

namespace Document

open Statement (FormStep IsTagged Layer SameForm listOfItems nest nestJson)

/-- The text of a document that has nothing but its kind and its statements. -/
def textAround (stmts : String) : String :=
  "\x7b\"type\":\"digraph\",\"stmts\":" ++ stmts ++ "\x7d"

/-- The text of such a document is that of its kind, a comma, and what is given for its statements.
-/
theorem toList_textAround (stmts : String) :
    (textAround stmts).toList =
      openBrace :: (fieldText ("type", .string "digraph") ++
        (',' :: stringText "stmts" ++ (':' :: (stmts ++ "\x7d").toList))) := by
  have hfront : "\x7b\"type\":\"digraph\",\"stmts\":".toList =
      openBrace :: (fieldText ("type", .string "digraph") ++
        (',' :: stringText "stmts" ++ [':'])) := by
    decide
  have happend : (textAround stmts).toList = _ ++ (stmts ++ "\x7d").toList :=
    (congrArg String.toList String.append_assoc).trans String.toList_append
  refine happend.trans ?_
  simp only [hfront, List.cons_append, List.append_assoc, List.nil_append]

/-- Behind the kind of the document stand its statements. -/
theorem foldFields_textAround (fuel : Nat) (tail : List Char) :
    foldFields spacing (quotedKey scanString) (readField 126) (fuel + 3) true
        ⟨none, none, none, none⟩
        (fieldText ("type", .string "digraph") ++ (',' :: stringText "stmts" ++ (':' :: tail))) =
      (do
        let p ← Statement.readList 126 tail
        foldFields spacing (quotedKey scanString) (readField 126) (fuel + 1) false
          ⟨some .digraph, none, none, some p.1⟩ p.2) := by
  have hkind : readField 126 ⟨none, none, none, none⟩ "type"
      (':' :: ((Json.string "digraph").compact ++ (',' :: stringText "stmts" ++ (':' :: tail)))) =
        .ok (⟨some .digraph, none, none, none⟩, ',' :: stringText "stmts" ++ (':' :: tail)) := by
    have honce := readOnce_colon (gives_readKind .digraph 126) "type" none
      (',' :: stringText "stmts" ++ (':' :: tail))
    rw [readField, if_pos rfl]
    exact congrArg (· >>= _) honce
  have hstmts : scanField (quotedKey scanString) (readField 126 ⟨some .digraph, none, none, none⟩)
      (stringText "stmts" ++ (':' :: tail)) =
        (Statement.readList 126 tail).map fun p =>
          (⟨some .digraph, none, none, some p.1⟩, p.2) := by
    simp only [scanField, gives_quotedKey "stmts" _, map_ok, ok_bind, readField, readOnce,
      passColon_colon keepsWords_spacing]
    cases Statement.readList 126 tail <;> rfl
  have hrest : foldFields spacing (quotedKey scanString) (readField 126) (fuel + 2) false
      ⟨some .digraph, none, none, none⟩ (',' :: stringText "stmts" ++ (':' :: tail)) =
        (do
          let p ← Statement.readList 126 tail
          foldFields spacing (quotedKey scanString) (readField 126) (fuel + 1) false
            ⟨some .digraph, none, none, some p.1⟩ p.2) := by
    rw [foldFields_more (nextKey_comma keepsWords_spacing (startsWord_stringText "stmts") _),
      hstmts]
    cases Statement.readList 126 tail <;> rfl
  rw [foldFields_more (nextKey_first keepsWords_spacing (startsWord_fieldText _) _),
    scanField_fieldText]
  exact (congrArg (· >>= _) hkind).trans hrest

/-- A document is read by its statements. -/
theorem toOption_read_textAround {stmts : String} {items : List Json}
    (h : readValue 126 (stmts ++ "\x7d").toList = .ok (.array items, [closeBrace]))
    (htagged : ∀ v ∈ items, IsTagged v) :
    (read (textAround stmts)).toOption =
      (listOfItems items).toOption.map fun stmts => ⟨.digraph, false, none, stmts⟩ := by
  have hlist := Statement.toOption_readList h htagged
  rw [read, toList_textAround, nestingLimit, scan_openBrace]
  generalize (stmts ++ "\x7d").toList = tail at h hlist ⊢
  obtain ⟨fuel, hfuel⟩ : ∃ fuel, (fieldText ("type", .string "digraph") ++
      (',' :: stringText "stmts" ++ (':' :: tail))).length = fuel + 2 := by
    refine Nat.exists_eq_add_of_le' ?_
    simp only [List.length_append, List.length_cons]
    omega
  rw [hfuel, foldFields_textAround]
  -- Whether the statements were read or not, their value tells it.
  cases hstmts : listOfItems items with
  | error e =>
    rw [hstmts] at hlist
    cases hread : Statement.readList 126 tail with
    | error e => rfl
    | ok p => rw [hread] at hlist; cases hlist
  | ok stmts =>
    rw [hstmts] at hlist
    cases hread : Statement.readList 126 tail with
    | error e => rw [hread] at hlist; cases hlist
    | ok p =>
      rw [hread] at hlist
      obtain rfl : p = (stmts, [closeBrace]) := Option.some.inj hlist
      rfl

/-- The statements of a document are read alike in all their forms and places. Let `w` be a form of
the statement `v`, or of `v` inside of other statements, and let it stand in a text among the
statements of a document. Then the document is accepted exactly when `v` by itself is, and what
stands beside it; and it holds what `v` by itself is read as, inside of the same statements. -/
theorem read_forms (layers : List Layer) (before after : List Json) {v w : Json}
    {stmts : String} (htagged : IsTagged v)
    (hbeside : ∀ u ∈ before ++ after, IsTagged u)
    (hform : SameForm (nestJson layers v) w)
    (htext : readValue 126 (stmts ++ "\x7d").toList =
      .ok (.array (before ++ w :: after), [closeBrace])) :
    (read (textAround stmts)).toOption = (do
      let first ← (listOfItems before).toOption
      let stmt ← (Statement.ofJson v).toOption
      let last ← (listOfItems after).toOption
      some ⟨.digraph, false, none, first ++ nest layers stmt :: last⟩) := by
  have hw : IsTagged w :=
    hform.isTagged_iff.1 (Statement.isTagged_nestJson layers htagged)
  have hall : ∀ u ∈ before ++ w :: after, IsTagged u := by
    simp only [List.forall_mem_append, List.forall_mem_cons] at hbeside ⊢
    exact ⟨hbeside.1, hw, hbeside.2⟩
  -- the form is read as the nested statement, which is read layer by layer
  have hstmt : (Statement.ofJson w).toOption =
      (Statement.ofJson v).toOption.map (nest layers) := by
    rw [← toOption_map, ← Statement.ofJson_nestJson]
    exact hform.readAlike.symm
  rw [toOption_read_textAround htext hall, Statement.listOfItems_append_cons]
  simp only [toOption_bind, hstmt]
  cases listOfItems before <;> cases Statement.ofJson v <;> cases listOfItems after <;> rfl

/-- The entries of a node that has nothing but its id. -/
def bareNode : List (String × Json) := [("type", .string "node"), ("id", .string "a")]

/-- The entries of an edge from a node with the given entries. -/
def edgeFields (node : List (String × Json)) : List (String × Json) :=
  [("type", .string "edge"),
    ("elems", .array [.object node, .object [("type", .string "node"), ("id", .string "b")]]),
    ("attrs", .object [("color", .string "red")])]

/-- An edge from a node with no attributes, written out. -/
def plainEdge : Json := .object (edgeFields (bareNode ++ [("attrs", .object [])]))

/-- The same edge with its type last and an entry more, from the same node with an entry less. -/
def edgeTypeLast : Json :=
  .object (("marks", .array [.bool true, .null]) :: (edgeFields bareNode).reverse)

/-- A subgraph around the edge. -/
def aroundEdge : List Layer := [.subgraph (some "s") [] []]

/-- The text of the subgraph with that edge, in a list. -/
def textTypeLast : String := (Json.array [nestJson aroundEdge edgeTypeLast]).text false

/-- The type comes last, a default is dropped inside of an edge, and an entry is added that edges do
not know: the document is read like the one with the statement written out. -/
theorem read_forms_typeLast :
    IsTagged plainEdge ∧
      SameForm (nestJson aroundEdge plainEdge) (nestJson aroundEdge edgeTypeLast) ∧
      readValue 126 (textTypeLast ++ "\x7d").toList =
        .ok (.array [nestJson aroundEdge edgeTypeLast], [closeBrace]) ∧
      (read (textAround textTypeLast)).toOption =
        some ⟨.digraph, false, none, [.subgraph (some "s") [.edge
          [.node "a" Attrs.empty, .node "b" Attrs.empty] (Attrs.ofPairs [("color", "red")])]]⟩ := by
  have htagged : IsTagged plainEdge := by simp [IsTagged, plainEdge, edgeFields]
  have hinside : ∀ {v w : Json}, FormStep v w →
      SameForm (nestJson aroundEdge v) (nestJson aroundEdge w) :=
    fun h => .rel _ _ (.part [("type", .string "subgraph"), ("id", .string "s")] [] [] [] rfl rfl h)
  have hdrop : FormStep plainEdge (.object (edgeFields bareNode)) :=
    .part [("type", .string "edge")] [("attrs", .object [("color", .string "red")])] [] [_] rfl rfl
      (.drop bareNode [] rfl (List.mem_singleton_self _) (by decide))
  have hadd : FormStep (.object (edgeFields bareNode))
      (.object (("marks", .array [.bool true, .null]) :: edgeFields bareNode)) :=
    .add [] _ _ rfl (by decide)
  have horder : FormStep (.object (("marks", .array [.bool true, .null]) :: edgeFields bareNode))
      edgeTypeLast :=
    .permute (.entries (by decide) (.cons _ (List.reverse_perm _).symm))
  have hform : SameForm (nestJson aroundEdge plainEdge) (nestJson aroundEdge edgeTypeLast) :=
    ((hinside hdrop).trans _ _ _ (hinside hadd)).trans _ _ _ (hinside horder)
  have hfree : (Json.array [nestJson aroundEdge edgeTypeLast]).NumberFree := by
    simp [aroundEdge, nestJson, Statement.listToJson, edgeTypeLast, edgeFields, bareNode,
      ofString?, NumberFree, NumberFreeItems, NumberFreeFields]
  have hdepth : (Json.array [nestJson aroundEdge edgeTypeLast]).depth ≤ 126 := by decide
  have htext : readValue 126 (textTypeLast ++ "\x7d").toList =
      .ok (.array [nestJson aroundEdge edgeTypeLast], [closeBrace]) := by
    have hread := gives_readValue _ hfree 126 [closeBrace]
    rw [ifFits, okIf_pos hdepth, map_ok] at hread
    rw [String.toList_append, textTypeLast, Json.text, if_neg Bool.false_ne_true,
      String.toList_ofList]
    exact hread
  have hbeside : ∀ u ∈ ([] ++ [] : List Json), IsTagged u := fun u hu => absurd hu List.not_mem_nil
  exact ⟨htagged, hform, htext, read_forms aroundEdge [] [] htagged hbeside hform htext⟩

end Document

end ClusterGraph
