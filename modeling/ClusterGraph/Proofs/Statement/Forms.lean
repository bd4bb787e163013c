import ClusterGraph.Proofs.Statement.Slots
import Mathlib.Logic.Relation

/-!
# Forms of a statement

The same statement can be written in several forms (`Statement.FormStep`): the entries of any
object can stand in any order, fields with their defaults can be left out, and entries that the
kind does not know can be added, in the statement itself and in the statements it holds.
`Statement.SameForm` joins any two values that such changes lead between. All forms of a statement
are read as the same statement, and when one is not accepted, none is
(`Statement.SameForm.readAlike`).

Orders are changed anywhere in a value, so what is shown of them is that every reader makes the
same of both values (`Json.Alike`). The other changes are made to statements, and only the reading
as a statement stays the same.
-/

namespace ClusterGraph

/-! ### Other orders -/

namespace Json

/-- The entries of one object in a value stand in another order. No name may be repeated among
them, since the last value of a repeated name is the one that counts. -/
inductive Permuted : Json → Json → Prop
  | entries {fields fields' : List (String × Json)} (hnodup : (fields.map Prod.fst).Nodup)
      (h : fields.Perm fields') : Permuted (object fields) (object fields')
  | item {v w : Json} (before after : List Json) (h : Permuted v w) :
      Permuted (array (before ++ v :: after)) (array (before ++ w :: after))
  | value {v w : Json} (before : List (String × Json)) (key : String)
      (after : List (String × Json)) (h : Permuted v w) :
      Permuted (object (before ++ (key, v) :: after)) (object (before ++ (key, w) :: after))

/-- Every reader of statements and of their fields makes the same of two values. -/
structure Alike (v w : Json) : Prop where
  text : ReadAlike asString v w
  text? : ReadAlike asString? v w
  attrs : ReadAlike Attrs.ofJson v w
  target : ReadAlike AttrTarget.ofJson v w
  /-- The values under the keyword of a target. -/
  unit : ∀ word, ReadAlike AttrTarget.ofJson (object [(word, v)]) (object [(word, w)])
  kind : ReadAlike StatementKind.ofJson v w
  stmts : ReadAlike Statement.listOfJson v w
  stmt : ReadAlike Statement.ofJson v w

theorem Alike.refl (v : Json) : Alike v v :=
  ⟨rfl, rfl, rfl, rfl, fun _ => rfl, rfl, rfl, rfl⟩

/-- A value that no reader can tell from another one is read alike in every field. -/
theorem Alike.fieldAlike {v w : Json} (h : Alike v w) (kind : StatementKind) (name : String) :
    kind.FieldAlike name v w := by
  cases kind with
  | node => exact ⟨fun _ => h.text, fun _ => h.attrs⟩
  | edge => exact ⟨fun _ => h.stmts, fun _ => h.attrs⟩
  | subgraph => exact ⟨fun _ => h.text?, fun _ => h.stmts⟩
  | attr => exact ⟨fun _ => h.target, fun _ => h.attrs⟩
  | inlineAttr => exact fun _ => h.attrs
  | unknown => exact trivial

end Json

/-! ### Attributes and targets -/

namespace Attrs

/-- Values under different names can be set in either order. -/
theorem insert_comm (attrs : Attrs) {key key' : String} (hne : key ≠ key') (value value' : String) :
    (attrs.insert key value).insert key' value' = (attrs.insert key' value').insert key value := by
  refine ext_get? fun name => ?_
  simp only [get?_insert]
  split
  · next h => rw [if_neg fun h' => hne (h'.symm.trans h)]
  · rfl

/-- Attributes do not depend on the order of their entries. -/
theorem toOption_ofFields_perm {fields fields' : List (String × Json)}
    (hnodup : (fields.map Prod.fst).Nodup) (h : fields.Perm fields') (attrs : Attrs) :
    (attrs.ofFields fields).toOption = (attrs.ofFields fields').toOption := by
  induction h generalizing attrs with
  | nil => rfl
  | cons field _ ih => simp only [ofFields, toOption_bind, ih hnodup.of_cons]
  | swap field field' rest =>
    have hne : field'.1 ≠ field.1 := by
      simp only [List.map_cons, List.nodup_cons, List.mem_cons, not_or] at hnodup
      exact hnodup.1.1
    simp only [ofFields, toOption_bind]
    rw [Option.bind_comm]
    simp only [insert_comm attrs hne]
  | trans hfirst _ ih ih' =>
    exact (ih hnodup attrs).trans (ih' ((hfirst.map Prod.fst).nodup_iff.1 hnodup) attrs)

/-- Attributes are read alike when one of their values is. -/
theorem toOption_ofFields_congr {v w : Json} (h : ReadAlike Json.asString v w) (key : String)
    (before after : List (String × Json)) (attrs : Attrs) :
    (attrs.ofFields (before ++ (key, v) :: after)).toOption =
      (attrs.ofFields (before ++ (key, w) :: after)).toOption := by
  induction before generalizing attrs with
  | nil => simp only [List.nil_append, ofFields, toOption_bind, h.toOption_eq]
  | cons field before ih => simp only [List.cons_append, ofFields, toOption_bind, ih]

end Attrs

/-- Only an object with one entry is a target. -/
theorem AttrTarget.ofJson_object_of_length_ne {fields : List (String × Json)}
    (h : fields.length ≠ 1) :
    ofJson (.object fields) = .error (.wrongValue .object "map with a single key") := by
  match fields with
  | [] => rfl
  | [_] => exact absurd rfl h
  | _ :: _ :: _ => rfl

/-! ### Arrays -/

namespace Statement

/-- A list of statements is read alike when each of them is. -/
theorem toOption_listOfItems_congr {vs ws : List Json} (h : List.Forall₂ (ReadAlike ofJson) vs ws) :
    (listOfItems vs).toOption = (listOfItems ws).toOption := by
  induction h with
  | nil => rfl
  | cons hitem _ ih => simp only [listOfItems, toOption_bind, hitem.toOption_eq, ih]

/-- The attributes that may stand behind other items of an array. -/
theorem toOption_attrsOfItem_congr {vs ws : List Json} (h : List.Forall₂ Json.Alike vs ws) :
    (attrsOfItem vs.head?).toOption = (attrsOfItem ws.head?).toOption := by
  cases h with
  | nil => rfl
  | cons hitem _ => exact hitem.attrs

/-- A statement of a kind is read alike from the items of two arrays when each of them is. -/
theorem toOption_ofItems_congr (kind : StatementKind) {vs ws : List Json}
    (h : List.Forall₂ Json.Alike vs ws) :
    (ofItems kind vs).toOption = (ofItems kind ws).toOption := by
  cases kind with
  | node =>
    change (nodeOfItems vs).toOption = (nodeOfItems ws).toOption
    cases h with
    | nil => rfl
    | cons hid hrest =>
      simp only [nodeOfItems, toOption_bind, hid.text.toOption_eq,
        toOption_attrsOfItem_congr hrest, hrest.length_eq]
  | edge =>
    change (edgeOfItems vs).toOption = (edgeOfItems ws).toOption
    cases h with
    | nil => rfl
    | cons helems hrest =>
      simp only [edgeOfItems, toOption_bind, helems.stmts.toOption_eq,
        toOption_attrsOfItem_congr hrest, hrest.length_eq]
  | subgraph =>
    change (subgraphOfItems vs).toOption = (subgraphOfItems ws).toOption
    cases h with
    | nil => rfl
    | cons hid hrest =>
      -- the statements may be missing behind the id
      cases hrest with
      | nil => simp only [subgraphOfItems, toOption_bind, hid.text?.toOption_eq]
      | cons hstmts hrest =>
        simp only [subgraphOfItems, toOption_bind, hid.text?.toOption_eq,
          hstmts.stmts.toOption_eq, hrest.length_eq]
  | attr =>
    change (attrOfItems vs).toOption = (attrOfItems ws).toOption
    cases h with
    | nil => rfl
    | cons htarget hrest =>
      simp only [attrOfItems, toOption_bind, htarget.target.toOption_eq,
        toOption_attrsOfItem_congr hrest, hrest.length_eq]
  | inlineAttr =>
    change (inlineAttrOfItems vs).toOption = (inlineAttrOfItems ws).toOption
    simp only [inlineAttrOfItems, toOption_bind, toOption_attrsOfItem_congr h, h.length_eq]
  | unknown =>
    change (checkLength vs.length 0 >>= fun _ => _).toOption = _
    rw [h.length_eq]
    rfl

/-- A statement written as an array is read alike when all of its items are. -/
theorem toOption_ofJson_array_congr {vs ws : List Json} (h : List.Forall₂ Json.Alike vs ws) :
    (ofJson (.array vs)).toOption = (ofJson (.array ws)).toOption := by
  cases h with
  | nil => rfl
  | cons htag hrest =>
    rw [ofJson, ofJson, toOption_bind, toOption_bind, htag.kind.toOption_eq]
    congr 1
    funext kind
    exact toOption_ofItems_congr kind hrest

/-! ### Objects -/

/-- A statement is read twice: for its kind first, and then for the fields of that kind. -/
theorem ofJson_object (fields : List (String × Json)) :
    ofJson (.object fields) =
      (StatementKind.ofFields none fields >>= fun kind => ofFields kind fields) := rfl

/-- A statement is read alike from two objects when its kind is, and each of its fields. -/
theorem toOption_ofJson_object_congr {fields fields' : List (String × Json)}
    (hkind : List.Forall₂ (ReadAlike StatementKind.ofJson) (valuesAt "type" fields)
      (valuesAt "type" fields'))
    (hfields : ∀ (kind : StatementKind) (name : String),
      List.Forall₂ (kind.FieldAlike name) (valuesAt name fields) (valuesAt name fields')) :
    (ofJson (.object fields)).toOption = (ofJson (.object fields')).toOption := by
  simp only [ofJson_object, toOption_bind, StatementKind.toOption_ofFields, slot_congr hkind,
    fun kind => ofFields_congr fun name (_ : name ∈ kind.fieldNames) => hfields kind name]

end Statement

namespace Json

/-- No array is read as a text, as attributes, as a target or as a kind. -/
theorem Alike.array {vs ws : List Json} (h : List.Forall₂ Alike vs ws) :
    Alike (array vs) (array ws) where
  text := rfl
  text? := rfl
  attrs := rfl
  target := rfl
  unit _ := rfl
  kind := rfl
  stmts := Statement.toOption_listOfItems_congr (h.imp fun _ _ halike => halike.stmt)
  stmt := Statement.toOption_ofJson_array_congr h

/-- No object is read as a text, as a list of statements or as a kind, and only the empty one is a
value under a keyword. -/
theorem Alike.object {fields fields' : List (String × Json)}
    (hlength : fields.length = fields'.length)
    (hattrs : ReadAlike Attrs.ofJson (object fields) (object fields'))
    (htarget : ReadAlike AttrTarget.ofJson (object fields) (object fields'))
    (hstmt : ReadAlike Statement.ofJson (object fields) (object fields')) :
    Alike (object fields) (object fields') where
  text := rfl
  text? := rfl
  attrs := hattrs
  target := htarget
  unit word := by
    -- only the empty object is a value under a keyword, so the entries are counted
    cases fields with
    | nil =>
      obtain rfl : fields' = [] := List.eq_nil_of_length_eq_zero hlength.symm
      rfl
    | cons field rest =>
      cases fields' with
      | nil => exact absurd hlength (Nat.succ_ne_zero _)
      | cons field' rest' => rfl
  kind := rfl
  stmts := rfl
  stmt := hstmt

/-- Nothing that is read depends on the order in which the entries of an object stand. -/
theorem Permuted.alike {v w : Json} (h : Permuted v w) : Alike v w := by
  induction h with
  | @entries fields fields' hnodup hperm =>
    have hvalues : ∀ name, valuesAt name fields = valuesAt name fields' :=
      fun _ => valuesAt_perm hnodup hperm
    refine .object hperm.length_eq (Attrs.toOption_ofFields_perm hnodup hperm Attrs.empty) ?_ ?_
    · -- A target has one entry, which stands in one order only.
      by_cases hlength : fields.length = 1
      · obtain ⟨field, rfl⟩ := List.length_eq_one_iff.1 hlength
        rw [List.singleton_perm.1 hperm]
        exact .refl _ _
      · have hlength' : fields'.length ≠ 1 := hperm.length_eq ▸ hlength
        rw [ReadAlike, AttrTarget.ofJson_object_of_length_ne hlength,
          AttrTarget.ofJson_object_of_length_ne hlength']
    · refine Statement.toOption_ofJson_object_congr ?_ fun kind name => ?_
      · rw [hvalues]
        exact forall₂_refl (.refl _) _
      · rw [hvalues]
        exact forall₂_refl (.refl kind name) _
  | item before after _ ih => exact .array (forall₂_append_cons .refl before ih after)
  | value before key after _ ih =>
    refine .object (by simp only [List.length_append, List.length_cons])
      (Attrs.toOption_ofFields_congr ih.text key before after Attrs.empty) ?_ ?_
    · by_cases hlength : before.length + after.length = 0
      · obtain ⟨hbefore, hafter⟩ := Nat.add_eq_zero_iff.1 hlength
        rw [List.eq_nil_of_length_eq_zero hbefore, List.eq_nil_of_length_eq_zero hafter]
        exact ih.unit key
      · have hne : ∀ v : Json, (before ++ (key, v) :: after).length ≠ 1 := by
          intro v
          rw [List.length_append, List.length_cons]
          omega
        rw [ReadAlike, AttrTarget.ofJson_object_of_length_ne (hne _),
          AttrTarget.ofJson_object_of_length_ne (hne _)]
    · exact Statement.toOption_ofJson_object_congr
        (forall₂_valuesAt (.refl _) before after fun _ => ih.kind)
        fun kind name => forall₂_valuesAt (.refl kind name) before after
          fun _ => ih.fieldAlike kind name

end Json

/-! ### Forms -/

/-- The field that holds further statements, and its place among the items behind the type. -/
def StatementKind.parts? : StatementKind → Option (String × Nat)
  | .edge => some ("elems", 0)
  | .subgraph => some ("stmts", 1)
  | _ => none

namespace Statement

/-- One change of the form of a statement. -/
inductive FormStep : Json → Json → Prop
  /-- Puts entries of an object into another order. -/
  | permute {v w : Json} (h : v.Permuted w) : FormStep v w
  /-- Drops a field with its default. -/
  | drop (before after : List (String × Json)) {kind : StatementKind} {key : String} {value : Json}
      (hkind : StatementKind.ofFields none (before ++ after) = .ok kind)
      (hdefault : (key, value) ∈ kind.defaults)
      (hkey : key ∉ (before ++ after).map Prod.fst) :
      FormStep (.object (before ++ (key, value) :: after)) (.object (before ++ after))
  /-- Adds an entry that the kind does not know. -/
  | add (before after : List (String × Json)) {kind : StatementKind} {key : String} (value : Json)
      (hkind : StatementKind.ofFields none (before ++ after) = .ok kind)
      (hkey : key ∉ "type" :: kind.fieldNames) :
      FormStep (.object (before ++ after)) (.object (before ++ (key, value) :: after))
  /-- Changes the form of a statement in the field of another one. -/
  | part (before after : List (String × Json)) {kind : StatementKind} {key : String} {place : Nat}
      (items items' : List Json) {v w : Json}
      (hkind : StatementKind.ofFields none (before ++ after) = .ok kind)
      (hparts : kind.parts? = some (key, place)) (h : FormStep v w) :
      FormStep (.object (before ++ (key, .array (items ++ v :: items')) :: after))
        (.object (before ++ (key, .array (items ++ w :: items')) :: after))
  /-- Changes the form of a statement in another one that is written as an array. -/
  | partOfItems (before after : List Json) {kind : StatementKind} {key : String} {tag : Json}
      (items items' : List Json) {v w : Json} (hkind : StatementKind.ofJson tag = .ok kind)
      (hparts : kind.parts? = some (key, before.length)) (h : FormStep v w) :
      FormStep (.array (tag :: before ++ .array (items ++ v :: items') :: after))
        (.array (tag :: before ++ .array (items ++ w :: items') :: after))

/-- Two values are forms of the same statement. -/
def SameForm : Json → Json → Prop := Relation.EqvGen FormStep

/-- A list of statements is read alike when one of them is. -/
theorem readAlike_listOfJson {v w : Json} (h : ReadAlike ofJson v w) (items items' : List Json) :
    ReadAlike listOfJson (.array (items ++ v :: items')) (.array (items ++ w :: items')) :=
  toOption_listOfItems_congr (forall₂_append_cons (.refl ofJson) items h items')

/-- A list of statements may stand in its field, in place of another one that is read alike. -/
theorem fieldAlike_of_parts {kind : StatementKind} {key : String} {place : Nat} {v w : Json}
    (hparts : kind.parts? = some (key, place)) (h : ReadAlike listOfJson v w) :
    kind.FieldAlike key v w := by
  cases kind <;> simp only [StatementKind.parts?, reduceCtorEq, Option.some.injEq,
    Prod.mk.injEq] at hparts
  case edge =>
    obtain ⟨rfl, -⟩ := hparts
    exact ⟨fun _ => h, fun hname => absurd hname (by decide)⟩
  case subgraph =>
    obtain ⟨rfl, -⟩ := hparts
    exact ⟨fun hname => absurd hname (by decide), fun _ => h⟩

/-- The same for an array, where the field stands in its place behind the type. -/
theorem toOption_ofItems_of_parts {kind : StatementKind} {key : String} {v w : Json}
    {before : List Json} (hparts : kind.parts? = some (key, before.length))
    (h : ReadAlike listOfJson v w) (after : List Json) :
    (ofItems kind (before ++ v :: after)).toOption =
      (ofItems kind (before ++ w :: after)).toOption := by
  cases kind <;> simp only [StatementKind.parts?, reduceCtorEq, Option.some.injEq,
    Prod.mk.injEq] at hparts
  case edge =>
    rw [List.eq_nil_of_length_eq_zero hparts.2.symm]
    change (edgeOfItems (v :: after)).toOption = (edgeOfItems (w :: after)).toOption
    simp only [edgeOfItems, toOption_bind, h.toOption_eq]
  case subgraph =>
    obtain ⟨id, rfl⟩ := List.length_eq_one_iff.1 hparts.2.symm
    change (subgraphOfItems (id :: v :: after)).toOption =
      (subgraphOfItems (id :: w :: after)).toOption
    simp only [subgraphOfItems, toOption_bind, h.toOption_eq]

/-- The type is no field, and so neither one with a default nor one that holds statements. -/
theorem ne_type_of_mem_defaults {kind : StatementKind} {key : String} {value : Json}
    (h : (key, value) ∈ kind.defaults) : key ≠ "type" := by
  have hnames : ∀ field ∈ kind.defaults, field.1 ≠ "type" := by
    cases kind <;> simp [StatementKind.defaults]
  exact hnames _ h

/-- No statements stand under the type. -/
theorem ne_type_of_parts {kind : StatementKind} {key : String} {place : Nat}
    (h : kind.parts? = some (key, place)) : key ≠ "type" := by
  have hname : ∀ field ∈ kind.parts?, field.1 ≠ "type" := by
    cases kind <;> simp [StatementKind.parts?]
  exact hname _ h

/-- By induction on how deep in the statement the change is made, it is read alike before and after.
-/
theorem FormStep.readAlike {v w : Json} (h : FormStep v w) : ReadAlike ofJson v w := by
  induction h with
  | permute h => exact h.alike.stmt
  | drop before after hkind hdefault hkey =>
    rw [ReadAlike, ofJson_object, ofJson_object,
      StatementKind.ofFields_append_cons (ne_type_of_mem_defaults hdefault), hkind]
    exact ofFields_default hdefault hkey
  | add before after value hkind hkey =>
    rw [List.mem_cons, not_or] at hkey
    rw [ReadAlike, ofJson_object, ofJson_object, StatementKind.ofFields_append_cons hkey.1, hkind]
    exact (ofFields_unknown hkey.2 value before after).symm
  | @part before after kind _ _ items items' _ _ hkind hparts _ ih =>
    have hne := ne_type_of_parts hparts
    rw [ReadAlike, ofJson_object, ofJson_object, StatementKind.ofFields_append_cons hne,
      StatementKind.ofFields_append_cons hne, hkind]
    refine ofFields_congr fun name _ => forall₂_valuesAt (.refl kind name) before after ?_
    rintro rfl
    exact fieldAlike_of_parts hparts (readAlike_listOfJson ih items items')
  | partOfItems before after items items' hkind hparts _ ih =>
    rw [ReadAlike, List.cons_append, List.cons_append, ofJson, ofJson, hkind]
    exact toOption_ofItems_of_parts hparts (readAlike_listOfJson ih items items') after

/-- All forms of a statement are read as the same statement, or none is accepted. -/
theorem SameForm.readAlike {v w : Json} (h : SameForm v w) : ReadAlike ofJson v w := by
  induction h with
  | rel _ _ h => exact h.readAlike
  | refl v => exact .refl ofJson v
  | symm _ _ _ ih => exact ih.symm
  | trans _ _ _ _ _ ih ih' => exact ih.trans ih'

/-! ### Types that are texts -/

/-- The value is an object in which no type is anything but a text. -/
def IsTagged : Json → Prop
  | .object fields => ∀ value, ("type", value) ∈ fields → ∃ name, value = .string name
  | _ => False

/-- An entry counts for the tag only when it is the type. -/
theorem isTagged_append_cons {key : String} {value : Json} {before after : List (String × Json)} :
    IsTagged (.object (before ++ (key, value) :: after)) ↔
      (key = "type" → ∃ name, value = .string name) ∧ IsTagged (.object (before ++ after)) := by
  simp only [IsTagged, List.mem_append, List.mem_cons, Prod.mk.injEq]
  constructor
  · intro h
    exact ⟨fun hkey => h value (.inr (.inl ⟨hkey.symm, rfl⟩)),
      fun v hv => h v (hv.imp_right .inr)⟩
  · rintro ⟨hvalue, hother⟩ v (hv | ⟨hkey, rfl⟩ | hv)
    · exact hother v (.inl hv)
    · exact hvalue hkey.symm
    · exact hother v (.inr hv)

/-- Entries under other names can be left out. -/
theorem isTagged_append_cons_of_ne {key : String} (hkey : key ≠ "type") {value : Json}
    {before after : List (String × Json)} :
    IsTagged (.object (before ++ (key, value) :: after)) ↔ IsTagged (.object (before ++ after)) :=
  isTagged_append_cons.trans (and_iff_right fun h => absurd h hkey)

/-- The tag is the same in any order. -/
theorem isTagged_iff_of_permuted {v w : Json} (h : v.Permuted w) : IsTagged v ↔ IsTagged w := by
  cases h with
  | entries _ hperm => exact forall_congr' fun value => imp_congr_left hperm.mem_iff
  | item before after _ => exact Iff.rfl
  | @value v w before key after h =>
    -- A text has no entries that could be reordered, so neither value is one.
    have hleft : ¬ ∃ name, v = .string name := by
      rintro ⟨name, rfl⟩
      cases h
    have hright : ¬ ∃ name, w = .string name := by
      rintro ⟨name, rfl⟩
      cases h
    rw [isTagged_append_cons, isTagged_append_cons, iff_false_intro hleft, iff_false_intro hright]

/-- A change of form does not touch the tag. -/
theorem FormStep.isTagged_iff {v w : Json} (h : FormStep v w) : IsTagged v ↔ IsTagged w := by
  cases h with
  | permute h => exact isTagged_iff_of_permuted h
  | drop _ _ _ hdefault _ => exact isTagged_append_cons_of_ne (ne_type_of_mem_defaults hdefault)
  | add _ _ _ _ hkey =>
    exact (isTagged_append_cons_of_ne fun h => hkey (h ▸ List.mem_cons_self)).symm
  | part _ _ _ _ _ hparts _ =>
    have hne := ne_type_of_parts hparts
    exact (isTagged_append_cons_of_ne hne).trans (isTagged_append_cons_of_ne hne).symm
  | partOfItems => exact Iff.rfl

/-- All forms of a statement have a tag, or none has. -/
theorem SameForm.isTagged_iff {v w : Json} (h : SameForm v w) : IsTagged v ↔ IsTagged w := by
  induction h with
  | rel _ _ h => exact h.isTagged_iff
  | refl _ => exact Iff.rfl
  | symm _ _ _ ih => exact ih.symm
  | trans _ _ _ _ _ ih ih' => exact ih.trans ih'

/-! ### Statements around a statement -/

/-- One statement around another one, with what stands before and behind that. -/
inductive Layer
  /-- A chain of edges. -/
  | edge (before after : List Statement) (attrs : Attrs)
  /-- A subgraph. -/
  | subgraph (id : Option String) (before after : List Statement)

/-- A statement with others around it, the innermost one last. -/
def nest : List Layer → Statement → Statement
  | [], stmt => stmt
  | .edge before after attrs :: layers, stmt => .edge (before ++ nest layers stmt :: after) attrs
  | .subgraph id before after :: layers, stmt =>
    .subgraph id (before ++ nest layers stmt :: after)

/-- The value of a statement with others around it, given the value of the statement. -/
def nestJson : List Layer → Json → Json
  | [], v => v
  | .edge before after attrs :: layers, v =>
    .object [("type", .string "edge"),
      ("elems", .array (listToJson before ++ nestJson layers v :: listToJson after)),
      ("attrs", attrs.toJson)]
  | .subgraph id before after :: layers, v =>
    .object [("type", .string "subgraph"), ("id", Json.ofString? id),
      ("stmts", .array (listToJson before ++ nestJson layers v :: listToJson after))]

/-- Statements are read one after another, wherever the list is split. -/
theorem listOfItems_append_cons (before : List Json) (v : Json) (after : List Json) :
    listOfItems (before ++ v :: after) = (do
      let first ← listOfItems before
      let stmt ← ofJson v
      let last ← listOfItems after
      .ok (first ++ stmt :: last)) := by
  induction before with
  | nil => rfl
  | cons u before ih =>
    simp only [List.cons_append, listOfItems, ih, bind_assoc, ok_bind]

/-- An edge around some elements is read when each of them is. -/
theorem ofJson_edge (elems : List Json) (attrs : Attrs) :
    ofJson (.object [("type", .string "edge"), ("elems", .array elems), ("attrs", attrs.toJson)]) =
      (listOfItems elems).map fun elems => .edge elems attrs := by
  change edgeOfFields none none _ = _
  simp only [edgeOfFields, listOfJson, takeField_none, Attrs.ofJson_toJson]
  cases listOfItems elems <;> rfl

/-- A subgraph around some statements is read when each of them is. -/
theorem ofJson_subgraph (id : Option String) (stmts : List Json) :
    ofJson (.object [("type", .string "subgraph"), ("id", Json.ofString? id),
        ("stmts", .array stmts)]) =
      (listOfItems stmts).map fun stmts => .subgraph id stmts := by
  change subgraphOfFields none none _ = _
  simp only [subgraphOfFields, listOfJson, takeField_none, Json.asString?_ofString?]
  cases listOfItems stmts <;> rfl

/-- A statement is read in the same way inside of others. -/
theorem ofJson_nestJson (layers : List Layer) (v : Json) :
    ofJson (nestJson layers v) = (ofJson v).map (nest layers) := by
  induction layers with
  | nil =>
    rw [nestJson]
    cases ofJson v <;> rfl
  | cons layer layers ih =>
    cases layer with
    | edge before after attrs =>
      rw [nestJson, ofJson_edge, listOfItems_append_cons, listOfItems_listToJson,
        listOfItems_listToJson, ih]
      cases ofJson v <;> rfl
    | subgraph id before after =>
      rw [nestJson, ofJson_subgraph, listOfItems_append_cons, listOfItems_listToJson,
        listOfItems_listToJson, ih]
      cases ofJson v <;> rfl

/-- Edges and subgraphs are put around a statement with their own tags. -/
theorem isTagged_nestJson (layers : List Layer) {v : Json} (h : IsTagged v) :
    IsTagged (nestJson layers v) := by
  cases layers with
  | nil => exact h
  | cons layer layers => cases layer <;> simp [nestJson, IsTagged]

end Statement

end ClusterGraph
