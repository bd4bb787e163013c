import ClusterGraph.Proofs.Statement.ReadBack
import Mathlib.Data.List.Forall2

/-!
# What the fields of a statement depend on

The fields of a statement are read in the order of the text, with one slot for each field that may
be filled once. Whether the reading succeeds, and with what, does not depend on that order: it
comes from the values under each name alone, slot by slot (`toOption_twoSlots`). So a statement is
read alike from two lists of entries when the values under the names of its fields are read alike
(`Statement.ofFields_congr`), entries with other names can be left out
(`Statement.ofFields_unknown`), and so can a field with its default (`Statement.ofFields_default`).
Failures are not told apart here: which one is reported does depend on the order.
-/

namespace ClusterGraph

section Outcomes

variable {ε α β : Type}

/-- Two steps succeed alike when errors are not told apart. -/
theorem toOption_bind (x : Except ε α) (f : α → Except ε β) :
    (x >>= f).toOption = x.toOption.bind fun a => (f a).toOption := by
  cases x <;> rfl

/-- A change of the value has no part in whether there is one. -/
theorem toOption_map (f : α → β) (x : Except ε α) : (x.map f).toOption = x.toOption.map f := by
  cases x <;> rfl

end Outcomes

/-! ### Values under a name -/

/-- The values under a name, in the order of the text. -/
def valuesAt (name : String) (fields : List (String × Json)) : List Json :=
  fields.filterMap fun field => if field.1 = name then some field.2 else none

section Values

variable {name key : String} {value : Json} {fields rest : List (String × Json)}

@[simp] theorem valuesAt_nil : valuesAt name [] = [] := rfl

@[simp] theorem valuesAt_cons_self : valuesAt name ((name, value) :: rest) =
    value :: valuesAt name rest := by
  simp [valuesAt]

/-- An entry with another name is passed over. -/
theorem valuesAt_cons_ne (h : key ≠ name) : valuesAt name ((key, value) :: rest) =
    valuesAt name rest := by
  simp [valuesAt, h]

@[simp] theorem valuesAt_append : valuesAt name (fields ++ rest) =
    valuesAt name fields ++ valuesAt name rest :=
  List.filterMap_append

/-- The values under a name are those of the entries with that name. -/
theorem mem_valuesAt : value ∈ valuesAt name fields ↔ (name, value) ∈ fields := by
  simp only [valuesAt, List.mem_filterMap]
  constructor
  · rintro ⟨⟨k, v⟩, hmem, h⟩
    obtain ⟨rfl, rfl⟩ : k = name ∧ v = value := by simpa using h
    exact hmem
  · exact fun h => ⟨(name, value), h, if_pos rfl⟩

/-- There is no value under a name that no entry has. -/
theorem valuesAt_eq_nil (h : name ∉ fields.map Prod.fst) : valuesAt name fields = [] :=
  List.eq_nil_iff_forall_not_mem.2 fun _ hmem =>
    h (List.mem_map_of_mem (f := Prod.fst) (mem_valuesAt.1 hmem))

/-- Entries with another name can be left out. -/
theorem valuesAt_filter_ne {other : String} (h : name ≠ other) :
    valuesAt name (fields.filter fun field => field.1 ≠ other) = valuesAt name fields := by
  rw [valuesAt, valuesAt, List.filterMap_filter]
  refine List.filterMap_congr fun field _ => ?_
  split
  · rfl
  · next hother => exact (if_neg fun hname => hother (by simpa [hname] using h)).symm

/-- Among entries with different names, at most one has a given name, wherever it stands. -/
theorem valuesAt_perm {fields' : List (String × Json)} (hnodup : (fields.map Prod.fst).Nodup)
    (h : fields.Perm fields') : valuesAt name fields = valuesAt name fields' := by
  induction h with
  | nil => rfl
  | cons field _ ih =>
    have hrest := ih hnodup.of_cons
    simp only [valuesAt, List.filterMap_cons] at hrest ⊢
    split <;> simp only [hrest]
  | swap field field' rest =>
    obtain ⟨key, value⟩ := field
    obtain ⟨key', value'⟩ := field'
    have hne : key' ≠ key := by
      simp only [List.map_cons, List.nodup_cons, List.mem_cons, not_or] at hnodup
      exact hnodup.1.1
    -- The names differ, so one of the two entries at most is asked for.
    by_cases hkey : key = name
    · rw [valuesAt_cons_ne (hkey ▸ hne), hkey, valuesAt_cons_self, valuesAt_cons_self,
        valuesAt_cons_ne (hkey ▸ hne)]
    · by_cases hkey' : key' = name
      · rw [hkey', valuesAt_cons_self, valuesAt_cons_ne hkey, valuesAt_cons_ne hkey,
          valuesAt_cons_self]
      · rw [valuesAt_cons_ne hkey', valuesAt_cons_ne hkey, valuesAt_cons_ne hkey,
          valuesAt_cons_ne hkey']
  | trans hfirst _ ih ih' =>
    exact (ih hnodup).trans (ih' ((hfirst.map Prod.fst).nodup_iff.1 hnodup))

/-- Every value stands for itself. -/
theorem forall₂_refl {R : Json → Json → Prop} (hrefl : ∀ v, R v v) (vs : List Json) :
    List.Forall₂ R vs vs :=
  List.forall₂_same.2 fun v _ => hrefl v

/-- One value of a list stands for another one. -/
theorem forall₂_append_cons {R : Json → Json → Prop} (hrefl : ∀ v, R v v) (before : List Json)
    {v w : Json} (h : R v w) (after : List Json) :
    List.Forall₂ R (before ++ v :: after) (before ++ w :: after) :=
  List.rel_append (forall₂_refl hrefl before) (.cons h (forall₂_refl hrefl after))

/-- A value that stands for another one under a name stands for it among the values there. -/
theorem forall₂_valuesAt {R : Json → Json → Prop} (hrefl : ∀ v, R v v) {v w : Json}
    (before after : List (String × Json)) (h : key = name → R v w) :
    List.Forall₂ R (valuesAt name (before ++ (key, v) :: after))
      (valuesAt name (before ++ (key, w) :: after)) := by
  rw [valuesAt_append, valuesAt_append]
  by_cases hkey : key = name
  · subst hkey
    rw [valuesAt_cons_self, valuesAt_cons_self]
    exact forall₂_append_cons hrefl _ (h rfl) _
  · rw [valuesAt_cons_ne hkey, valuesAt_cons_ne hkey]
    exact forall₂_refl hrefl _

end Values

/-! ### Slots -/

section Slots

variable {α β γ : Type}

/-- A reader makes the same of two values, or fails on both. -/
def ReadAlike (read : Json → Except Mismatch α) (v w : Json) : Prop :=
  (read v).toOption = (read w).toOption

theorem ReadAlike.refl (read : Json → Except Mismatch α) (v : Json) : ReadAlike read v v := rfl

theorem ReadAlike.toOption_eq {read : Json → Except Mismatch α} {v w : Json}
    (h : ReadAlike read v w) : (read v).toOption = (read w).toOption := h

/-- A field is refused when its slot is filled, whatever its value is. -/
theorem takeField_bind {name : String} {seen : Option α} {value : Except Mismatch α}
    {f : Option α → Except Mismatch β} : (takeField name seen value >>= f) =
      match seen with
      | some _ => .error (.repeatedField name)
      | none => value >>= fun a => f (some a) := by
  cases seen with
  | some a => rfl
  | none => cases value <;> rfl

/-- Fills a slot, which may be filled already, with the values of a field: one at most. -/
def slot (read : Json → Except Mismatch α) : Option α → List Json → Option (Option α)
  | seen, [] => some seen
  | none, value :: rest => (read value).toOption.bind fun a => slot read (some a) rest
  | some _, _ :: _ => none

/-- Without values a slot stays as it is. -/
theorem slot_nil (read : Json → Except Mismatch α) (seen : Option α) :
    slot read seen [] = some seen := by
  cases seen <;> rfl

/-- One value fills an empty slot when it can be read. -/
theorem slot_singleton (read : Json → Except Mismatch α) (value : Json) :
    slot read none [value] = (read value).toOption.map some := by
  rw [slot, Option.map_eq_bind]
  rfl

/-- Filling a slot is what taking the field comes to when errors are not told apart. -/
theorem slot_cons {read : Json → Except Mismatch α} (name : String) (seen : Option α)
    (value : Json) (rest : List Json) :
    slot read seen (value :: rest) =
      (takeField name seen (read value)).toOption.bind fun seen => slot read seen rest := by
  cases seen with
  | some a => rfl
  | none =>
    rw [slot, Statement.takeField_none, toOption_map]
    cases (read value).toOption <;> rfl

/-- Slots are filled alike by values that are read alike. -/
theorem slot_congr {read : Json → Except Mismatch α} {vs ws : List Json}
    (h : List.Forall₂ (ReadAlike read) vs ws) (seen : Option α) :
    slot read seen vs = slot read seen ws := by
  induction h generalizing seen with
  | nil => rfl
  | cons hvalue _ ih =>
    cases seen with
    | some a => rfl
    | none => simp only [slot, hvalue.toOption_eq, ih]

/-- A reader with one slot gives what its field comes to. -/
theorem toOption_oneSlot (name : String) (read : Json → Except Mismatch α)
    (run : Option α → List (String × Json) → Except Mismatch γ)
    (hfield : ∀ seen value rest, run seen ((name, value) :: rest) =
      takeField name seen (read value) >>= fun seen => run seen rest)
    (hother : ∀ seen key value rest, key ≠ name → run seen ((key, value) :: rest) = run seen rest)
    (seen : Option α) (fields : List (String × Json)) :
    (run seen fields).toOption =
      (slot read seen (valuesAt name fields)).bind fun seen => (run seen []).toOption := by
  induction fields generalizing seen with
  | nil => rw [valuesAt_nil, slot_nil, Option.bind_some]
  | cons field rest ih =>
    obtain ⟨key, value⟩ := field
    by_cases hkey : key = name
    · subst hkey
      rw [hfield, toOption_bind, valuesAt_cons_self, slot_cons key, Option.bind_assoc]
      simp only [ih]
    · rw [hother seen key value rest hkey, valuesAt_cons_ne hkey, ih]

/-- A reader with two slots gives what its two fields come to, one after the other, in whatever
order their entries stand. -/
theorem toOption_twoSlots (nameA nameB : String) (readA : Json → Except Mismatch α)
    (readB : Json → Except Mismatch β)
    (run : Option α → Option β → List (String × Json) → Except Mismatch γ)
    (hfirst : ∀ a b value rest, run a b ((nameA, value) :: rest) =
      takeField nameA a (readA value) >>= fun a => run a b rest)
    (hsecond : ∀ a b value rest, run a b ((nameB, value) :: rest) =
      takeField nameB b (readB value) >>= fun b => run a b rest)
    (hother : ∀ a b key value rest, key ≠ nameA → key ≠ nameB →
      run a b ((key, value) :: rest) = run a b rest)
    (hne : nameA ≠ nameB) (a : Option α) (b : Option β) (fields : List (String × Json)) :
    (run a b fields).toOption =
      (slot readA a (valuesAt nameA fields)).bind fun a =>
        (slot readB b (valuesAt nameB fields)).bind fun b => (run a b []).toOption := by
  induction fields generalizing a b with
  | nil => simp only [valuesAt_nil, slot_nil, Option.bind_some]
  | cons field rest ih =>
    obtain ⟨key, value⟩ := field
    by_cases hkey : key = nameA
    · subst hkey
      rw [hfirst, toOption_bind, valuesAt_cons_self, valuesAt_cons_ne hne, slot_cons key,
        Option.bind_assoc]
      simp only [ih]
    · by_cases hkey' : key = nameB
      · subst hkey'
        rw [hsecond, toOption_bind, valuesAt_cons_self, valuesAt_cons_ne hkey]
        simp only [slot_cons key, ih, Option.bind_assoc]
        -- Here the second slot is filled first; neither looks at the other.
        exact Option.bind_comm _ _
      · rw [hother a b key value rest hkey hkey', valuesAt_cons_ne hkey, valuesAt_cons_ne hkey', ih]

end Slots

/-! ### Kinds of statements -/

namespace StatementKind

/-- The names of the fields of statements of a kind. -/
def fieldNames : StatementKind → List String
  | node => ["id", "attrs"]
  | edge => ["elems", "attrs"]
  | subgraph => ["id", "stmts"]
  | attr => ["attrType", "attrs"]
  | inlineAttr => ["attrs"]
  | unknown => []

/-- The fields that may be missing, with the values that they have then. -/
def defaults : StatementKind → List (String × Json)
  | node => [("attrs", .object [])]
  | edge => [("elems", .array []), ("attrs", .object [])]
  | subgraph => [("id", .null), ("stmts", .array [])]
  | attr => [("attrs", .object [])]
  | inlineAttr => [("attrs", .object [])]
  | unknown => []

/-- As values of a field of statements of a kind, two values are read alike. -/
def FieldAlike (kind : StatementKind) (name : String) (v w : Json) : Prop :=
  match kind with
  | node =>
    (name = "id" → ReadAlike Json.asString v w) ∧ (name = "attrs" → ReadAlike Attrs.ofJson v w)
  | edge =>
    (name = "elems" → ReadAlike Statement.listOfJson v w) ∧
      (name = "attrs" → ReadAlike Attrs.ofJson v w)
  | subgraph =>
    (name = "id" → ReadAlike Json.asString? v w) ∧
      (name = "stmts" → ReadAlike Statement.listOfJson v w)
  | attr =>
    (name = "attrType" → ReadAlike AttrTarget.ofJson v w) ∧
      (name = "attrs" → ReadAlike Attrs.ofJson v w)
  | inlineAttr => name = "attrs" → ReadAlike Attrs.ofJson v w
  | unknown => True

/-- Every value is read like itself. -/
theorem FieldAlike.refl (kind : StatementKind) (name : String) (v : Json) :
    kind.FieldAlike name v v := by
  cases kind <;> simp [FieldAlike, ReadAlike]

/-- The reader of kinds looks at the entries named `type` and passes over the others. -/
theorem ofFields_cons (seen : Option StatementKind) (key : String) (value : Json)
    (rest : List (String × Json)) :
    ofFields seen ((key, value) :: rest) =
      if key = "type" then takeField "type" seen (ofJson value) >>= fun seen => ofFields seen rest
      else ofFields seen rest := by
  cases seen <;> simp [ofFields, takeField_bind]

/-- The kind of a statement is what the one value under `type` is read as. -/
theorem toOption_ofFields (fields : List (String × Json)) :
    (ofFields none fields).toOption =
      (slot ofJson none (valuesAt "type" fields)).bind fun kind => kind := by
  have hslot := toOption_oneSlot "type" ofJson ofFields
    (fun seen value rest => by rw [ofFields_cons, if_pos rfl])
    (fun seen key value rest hkey => by rw [ofFields_cons, if_neg hkey]) none fields
  rw [hslot]
  congr 1
  funext kind
  cases kind <;> rfl

/-- Entries with other names say nothing about the kind. -/
theorem ofFields_append_cons {key : String} (hkey : key ≠ "type") (value : Json)
    (seen : Option StatementKind) (before after : List (String × Json)) :
    ofFields seen (before ++ (key, value) :: after) = ofFields seen (before ++ after) := by
  induction before generalizing seen with
  | nil => rw [List.nil_append, List.nil_append, ofFields_cons, if_neg hkey]
  | cons field before ih =>
    obtain ⟨name, v⟩ := field
    simp only [List.cons_append, ofFields_cons, ih]

end StatementKind

namespace Statement

/-- A node statement is made of the slots for `id` and `attrs`. -/
theorem toOption_nodeOfFields (fields : List (String × Json)) :
    (ofFields .node fields).toOption =
      (slot Json.asString none (valuesAt "id" fields)).bind fun id =>
        (slot Attrs.ofJson none (valuesAt "attrs" fields)).bind fun attrs =>
          (nodeOfFields id attrs []).toOption :=
  toOption_twoSlots "id" "attrs" Json.asString Attrs.ofJson nodeOfFields
    (fun _ _ _ _ => by simp [nodeOfFields])
    (fun _ _ _ _ => by simp [nodeOfFields])
    (fun _ _ _ _ _ hid hattrs => by simp [nodeOfFields, hid, hattrs])
    (by decide) none none fields

/-- An attribute statement is made of the slots for `attrType` and `attrs`. -/
theorem toOption_attrOfFields (fields : List (String × Json)) :
    (ofFields .attr fields).toOption =
      (slot AttrTarget.ofJson none (valuesAt "attrType" fields)).bind fun target =>
        (slot Attrs.ofJson none (valuesAt "attrs" fields)).bind fun attrs =>
          (attrOfFields target attrs []).toOption :=
  toOption_twoSlots "attrType" "attrs" AttrTarget.ofJson Attrs.ofJson attrOfFields
    (fun _ _ _ _ => by simp [attrOfFields])
    (fun _ _ _ _ => by simp [attrOfFields])
    (fun _ _ _ _ _ htarget hattrs => by simp [attrOfFields, htarget, hattrs])
    (by decide) none none fields

/-- An edge statement is made of the slots for `elems` and `attrs`, either of which may be empty. -/
theorem toOption_edgeOfFields (fields : List (String × Json)) :
    (ofFields .edge fields).toOption =
      (slot listOfJson none (valuesAt "elems" fields)).bind fun elems =>
        (slot Attrs.ofJson none (valuesAt "attrs" fields)).bind fun attrs =>
          some (.edge (elems.getD []) (attrs.getD Attrs.empty)) := by
  have hslots := toOption_twoSlots "elems" "attrs" listOfJson Attrs.ofJson edgeOfFields
    (fun elems _ _ _ => by cases elems <;> simp [edgeOfFields, takeField_bind])
    (fun _ _ _ _ => by simp [edgeOfFields])
    (fun _ _ _ _ _ helems hattrs => by simp [edgeOfFields, helems, hattrs])
    (by decide) none none fields
  simp only [edgeOfFields] at hslots
  exact hslots

/-- A subgraph is made of the slots for `id` and `stmts`, either of which may be empty. -/
theorem toOption_subgraphOfFields (fields : List (String × Json)) :
    (ofFields .subgraph fields).toOption =
      (slot Json.asString? none (valuesAt "id" fields)).bind fun id =>
        (slot listOfJson none (valuesAt "stmts" fields)).bind fun stmts =>
          some (.subgraph (id.getD none) (stmts.getD [])) := by
  have hslots := toOption_twoSlots "id" "stmts" Json.asString? listOfJson subgraphOfFields
    (fun _ _ _ _ => by simp [subgraphOfFields])
    (fun _ stmts _ _ => by cases stmts <;> simp [subgraphOfFields, takeField_bind])
    (fun _ _ _ _ _ hid hstmts => by simp [subgraphOfFields, hid, hstmts])
    (by decide) none none fields
  simp only [subgraphOfFields] at hslots
  exact hslots

/-- An inline attribute statement is made of the slot for `attrs`, which may be empty. -/
theorem toOption_inlineAttrOfFields (fields : List (String × Json)) :
    (ofFields .inlineAttr fields).toOption =
      (slot Attrs.ofJson none (valuesAt "attrs" fields)).bind fun attrs =>
        some (.inlineAttr (attrs.getD Attrs.empty)) :=
  toOption_oneSlot "attrs" Attrs.ofJson inlineAttrOfFields
    (fun _ _ _ => by simp [inlineAttrOfFields])
    (fun _ _ _ _ hattrs => by simp [inlineAttrOfFields, hattrs]) none fields

/-- A statement is read alike from two lists of entries when each of its fields is. -/
theorem ofFields_congr {kind : StatementKind} {fields fields' : List (String × Json)}
    (h : ∀ name ∈ kind.fieldNames,
      List.Forall₂ (kind.FieldAlike name) (valuesAt name fields) (valuesAt name fields')) :
    (ofFields kind fields).toOption = (ofFields kind fields').toOption := by
  cases kind with
  | node =>
    have hid := (h "id" (by decide)).imp fun _ _ halike => halike.1 rfl
    have hattrs := (h "attrs" (by decide)).imp fun _ _ halike => halike.2 rfl
    rw [toOption_nodeOfFields, toOption_nodeOfFields, slot_congr hid, slot_congr hattrs]
  | edge =>
    have helems := (h "elems" (by decide)).imp fun _ _ halike => halike.1 rfl
    have hattrs := (h "attrs" (by decide)).imp fun _ _ halike => halike.2 rfl
    rw [toOption_edgeOfFields, toOption_edgeOfFields, slot_congr helems, slot_congr hattrs]
  | subgraph =>
    have hid := (h "id" (by decide)).imp fun _ _ halike => halike.1 rfl
    have hstmts := (h "stmts" (by decide)).imp fun _ _ halike => halike.2 rfl
    rw [toOption_subgraphOfFields, toOption_subgraphOfFields, slot_congr hid, slot_congr hstmts]
  | attr =>
    have htarget := (h "attrType" (by decide)).imp fun _ _ halike => halike.1 rfl
    have hattrs := (h "attrs" (by decide)).imp fun _ _ halike => halike.2 rfl
    rw [toOption_attrOfFields, toOption_attrOfFields, slot_congr htarget, slot_congr hattrs]
  | inlineAttr =>
    have hattrs := (h "attrs" (by decide)).imp fun _ _ halike => halike rfl
    rw [toOption_inlineAttrOfFields, toOption_inlineAttrOfFields, slot_congr hattrs]
  | unknown => rfl

/-- A statement does not depend on entries that its kind has no field for. -/
theorem ofFields_unknown {kind : StatementKind} {key : String} (hkey : key ∉ kind.fieldNames)
    (value : Json) (before after : List (String × Json)) :
    (ofFields kind (before ++ (key, value) :: after)).toOption =
      (ofFields kind (before ++ after)).toOption := by
  refine ofFields_congr fun name hname => ?_
  have hne : key ≠ name := fun h => hkey (h ▸ hname)
  rw [valuesAt_append, valuesAt_append, valuesAt_cons_ne hne]
  exact forall₂_refl (.refl kind name) _

/-- A field may be missing when it has its default. -/
theorem ofFields_default {kind : StatementKind} {key : String} {value : Json}
    (hdefault : (key, value) ∈ kind.defaults) {before after : List (String × Json)}
    (hkey : key ∉ (before ++ after).map Prod.fst) :
    (ofFields kind (before ++ (key, value) :: after)).toOption =
      (ofFields kind (before ++ after)).toOption := by
  -- the slot of the key has the one value, or none; the other slots see no difference
  have hmissing : valuesAt key (before ++ after) = [] := valuesAt_eq_nil hkey
  have hpresent : valuesAt key (before ++ (key, value) :: after) = [value] := by
    rw [valuesAt_append, List.append_eq_nil_iff] at hmissing
    rw [valuesAt_append, valuesAt_cons_self, hmissing.1, hmissing.2, List.nil_append]
  have hother : ∀ {name : String}, key ≠ name →
      valuesAt name (before ++ (key, value) :: after) = valuesAt name (before ++ after) := by
    intro name hne
    rw [valuesAt_append, valuesAt_append, valuesAt_cons_ne hne]
  cases kind <;>
    simp only [StatementKind.defaults, List.mem_cons, List.not_mem_nil, or_false,
      Prod.mk.injEq] at hdefault
  case node =>
    obtain ⟨rfl, rfl⟩ := hdefault
    rw [toOption_nodeOfFields, toOption_nodeOfFields, hother (by decide), hpresent, hmissing,
      slot_singleton, slot_nil]
    rfl
  case edge =>
    rw [toOption_edgeOfFields, toOption_edgeOfFields]
    obtain ⟨rfl, rfl⟩ | ⟨rfl, rfl⟩ := hdefault
    · rw [hpresent, hmissing, hother (by decide), slot_singleton, slot_nil, listOfJson]
      rfl
    · rw [hpresent, hmissing, hother (by decide), slot_singleton, slot_nil]
      rfl
  case subgraph =>
    rw [toOption_subgraphOfFields, toOption_subgraphOfFields]
    obtain ⟨rfl, rfl⟩ | ⟨rfl, rfl⟩ := hdefault
    · rw [hpresent, hmissing, hother (by decide), slot_singleton, slot_nil]
      rfl
    · rw [hpresent, hmissing, hother (by decide), slot_singleton, slot_nil, listOfJson]
      rfl
  case attr =>
    obtain ⟨rfl, rfl⟩ := hdefault
    rw [toOption_attrOfFields, toOption_attrOfFields, hother (by decide), hpresent, hmissing,
      slot_singleton, slot_nil]
    rfl
  case inlineAttr =>
    obtain ⟨rfl, rfl⟩ := hdefault
    rw [toOption_inlineAttrOfFields, toOption_inlineAttrOfFields, hpresent, hmissing,
      slot_singleton, slot_nil]
    rfl

end Statement

end ClusterGraph
