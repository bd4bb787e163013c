import ClusterGraph.Json.Reader
import ClusterGraph.Json.Writer

/-!
# Reading what stands between brackets

`Gives scan cs outcome` says what a scanner makes of a text, whatever follows the text: the scanner
succeeds and leaves exactly what follows, or it fails in the same way each time. When a scanner for
items gives an outcome for the text of each item, reading an array gives the outcomes in turn for
the items with commas between them (`gives_readItems`), and likewise for the entries of an object
(`gives_readFields`). Both come from the steps of a fold, so that readers with accumulators of
their own can be treated in the same way (`foldItems_compactItems`, `foldFields_compactFields`).
-/

namespace ClusterGraph

/-! ### Steps that may fail -/

section Steps

variable {ε α β : Type}

@[simp] theorem ok_bind (a : α) (f : α → Except ε β) : (Except.ok a >>= f) = f a := rfl

@[simp] theorem error_bind (e : ε) (f : α → Except ε β) :
    (Except.error e >>= f) = Except.error e := rfl

/-- Two steps succeed when the first one does and the second one does with its value. -/
theorem bind_eq_ok_iff {x : Except ε α} {f : α → Except ε β} {b : β} :
    (x >>= f) = .ok b ↔ ∃ a, x = .ok a ∧ f a = .ok b := by
  cases x with
  | error e => exact ⟨nofun, nofun⟩
  | ok a => exact ⟨fun h => ⟨a, rfl, h⟩, fun ⟨_, ha, h⟩ => by cases ha; exact h⟩

@[simp] theorem map_ok (f : α → β) (a : α) :
    (Except.ok a : Except ε α).map f = Except.ok (f a) := rfl

@[simp] theorem map_error (f : α → β) (e : ε) :
    (Except.error e : Except ε α).map f = Except.error e := rfl

/-- What stands behind a text is handed on. -/
theorem map_bind_pair {γ : Type} (x : Except ε α) (f : α → β) (rest : γ) :
    ((x.map fun a => (a, rest)) >>= fun p => Except.ok (f p.1, p.2)) =
      (x >>= fun a => Except.ok (f a)).map fun b => (b, rest) := by
  cases x <;> rfl

/-- Something, if a condition is met; otherwise the text is malformed. -/
def okIf (p : Prop) [Decidable p] (a : α) : Except ReadError α :=
  if p then .ok a else .error .malformed

theorem okIf_pos {p : Prop} [Decidable p] (h : p) (a : α) : okIf p a = .ok a := if_pos h

/-- The text is malformed unless the condition is met. -/
theorem okIf_neg {p : Prop} [Decidable p] (h : ¬ p) (a : α) : okIf p a = .error .malformed :=
  if_neg h

/-- The same condition can be put in other words. -/
theorem okIf_congr {p q : Prop} [Decidable p] [Decidable q] (h : p ↔ q) (a : α) :
    okIf p a = okIf q a := by
  simp only [okIf, h]

/-- The condition stays when the value is changed. -/
theorem map_okIf (f : α → β) (p : Prop) [Decidable p] (a : α) :
    (okIf p a).map f = okIf p (f a) := by
  by_cases h : p
  · rw [okIf_pos h, okIf_pos h, map_ok]
  · rw [okIf_neg h, okIf_neg h, map_error]

/-- Two steps in a row are under both conditions. -/
theorem okIf_bind {p q : Prop} [Decidable p] [Decidable q] {a : α} {b : β}
    {f : α → Except ReadError β} (hf : f a = okIf q b) :
    (okIf p a >>= f) = okIf (p ∧ q) b := by
  by_cases h : p
  · rw [okIf_pos h, ok_bind, hf, okIf_congr (and_iff_right h)]
  · rw [okIf_neg h, error_bind, okIf_neg fun hpq => h hpq.1]

/-- A step that always succeeds adds no condition. -/
theorem okIf_bind_ok {p : Prop} [Decidable p] {a : α} {b : β} {f : α → Except ReadError β}
    (hf : f a = .ok b) : (okIf p a >>= f) = okIf p b := by
  by_cases h : p
  · rw [okIf_pos h, okIf_pos h, ok_bind, hf]
  · rw [okIf_neg h, okIf_neg h, error_bind]

/-- Steps under a condition each are taken when all conditions are met. -/
theorem mapM_okIf (p : α → Prop) [DecidablePred p] (f : α → β) (l : List α) :
    (l.mapM fun a => okIf (p a) (f a)) = okIf (∀ a ∈ l, p a) (l.map f) := by
  induction l with
  | nil => rw [okIf_pos fun a ha => absurd ha List.not_mem_nil]; rfl
  | cons a rest ih =>
    rw [List.mapM_cons, ih, okIf_bind (q := ∀ a ∈ rest, p a) (b := f a :: rest.map f)]
    · exact okIf_congr List.forall_mem_cons.symm _
    · exact okIf_bind_ok rfl

/-- Values that are checked one by one are given back when all pass. -/
theorem mapM_okIf_self (p : α → Prop) [DecidablePred p] (l : List α) :
    (l.mapM fun a => okIf (p a) a) = okIf (∀ a ∈ l, p a) l := by
  have h := mapM_okIf p id l
  rwa [List.map_id] at h

end Steps

namespace Json

variable {α β σ : Type}

/-! ### Outcomes of scanners -/

/-- What a scanner makes of a text, whatever follows the text. -/
def Gives (scan : Scan α) (cs : List Char) (outcome : Except ReadError α) : Prop :=
  ∀ rest, scan (cs ++ rest) = outcome.map fun a => (a, rest)

/-- The characters that arrays and objects are marked with, and those that their values can start
with when they are not numbers. -/
def wordStarts : List Char := [',', ':', ']', closeBrace, '[', openBrace, '"', 'n', 't', 'f']

/-- A spacing that drops none of the characters that words start with. -/
def Spacing.KeepsWords (sp : Spacing) : Prop :=
  ∀ c ∈ wordStarts, ∀ rest, sp.skip (c :: rest) = c :: rest

/-- No blank is found where a word starts. -/
theorem Spacing.KeepsWords.skip_cons {sp : Spacing} (h : sp.KeepsWords) {c : Char}
    (hc : c ∈ wordStarts) {rest : List Char} : sp.skip (c :: rest) = c :: rest := h c hc rest

/-- The blanks of JSON start no word. -/
theorem keepsWords_spacing : spacing.KeepsWords := by
  intro c hc rest
  have hblanks : wordStarts.all fun c => !isBlank c := by decide
  have hblank : isBlank c = false := by simpa using List.all_eq_true.1 hblanks c hc
  simp [spacing, skipBlanks, hblank]

/-- An item or a key can start here: the first character starts a word and closes no bracket. -/
def StartsWord (cs : List Char) : Prop :=
  ∃ c rest, cs = c :: rest ∧ c ∈ wordStarts ∧ c ≠ ']' ∧ c ≠ closeBrace

/-- A string literal starts with its quote. -/
theorem startsWord_stringText (s : String) : StartsWord (stringText s) :=
  ⟨'"', s.toList.flatMap escapeChar ++ ['"'], rfl, by decide, by decide, by decide⟩

/-! ### Commas -/

/-- Behind the first item, each stands behind a comma. -/
theorem compactItems_cons (item : Json) (rest : List Json) :
    compactItems (item :: rest) = item.compact ++ rest.flatMap fun v => ',' :: v.compact := by
  induction rest generalizing item with
  | nil => simp [compactItems]
  | cons next rest ih => simp [compactItems, ih]

/-- The text of an entry. -/
def fieldText (field : String × Json) : List Char := stringText field.1 ++ ':' :: field.2.compact

/-- An entry of an object starts with the quote of its key. -/
theorem startsWord_fieldText (field : String × Json) : StartsWord (fieldText field) := by
  obtain ⟨c, rest, heq, h⟩ := startsWord_stringText field.1
  exact ⟨c, rest ++ ':' :: field.2.compact, by rw [fieldText, heq, List.cons_append], h⟩

/-- Behind the first entry, each stands behind a comma. -/
theorem compactFields_cons (field : String × Json) (rest : List (String × Json)) :
    compactFields (field :: rest) =
      fieldText field ++ rest.flatMap fun f => ',' :: fieldText f := by
  induction rest generalizing field with
  | nil => simp [compactFields, fieldText]
  | cons next rest ih => simp [compactFields, fieldText, ih]

/-- There are at least as many characters as there are commas. -/
private theorem length_le_length_flatMap (word : β → List Char) (l : List β) :
    l.length ≤ (l.flatMap fun b => ',' :: word b).length := by
  induction l with
  | nil => exact Nat.le_refl 0
  | cons b rest ih => simp only [List.flatMap_cons, List.length_append, List.length_cons]; omega

/-- What adds items to a list in reverse, each as it is read, reads all of them. -/
private theorem foldlM_cons_eq_mapM (outcome : β → Except ReadError α) (l : List β) (acc : List α) :
    (l.foldlM (fun acc b => do .ok ((← outcome b) :: acc)) acc) =
      (l.mapM outcome).map fun as => as.reverse ++ acc := by
  induction l generalizing acc with
  | nil => rfl
  | cons b rest ih =>
    rw [List.foldlM_cons, List.mapM_cons]
    cases outcome b with
    | error e => rfl
    | ok a =>
      simp only [ok_bind, ih]
      cases rest.mapM outcome with
      | error e => rfl
      | ok as => simp [pure, Except.pure]

/-! ### Arrays -/

/-- Reads an item and adds it in front of those read before. -/
def pushItem (item : Scan α) (acc : List α) : Scan (List α) := fun cs => do
  let p ← item cs
  .ok (p.1 :: acc, p.2)

/-- An array is read by pushing its items on a list, and turning the list round at the end. -/
theorem readItems_eq (sp : Spacing) (item : Scan α) (cs : List Char) :
    readItems sp item cs = (do
      let p ← foldItems sp (pushItem item) (cs.length + 1) true [] cs
      .ok (p.1.reverse, p.2)) := rfl

section Arrays

variable {sp : Spacing} (hsp : sp.KeepsWords)
include hsp

/-- A closing bracket ends the array, at its start or behind an item. -/
theorem nextItem_close (first : Bool) (rest : List Char) :
    nextItem sp first (']' :: rest) = .ok (.done rest) := by
  simp only [nextItem, hsp.skip_cons (by decide : ']' ∈ wordStarts)]

/-- Before the first item no comma is wanted. -/
theorem nextItem_first {cs : List Char} (h : StartsWord cs) (rest : List Char) :
    nextItem sp true (cs ++ rest) = .ok (.more () (cs ++ rest)) := by
  obtain ⟨c, cs, rfl, hc, hne, -⟩ := h
  simp [nextItem, hsp.skip_cons hc]

/-- Behind an item, the next one stands behind a comma. -/
theorem nextItem_comma {cs : List Char} (h : StartsWord cs) (rest : List Char) :
    nextItem sp false (',' :: cs ++ rest) = .ok (.more () (cs ++ rest)) := by
  obtain ⟨c, cs, rfl, hc, hne, -⟩ := h
  simp [nextItem, hsp.skip_cons (by decide : ',' ∈ wordStarts), hsp.skip_cons hc, hne]

variable {item : σ → Scan σ} {outcome : σ → Json → Except ReadError σ} {items : List Json}

/-- The items behind the first one, each behind its comma. -/
private theorem foldItems_commas (hstart : ∀ v ∈ items, StartsWord v.compact)
    (hstep : ∀ v ∈ items, ∀ acc, Gives (item acc) v.compact (outcome acc v))
    {fuel : Nat} (hfuel : items.length < fuel) (acc : σ) (rest : List Char) :
    foldItems sp item fuel false acc ((items.flatMap fun v => ',' :: v.compact) ++ ']' :: rest) =
      (items.foldlM outcome acc).map fun acc => (acc, rest) := by
  induction items generalizing fuel acc with
  | nil =>
    obtain ⟨fuel, rfl⟩ := Nat.exists_eq_add_one_of_ne_zero (Nat.ne_zero_of_lt hfuel)
    simp [foldItems, nextItem_close hsp, pure, Except.pure]
  | cons v items ih =>
    obtain ⟨fuel, rfl⟩ := Nat.exists_eq_add_one_of_ne_zero (Nat.ne_zero_of_lt hfuel)
    have hnext := nextItem_comma hsp (hstart v List.mem_cons_self)
      ((items.flatMap fun v => ',' :: v.compact) ++ ']' :: rest)
    simp only [List.flatMap_cons, List.append_assoc, foldItems, hnext, List.foldlM_cons, ok_bind,
      hstep v List.mem_cons_self acc _]
    cases outcome acc v with
    | error e => rfl
    | ok acc =>
      exact ih (fun w hw => hstart w (List.mem_cons_of_mem v hw))
        (fun w hw => hstep w (List.mem_cons_of_mem v hw)) (Nat.lt_of_succ_lt_succ hfuel) acc

/-- Folding over an array makes of its text what the steps make of its items. -/
theorem foldItems_compactItems (hstart : ∀ v ∈ items, StartsWord v.compact)
    (hstep : ∀ v ∈ items, ∀ acc, Gives (item acc) v.compact (outcome acc v))
    {fuel : Nat} (acc : σ) (rest : List Char)
    (hfuel : (compactItems items ++ ']' :: rest).length < fuel) :
    foldItems sp item fuel true acc (compactItems items ++ ']' :: rest) =
      (items.foldlM outcome acc).map fun acc => (acc, rest) := by
  obtain ⟨fuel, rfl⟩ := Nat.exists_eq_add_one_of_ne_zero (Nat.ne_zero_of_lt hfuel)
  cases items with
  | nil => simp [foldItems, compactItems, nextItem_close hsp, pure, Except.pure]
  | cons v items =>
    -- the first item has no comma before it, all others have one
    have hnext := nextItem_first hsp (hstart v List.mem_cons_self)
      ((items.flatMap fun v => ',' :: v.compact) ++ ']' :: rest)
    have hlen := length_le_length_flatMap compact items
    rw [compactItems_cons] at hfuel ⊢
    simp only [List.length_append, List.length_cons] at hfuel
    simp only [List.append_assoc, foldItems, hnext, List.foldlM_cons, ok_bind,
      hstep v List.mem_cons_self acc _]
    cases outcome acc v with
    | error e => rfl
    | ok acc =>
      exact foldItems_commas hsp (fun w hw => hstart w (List.mem_cons_of_mem v hw))
        (fun w hw => hstep w (List.mem_cons_of_mem v hw)) (by omega) acc rest

/-- Reading an array makes of its text what reading the items makes of theirs, in turn. -/
theorem gives_readItems {item : Scan α} {outcome : Json → Except ReadError α}
    (hstart : ∀ v ∈ items, StartsWord v.compact)
    (hitem : ∀ v ∈ items, Gives item v.compact (outcome v)) :
    Gives (readItems sp item) (compactItems items ++ [']']) (items.mapM outcome) := by
  intro rest
  have hstep : ∀ v ∈ items, ∀ acc : List α,
      Gives (pushItem item acc) v.compact (do .ok ((← outcome v) :: acc)) := by
    intro v hv acc rest
    rw [pushItem, hitem v hv rest]
    cases outcome v <;> rfl
  rw [readItems_eq, List.append_assoc, List.singleton_append]
  rw [foldItems_compactItems hsp hstart hstep [] rest (Nat.lt_succ_self _), foldlM_cons_eq_mapM]
  cases items.mapM outcome with
  | error e => rfl
  | ok as => simp

end Arrays

/-! ### Objects -/

/-- Reads a key and what belongs to it. -/
def scanField (key : Scan α) (field : α → Scan σ) : Scan σ := fun cs => do
  let (k, rest) ← key cs
  field k rest

/-- Reads a value behind its colon and adds it, with its key, in front of those read before. -/
def pushField (sp : Spacing) (value : Scan β) (acc : List (α × β)) (k : α) :
    Scan (List (α × β)) := fun cs => do
  let p ← value (← passColon sp cs)
  .ok ((k, p.1) :: acc, p.2)

/-- An object is read by pushing its entries on a list, and turning the list round at the end. -/
theorem readFields_eq (sp : Spacing) (key : Scan α) (value : Scan β) (cs : List Char) :
    readFields sp key value cs = (do
      let p ← foldFields sp key (pushField sp value) (cs.length + 1) true [] cs
      .ok (p.1.reverse, p.2)) := rfl

/-- What reading an entry comes to, given what reading its key and its value come to. -/
def fieldOutcome (keyOutcome : String → Except ReadError α)
    (valueOutcome : Json → Except ReadError β) (field : String × Json) :
    Except ReadError (α × β) := do
  .ok (← keyOutcome field.1, ← valueOutcome field.2)

section Objects

variable {sp : Spacing} (hsp : sp.KeepsWords)
include hsp

/-- Right behind a key, its colon is passed. -/
theorem passColon_colon (rest : List Char) : passColon sp (':' :: rest) = .ok rest := by
  simp only [passColon, hsp.skip_cons (by decide : ':' ∈ wordStarts)]

variable {key : Scan α}

/-- A closing brace ends the object, at its start or behind an entry. -/
theorem nextKey_close (first : Bool) (rest : List Char) :
    nextKey sp key first (closeBrace :: rest) = .ok (.done rest) := by
  simp only [nextKey, hsp.skip_cons (by decide : closeBrace ∈ wordStarts), if_true]

/-- Before the first key no comma is wanted. -/
theorem nextKey_first {cs : List Char} (h : StartsWord cs) (rest : List Char) :
    nextKey sp key true (cs ++ rest) = (key (cs ++ rest)).map fun p => .more p.1 p.2 := by
  obtain ⟨c, cs, rfl, hc, -, hne⟩ := h
  simp only [List.cons_append, nextKey, hsp.skip_cons hc, if_neg hne, if_true]
  cases key (c :: (cs ++ rest)) <;> rfl

/-- Behind an entry, the next key stands behind a comma. -/
theorem nextKey_comma {cs : List Char} (h : StartsWord cs) (rest : List Char) :
    nextKey sp key false (',' :: cs ++ rest) =
      (key (cs ++ rest)).map fun p => .more p.1 p.2 := by
  have hcomma : ',' ≠ closeBrace := by decide
  obtain ⟨c, cs, rfl, hc, -, hne⟩ := h
  simp only [List.cons_append, nextKey, hsp.skip_cons (by decide : ',' ∈ wordStarts),
    hsp.skip_cons hc, if_neg hcomma, hne, decide_false, Bool.false_and, Bool.false_eq_true, if_true,
    if_false]
  cases key (c :: (cs ++ rest)) <;> rfl

variable {field : σ → α → Scan σ} {outcome : σ → String × Json → Except ReadError σ}
  {fields : List (String × Json)}

omit hsp in
/-- A step to a key, and what belongs to it. -/
theorem foldFields_more {first : Bool} {cs word : List Char}
    (hnext : nextKey sp key first cs = (key word).map fun p => .more p.1 p.2) (fuel : Nat)
    (acc : σ) : foldFields sp key field (fuel + 1) first acc cs =
      (do
        let (acc, rest) ← scanField key (field acc) word
        foldFields sp key field fuel false acc rest) := by
  simp only [foldFields, hnext, scanField]
  cases key word <;> rfl

/-- The entries behind the first one, each behind its comma. -/
private theorem foldFields_commas
    (hstep : ∀ f ∈ fields, ∀ acc, Gives (scanField key (field acc)) (fieldText f) (outcome acc f))
    {fuel : Nat} (hfuel : fields.length < fuel) (acc : σ) (rest : List Char) :
    foldFields sp key field fuel false acc
        ((fields.flatMap fun f => ',' :: fieldText f) ++ closeBrace :: rest) =
      (fields.foldlM outcome acc).map fun acc => (acc, rest) := by
  induction fields generalizing fuel acc with
  | nil =>
    obtain ⟨fuel, rfl⟩ := Nat.exists_eq_add_one_of_ne_zero (Nat.ne_zero_of_lt hfuel)
    simp [foldFields, nextKey_close hsp, pure, Except.pure]
  | cons f fields ih =>
    obtain ⟨fuel, rfl⟩ := Nat.exists_eq_add_one_of_ne_zero (Nat.ne_zero_of_lt hfuel)
    rw [List.flatMap_cons, List.append_assoc, List.foldlM_cons,
      foldFields_more (nextKey_comma hsp (startsWord_fieldText f) _) fuel acc,
      hstep f List.mem_cons_self acc]
    cases outcome acc f with
    | error e => rfl
    | ok acc =>
      exact ih (fun g hg => hstep g (List.mem_cons_of_mem f hg)) (Nat.lt_of_succ_lt_succ hfuel) acc

/-- Folding over an object makes of its text what the steps make of its entries. -/
theorem foldFields_compactFields
    (hstep : ∀ f ∈ fields, ∀ acc, Gives (scanField key (field acc)) (fieldText f) (outcome acc f))
    {fuel : Nat} (acc : σ) (rest : List Char)
    (hfuel : (compactFields fields ++ closeBrace :: rest).length < fuel) :
    foldFields sp key field fuel true acc (compactFields fields ++ closeBrace :: rest) =
      (fields.foldlM outcome acc).map fun acc => (acc, rest) := by
  obtain ⟨fuel, rfl⟩ := Nat.exists_eq_add_one_of_ne_zero (Nat.ne_zero_of_lt hfuel)
  cases fields with
  | nil => simp [foldFields, compactFields, nextKey_close hsp, pure, Except.pure]
  | cons f fields =>
    have hlen := length_le_length_flatMap fieldText fields
    rw [compactFields_cons] at hfuel ⊢
    simp only [List.length_append, List.length_cons] at hfuel
    rw [List.append_assoc, List.foldlM_cons,
      foldFields_more (nextKey_first hsp (startsWord_fieldText f) _) fuel acc,
      hstep f List.mem_cons_self acc]
    cases outcome acc f with
    | error e => rfl
    | ok acc =>
      exact foldFields_commas hsp (fun g hg => hstep g (List.mem_cons_of_mem f hg)) (by omega) acc
        rest

/-- Reading an object makes of its text what reading keys and values makes of theirs, in turn. -/
theorem gives_readFields {β : Type} {value : Scan β} {keyOutcome : String → Except ReadError α}
    {valueOutcome : Json → Except ReadError β}
    (hkey : ∀ f ∈ fields, Gives key (stringText f.1) (keyOutcome f.1))
    (hvalue : ∀ f ∈ fields, Gives value f.2.compact (valueOutcome f.2)) :
    Gives (readFields sp key value) (compactFields fields ++ [closeBrace])
      (fields.mapM (fieldOutcome keyOutcome valueOutcome)) := by
  intro rest
  -- one entry: its key, the colon, and its value
  have hstep : ∀ f ∈ fields, ∀ acc : List (α × β),
      Gives (scanField key (pushField sp value acc)) (fieldText f)
        (do .ok ((← fieldOutcome keyOutcome valueOutcome f) :: acc)) := by
    intro f hf acc rest
    have hread := hkey f hf (':' :: f.2.compact ++ rest)
    simp only [List.cons_append] at hread
    simp only [scanField, fieldText, fieldOutcome, List.append_assoc, List.cons_append, hread]
    cases keyOutcome f.1 with
    | error e => rfl
    | ok k =>
      simp only [map_ok, ok_bind, pushField, passColon_colon hsp, hvalue f hf rest]
      cases valueOutcome f.2 <;> rfl
  rw [readFields_eq, List.append_assoc, List.singleton_append]
  rw [foldFields_compactFields hsp hstep [] rest (Nat.lt_succ_self _), foldlM_cons_eq_mapM]
  cases fields.mapM (fieldOutcome keyOutcome valueOutcome) with
  | error e => rfl
  | ok as => simp

end Objects

end Json

end ClusterGraph
