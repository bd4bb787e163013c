import ClusterGraph.Build.Naming
import ClusterGraph.Graph

/-!
# Plain ids and the keys of edges

A graph files an edge under one text, made of the two ends and the name with U+0001 between them,
and it lists the nodes that lie in no other node under the id U+0000. Both conventions are sound
on **plain** ids, which hold neither character: such an id is never `Graph.rootId`, and the key
of an edge between plain ids gives the ends and the name back (`EdgeRef.key_inj`). The name itself
is not restricted, except that it is not the text U+0000 that stands for a missing name.
-/

namespace ClusterGraph

/-- An id is **plain** when it holds neither U+0000 nor U+0001. -/
def IsPlain (id : String) : Prop := '\x00' ∉ id.toList ∧ '\x01' ∉ id.toList

instance (id : String) : Decidable (IsPlain id) := inferInstanceAs (Decidable (_ ∧ _))

theorem IsPlain.ne_rootId {id : String} (h : IsPlain id) : id ≠ Graph.rootId := by
  rintro rfl
  exact h.1 (by decide)

namespace Build

/-- A number adds digits only. -/
theorem isPlain_numbered {stem : String} (h : IsPlain stem) (n : Nat) :
    IsPlain (numbered stem n) := by
  have hdigit : ∀ c ∈ Nat.toDigits 10 n, c.isDigit := fun c hc =>
    Nat.isDigit_of_mem_toDigits (by decide) (by decide) hc
  simp only [IsPlain, numbered, String.toList_append, String.toList_ofList, List.mem_append, not_or]
  exact ⟨⟨h.1, fun hc => absurd (hdigit _ hc) (by decide)⟩,
    ⟨h.2, fun hc => absurd (hdigit _ hc) (by decide)⟩⟩

/-- A numbered name is never the text that stands for a missing name: it ends in a digit. -/
theorem numbered_ne_rootId (stem : String) (n : Nat) : numbered stem n ≠ Graph.rootId := by
  intro h
  have htext : stem.toList ++ Nat.toDigits 10 n = ['\x00'] := by
    have := congrArg String.toList h
    simpa [numbered, Graph.rootId] using this
  obtain ⟨c, hc⟩ := List.exists_mem_of_ne_nil _ (Nat.toDigits_ne_nil (b := 10) (n := n))
  have hzero : c = '\x00' := by
    have hmem : c ∈ stem.toList ++ Nat.toDigits 10 n := List.mem_append_right _ hc
    rw [htext] at hmem
    exact List.mem_singleton.1 hmem
  have hdigit := Nat.isDigit_of_mem_toDigits (by decide) (by decide) hc
  rw [hzero] at hdigit
  exact absurd hdigit (by decide)

end Build

namespace Graph

/-! ### The order of the ends -/

theorem orderEnds_eq_or (directed : Bool) (v w : String) :
    orderEnds directed v w = (v, w) ∨ orderEnds directed v w = (w, v) := by
  rw [orderEnds]
  split
  · exact .inr rfl
  · exact .inl rfl

/-- Ends in order stay as they are. -/
theorem orderEnds_orderEnds (directed : Bool) (v w : String) :
    orderEnds directed (orderEnds directed v w).1 (orderEnds directed v w).2 =
      orderEnds directed v w := by
  cases directed with
  | true => rfl
  | false =>
    by_cases h : w < v
    · have hvw : ¬ v < w := fun h' => String.lt_irrefl _ (String.lt_trans h h')
      simp [orderEnds, h, hvw]
    · simp [orderEnds, h]

theorem edgeKey_orderEnds (directed : Bool) (v w : String) (name : Option String) :
    edgeKey directed (orderEnds directed v w).1 (orderEnds directed v w).2 name =
      edgeKey directed v w name := by
  unfold edgeKey
  rw [orderEnds_orderEnds]

end Graph

namespace EdgeRef

/-- The key under which a graph files an edge. -/
def key (directed : Bool) (ref : EdgeRef) : String :=
  Graph.edgeKey directed ref.source ref.target ref.name

/-- The edge that a graph stores for given ends and a name. -/
def ofEnds (directed : Bool) (v w : String) (name : Option String) : EdgeRef :=
  ⟨(Graph.orderEnds directed v w).1, (Graph.orderEnds directed v w).2, name⟩

/-- One of the ends of an edge. -/
def HasEnd (ref : EdgeRef) (id : String) : Prop := ref.source = id ∨ ref.target = id

instance (ref : EdgeRef) (id : String) : Decidable (ref.HasEnd id) :=
  inferInstanceAs (Decidable (_ ∨ _))

/-- An edge in the form in which a graph stores it: its ends are in order and plain, and its name
is not the text that stands for a missing one. -/
structure IsStored (directed : Bool) (ref : EdgeRef) : Prop where
  ordered : Graph.orderEnds directed ref.source ref.target = (ref.source, ref.target)
  source_plain : IsPlain ref.source
  target_plain : IsPlain ref.target
  name_ne : ref.name ≠ some Graph.rootId

variable {directed : Bool} {ref ref' : EdgeRef} {v w : String} {name : Option String}

theorem key_ofEnds (directed : Bool) (v w : String) (name : Option String) :
    (ofEnds directed v w name).key directed = Graph.edgeKey directed v w name :=
  Graph.edgeKey_orderEnds directed v w name

/-- An edge of a graph has the given ends, in one order or the other. -/
theorem hasEnd_ofEnds {id : String} :
    (ofEnds directed v w name).HasEnd id ↔ v = id ∨ w = id := by
  rcases Graph.orderEnds_eq_or directed v w with h | h <;> simp [ofEnds, HasEnd, h, or_comm]

theorem isStored_ofEnds (hv : IsPlain v) (hw : IsPlain w) (hname : name ≠ some Graph.rootId) :
    (ofEnds directed v w name).IsStored directed := by
  refine ⟨Graph.orderEnds_orderEnds directed v w, ?_, ?_, hname⟩
  · rcases Graph.orderEnds_eq_or directed v w with h | h <;> simp [ofEnds, h, hv, hw]
  · rcases Graph.orderEnds_eq_or directed v w with h | h <;> simp [ofEnds, h, hv, hw]

/-- Two texts that hold no separator end at the first separator behind them. -/
private theorem append_separator_inj {c : Char} {xs ys rest rest' : List Char} (hx : c ∉ xs)
    (hy : c ∉ ys) (h : xs ++ c :: rest = ys ++ c :: rest') : xs = ys ∧ rest = rest' := by
  induction xs generalizing ys with
  | nil =>
    cases ys with
    | nil => exact ⟨rfl, (List.cons.inj h).2⟩
    | cons y ys => exact absurd (List.cons.inj h).1 fun e => hy (e ▸ List.mem_cons_self)
  | cons x xs ih =>
    cases ys with
    | nil => exact absurd (List.cons.inj h).1 fun e => hx (e ▸ List.mem_cons_self)
    | cons y ys =>
      obtain ⟨hhead, htail⟩ := List.cons.inj h
      obtain ⟨hxs, hrest⟩ := ih (fun hc => hx (List.mem_cons_of_mem _ hc))
        (fun hc => hy (List.mem_cons_of_mem _ hc)) htail
      exact ⟨by rw [hhead, hxs], hrest⟩

private theorem key_toList (h : ref.IsStored directed) :
    (ref.key directed).toList = ref.source.toList ++ '\x01' ::
      (ref.target.toList ++ '\x01' :: (ref.name.getD Graph.rootId).toList) := by
  simp [key, Graph.edgeKey, h.ordered, Graph.rootId]

/-- The key of a stored edge determines the edge. -/
theorem key_inj (h : ref.IsStored directed) (h' : ref'.IsStored directed) :
    ref.key directed = ref'.key directed ↔ ref = ref' := by
  refine ⟨fun heq => ?_, fun heq => heq ▸ rfl⟩
  have htext := congrArg String.toList heq
  rw [key_toList h, key_toList h'] at htext
  obtain ⟨hsource, htext⟩ := append_separator_inj h.source_plain.2 h'.source_plain.2 htext
  obtain ⟨htarget, htext⟩ := append_separator_inj h.target_plain.2 h'.target_plain.2 htext
  have hgetD : ref.name.getD Graph.rootId = ref'.name.getD Graph.rootId :=
    String.toList_inj.1 htext
  -- the two names agree as texts, and neither of them is the text for a missing name
  have hname : ref.name = ref'.name := by
    have hne := h.name_ne
    have hne' := h'.name_ne
    cases hn : ref.name <;> cases hn' : ref'.name <;> rw [hn, hn'] at hgetD <;>
      simp_all [eq_comm]
  obtain ⟨source, target, name⟩ := ref
  obtain ⟨source', target', name'⟩ := ref'
  simp only [mk.injEq]
  exact ⟨String.toList_inj.1 hsource, String.toList_inj.1 htarget, hname⟩

end EdgeRef

end ClusterGraph
