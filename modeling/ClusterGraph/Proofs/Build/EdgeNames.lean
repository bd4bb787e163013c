import ClusterGraph.Proofs.Build.Steps

/-!
# The names of parallel edges

In a build that is not strict the first edge between two nodes has no name and every further one
gets a generated name with a new number, so the names between two nodes, read in the order of the
edges, are **numbered** (`Build.Numbered`). The test that decides between the two cases stays right
through removals because these take all edges between two nodes at once. It follows that every link
adds an edge of its own. In a strict build no edge has a name, and two nodes have at most one edge
(`Build.reaches_edgeNames`).
-/

namespace ClusterGraph

/-! ### The edges between two nodes -/

namespace Graph

variable {g g' : Graph} {a b id v w : String} {name : Option String}

/-- The names of the edges between two nodes, in the order of the edges. -/
def namesBetween (g : Graph) (v w : String) : List (Option String) :=
  (g.edgeRefs.filter fun ref => (ref.source, ref.target) = orderEnds g.directed v w).map
    EdgeRef.name

/-- The edges between two nodes differ in their names. -/
theorem mem_namesBetween_iff :
    name ∈ g.namesBetween v w ↔ EdgeRef.ofEnds g.directed v w name ∈ g.edgeRefs := by
  simp only [namesBetween, List.mem_map, List.mem_filter, decide_eq_true_iff]
  constructor
  · rintro ⟨⟨source, target, name'⟩, ⟨href, hends⟩, rfl⟩
    rwa [EdgeRef.ofEnds, ← hends]
  · exact fun href => ⟨_, ⟨href, rfl⟩, rfl⟩

theorem namesBetween_nodup (h : g.edgeRefs.Nodup) (v w : String) : (g.namesBetween v w).Nodup := by
  refine List.Nodup.map_on (fun ref href ref' href' hname => ?_) (h.filter _)
  have hends := of_decide_eq_true (List.mem_filter.1 href).2
  have hends' := of_decide_eq_true (List.mem_filter.1 href').2
  obtain ⟨hsource, htarget⟩ := Prod.mk.inj (hends.trans hends'.symm)
  obtain ⟨source, target, name⟩ := ref
  obtain ⟨source', target', name'⟩ := ref'
  simp only [EdgeRef.mk.injEq]
  exact ⟨hsource, htarget, hname⟩

theorem Linked.hasEdge_iff_mem_namesBetween (h : g.Linked) (hv : IsPlain v) (hw : IsPlain w)
    (hname : name ≠ some rootId) : g.hasEdge v w name = true ↔ name ∈ g.namesBetween v w := by
  rw [mem_namesBetween_iff, h.hasEdge_iff (EdgeRef.isStored_ofEnds hv hw hname)]

theorem namesBetween_congr (hdirected : g'.directed = g.directed)
    (hrefs : g'.edgeRefs = g.edgeRefs) (a b : String) :
    g'.namesBetween a b = g.namesBetween a b := by
  simp only [namesBetween, hdirected, hrefs]

/-- A new edge is the last one between its ends, and does not concern other nodes. -/
theorem EdgeAdded.namesBetween (h : EdgeAdded (EdgeRef.ofEnds g.directed v w name) g g')
    (a b : String) :
    g'.namesBetween a b =
      if orderEnds g.directed v w = orderEnds g.directed a b then g.namesBetween a b ++ [name]
      else g.namesBetween a b := by
  simp only [Graph.namesBetween, h.directed, h.edgeRefs, List.filter_append, List.map_append]
  by_cases hends : orderEnds g.directed v w = orderEnds g.directed a b
  · rw [if_pos hends, List.filter_cons_of_pos]
    · rfl
    · exact decide_eq_true hends
  · rw [if_neg hends, List.filter_cons_of_neg]
    · exact List.append_nil _
    · exact fun h => hends (of_decide_eq_true h)

/-- Removing a node takes all edges between two nodes, or none. -/
theorem WithoutNode.namesBetween (h : WithoutNode id g g') (a b : String) :
    g'.namesBetween a b = if a = id ∨ b = id then [] else g.namesBetween a b := by
  have hends : ∀ ref : EdgeRef, (ref.source, ref.target) = orderEnds g.directed a b →
      (ref.HasEnd id ↔ a = id ∨ b = id) := fun ref href => by
    have hof : EdgeRef.ofEnds g.directed a b ref.name = ref := by rw [EdgeRef.ofEnds, ← href]
    rw [← hof, EdgeRef.hasEnd_ofEnds]
  simp only [Graph.namesBetween, h.directed, h.edgeRefs, List.filter_filter]
  split
  · next hid =>
    rw [List.map_eq_nil_iff, List.filter_eq_nil_iff]
    intro ref _ hmem
    rw [Bool.and_eq_true, decide_eq_true_iff, decide_eq_true_iff] at hmem
    exact hmem.2 ((hends ref hmem.1).2 hid)
  · next hid =>
    congr 1
    refine List.filter_congr fun ref _ => ?_
    by_cases href : (ref.source, ref.target) = orderEnds g.directed a b
    · simp [href, hends ref href, hid]
    · simp [href]

end Graph

namespace Build

/-! ### Numbered names -/

variable {stem : String} {bound bound' n : Nat} {names : List (Option String)}

/-- The names of parallel edges: none for the first, and numbers that increase, up to a bound, for
the others. -/
def Numbered (stem : String) (bound : Nat) (names : List (Option String)) : Prop :=
  names = [] ∨ ∃ numbers : List Nat, names = none :: numbers.map (fun n => some (numbered stem n)) ∧
    numbers.Pairwise (· < ·) ∧ ∀ n ∈ numbers, n ≤ bound

namespace Numbered

theorem mono (h : Numbered stem bound names) (hle : bound ≤ bound') :
    Numbered stem bound' names := by
  rcases h with h | ⟨numbers, hnames, hincreasing, hbound⟩
  · exact .inl h
  · exact .inr ⟨numbers, hnames, hincreasing, fun n hn => Nat.le_trans (hbound n hn) hle⟩

/-- Only without any edge is there no edge without a name. -/
theorem eq_nil (h : Numbered stem bound names) (hnone : none ∉ names) : names = [] := by
  rcases h with h | ⟨numbers, rfl, -⟩
  · exact h
  · exact absurd List.mem_cons_self hnone

/-- A number above the bound is new. -/
theorem not_mem (h : Numbered stem bound names) (hn : bound < n) :
    some (numbered stem n) ∉ names := by
  rcases h with rfl | ⟨numbers, rfl, -, hbound⟩
  · exact List.not_mem_nil
  · rw [List.mem_cons, List.mem_map]
    rintro (h | ⟨m, hm, heq⟩)
    · cases h
    · have hmn : m = n := numbered_inj.1 (Option.some.inj heq)
      have := hbound m hm
      omega

/-- Behind an edge comes one with the next number. -/
theorem append (h : Numbered stem bound names) (hnone : none ∈ names) :
    Numbered stem (bound + 1) (names ++ [some (numbered stem (bound + 1))]) := by
  rcases h with rfl | ⟨numbers, rfl, hincreasing, hbound⟩
  · cases hnone
  · refine .inr ⟨numbers ++ [bound + 1], by simp, ?_, fun n hn => ?_⟩
    · refine List.pairwise_append.2 ⟨hincreasing, List.pairwise_singleton _ _, fun n hn m hm => ?_⟩
      rw [List.mem_singleton.1 hm]
      exact Nat.lt_succ_of_le (hbound n hn)
    · rcases List.mem_append.1 hn with hn | hn
      · exact Nat.le_succ_of_le (hbound n hn)
      · exact Nat.le_of_eq (List.mem_singleton.1 hn)

end Numbered

/-! ### Builds that are not strict -/

variable {s s' : State} {settings : Settings} {doc : Document} {p : Progress} {rest : List Action}
  {v w : String}

/-- Between any two nodes the names of the edges are numbered, up to the counter. -/
def State.NamesNumbered (stem : String) (s : State) : Prop :=
  ∀ v w, Numbered stem s.counter (s.graph.namesBetween v w)

/-- In a multigraph with numbered names the next edge is not there yet. -/
theorem State.hasEdge_nextEdgeName (h : s.graph.Linked) (hmultigraph : s.graph.multigraph = true)
    (hnames : s.NamesNumbered stem) (hv : IsPlain v) (hw : IsPlain w) :
    s.graph.hasEdge v w (s.nextEdgeName stem v w).1 = false := by
  rcases s.nextEdgeName_cases stem v w with ⟨hnone, heq⟩ | ⟨-, -, heq⟩
  · rw [heq]
    rwa [hmultigraph, Bool.true_and] at hnone
  · rw [heq, Bool.eq_false_iff, Ne, h.hasEdge_iff_mem_namesBetween hv hw]
    · exact (hnames v w).not_mem (Nat.lt_succ_self _)
    · exact fun e => numbered_ne_rootId _ _ (Option.some.inj e)

/-- The name of the next edge goes on with the numbers. -/
theorem State.numbered_nextEdgeName (h : s.graph.Linked) (hmultigraph : s.graph.multigraph = true)
    (hnames : s.NamesNumbered stem) (hv : IsPlain v) (hw : IsPlain w) :
    Numbered stem (s.nextEdgeName stem v w).2.counter
      (s.graph.namesBetween v w ++ [(s.nextEdgeName stem v w).1]) := by
  have hhas : s.graph.hasEdge v w none = true ↔ none ∈ s.graph.namesBetween v w :=
    h.hasEdge_iff_mem_namesBetween hv hw nofun
  rcases s.nextEdgeName_cases stem v w with ⟨hnone, heq⟩ | ⟨-, hsome, heq⟩
  · rw [hmultigraph, Bool.true_and] at hnone
    have hnil := (hnames v w).eq_nil fun hmem => by simp [hhas.2 hmem] at hnone
    rw [heq, hnil]
    exact .inr ⟨[], rfl, List.Pairwise.nil, nofun⟩
  · rw [heq]
    exact (hnames v w).append (hhas.1 hsome)

/-- A change keeps the names between two nodes numbered: it leaves them alone, takes all of them
away, or puts the next one behind them. -/
theorem Change.namesNumbered (h : s.graph.Sound) (hmultigraph : s.graph.multigraph = true)
    (hnames : s.NamesNumbered stem) (hchange : Change stem s s') : s'.NamesNumbered stem := by
  intro a b
  cases hchange with
  | grows graph hcounter =>
    rw [Graph.namesBetween_congr graph.links.directed graph.links.edgeRefs]
    exact (hnames a b).mono hcounter
  | removes id _ graph hcounter =>
    -- parallel edges go together, so no named edge stays behind without the unnamed one
    rw [graph.namesBetween, hcounter]
    split
    · exact .inl rfl
    · exact hnames a b
  | links v w hv hw graph hcounter =>
    rw [graph.namesBetween, hcounter]
    split
    · next hends =>
      have hpair : s.graph.namesBetween a b = s.graph.namesBetween v w := by
        simp only [Graph.namesBetween, hends]
      rw [hpair]
      exact State.numbered_nextEdgeName h.linked hmultigraph hnames hv hw
    · exact (hnames a b).mono (s.counter_le_nextEdgeName stem v w)

theorem Reaches.namesNumbered (hadmissible : Admissible settings doc) (hstrict : doc.strict = false)
    (h : Reaches settings doc p rest) : p.state.NamesNumbered settings.edgeNameStem := by
  refine h.invariant_of_change hadmissible (P := State.NamesNumbered settings.edgeNameStem)
    (fun _ _ => .inl rfl) fun s s' hsound hmultigraph hchange hnames => ?_
  rw [hstrict] at hmultigraph
  exact hchange.namesNumbered hsound hmultigraph hnames

/-- In a build that is not strict, linking two nodes adds an edge. -/
theorem Reaches.edgeAdded_link (hadmissible : Admissible settings doc)
    (hstrict : doc.strict = false) {attrs : Attrs}
    (h : Reaches settings doc p (.link v w attrs :: rest)) :
    Graph.EdgeAdded (EdgeRef.ofEnds p.graph.directed v w
        (p.state.nextEdgeName settings.edgeNameStem v w).1) p.graph
      (p.state.connect settings.edgeNameStem v w attrs (edgePoints settings attrs)).graph := by
  have hsound := h.sound hadmissible
  have hnames := h.namesNumbered hadmissible hstrict
  have hmultigraph : p.graph.multigraph = true := by rw [hsound.multigraph, hstrict]; rfl
  have hids := h.isPlain_ids hadmissible
  have hv : IsPlain v := hids v List.mem_cons_self
  have hw : IsPlain w := hids w (List.mem_cons_of_mem _ List.mem_cons_self)
  have hnew := State.hasEdge_nextEdgeName hsound.graph.linked hmultigraph hnames hv hw
  exact State.edgeAdded_connect hsound.graph hv hw hnew attrs (edgePoints settings attrs)

/-! ### Strict builds -/

/-- No edge has a name. -/
def State.Unnamed (s : State) : Prop := ∀ ref ∈ s.graph.edgeRefs, ref.name = none

theorem Change.unnamed (hmultigraph : s.graph.multigraph = false) (hunnamed : s.Unnamed)
    (hchange : Change stem s s') : s'.Unnamed := by
  intro ref href
  cases hchange with
  | grows graph => exact hunnamed ref (graph.links.edgeRefs ▸ href)
  | removes id _ graph =>
    rw [graph.edgeRefs] at href
    exact hunnamed ref (List.mem_of_mem_filter href)
  | links v w _ _ graph =>
    rw [graph.edgeRefs] at href
    rcases List.mem_append.1 href with href | href
    · exact hunnamed ref href
    · rw [List.mem_singleton.1 href]
      rcases s.nextEdgeName_cases stem v w with ⟨-, heq⟩ | ⟨hmulti, -, -⟩
      · rw [heq]
        rfl
      · rw [hmultigraph] at hmulti
        cases hmulti

theorem Reaches.unnamed (hadmissible : Admissible settings doc) (hstrict : doc.strict = true)
    (h : Reaches settings doc p rest) : p.state.Unnamed := by
  refine h.invariant_of_change hadmissible (P := State.Unnamed) nofun
    fun s s' _ hmultigraph hchange hunnamed => ?_
  rw [hstrict] at hmultigraph
  exact hchange.unnamed hmultigraph hunnamed

/-- Two nodes have at most one edge without a name. -/
theorem length_namesBetween_le_one {g : Graph} (h : g.edgeRefs.Nodup)
    (hunnamed : ∀ ref ∈ g.edgeRefs, ref.name = none) (v w : String) :
    (g.namesBetween v w).length ≤ 1 := by
  have hnone : ∀ name ∈ g.namesBetween v w, name = none := by
    intro name hname
    obtain ⟨ref, href, rfl⟩ := List.mem_map.1 hname
    exact hunnamed ref (List.mem_of_mem_filter href)
  have hnodup := Graph.namesBetween_nodup h v w
  rw [List.eq_replicate_of_mem hnone] at hnodup
  simpa [List.nodup_replicate] using hnodup

/-- The name of an edge is a number behind the stem. -/
theorem Reaches.name_cases (hadmissible : Admissible settings doc) (h : Reaches settings doc p rest)
    {ref : EdgeRef} (href : ref ∈ p.graph.edgeRefs) :
    ref.name = none ∨ ∃ n, ref.name = some (numbered settings.edgeNameStem n) := by
  cases hstrict : doc.strict with
  | true => exact .inl (h.unnamed hadmissible hstrict ref href)
  | false =>
    have hstored := (h.sound hadmissible).graph.linked.stored ref href
    have hends : EdgeRef.ofEnds p.graph.directed ref.source ref.target ref.name = ref := by
      rw [EdgeRef.ofEnds, hstored.ordered]
    have hmem : ref.name ∈ p.state.graph.namesBetween ref.source ref.target :=
      Graph.mem_namesBetween_iff.2 (hends.symm ▸ href)
    rcases h.namesNumbered hadmissible hstrict ref.source ref.target with hnil | ⟨numbers, heq, -⟩
    · rw [hnil] at hmem
      cases hmem
    · rw [heq, List.mem_cons, List.mem_map] at hmem
      obtain hnone | ⟨n, -, hn⟩ := hmem
      · exact .inl hnone
      · exact .inr ⟨n, hn.symm⟩

/-! ### The names in a build -/

/-- In every state of a build that is not strict the names between two nodes are numbered, and
linking two nodes adds one new edge and changes no label of another. In every state of a strict
build the edges have no names, and two nodes have at most one edge. -/
theorem reaches_edgeNames (hadmissible : Admissible settings doc)
    (h : Reaches settings doc p rest) :
    (doc.strict = false →
      (∀ v w, Numbered settings.edgeNameStem p.state.counter (p.graph.namesBetween v w)) ∧
      ∀ v w attrs after, rest = .link v w attrs :: after →
        let linked := p.state.connect settings.edgeNameStem v w attrs (edgePoints settings attrs)
        ∃ ref ∉ p.graph.edgeRefs, linked.graph.edgeRefs = p.graph.edgeRefs ++ [ref] ∧
          ∀ r ∈ p.graph.edgeRefs, linked.graph.edge? r.source r.target r.name =
            p.graph.edge? r.source r.target r.name) ∧
    (doc.strict = true →
      (∀ ref ∈ p.graph.edgeRefs, ref.name = none) ∧
      ∀ v w, (p.graph.namesBetween v w).length ≤ 1) := by
  refine ⟨fun hstrict => ⟨h.namesNumbered hadmissible hstrict, fun v w attrs after hrest => ?_⟩,
    fun hstrict => ?_⟩
  · subst hrest
    have hadded := h.edgeAdded_link hadmissible hstrict
    exact ⟨_, hadded.not_mem, hadded.edgeRefs, hadded.edge?⟩
  · have hnodup := (h.sound hadmissible).graph.linked.edgeRefs_nodup
    have hunnamed := h.unnamed hadmissible hstrict
    exact ⟨hunnamed, length_namesBetween_le_one hnodup hunnamed⟩

/-- The build arrives at the last link of the document with one edge between the two nodes. -/
private theorem reaches_last_link :
    ∃ p, Reaches Settings.default recurringScope p [.link "s" "b" Attrs.empty, .elide, .leave] ∧
      p.graph.namesBetween "s" "b" = [none] := by
  have hinitial : Reaches Settings.default recurringScope (Progress.initial recurringScope)
      ((actionsOfAll recurringScope.stmts).take 25 ++
        [.link "s" "b" Attrs.empty, .elide, .leave]) := .initial
  exact ⟨_, hinitial.nexts, by rfl⟩

/-- At the last link there is one edge between the two nodes, so another one is named. -/
theorem reaches_edgeNames_recurringScope :
    let stem := Settings.default.edgeNameStem
    let points := edgePoints Settings.default Attrs.empty
    Admissible Settings.default recurringScope ∧
    ∃ p, Reaches Settings.default recurringScope p [.link "s" "b" Attrs.empty, .elide, .leave] ∧
      p.graph.namesBetween "s" "b" = [none] ∧
      (∀ v w, Numbered stem p.state.counter (p.graph.namesBetween v w)) ∧
      ∃ ref ∉ p.graph.edgeRefs,
        (p.state.connect stem "s" "b" Attrs.empty points).graph.edgeRefs =
          p.graph.edgeRefs ++ [ref] ∧
        ∀ r ∈ p.graph.edgeRefs,
          (p.state.connect stem "s" "b" Attrs.empty points).graph.edge? r.source r.target r.name =
            p.graph.edge? r.source r.target r.name := by
  obtain ⟨p, hreach, hone⟩ := reaches_last_link
  have hnames := (reaches_edgeNames admissible_recurringScope hreach).1 rfl
  exact ⟨admissible_recurringScope, p, hreach, hone, hnames.1, hnames.2 _ _ _ _ rfl⟩

end Build

end ClusterGraph
