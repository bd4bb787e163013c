import ClusterGraph.Proofs.Build.Sketch
import ClusterGraph.Proofs.FirstOccurrences
import ClusterGraph.Proofs.Label.Merging

/-!
# Links in strict builds

In a strict build two nodes have one edge at most, and linking them again merges into its label.
When every node of one list is linked with every node of another, the same edge may be meant more
than once: ids may be in both lists or be repeated, and without directions a pair may come back the
other way round. The edge is still made once, from the defaults in force, and what the links merge
counts once (`Build.connectAll_linksOnce`).
-/

namespace ClusterGraph

/-! ### Overlaid labels -/

theorem getElem?_overlayPoints (old new : List Point) (i : Nat) :
    (overlayPoints old new)[i]? = new[i]?.or old[i]? := by
  rw [overlayPoints_eq, List.getElem?_append, List.getElem?_drop]
  split
  · next hlt => rw [List.getElem?_eq_getElem hlt, Option.some_or]
  · next hge =>
    rw [List.getElem?_eq_none (Nat.le_of_not_lt hge), Option.none_or,
      Nat.add_sub_cancel' (Nat.le_of_not_lt hge)]

/-- A label is another one with attributes laid over it name by name, and points position by
position. -/
structure EdgeLabel.IsOverlaid (attrs : Attrs) (points : Option (List Point))
    (old new : EdgeLabel) : Prop where
  attr? : ∀ key, new.attr? key = (attrs.get? key).or (old.attr? key)
  isSome_points : new.points.isSome = (points.isSome || old.points.isSome)
  getElem?_points : ∀ i : Nat,
    (new.points.getD [])[i]? = ((points.getD [])[i]?).or (old.points.getD [])[i]?

theorem EdgeLabel.isOverlaid_merge (label : EdgeLabel) (attrs : Attrs)
    (points : Option (List Point)) :
    IsOverlaid attrs points label (label.merge attrs points) := by
  refine ⟨fun key => Attrs.get?_overlay _ _ key, ?_, fun i => ?_⟩
  · cases points <;> rfl
  · cases points with
    | none => rfl
    | some new => exact getElem?_overlayPoints _ new i

/-! ### Lists of edges -/

/-- Links an edge: its label is changed, or it comes behind the others with a changed label. -/
def linkEdge (label : EdgeLabel) (f : EdgeLabel → EdgeLabel) (edges : List EdgeEntry)
    (ref : EdgeRef) : List EdgeEntry :=
  if ref ∈ edges.map EdgeEntry.ref then edges.map (EdgeEntry.relabel ref f)
  else edges ++ [⟨ref, f label⟩]

/-- Changes the label of an edge, if it is one of given ones. -/
def EdgeEntry.relabelAny (refs : List EdgeRef) (f : EdgeLabel → EdgeLabel) (edge : EdgeEntry) :
    EdgeEntry :=
  if edge.ref ∈ refs then { edge with label := f edge.label } else edge

theorem Outline.edges_link (o : Outline) (v w : String) (name : Option String) (label : EdgeLabel)
    (f : EdgeLabel → EdgeLabel) : (o.link v w name label f).edges =
      linkEdge label f o.edges (EdgeRef.ofEnds o.directed v w name) := by
  rw [linkEdge, link, apply_ite Outline.edges]
  rfl

section LinkEdge

variable {f : EdgeLabel → EdgeLabel} {refs : List EdgeRef} {ref : EdgeRef} {edge : EdgeEntry}

@[simp] theorem EdgeEntry.ref_relabelAny (refs : List EdgeRef) (f : EdgeLabel → EdgeLabel)
    (edge : EdgeEntry) : (edge.relabelAny refs f).ref = edge.ref := by
  rw [relabelAny]
  split <;> rfl

theorem EdgeEntry.relabelAny_append_of_ne (h : edge.ref ≠ ref) :
    edge.relabelAny (refs ++ [ref]) f = edge.relabelAny refs f := by
  simp only [relabelAny, List.mem_append, List.mem_singleton, h, or_false]

/-- A change that makes no difference the second time is made once. -/
theorem EdgeEntry.relabel_relabelAny (hf : ∀ label, f (f label) = f label) :
    (edge.relabelAny refs f).relabel ref f = edge.relabelAny (refs ++ [ref]) f := by
  by_cases href : edge.ref = ref
  · have hmem : edge.ref ∈ refs ++ [ref] := List.mem_append_right _ (List.mem_singleton.2 href)
    rw [relabel, ref_relabelAny, if_pos href, relabelAny, relabelAny, if_pos hmem]
    split
    · rw [hf]
    · rfl
  · rw [relabel, ref_relabelAny, if_neg href, relabelAny_append_of_ne href]

/-- Linking edges in turn puts those that are new behind the others, each where it is met first. -/
theorem map_ref_foldl_linkEdge (label : EdgeLabel) (f : EdgeLabel → EdgeLabel)
    (edges : List EdgeEntry) (refs : List EdgeRef) :
    (refs.foldl (linkEdge label f) edges).map EdgeEntry.ref = edges.map EdgeEntry.ref ++
      refs.eraseDups.filter (· ∉ edges.map EdgeEntry.ref) := by
  have hstep : ∀ edges ref, (if ref ∈ edges.map EdgeEntry.ref then edges.map EdgeEntry.ref
      else edges.map EdgeEntry.ref ++ [ref]) = (linkEdge label f edges ref).map EdgeEntry.ref := by
    intro edges ref
    rw [linkEdge]
    split
    · rw [List.map_map]
      exact (List.map_congr_left fun edge _ => EdgeEntry.ref_relabel ref f edge).symm
    · rw [List.map_append]
      rfl
  rw [← foldl_append_new]
  exact (List.foldl_hom (List.map EdgeEntry.ref) hstep).symm

/-- It also changes the label of each that was there, once and in its place. -/
theorem foldl_linkEdge (hf : ∀ label, f (f label) = f label) (label : EdgeLabel)
    (edges : List EdgeEntry) (refs : List EdgeRef) :
    refs.foldl (linkEdge label f) edges = edges.map (EdgeEntry.relabelAny refs f) ++
      (refs.eraseDups.filter (· ∉ edges.map EdgeEntry.ref)).map fun ref => ⟨ref, f label⟩ := by
  -- from the end, as the last link meets the edges that the others have left
  induction refs using List.reverseRecOn with
  | nil =>
    have hsame : edges.map (EdgeEntry.relabelAny [] f) = edges := List.map_id _
    rw [List.foldl_nil, hsame]
    exact (List.append_nil _).symm
  | append_singleton refs ref ih =>
    rw [List.foldl_append, List.foldl_cons, List.foldl_nil, linkEdge, map_ref_foldl_linkEdge,
      filter_eraseDups_append, ih]
    set added := refs.eraseDups.filter (· ∉ edges.map EdgeEntry.ref)
    split
    · -- the edge is there: its label has been changed, or is changed now
      have hadded : (added.map fun ref => (⟨ref, f label⟩ : EdgeEntry)).map
          (EdgeEntry.relabel ref f) = added.map fun ref => ⟨ref, f label⟩ := by
        rw [List.map_map]
        refine List.map_congr_left fun r _ => ?_
        simp only [Function.comp_apply, EdgeEntry.relabel, hf, ite_self]
      rw [List.map_append, List.map_map, hadded]
      exact congrArg (· ++ _) (List.map_congr_left fun edge _ => EdgeEntry.relabel_relabelAny hf)
    · next hnew =>
      -- the edge is new, so no label that was there changes
      have hold : edges.map (EdgeEntry.relabelAny (refs ++ [ref]) f) =
          edges.map (EdgeEntry.relabelAny refs f) := by
        refine List.map_congr_left fun edge hedge => EdgeEntry.relabelAny_append_of_ne ?_
        rintro rfl
        exact hnew (List.mem_append_left _ (List.mem_map_of_mem hedge))
      rw [hold, List.map_append, List.append_assoc]
      rfl

end LinkEdge

namespace Graph

variable {g : Graph} {v w : String} {name : Option String}

/-- The label of an edge is the one that is listed with it. -/
theorem Linked.edge?_eq_some_iff (h : g.Linked)
    (hstored : (EdgeRef.ofEnds g.directed v w name).IsStored g.directed) {label : EdgeLabel} :
    g.edge? v w name = some label ↔
      ⟨EdgeRef.ofEnds g.directed v w name, label⟩ ∈ g.outline.edges := by
  have hvalues : g.outline.edges = g.edges.values := rfl
  rw [edge?, ← EdgeRef.key_ofEnds, Option.map_eq_some_iff, hvalues, Table.mem_values_iff]
  constructor
  · rintro ⟨entry, hentry, rfl⟩
    refine ⟨_, hentry.trans ?_⟩
    rw [← h.ref_eq_of_get? hstored hentry]
  · rintro ⟨key, hkey⟩
    rw [h.ref_key_of_get? hkey] at hkey
    exact ⟨_, hkey, rfl⟩

/-- An edge that is listed is the edge of its ends. -/
theorem Linked.ofEnds_eq (h : g.Linked) {ref : EdgeRef} (href : ref ∈ g.edgeRefs) :
    EdgeRef.ofEnds g.directed ref.source ref.target ref.name = ref := by
  rw [EdgeRef.ofEnds, (h.stored ref href).ordered]

end Graph

namespace Build

variable {settings : Settings} {doc : Document} {p : Progress} {rest : List Action}
  {stem v w : String} {s s' s'' : State} {pairs : List (String × String)} {prev curr : List String}
  {refs refs' : List EdgeRef} {attrs : Attrs} {points : Option (List Point)}

/-! ### Links in turn -/

namespace State

/-- A state of a strict build after unnamed edges have been linked in turn. -/
structure Linking (attrs : Attrs) (points : Option (List Point)) (refs : List EdgeRef)
    (s s' : State) : Prop where
  sound : s'.graph.Sound
  single : s'.graph.multigraph = false
  directed : s'.graph.directed = s.graph.directed
  defaults : s'.defaults = s.defaults
  counter : s'.counter = s.counter
  edges : s'.graph.outline.edges = refs.foldl (linkEdge (EdgeLabel.ofAttrs s.defaults.current.edge)
    fun label => label.merge attrs points) s.graph.outline.edges

theorem Linking.trans (h : Linking attrs points refs s s')
    (h' : Linking attrs points refs' s' s'') : Linking attrs points (refs ++ refs') s s'' where
  sound := h'.sound
  single := h'.single
  directed := h'.directed.trans h.directed
  defaults := h'.defaults.trans h.defaults
  counter := h'.counter.trans h.counter
  edges := by rw [h'.edges, h.edges, h.defaults, List.foldl_append]

/-- One link. -/
theorem linking_connect (h : s.graph.Sound) (hsingle : s.graph.multigraph = false)
    (hv : IsPlain v) (hw : IsPlain w) (stem : String) (attrs : Attrs)
    (points : Option (List Point)) :
    Linking attrs points [EdgeRef.ofEnds s.graph.directed v w none] s
      (s.connect stem v w attrs points) := by
  have heffect : Effect stem s (s.connect stem v w attrs points) := effect_connect h hv hw
  have hname : (s.sketch []).nextNumber v w = none :=
    if_neg fun hguard => Bool.false_ne_true (hsingle.symm.trans hguard.1)
  have hsketch : (s.connect stem v w attrs points).sketch [] =
      (s.sketch []).connect stem v w attrs points := sketch_connect h hv hw attrs points []
  rw [Sketch.connect, hname] at hsketch
  refine ⟨heffect.change.sound, heffect.change.multigraph.trans hsingle, heffect.change.directed,
    ?_, ?_, ?_⟩
  · exact congrArg Sketch.defaults hsketch
  · exact congrArg Sketch.counter hsketch
  · have hedges := congrArg (fun k : Sketch => k.outline.edges) hsketch
    exact hedges.trans (Outline.edges_link _ v w none _ _)

/-- Links of pairs in turn. -/
theorem linking_foldl (h : s.graph.Sound) (hsingle : s.graph.multigraph = false)
    (hplain : ∀ pair ∈ pairs, IsPlain pair.1 ∧ IsPlain pair.2) (stem : String) (attrs : Attrs)
    (points : Option (List Point)) :
    Linking attrs points
      (pairs.map fun pair => EdgeRef.ofEnds s.graph.directed pair.1 pair.2 none) s
      (pairs.foldl (fun s pair => s.connect stem pair.1 pair.2 attrs points) s) := by
  induction pairs generalizing s with
  | nil => exact ⟨h, hsingle, rfl, rfl, rfl, rfl⟩
  | cons pair pairs ih =>
    obtain ⟨hv, hw⟩ := hplain pair List.mem_cons_self
    have hfirst := linking_connect h hsingle hv hw stem attrs points
    have hrest := ih hfirst.sound hfirst.single fun pair' hpair' =>
      hplain pair' (List.mem_cons_of_mem _ hpair')
    rw [hfirst.directed] at hrest
    exact hfirst.trans hrest

namespace Linking

variable (h : Linking attrs points refs s s')

include h

theorem edges_eq : s'.graph.outline.edges = s.graph.outline.edges.map
    (EdgeEntry.relabelAny refs fun label => label.merge attrs points) ++
      (refs.eraseDups.filter (· ∉ s.graph.edgeRefs)).map fun ref =>
        ⟨ref, (EdgeLabel.ofAttrs s.defaults.current.edge).merge attrs points⟩ :=
  h.edges.trans (foldl_linkEdge (fun label => label.merge_merge_self attrs points) _ _ refs)

theorem edgeRefs_eq : s'.graph.edgeRefs =
    s.graph.edgeRefs ++ refs.eraseDups.filter (· ∉ s.graph.edgeRefs) :=
  (congrArg (List.map EdgeEntry.ref) h.edges).trans (map_ref_foldl_linkEdge _ _ _ refs)

theorem mem_edgeRefs {ref : EdgeRef} (href : ref ∈ refs) : ref ∈ s'.graph.edgeRefs := by
  rw [h.edgeRefs_eq, List.mem_append]
  by_cases hold : ref ∈ s.graph.edgeRefs
  · exact .inl hold
  · exact .inr (List.mem_filter.2 ⟨List.mem_eraseDups.2 href, decide_eq_true hold⟩)

/-- The edges that are linked have no names. -/
theorem unnamed (hunnamed : s.Unnamed) (hrefs : ∀ ref ∈ refs, ref.name = none) : s'.Unnamed := by
  intro ref href
  rw [h.edgeRefs_eq, List.mem_append] at href
  rcases href with href | href
  · exact hunnamed ref href
  · exact hrefs ref (List.mem_eraseDups.1 (List.mem_of_mem_filter href))

variable (hsound : s.graph.Sound)

include hsound

/-- What is linked is merged into the label that the edge had, or into the defaults. -/
theorem edge?_of_mem (hv : IsPlain v) (hw : IsPlain w)
    (href : EdgeRef.ofEnds s.graph.directed v w none ∈ refs) :
    s'.graph.edge? v w none = some (((s.graph.edge? v w none).getD
      (EdgeLabel.ofAttrs s.defaults.current.edge)).merge attrs points) := by
  have hstored : (EdgeRef.ofEnds s.graph.directed v w none).IsStored s.graph.directed :=
    EdgeRef.isStored_ofEnds hv hw nofun
  have hlisted : ∀ label, s.graph.edge? v w none = some label ↔
      ⟨EdgeRef.ofEnds s.graph.directed v w none, label⟩ ∈ s.graph.outline.edges :=
    fun label => hsound.linked.edge?_eq_some_iff hstored
  refine (h.sound.linked.edge?_eq_some_iff (h.directed.symm ▸ hstored)).2 ?_
  rw [h.edges_eq, h.directed, List.mem_append, List.mem_map, List.mem_map]
  by_cases hold : EdgeRef.ofEnds s.graph.directed v w none ∈ s.graph.edgeRefs
  · -- in the part that keeps its places, with the label that it had
    obtain ⟨edge, hedge, heq⟩ := List.mem_map.1 hold
    have hlabel : s.graph.edge? v w none = some edge.label := (hlisted _).2 (heq ▸ hedge)
    refine .inl ⟨edge, hedge, ?_⟩
    rw [hlabel, EdgeEntry.relabelAny, if_pos (heq.symm ▸ href), heq]
    rfl
  · -- in the part that follows, with the defaults
    have hlabel : s.graph.edge? v w none = none :=
      Option.eq_none_iff_forall_ne_some.2 fun label hlabel =>
        hold (List.mem_map_of_mem ((hlisted label).1 hlabel))
    refine .inr ⟨_, List.mem_filter.2 ⟨List.mem_eraseDups.2 href, decide_eq_true hold⟩, ?_⟩
    rw [hlabel]
    rfl

/-- The other edges keep their labels. -/
theorem edge?_of_not_mem {ref : EdgeRef} (hmem : ref ∈ s.graph.edgeRefs) (href : ref ∉ refs) :
    s'.graph.edge? ref.source ref.target ref.name =
      s.graph.edge? ref.source ref.target ref.name := by
  have hends := hsound.linked.ofEnds_eq hmem
  have hstored := hends.symm ▸ hsound.linked.stored ref hmem
  obtain ⟨edge, hedge, heq⟩ := List.mem_map.1 hmem
  have hsame : edge.relabelAny refs (fun label => label.merge attrs points) = edge :=
    if_neg (heq.symm ▸ href)
  have hlabel : s.graph.edge? ref.source ref.target ref.name = some edge.label := by
    refine (hsound.linked.edge?_eq_some_iff hstored).2 ?_
    rw [hends, ← heq]
    exact hedge
  rw [hlabel]
  refine (h.sound.linked.edge?_eq_some_iff (h.directed.symm ▸ hstored)).2 ?_
  rw [h.directed, hends, h.edges_eq, ← heq]
  exact List.mem_append_left _ (List.mem_map.2 ⟨edge, hedge, hsame⟩)

end Linking

end State

/-! ### Cross products -/

/-- What linking pairs of nodes in turn does to a state of a strict build. -/
structure LinksOnce (pairs : List (String × String)) (attrs : Attrs) (points : Option (List Point))
    (s s' : State) : Prop where
  /-- Each pair has one edge, which has no name. -/
  namesBetween : ∀ v w, (v, w) ∈ pairs → s'.graph.namesBetween v w = [none]
  /-- Edges that were there keep their places, and new ones follow in the order of the pairs. -/
  edgeRefs : s'.graph.edgeRefs = s.graph.edgeRefs ++
    (pairs.map fun pair => EdgeRef.ofEnds s.graph.directed pair.1 pair.2 none).eraseDups.filter
      (· ∉ s.graph.edgeRefs)
  /-- Attributes and points are laid once over the label that the edge had, or over the defaults. -/
  linked : ∀ v w, (v, w) ∈ pairs → ∃ label, s'.graph.edge? v w none = some label ∧
    EdgeLabel.IsOverlaid attrs points
      ((s.graph.edge? v w none).getD (EdgeLabel.ofAttrs s.defaults.current.edge)) label
  /-- The other edges keep their labels. -/
  other : ∀ ref ∈ s.graph.edgeRefs,
    (∀ pair ∈ pairs, ref ≠ EdgeRef.ofEnds s.graph.directed pair.1 pair.2 none) →
    s'.graph.edge? ref.source ref.target ref.name = s.graph.edge? ref.source ref.target ref.name
  counter : s'.counter = s.counter

theorem State.Linking.linksOnce (h : State.Linking attrs points
      (pairs.map fun pair => EdgeRef.ofEnds s.graph.directed pair.1 pair.2 none) s s')
    (hsound : s.graph.Sound) (hunnamed : s.Unnamed)
    (hplain : ∀ pair ∈ pairs, IsPlain pair.1 ∧ IsPlain pair.2) :
    LinksOnce pairs attrs points s s' := by
  set refs := pairs.map fun pair => EdgeRef.ofEnds s.graph.directed pair.1 pair.2 none
  have hmem : ∀ v w, (v, w) ∈ pairs → EdgeRef.ofEnds s.graph.directed v w none ∈ refs :=
    fun v w hpair => List.mem_map.2 ⟨(v, w), hpair, rfl⟩
  have hnames : s'.Unnamed := h.unnamed hunnamed fun ref href => by
    obtain ⟨pair, -, rfl⟩ := List.mem_map.1 href
    rfl
  refine ⟨fun v w hpair => ?_, h.edgeRefs_eq,
    fun v w hpair => ⟨_, ?_, EdgeLabel.isOverlaid_merge _ attrs points⟩,
    fun ref href hother => h.edge?_of_not_mem hsound href fun hlinked => ?_, h.counter⟩
  · have hone := length_namesBetween_le_one h.sound.linked.edgeRefs_nodup hnames v w
    have hthere : none ∈ s'.graph.namesBetween v w := by
      rw [Graph.mem_namesBetween_iff, h.directed]
      exact h.mem_edgeRefs (hmem v w hpair)
    obtain ⟨name, hname⟩ := List.length_eq_one_iff.1
      (Nat.le_antisymm hone (List.length_pos_of_mem hthere))
    rw [hname] at hthere ⊢
    rw [← List.mem_singleton.1 hthere]
  · exact h.edge?_of_mem hsound (hplain _ hpair).1 (hplain _ hpair).2 (hmem v w hpair)
  · obtain ⟨pair, hpair, heq⟩ := List.mem_map.1 hlinked
    exact hother pair hpair heq.symm

theorem connectAll_eq_foldl (s : State) (stem : String) (prev curr : List String) (attrs : Attrs)
    (points : Option (List Point)) : s.connectAll stem prev curr attrs points =
      (prev.flatMap fun v => curr.map fun w => (v, w)).foldl
        (fun s pair => s.connect stem pair.1 pair.2 attrs points) s := by
  simp only [State.connectAll, List.foldl_flatMap, List.foldl_map]

/-- In every state of a strict build, linking every node of one list with every node of another
makes one unnamed edge for each pair, and lays what is merged once over its label. -/
theorem connectAll_linksOnce (hadmissible : Admissible settings doc) (hstrict : doc.strict = true)
    (h : Reaches settings doc p rest) (hprev : ∀ v ∈ prev, IsPlain v)
    (hcurr : ∀ w ∈ curr, IsPlain w) (attrs : Attrs) (points : Option (List Point)) :
    LinksOnce (prev.flatMap fun v => curr.map fun w => (v, w)) attrs points p.state
      (p.state.connectAll settings.edgeNameStem prev curr attrs points) := by
  have hsound := h.sound hadmissible
  have hsingle : p.graph.multigraph = false := by rw [hsound.multigraph, hstrict]; rfl
  have hplain : ∀ pair ∈ prev.flatMap fun v => curr.map fun w => (v, w),
      IsPlain pair.1 ∧ IsPlain pair.2 := by
    intro pair hpair
    obtain ⟨v, hv, hpair⟩ := List.mem_flatMap.1 hpair
    obtain ⟨w, hw, rfl⟩ := List.mem_map.1 hpair
    exact ⟨hprev v hv, hcurr w hw⟩
  rw [connectAll_eq_foldl]
  have hlinks := State.linking_foldl hsound.graph hsingle hplain settings.edgeNameStem attrs points
  exact hlinks.linksOnce hsound.graph (h.unnamed hadmissible hstrict) hplain

/-- A strict graph with two edges, one of them with an attribute, and a default behind them. -/
def strictPath : Document where
  kind := .graph
  strict := true
  id := none
  stmts :=
    [.edge [.node "b" Attrs.empty, .node "a" Attrs.empty] (Attrs.ofPairs [("color", "red")]),
      .edge [.node "b" Attrs.empty, .node "c" Attrs.empty] Attrs.empty,
      .attr .edge (Attrs.ofPairs [("style", "dotted")])]

/-- Two nodes are linked with themselves and with each other, in both orders and one of them
twice. -/
theorem connectAll_linksOnce_strictPath :
    let attrs := Attrs.ofPairs [("label", "x")]
    let points := some [⟨1, 2⟩]
    ∃ p s, Admissible Settings.default strictPath ∧ strictPath.strict = true ∧
      Reaches Settings.default strictPath p [] ∧ IsPlain "a" ∧ IsPlain "b" ∧
      s = p.state.connectAll Settings.default.edgeNameStem ["b", "a", "b"] ["a", "b"] attrs points ∧
      p.graph.edgeRefs = [⟨"a", "b", none⟩, ⟨"b", "c", none⟩] ∧
      s.graph.edgeRefs = [⟨"a", "b", none⟩, ⟨"b", "c", none⟩, ⟨"b", "b", none⟩, ⟨"a", "a", none⟩] ∧
      (s.graph.edge? "b" "a" none).map EdgeLabel.attrs =
        some (Attrs.ofPairs [("color", "red"), ("label", "x")]) ∧
      (s.graph.edge? "a" "a" none).map EdgeLabel.attrs =
        some (Attrs.ofPairs [("label", "x"), ("style", "dotted")]) ∧
      LinksOnce [("b", "a"), ("b", "b"), ("a", "a"), ("a", "b"), ("b", "a"), ("b", "b")] attrs
        points p.state s := by
  have hadmissible : Admissible Settings.default strictPath := ⟨by decide, by decide⟩
  have hreach := Reaches.build Settings.default strictPath
  have hprev : ∀ v ∈ ["b", "a", "b"], IsPlain v := by decide
  have hcurr : ∀ w ∈ ["a", "b"], IsPlain w := by decide
  exact ⟨_, _, hadmissible, rfl, hreach, by decide, by decide, rfl, by decide +kernel,
    by decide +kernel, by decide +kernel, by decide +kernel,
    connectAll_linksOnce hadmissible rfl hreach hprev hcurr _ _⟩

end Build

end ClusterGraph
