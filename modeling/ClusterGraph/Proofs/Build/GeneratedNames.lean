import ClusterGraph.Proofs.Build.FreshIds
import ClusterGraph.Proofs.Build.Balance
import Mathlib.Order.Bounds.Basic

/-!
# The names that a build generates

To name an anonymous subgraph one number is drawn after another, until the id that is made with the
number is not that of a node (`State.Generates`). Nothing bounds this search but the nodes
themselves: it ends after at most one try more than there are nodes, with the least number above the
counter that makes a free id, and with the counter at this number.

Removing a subgraph never takes the counter back (`counter_le_perform`), and whatever is generated
is made with a number that the counter passes there (`DrawsNumbers`). So through a whole build the
numbers increase, in the ids of anonymous subgraphs as in the names of edges, and no id and no name
is generated twice (`generatedNames_nodup`).
-/

namespace ClusterGraph.Build

/-! ### The search for a generated id -/

namespace State

/-- The state in which the next number has been drawn. -/
def drawn (s : State) : State := { s with counter := s.counter + 1 }

/-- The search for a generated id, without a bound: it takes the given number of tries to come to
the id, and leaves the second state. -/
inductive Generates (stem : String) : State → Nat → String → State → Prop where
  | free {s : State} (h : s.graph.hasNode (numbered stem s.drawn.counter) = false) :
      Generates stem s 1 (numbered stem s.drawn.counter) s.drawn
  | taken {s s' : State} {tries : Nat} {id : String}
      (h : s.graph.hasNode (numbered stem s.drawn.counter) = true)
      (hrest : Generates stem s.drawn tries id s') : Generates stem s (tries + 1) id s'

/-- The numbers above the counter that make ids which no node has. -/
def freeNumbers (s : State) (stem : String) : Set Nat :=
  { n | s.counter < n ∧ numbered stem n ∉ s.graph.nodeIds }

variable {s s' : State} {stem id : String} {tries : Nat}

theorem mem_freeNumbers_next : s.counter + 1 ∈ s.freeNumbers stem ↔
    s.graph.hasNode (numbered stem s.drawn.counter) = false := by
  refine (and_iff_right (Nat.lt_succ_self _)).trans ?_
  rw [← Graph.hasNode_iff, Bool.not_eq_true]
  rfl

/-- Drawing a number that makes the id of a node leaves the free numbers as they are. -/
theorem freeNumbers_drawn (h : s.graph.hasNode (numbered stem s.drawn.counter) = true) :
    s.drawn.freeNumbers stem = s.freeNumbers stem := by
  ext n
  refine and_congr_left fun hfree => ⟨Nat.lt_of_succ_lt, fun hlt => ?_⟩
  rcases Nat.lt_or_eq_of_le (Nat.succ_le_of_lt hlt) with hlt | rfl
  · exact hlt
  · exact absurd (Graph.hasNode_iff.1 h) hfree

/-- The search ends with the least free number. -/
theorem Generates.isLeast (h : s.Generates stem tries id s') :
    IsLeast (s.freeNumbers stem) (s.counter + tries) ∧
      id = numbered stem (s.counter + tries) ∧ s' = { s with counter := s.counter + tries } := by
  induction h with
  | free hfree => exact ⟨⟨mem_freeNumbers_next.2 hfree, fun _ hn => hn.1⟩, rfl, rfl⟩
  | @taken s s' tries id htaken _ ih =>
    have htries : s.drawn.counter + tries = s.counter + (tries + 1) := Nat.succ_add_eq_add_succ _ _
    rwa [freeNumbers_drawn htaken, htries] at ih

/-- The search comes to the least free number. -/
theorem generates_of_isLeast (h : IsLeast (s.freeNumbers stem) (s.counter + tries)) :
    s.Generates stem tries (numbered stem (s.counter + tries))
      { s with counter := s.counter + tries } := by
  induction tries generalizing s with
  | zero => exact absurd h.1.1 (Nat.lt_irrefl _)
  | succ tries ih =>
    cases hnode : s.graph.hasNode (numbered stem s.drawn.counter) with
    | false =>
      have hle := h.2 (mem_freeNumbers_next.2 hnode)
      obtain rfl : tries = 0 := by omega
      exact .free hnode
    | true =>
      have htries : s.drawn.counter + tries = s.counter + (tries + 1) :=
        Nat.succ_add_eq_add_succ _ _
      have hrest := ih (s := s.drawn) (by rwa [freeNumbers_drawn hnode, htries])
      rw [htries] at hrest
      exact .taken hnode hrest

/-- The number of the next generated id is the least free one. -/
theorem isLeast_nextFree (h : s.graph.Counted) (stem : String) :
    IsLeast (s.freeNumbers stem) (s.nextFree stem) := by
  refine ⟨⟨lt_freeNumber _ _ _, nextFree_spec h stem⟩, fun n hn => Nat.le_of_not_lt fun hlt => ?_⟩
  exact hn.2 (Graph.hasNode_iff.1 (taken_of_lt_freeNumber hn.1 hlt))

end State

theorem freeNumber_le (taken : Nat → Bool) (fuel n : Nat) :
    freeNumber taken fuel n ≤ n + (fuel + 1) := by
  induction fuel generalizing n with
  | zero => exact Nat.le_refl _
  | succ fuel ih =>
    rw [freeNumber]
    split
    · have := ih (n + 1)
      omega
    · omega

/-- For an anonymous subgraph the search ends, after at most one try more than there are nodes, with
the least free number and the counter at it, and that is the id that the subgraph is given. -/
def State.TakesLeastFree (s : State) (stem : String) : Prop :=
  ∃ tries ≤ s.graph.nodeCount + 1,
    IsLeast (s.freeNumbers stem) (s.counter + tries) ∧
    s.subgraphId stem none =
      (numbered stem (s.counter + tries), { s with counter := s.counter + tries }) ∧
    ∀ tries' id s', s.Generates stem tries' id s' ↔
      tries' = tries ∧ (id, s') = s.subgraphId stem none

theorem State.takesLeastFree {s : State} (h : s.graph.Counted) (stem : String) :
    s.TakesLeastFree stem := by
  have hleast := State.isLeast_nextFree h stem
  obtain ⟨tries, htries⟩ := Nat.exists_eq_add_of_lt hleast.1.1
  have hnext : s.nextFree stem = s.counter + (tries + 1) := htries
  have hgiven : s.subgraphId stem none =
      (numbered stem (s.counter + (tries + 1)), { s with counter := s.counter + (tries + 1) }) := by
    rw [State.subgraphId, hnext]
  rw [hnext] at hleast
  refine ⟨tries + 1, ?_, hleast, hgiven, fun tries' id s' => ⟨fun hsearch => ?_, ?_⟩⟩
  · have hle := freeNumber_le (fun n => s.graph.hasNode (numbered stem n)) s.graph.nodeCount
      s.counter
    rw [State.nextFree] at hnext
    omega
  · obtain ⟨hleast', rfl, rfl⟩ := hsearch.isLeast
    have hsame := hleast'.unique hleast
    exact ⟨Nat.add_left_cancel hsame, by rw [hgiven, hsame]⟩
  · rintro ⟨rfl, hid⟩
    obtain ⟨rfl, rfl⟩ := Prod.mk.inj (hid.trans hgiven)
    exact State.generates_of_isLeast hleast

/-! ### The counter through a build -/

namespace State

variable (s : State)

theorem counter_ensureNode (id : String) (scope : Option String) :
    (s.ensureNode id scope).counter = s.counter := by
  rw [ensureNode]
  split
  · rfl
  · cases scope with
    | none => rfl
    | some c =>
      dsimp only
      split
      · rfl
      · split <;> rfl

theorem counter_mergeIntoScope (scope : Option String) (attrs : Attrs)
    (geometry : Option Geometry) : (s.mergeIntoScope scope attrs geometry).counter = s.counter := by
  unfold mergeIntoScope
  split
  · rfl
  · split <;> rfl

theorem counter_connect (stem v w : String) (attrs : Attrs) (points : Option (List Point)) :
    (s.connect stem v w attrs points).counter = (s.nextEdgeName stem v w).2.counter := by
  by_cases hedge : s.graph.hasEdge v w (s.nextEdgeName stem v w).1 = true
  · rw [connect_of_hasEdge hedge]
  · rw [connect_of_not_hasEdge (Bool.eq_false_iff.2 hedge)]

end State

/-- No action takes the counter back. -/
theorem counter_le_perform (settings : Settings) (p : Progress) (action : Action) :
    p.state.counter ≤ (perform settings p action).state.counter := by
  obtain ⟨s, scopes⟩ := p
  have hsame {s' : State} (h : s'.counter = s.counter) : s.counter ≤ s'.counter :=
    Nat.le_of_eq h.symm
  cases action with
  | enter id =>
    cases id with
    | none => exact Nat.le_of_lt (lt_freeNumber _ _ _)
    | some id => exact hsame rfl
  | addScope =>
    cases scopes with
    | nil => exact hsame rfl
    | cons id outer => exact hsame (s.counter_ensureNode id outer.head?)
  | addNode id => exact hsame (s.counter_ensureNode id scopes.head?)
  | attr target attrs =>
    cases target with
    | graph => exact hsame (s.counter_mergeIntoScope scopes.head? attrs _)
    | node | edge => exact hsame rfl
  | inlineAttr attrs => exact hsame (s.counter_mergeIntoScope scopes.head? attrs none)
  | link v w attrs =>
    -- a link moves the counter when it draws a name, and not again when it sets the edge
    refine Nat.le_trans (s.counter_le_nextEdgeName settings.edgeNameStem v w) ?_
    exact Nat.le_of_eq (s.counter_connect settings.edgeNameStem v w attrs _).symm
  | elide =>
    cases scopes with
    | nil => exact hsame rfl
    | cons id outer =>
      cases hempty : (s.graph.children id).isEmpty <;> simp only [perform, hempty] <;>
        exact hsame rfl
  | mergeNode | skipStatement | skipElement | leave => exact hsame rfl

/-! ### What a whole build generates -/

/-- The id that is generated when an action is performed, if one is. -/
def Progress.generatedId (settings : Settings) (p : Progress) : Action → Option String
  | .enter none => some (p.givenId settings none)
  | _ => none

/-- The name of an edge that is generated when an action is performed, if one is. -/
def Progress.generatedName (settings : Settings) (p : Progress) : Action → Option String
  | .link v w _ => (p.state.nextEdgeName settings.edgeNameStem v w).1
  | _ => none

/-- What is generated when actions are performed in turn. -/
def generated (settings : Settings) (name : Progress → Action → Option String) (p : Progress) :
    List Action → List String
  | [] => []
  | action :: rest =>
    (name p action).toList ++ generated settings name (perform settings p action) rest

/-- The ids that the build of a document generates for anonymous subgraphs, in order, those that
are removed again included. -/
def generatedIds (settings : Settings) (doc : Document) : List String :=
  generated settings (Progress.generatedId settings) (.initial doc) (actionsOfAll doc.stmts)

/-- The names that the build of a document generates for edges, in order. -/
def generatedNames (settings : Settings) (doc : Document) : List String :=
  generated settings (Progress.generatedName settings) (.initial doc) (actionsOfAll doc.stmts)

/-- What is generated at an action is made with a number that the counter passes there. -/
def DrawsNumbers (settings : Settings) (stem : String)
    (name : Progress → Action → Option String) : Prop :=
  ∀ p action x, name p action = some x → ∃ n, x = numbered stem n ∧ p.state.counter < n ∧
    n ≤ (perform settings p action).state.counter

theorem drawsNumbers_generatedId (settings : Settings) :
    DrawsNumbers settings settings.subgraphIdStem (Progress.generatedId settings) := by
  intro p action x hx
  cases action with
  | enter id =>
    cases id with
    | none =>
      obtain rfl := Option.some.inj hx
      exact ⟨p.state.nextFree settings.subgraphIdStem, rfl, lt_freeNumber _ _ _, Nat.le_refl _⟩
    | some id => cases hx
  | _ => cases hx

theorem drawsNumbers_generatedName (settings : Settings) :
    DrawsNumbers settings settings.edgeNameStem (Progress.generatedName settings) := by
  intro p action x hx
  cases action with
  | link v w attrs =>
    rw [Progress.generatedName] at hx
    have hcounter := p.state.counter_connect settings.edgeNameStem v w attrs
      (edgePoints settings attrs)
    rcases p.state.nextEdgeName_cases settings.edgeNameStem v w with ⟨-, heq⟩ | ⟨-, -, heq⟩
    · rw [heq] at hx
      cases hx
    · rw [heq] at hx hcounter
      obtain rfl := Option.some.inj hx
      exact ⟨p.state.counter + 1, rfl, Nat.lt_succ_self _, Nat.le_of_eq hcounter.symm⟩
  | _ => cases hx

/-- The numbers that are drawn through a run increase. -/
theorem DrawsNumbers.exists_numbers {settings : Settings} {stem : String}
    {name : Progress → Action → Option String} (h : DrawsNumbers settings stem name)
    (p : Progress) (actions : List Action) :
    ∃ numbers : List Nat, generated settings name p actions = numbers.map (numbered stem) ∧
      numbers.Pairwise (· < ·) ∧ ∀ n ∈ numbers, p.state.counter < n := by
  induction actions generalizing p with
  | nil => exact ⟨[], rfl, List.Pairwise.nil, nofun⟩
  | cons action rest ih =>
    obtain ⟨numbers, hnumbers, hincreasing, habove⟩ := ih (perform settings p action)
    cases hname : name p action with
    | none =>
      refine ⟨numbers, ?_, hincreasing, fun n hn => ?_⟩
      · rw [generated, hname, hnumbers]
        rfl
      · exact Nat.lt_of_le_of_lt (counter_le_perform settings p action) (habove n hn)
    | some x =>
      -- the number is passed by the counter, above which all later ones lie
      obtain ⟨n, rfl, hn, hpassed⟩ := h p action x hname
      refine ⟨n :: numbers, ?_, List.pairwise_cons.2 ⟨fun m hm => ?_, hincreasing⟩, fun m hm => ?_⟩
      · rw [generated, hname, hnumbers]
        rfl
      · exact Nat.lt_of_le_of_lt hpassed (habove m hm)
      · rcases List.mem_cons.1 hm with rfl | hm
        · exact hn
        · exact Nat.lt_of_le_of_lt (counter_le_perform settings p action) (habove m hm)

/-- Nothing is generated twice. -/
theorem DrawsNumbers.nodup {settings : Settings} {stem : String}
    {name : Progress → Action → Option String} (h : DrawsNumbers settings stem name)
    (p : Progress) (actions : List Action) : (generated settings name p actions).Nodup := by
  obtain ⟨numbers, hnumbers, hincreasing, -⟩ := h.exists_numbers p actions
  rw [hnumbers]
  exact List.Nodup.map (fun _ _ => numbered_inj.1) (hincreasing.imp Nat.ne_of_lt)

/-- Whatever the ids of nodes are, the search for a generated id ends with the least free number,
and so it does in every state of a build, with every stem. Through a whole build no id is generated
twice for anonymous subgraphs, and no name for edges. -/
theorem generatedNames_nodup (settings : Settings) (doc : Document) :
    (∀ s : State, s.graph.Counted → ∀ stem, s.TakesLeastFree stem) ∧
    (∀ p rest, Reaches settings doc p rest → ∀ stem, p.state.TakesLeastFree stem) ∧
    (generatedIds settings doc).Nodup ∧ (generatedNames settings doc).Nodup :=
  ⟨fun _ hcounted stem => State.takesLeastFree hcounted stem,
    fun _ _ hreach stem => State.takesLeastFree hreach.counted stem,
    (drawsNumbers_generatedId settings).nodup _ _, (drawsNumbers_generatedName settings).nodup _ _⟩

/-- A node has an id as it would be generated first, and an anonymous subgraph is removed again. -/
def idsLookGenerated : Document where
  kind := .digraph
  strict := false
  id := none
  stmts := [.node "g11" Attrs.empty, .subgraph none [],
    .edge [.node "a" Attrs.empty, .node "b" Attrs.empty] Attrs.empty,
    .edge [.node "a" Attrs.empty, .node "b" Attrs.empty] Attrs.empty,
    .subgraph none [.node "c" Attrs.empty],
    .edge [.node "a" Attrs.empty, .node "b" Attrs.empty] Attrs.empty]

/-- The stem of the ids ends in a digit. -/
theorem generatedNames_nodup_idsLookGenerated :
    let settings := { Settings.default with subgraphIdStem := "g1", edgeNameStem := "g" }
    (start idsLookGenerated).graph.Counted ∧ (start idsLookGenerated).TakesLeastFree "" ∧
    (∃ p rest, Reaches settings idsLookGenerated p (.enter none :: rest) ∧
      p.graph.nodeIds = ["g11"] ∧ p.state.TakesLeastFree "g1" ∧
      (p.state.subgraphId "g1" none).1 = "g12") ∧
    generatedIds settings idsLookGenerated = ["g12", "g14"] ∧
    generatedNames settings idsLookGenerated = ["g3", "g5"] ∧
    (generatedIds settings idsLookGenerated).Nodup ∧
    (generatedNames settings idsLookGenerated).Nodup := by
  intro settings
  obtain ⟨hcounted, hreaches, hids, hnames⟩ := generatedNames_nodup settings idsLookGenerated
  have hinitial : Reaches settings idsLookGenerated (.initial idsLookGenerated)
      (actionsOf (.node "g11" Attrs.empty) ++ (actionsOfAll idsLookGenerated.stmts).drop 2) :=
    .initial
  have hreach := hinitial.nexts
  have hstart : (start idsLookGenerated).graph.Counted := by rfl
  exact ⟨hstart, hcounted _ hstart "",
    ⟨_, _, hreach, by rfl, hreaches _ _ hreach "g1", by decide +kernel⟩,
    by decide +kernel, by decide +kernel, hids, hnames⟩

end ClusterGraph.Build
