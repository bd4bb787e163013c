import ClusterGraph.Proofs.Build.Absorption

/-!
# Which nodes are there because they are open

The nodes with some ids are thought of as **lasting**: nothing takes them away. A node in which a
lasting one lies, at any depth, stays as well (`Holds`). All other nodes are those of subgraphs that
are still open, and each of them lies in one that is open further out (`OpenInOrder`). This is kept
when a subgraph is opened (`Frame.Settled.opens`), and when it is closed, whether its node stays
(`Frame.Settled.leave`) or goes away (`Frame.Settled.remove`). Subgraphs may be opened inside
subgraphs of the same id: a node that is taken away is looked for further out in the list of those
that are open.
-/

namespace ClusterGraph

/-- A node that lasts, or in which one lies, directly or not, that lasts. -/
inductive Holds (lasting : String → Prop) (liesIn : String → String → Prop) : String → Prop where
  | self {x : String} (h : lasting x) : Holds lasting liesIn x
  | member {x y : String} (hy : liesIn y x) (h : Holds lasting liesIn y) : Holds lasting liesIn x

theorem Holds.imp {lasting : String → Prop} {liesIn liesIn' : String → String → Prop} {x : String}
    (h : Holds lasting liesIn x)
    (himp : ∀ y x, Holds lasting liesIn y → liesIn y x → liesIn' y x) :
    Holds lasting liesIn' x := by
  induction h with
  | self h => exact .self h
  | member hy h ih => exact .member (himp _ _ h hy) ih

/-- Nodes with their parents. -/
abbrev Frame := List (String × Option String)

namespace Frame

/-- The ids of the nodes. -/
def ids (frame : Frame) : List String := frame.map Prod.fst

/-- A node lies directly in another one. -/
def LiesIn (frame : Frame) (x p : String) : Prop := (x, some p) ∈ frame

variable {lasting : String → Prop} {frame frame' : Frame} {stack outer : List String}
  {c id p x : String} {scope : Option String}

theorem mem_ids {entry : String × Option String} (h : entry ∈ frame) : entry.1 ∈ frame.ids :=
  List.mem_map_of_mem h

/-! ### Nodes that are open in order -/

/-- A node is open, and the node it lies in holds a lasting one or is open further out. -/
def OpenInOrder (lasting : String → Prop) (frame : Frame) : List String → String → Prop
  | [], _ => False
  | c :: outer, x => OpenInOrder lasting frame outer x ∨ x = c ∧ ∀ p, frame.LiesIn c p →
      Holds lasting frame.LiesIn p ∨ OpenInOrder lasting frame outer p

theorem OpenInOrder.mem (h : OpenInOrder lasting frame stack x) : x ∈ stack := by
  induction stack with
  | nil => exact False.elim h
  | cons c outer ih =>
    rcases h with h | ⟨rfl, -⟩
    · exact List.mem_cons_of_mem _ (ih h)
    · exact List.mem_cons_self

/-- What an open node lies in is open too, as long as it does not hold a lasting one. -/
theorem OpenInOrder.parent (h : OpenInOrder lasting frame stack x) (hp : frame.LiesIn x p) :
    Holds lasting frame.LiesIn p ∨ OpenInOrder lasting frame stack p := by
  induction stack with
  | nil => exact False.elim h
  | cons c outer ih =>
    rcases h with h | ⟨rfl, h⟩
    · exact (ih h).imp_right .inl
    · exact (h p hp).imp_right .inl

/-- Nodes that are there are there with the same parents. -/
structure Extends (frame frame' : Frame) : Prop where
  subset : frame ⊆ frame'
  agrees : ∀ entry ∈ frame', entry ∈ frame ∨ entry.1 ∉ frame.ids

theorem Extends.holds (h : Extends frame frame') (hx : Holds lasting frame.LiesIn x) :
    Holds lasting frame'.LiesIn x :=
  hx.imp fun _ _ _ hy => h.subset hy

/-- What nodes lie in is there. -/
def Closed (frame : Frame) : Prop := ∀ entry ∈ frame, ∀ p ∈ entry.2, p ∈ frame.ids

theorem OpenInOrder.extend (h : OpenInOrder lasting frame stack x) (hclosed : frame.Closed)
    (hextends : Extends frame frame') (hx : x ∈ frame.ids) :
    OpenInOrder lasting frame' stack x := by
  induction stack generalizing x with
  | nil => exact h
  | cons c outer ih =>
    rcases h with h | ⟨rfl, h⟩
    · exact .inl (ih h hx)
    · refine .inr ⟨rfl, fun p hp => ?_⟩
      have hold : frame.LiesIn x p := (hextends.agrees _ hp).resolve_right fun hnew => hnew hx
      exact (h p hold).imp hextends.holds fun hopen => ih hopen (hclosed _ hold p rfl)

/-! ### Frames in which all nodes are there for a reason -/

/-- Every node holds a lasting one, or is open in order. -/
structure Settled (lasting : String → Prop) (stack : List String) (frame : Frame) : Prop where
  closed : frame.Closed
  held : ∀ entry ∈ frame,
    Holds lasting frame.LiesIn entry.1 ∨ OpenInOrder lasting frame stack entry.1

theorem Settled.of_mem_ids (h : frame.Settled lasting stack) (hx : x ∈ frame.ids) :
    Holds lasting frame.LiesIn x ∨ OpenInOrder lasting frame stack x := by
  obtain ⟨entry, hentry, rfl⟩ := List.mem_map.1 hx
  exact h.held entry hentry

/-- A subgraph is opened whose node is there. -/
theorem Settled.push (h : frame.Settled lasting stack) (c : String) :
    frame.Settled lasting (c :: stack) :=
  ⟨h.closed, fun entry hentry => (h.held entry hentry).imp_right .inl⟩

/-- A node is put behind the others in a scope, which is added at the top if it is missing. -/
structure Places (id : String) (scope : Option String) (frame frame' : Frame) : Prop where
  subset : frame ⊆ frame'
  new : ∀ entry ∈ frame', entry ∈ frame ∨ entry.1 ∉ frame.ids ∧
    (entry.1 = id ∧ (∀ p ∈ entry.2, scope = some p ∧ p ≠ id) ∨
      scope = some entry.1 ∧ entry.1 ≠ id ∧ entry.2 = none)
  scope_mem : ∀ c ∈ scope, c ≠ id → c ∈ frame'.ids

namespace Places

variable (h : Places id scope frame frame')

include h

theorem extends' : Extends frame frame' :=
  ⟨h.subset, fun entry hentry => (h.new entry hentry).imp_right And.left⟩

theorem closed (hclosed : frame.Closed) : frame'.Closed := by
  intro entry hentry p hp
  rcases h.new entry hentry with hold | ⟨-, ⟨-, hparent⟩ | ⟨-, -, hnone⟩⟩
  · obtain ⟨entry', hentry', rfl⟩ := List.mem_map.1 (hclosed entry hold p hp)
    exact mem_ids (h.subset hentry')
  · exact h.scope_mem p (hparent p hp).1 (hparent p hp).2
  · rw [hnone] at hp
    cases hp

/-- The scope holds a lasting node or is open in order, also when it is new. -/
theorem held_scope (hsettled : frame.Settled lasting stack)
    (hscope : ∀ c ∈ scope, Holds lasting frame.LiesIn c ∨ stack.head? = some c) :
    ∀ c ∈ scope, c ≠ id →
      Holds lasting frame'.LiesIn c ∨ OpenInOrder lasting frame' stack c := by
  intro c hc hne
  rcases hscope c hc with hholds | hhead
  · exact .inl (h.extends'.holds hholds)
  by_cases hmem : c ∈ frame.ids
  · exact (hsettled.of_mem_ids hmem).imp h.extends'.holds fun hopen =>
      hopen.extend hsettled.closed h.extends' hmem
  · obtain ⟨outer, rfl⟩ := List.head?_eq_some_iff.1 hhead
    refine .inr (.inr ⟨rfl, fun p hp => ?_⟩)
    -- a scope that has just been added lies at the top
    rcases h.new _ hp with hold | ⟨-, ⟨heq, -⟩ | ⟨-, -, hnone⟩⟩
    · exact absurd (mem_ids hold) hmem
    · exact absurd heq hne
    · cases hnone

end Places

/-- Nodes that hold a lasting one or are open in order go on to do so when others are added. -/
private theorem Settled.extend (h : frame.Settled lasting stack) (hextends : Extends frame frame')
    {stack' : List String} (hstack : ∀ x, OpenInOrder lasting frame' stack x →
      OpenInOrder lasting frame' stack' x) (hclosed : frame'.Closed)
    (hnew : ∀ entry ∈ frame', entry ∉ frame →
      Holds lasting frame'.LiesIn entry.1 ∨ OpenInOrder lasting frame' stack' entry.1) :
    frame'.Settled lasting stack' := by
  refine ⟨hclosed, fun entry hentry => ?_⟩
  by_cases hold : entry ∈ frame
  · exact (h.held entry hold).imp hextends.holds fun hopen =>
      hstack _ (hopen.extend h.closed hextends (mem_ids hold))
  · exact hnew entry hentry hold

/-- A subgraph is opened whose node is new: it lies in a scope that is open further out, or that
holds a lasting node. -/
theorem Settled.opens (h : frame.Settled lasting stack) (hplaces : Places id scope frame frame')
    (hscope : ∀ c ∈ scope, Holds lasting frame.LiesIn c ∨ stack.head? = some c) :
    frame'.Settled lasting (id :: stack) := by
  have hheld := hplaces.held_scope h hscope
  refine h.extend hplaces.extends' (fun _ => .inl) (hplaces.closed h.closed)
    fun entry hentry hnot => ?_
  rcases hplaces.new entry hentry with hold | ⟨hids, ⟨heq, -⟩ | ⟨hin, hne, -⟩⟩
  · exact absurd hold hnot
  · refine .inr (.inr ⟨heq, fun p hp => ?_⟩)
    rcases hplaces.new _ hp with hold | ⟨-, ⟨-, hparent⟩ | ⟨-, -, hnone⟩⟩
    · exact absurd (heq ▸ mem_ids hold) hids
    · exact hheld p (hparent p rfl).1 (hparent p rfl).2
    · cases hnone
  · exact (hheld entry.1 hin hne).imp_right .inl

/-- A lasting node is added. -/
theorem Settled.place (h : frame.Settled lasting stack) (hplaces : Places id scope frame frame')
    (hscope : ∀ c ∈ scope, Holds lasting frame.LiesIn c ∨ stack.head? = some c)
    (hid : lasting id) : frame'.Settled lasting stack := by
  refine h.extend hplaces.extends' (fun _ hx => hx) (hplaces.closed h.closed)
    fun entry hentry hnot => ?_
  rcases hplaces.new entry hentry with hold | ⟨-, ⟨heq, -⟩ | ⟨hin, hne, -⟩⟩
  · exact absurd hold hnot
  · exact .inl (.self (heq ▸ hid))
  · exact hplaces.held_scope h hscope entry.1 hin hne

/-- A subgraph is closed in which a node lies: this node is open further out, and therefore the
subgraph is as well, or else both hold a lasting node. -/
theorem Settled.leave (h : frame.Settled lasting (c :: outer)) (hx : frame.LiesIn x c) :
    frame.Settled lasting outer := by
  have hc : Holds lasting frame.LiesIn c ∨ OpenInOrder lasting frame outer c := by
    rcases h.held _ hx with hholds | hopen | ⟨heq, hparent⟩
    · exact .inl (.member hx hholds)
    · exact hopen.parent hx
    · exact hparent c (heq ▸ hx)
  refine ⟨h.closed, fun entry hentry => ?_⟩
  rcases h.held entry hentry with hholds | hopen | ⟨heq, -⟩
  · exact .inl hholds
  · exact .inr hopen
  · rwa [heq]

/-- A subgraph is closed in which no node lies, and its node is taken away. -/
theorem Settled.remove (h : frame.Settled lasting (c :: outer)) (hc : ¬ lasting c)
    (hempty : ∀ x, ¬ frame.LiesIn x c) :
    Settled lasting outer (frame.filter fun entry => entry.1 ≠ c) := by
  have hsubset : frame.filter (fun entry => entry.1 ≠ c) ⊆ frame :=
    List.filter_sublist.subset
  have hmem : ∀ entry ∈ frame, entry.1 ≠ c → entry ∈ frame.filter fun entry => entry.1 ≠ c :=
    fun entry hentry hne => List.mem_filter.2 ⟨hentry, decide_eq_true hne⟩
  -- the node that goes away holds no lasting one
  have hnot : ¬ Holds lasting frame.LiesIn c := by
    intro hholds
    cases hholds with
    | self hlasting => exact hc hlasting
    | member hy => exact hempty _ hy
  have hholds : ∀ x, Holds lasting frame.LiesIn x →
      Holds lasting (LiesIn (frame.filter fun entry => entry.1 ≠ c)) x := by
    refine fun x hx => hx.imp fun y p hy hlies => hmem _ hlies ?_
    rintro rfl
    exact hnot hy
  have hopen : ∀ stack x, OpenInOrder lasting frame stack x →
      OpenInOrder lasting (frame.filter fun entry => entry.1 ≠ c) stack x := by
    intro stack
    induction stack with
    | nil => exact fun _ hx => hx
    | cons top stack ih =>
      intro x hx
      refine hx.imp (ih x) fun ⟨heq, hparent⟩ => ⟨heq, fun p hp => ?_⟩
      exact (hparent p (hsubset hp)).imp (hholds p) (ih p)
  refine ⟨fun entry hentry p hp => ?_, fun entry hentry => ?_⟩
  · have hmem' : p ∈ frame.ids := h.closed entry (hsubset hentry) p hp
    obtain ⟨entry', hentry', rfl⟩ := List.mem_map.1 hmem'
    refine mem_ids (hmem entry' hentry' ?_)
    rintro rfl
    have heq : (entry.1, some entry'.1) = entry := Prod.ext rfl hp.symm
    have hlies : LiesIn frame entry.1 entry'.1 := by
      rw [LiesIn, heq]
      exact hsubset hentry
    exact hempty entry.1 hlies
  · have hne : entry.1 ≠ c := of_decide_eq_true (List.mem_filter.1 hentry).2
    rcases h.held entry (hsubset hentry) with hx | hx | ⟨heq, -⟩
    · exact .inl (hholds _ hx)
    · exact .inr (hopen outer _ hx)
    · exact absurd heq hne

end Frame

/-- A node that is put into its place stands behind the others, and so does its scope if this is
missing. -/
theorem Rows.exists_place {rows : Rows} {id : String} (h : id ∉ rows.ids) (scope : Option String)
    (label : PlacedLabel) : ∃ fresh : Rows, rows.place id scope label = rows ++ fresh ∧
      (∀ row ∈ fresh, row.id ∉ rows.ids ∧
        (row.id = id ∧ (∀ p ∈ row.parent, scope = some p ∧ p ≠ id) ∨
          scope = some row.id ∧ row.id ≠ id ∧ row.parent = none)) ∧
      ∀ c ∈ scope, c ≠ id → c ∈ Rows.ids (rows ++ fresh) := by
  cases scope with
  | none =>
    exact ⟨[⟨id, none, label⟩], rfl, List.forall_mem_singleton.2 ⟨h, .inl ⟨rfl, nofun⟩⟩, nofun⟩
  | some c =>
    have hparent (hne : c ≠ id) : ∀ p ∈ some c, some c = some p ∧ p ≠ id := fun p hp =>
      ⟨hp, Option.some.inj hp ▸ hne⟩
    rw [place]
    split
    · next hc =>
      exact ⟨[⟨id, none, label⟩], rfl, List.forall_mem_singleton.2 ⟨h, .inl ⟨rfl, nofun⟩⟩,
        fun c' hc' hne => absurd (Option.some.inj hc' ▸ hc) hne⟩
    · next hne =>
      rw [supply]
      split
      · next hmem =>
        exact ⟨[⟨id, some c, label⟩], rfl, List.forall_mem_singleton.2 ⟨h, .inl ⟨rfl, hparent hne⟩⟩,
          fun c' hc' _ => Option.some.inj hc' ▸ hmem⟩
      · next hmem =>
        rw [ids_add, List.mem_append, not_or] at hmem
        -- the scope is missing as well, and stands behind the node, at the top
        refine ⟨[⟨id, some c, label⟩, ⟨c, none, PlacedLabel.ofAttrs Attrs.empty⟩],
          List.append_assoc .., ?_, fun c' hc' _ => ?_⟩
        · exact List.forall_mem_cons.2 ⟨⟨h, .inl ⟨rfl, hparent hne⟩⟩,
            List.forall_mem_singleton.2 ⟨hmem.1, .inr ⟨rfl, hne, rfl⟩⟩⟩
        · obtain rfl : c = c' := Option.some.inj hc'
          simp [ids]

/-- What this means for the nodes with their parents. -/
theorem Rows.places_place {rows : Rows} {id : String} (h : id ∉ rows.ids) (scope : Option String)
    (label : PlacedLabel) :
    Frame.Places id scope rows.frame (rows.place id scope label).frame := by
  obtain ⟨fresh, hplace, hfresh, hscope⟩ := rows.exists_place h scope label
  rw [hplace]
  refine ⟨?_, fun entry hentry => ?_, fun c hc hne => ?_⟩
  · rw [frame_append]
    exact List.subset_append_left _ _
  · rw [frame_append, List.mem_append] at hentry
    refine hentry.imp_right fun hnew => ?_
    obtain ⟨row, hrow, rfl⟩ := List.mem_map.1 hnew
    rw [Frame.ids, map_fst_frame]
    exact hfresh row hrow
  · rw [Frame.ids, map_fst_frame]
    exact hscope c hc hne

/-! ### Opening and closing subgraphs -/

namespace Build.Sketch

variable {settings : Settings} {lasting : String → Prop} {stack outer : List String} {k k' : Sketch}
  {c : String} {name : Option String}

/-- Where a subgraph is opened, its node is there or is put into its place. -/
theorem Opens.frame_cases (hopens : Opens settings k name c k') :
    k'.outline.nodes.frame = k.outline.nodes.frame ∨
      Frame.Places c k.scope k.outline.nodes.frame k'.outline.nodes.frame := by
  obtain ⟨entered, houtline, rfl⟩ := hopens.node
  rw [← houtline]
  by_cases hmem : c ∈ entered.outline.nodes.ids
  · rw [ensureNode_of_mem hmem]
    exact .inl rfl
  · simp only [ensureNode, if_neg hmem]
    exact .inr (Rows.places_place hmem k.scope _)

/-- Where a subgraph is closed, something lies in its node, or this is taken away. -/
theorem frame_elide_cases (settings : Settings) (hscopes : k.scopes = c :: outer) :
    (∃ y, Frame.LiesIn k.outline.nodes.frame y c) ∧
        (k.perform settings .elide).outline.nodes.frame = k.outline.nodes.frame ∨
      (∀ y, ¬ Frame.LiesIn k.outline.nodes.frame y c) ∧
        (k.perform settings .elide).outline.nodes.frame =
          k.outline.nodes.frame.filter fun entry => entry.1 ≠ c := by
  by_cases hmembers : k.outline.nodes.members c = []
  · rw [perform_elide_of_empty settings hscopes hmembers]
    refine .inr ⟨fun y hy => ?_, Rows.frame_remove _ c⟩
    have hmem := Rows.mem_members_iff.2 hy
    rw [hmembers] at hmem
    cases hmem
  · rw [perform_elide_of_members settings hscopes hmembers]
    obtain ⟨y, hy⟩ := List.exists_mem_of_ne_nil _ hmembers
    exact .inl ⟨⟨y, Rows.mem_members_iff.1 hy⟩, rfl⟩

/-- A subgraph is opened in a scope. -/
theorem Opens.settled (hopens : Opens settings k name c k')
    (h : Frame.Settled lasting stack k.outline.nodes.frame)
    (hscope : ∀ c ∈ k.scope, Holds lasting (Frame.LiesIn k.outline.nodes.frame) c ∨
      stack.head? = some c) :
    Frame.Settled lasting (c :: stack) k'.outline.nodes.frame := by
  rcases hopens.frame_cases with hsame | hplaces
  · rw [hsame]
    exact h.push c
  · exact h.opens hplaces hscope

/-- The innermost open subgraph is closed. -/
theorem settled_elide (settings : Settings) (hscope : k.scope = some c)
    (h : Frame.Settled lasting (c :: outer) k.outline.nodes.frame) (hc : ¬ lasting c) :
    Frame.Settled lasting outer (k.perform settings .elide).outline.nodes.frame := by
  obtain ⟨rest, hscopes⟩ : ∃ rest, k.scopes = c :: rest := List.head?_eq_some_iff.1 hscope
  rcases k.frame_elide_cases settings hscopes with ⟨⟨y, hy⟩, hsame⟩ | ⟨hempty, hremoved⟩
  · rw [hsame]
    exact h.leave hy
  · rw [hremoved]
    exact h.remove hc hempty

end Build.Sketch

end ClusterGraph
