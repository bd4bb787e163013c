import ClusterGraph.Proofs.Build.PlainIds

/-!
# Documents whose subgraphs all have ids

Where every subgraph has an id of its own, none is generated (`enter_none_not_mem_actionsOfAll`), so
the stem of generated ids does not matter: it may be replaced by one that is plain
(`Named.admissible`), without a change to any state of the build (`Named.reaches_stemless`,
`Named.build_stemless`).
-/

namespace ClusterGraph

namespace Statement

mutual

/-- Whether every subgraph in a statement has an id. -/
def isNamed : Statement → Bool
  | .node _ _ => true
  | .edge elems _ => areNamed elems
  | .subgraph id stmts => id.isSome && areNamed stmts
  | .attr _ _ => true
  | .inlineAttr _ => true
  | .unknown => true

/-- Whether every subgraph in a list of statements has an id. -/
def areNamed : List Statement → Bool
  | [] => true
  | stmt :: rest => stmt.isNamed && areNamed rest

end

end Statement

/-- The same settings, but generated ids have no stem. -/
def Settings.stemless (settings : Settings) : Settings := { settings with subgraphIdStem := "" }

namespace Build

open Statement (areNamed writtenIdsOfAll)

variable {settings : Settings} {doc : Document} {p : Progress} {rest : List Action}

mutual

/-- Where every subgraph has an id, none is entered without one. -/
theorem enter_none_not_mem_actionsOf :
    ∀ stmt : Statement, stmt.isNamed = true → .enter none ∉ actionsOf stmt
  | .node id attrs, _ => by simp [actionsOf]
  | .edge elems attrs, h => enter_none_not_mem_chainActions attrs [] elems h
  | .subgraph id stmts, h => by
    obtain ⟨hid, hstmts⟩ := Bool.and_eq_true_iff.1 h
    obtain ⟨id, rfl⟩ := Option.isSome_iff_exists.1 hid
    simp [actionsOf, enter_none_not_mem_actionsOfAll stmts hstmts]
  | .attr target attrs, _ => by simp [actionsOf]
  | .inlineAttr attrs, _ => by simp [actionsOf]
  | .unknown, _ => by simp [actionsOf]

/-- Where every subgraph has an id, none is generated. -/
theorem enter_none_not_mem_actionsOfAll :
    ∀ stmts : List Statement, areNamed stmts = true → .enter none ∉ actionsOfAll stmts
  | [], _ => List.not_mem_nil
  | stmt :: rest, h => by
    obtain ⟨hstmt, hrest⟩ := Bool.and_eq_true_iff.1 h
    rw [actionsOfAll, List.mem_append, not_or]
    exact ⟨enter_none_not_mem_actionsOf stmt hstmt, enter_none_not_mem_actionsOfAll rest hrest⟩

/-- The same for the elements of a chain; links enter nothing. -/
theorem enter_none_not_mem_chainActions (attrs : Attrs) (prev : List String) :
    ∀ elems : List Statement, areNamed elems = true →
      .enter none ∉ chainActions attrs prev elems
  | [], _ => List.not_mem_nil
  | elem :: rest, h => by
    obtain ⟨helem, hrest⟩ := Bool.and_eq_true_iff.1 h
    rw [chainActions, List.mem_append, List.mem_append, not_or, not_or]
    exact ⟨⟨enter_none_not_mem_actionsOf elem helem,
      enter_not_mem_linkActions none attrs prev elem⟩,
      enter_none_not_mem_chainActions attrs _ rest hrest⟩

end

/-- Every subgraph of a document has an id, and the ids written in it are plain. -/
structure Named (doc : Document) : Prop where
  written : ∀ id ∈ doc.writtenIds, IsPlain id
  named : areNamed doc.stmts = true

/-- The stem of generated ids matters only where an id is generated. -/
theorem perform_stemless {action : Action} (h : action ≠ .enter none) (p : Progress) :
    perform settings.stemless p action = perform settings p action := by
  cases action with
  | enter id =>
    cases id with
    | none => exact absurd rfl h
    | some id => rfl
  | _ => rfl

/-- Where no id is generated, the stem of generated ids does not matter. -/
theorem performAll_stemless (settings : Settings) {actions : List Action}
    (h : .enter none ∉ actions) (p : Progress) :
    performAll settings.stemless p actions = performAll settings p actions := by
  induction actions generalizing p with
  | nil => rw [performAll, performAll, List.foldl_nil, List.foldl_nil]
  | cons action actions ih =>
    obtain ⟨hfirst, hrest⟩ := not_or.1 (mt List.mem_cons.2 h)
    rw [performAll_cons, performAll_cons, perform_stemless (Ne.symm hfirst), ih hrest]

namespace Named

variable (h : Named doc)

include h

/-- A document that names its subgraphs needs plain ids of its own only. -/
theorem admissible (settings : Settings) : Admissible settings.stemless doc where
  written := h.written
  stem := show IsPlain "" by decide

/-- A build of such a document never has to generate an id. -/
theorem ne_enter_none {action : Action} (hreach : Reaches settings doc p (action :: rest)) :
    action ≠ .enter none := by
  rintro rfl
  exact enter_none_not_mem_actionsOfAll doc.stmts h.named
    (hreach.isSuffix.subset List.mem_cons_self)

/-- The builds under way are the same with any stem. -/
theorem reaches_stemless :
    Reaches settings.stemless doc p rest ↔ Reaches settings doc p rest := by
  constructor
  · intro hreach
    induction hreach with
    | initial => exact .initial
    | next _ ih =>
      rw [perform_stemless (h.ne_enter_none ih)]
      exact .next ih
  · intro hreach
    induction hreach with
    | initial => exact .initial
    | next hreach ih =>
      rw [← perform_stemless (h.ne_enter_none hreach)]
      exact .next ih

/-- The graph is the same with any stem. -/
theorem build_stemless (settings : Settings) :
    doc.build settings.stemless = doc.build settings := by
  have hactions := performAll_stemless settings
    (enter_none_not_mem_actionsOfAll doc.stmts h.named) (Progress.initial doc)
  rw [performAll_actionsOfAll, performAll_actionsOfAll] at hactions
  have hstate := congrArg Progress.state hactions
  exact congrArg (fun s : State => Output.mk s.graph s.diagnostics) hstate

end Named

end Build

end ClusterGraph
