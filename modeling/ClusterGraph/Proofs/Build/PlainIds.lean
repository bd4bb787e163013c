import ClusterGraph.Proofs.Build.Actions
import ClusterGraph.Proofs.Graph.EdgeKey

/-!
# Documents with plain ids

A build works on plain ids: those written on the nodes and subgraphs of the document
(`Document.writtenIds`), and generated ones, which start with a stem from the settings.
`Admissible settings doc` says that all of them are plain. No other id occurs in the actions of a
build (`mem_writtenIds_of_mem_actionsOfAll`).
-/

namespace ClusterGraph

namespace Statement

mutual

/-- The ids written on the nodes and subgraphs of a statement, in order. -/
def writtenIds : Statement → List String
  | .node id _ => [id]
  | .edge elems _ => writtenIdsOfAll elems
  | .subgraph id stmts => id.toList ++ writtenIdsOfAll stmts
  | .attr _ _ => []
  | .inlineAttr _ => []
  | .unknown => []

/-- The ids written in a list of statements, in order. -/
def writtenIdsOfAll : List Statement → List String
  | [] => []
  | stmt :: rest => stmt.writtenIds ++ writtenIdsOfAll rest

end

/-- An id is written in statements when one of them holds it. -/
theorem mem_writtenIdsOfAll_iff {id : String} {stmts : List Statement} :
    id ∈ writtenIdsOfAll stmts ↔ ∃ stmt ∈ stmts, id ∈ stmt.writtenIds := by
  induction stmts with
  | nil => simp [writtenIdsOfAll]
  | cons stmt rest ih => simp [writtenIdsOfAll, ih]

/-- What is collected from a stack of statements is written in one of them. -/
theorem mem_collectIds {id : String} (ids : List String) (stack : List Statement)
    (h : id ∈ collectIds ids stack) : id ∈ ids ∨ id ∈ writtenIdsOfAll stack := by
  have hpush : ∀ stmts stack : List Statement,
      id ∈ writtenIdsOfAll (push stmts stack) ↔
        id ∈ writtenIdsOfAll stmts ∨ id ∈ writtenIdsOfAll stack := fun stmts stack => by
    simp only [mem_writtenIdsOfAll_iff, push, List.mem_append, List.mem_reverse, or_and_right,
      exists_or]
  -- along the visit: what is still to come is written in the statements on the stack
  fun_induction collectIds ids stack with
  | case1 ids => exact .inl h
  | case2 ids node attrs stack ih =>
    rcases ih h with h | h
    · rw [addId] at h
      split at h
      · exact .inl h
      · rcases List.mem_append.1 h with h | h
        · exact .inl h
        · exact .inr (by simp [writtenIdsOfAll, writtenIds, List.mem_singleton.1 h])
    · exact .inr (List.mem_append_right _ h)
  | case3 ids elems attrs stack ih =>
    refine (ih h).imp_right fun h => ?_
    rw [writtenIdsOfAll, writtenIds, List.mem_append]
    exact (hpush elems stack).1 h
  | case4 ids name stmts stack ih =>
    refine (ih h).imp_right fun h => ?_
    rw [writtenIdsOfAll, writtenIds, List.mem_append, List.mem_append]
    exact ((hpush stmts stack).1 h).imp_left .inr
  | case5 ids target attrs stack ih => exact (ih h).imp_right (List.mem_append_right _)
  | case6 ids attrs stack ih => exact (ih h).imp_right (List.mem_append_right _)
  | case7 ids stack ih => exact (ih h).imp_right (List.mem_append_right _)

/-- What is mentioned in a statement is written in it. -/
theorem mem_writtenIds_of_mem_mentionedIds {id : String} {stmt : Statement}
    (h : id ∈ stmt.mentionedIds) : id ∈ stmt.writtenIds := by
  rcases mem_collectIds [] [stmt] h with h | h
  · cases h
  · simpa [writtenIdsOfAll] using h

end Statement

/-- The ids written on the nodes and subgraphs of a document, in order. -/
def Document.writtenIds (doc : Document) : List String := Statement.writtenIdsOfAll doc.stmts

namespace Build

open Statement (writtenIdsOfAll)

/-- The ids on which an action works, apart from the open subgraphs. -/
def Action.ids : Action → List String
  | .enter id => id.toList
  | .addNode id => [id]
  | .mergeNode id _ => [id]
  | .link v w _ => [v, w]
  | _ => []

/-- An element of a chain stands for nodes that are written in it. -/
theorem mem_writtenIds_of_endpoints {stmt : Statement} {ids : List String} {id : String}
    (h : endpoints stmt = some ids) (hid : id ∈ ids) : id ∈ stmt.writtenIds := by
  cases stmt with
  | node node attrs =>
    obtain rfl := Option.some.inj h
    exact hid
  | subgraph name stmts =>
    obtain rfl := Option.some.inj h
    exact Statement.mem_writtenIds_of_mem_mentionedIds hid
  | edge | attr | inlineAttr | unknown => cases h

/-- Links are made between ids of this element and of those before. -/
theorem mem_ids_of_linkActions {attrs : Attrs} {prev : List String} {elem : Statement}
    {action : Action} {id : String} (h : action ∈ linkActions attrs prev elem)
    (hid : id ∈ action.ids) : id ∈ prev ∨ id ∈ elem.writtenIds := by
  rw [linkActions] at h
  cases hends : endpoints elem with
  | none =>
    rw [hends] at h
    rw [List.mem_singleton.1 h] at hid
    cases hid
  | some curr =>
    rw [hends] at h
    obtain ⟨v, hv, h⟩ := List.mem_flatMap.1 h
    obtain ⟨w, hw, rfl⟩ := List.mem_map.1 h
    rcases List.mem_cons.1 hid with rfl | hid
    · exact .inl hv
    · rw [List.mem_singleton.1 hid]
      exact .inr (mem_writtenIds_of_endpoints hends hw)

/-- What comes before the next element is written in this one, or came before it. -/
theorem mem_nextEnds {prev : List String} {elem : Statement} {id : String}
    (h : id ∈ nextEnds prev elem) : id ∈ prev ∨ id ∈ elem.writtenIds := by
  rw [nextEnds] at h
  cases hends : endpoints elem with
  | none =>
    rw [hends] at h
    exact .inl h
  | some curr =>
    rw [hends] at h
    exact .inr (mem_writtenIds_of_endpoints hends h)

mutual

/-- By induction on the statement, its actions use no other ids than those written in it. -/
theorem mem_writtenIds_of_mem_actionsOf {action : Action} {id : String} (hid : id ∈ action.ids) :
    ∀ stmt : Statement, action ∈ actionsOf stmt → id ∈ stmt.writtenIds
  | .node node attrs, h => by
    simp only [actionsOf, List.mem_cons, List.not_mem_nil, or_false] at h
    rcases h with rfl | rfl <;> exact hid
  | .edge elems attrs, h => by
    rw [actionsOf] at h
    exact (mem_writtenIds_of_mem_chainActions hid elems attrs [] h).resolve_left List.not_mem_nil
  | .subgraph name stmts, h => by
    simp only [actionsOf, List.cons_append, List.nil_append, List.mem_cons, List.mem_append,
      List.not_mem_nil, or_false] at h
    rw [Statement.writtenIds, List.mem_append]
    rcases h with rfl | rfl | h | rfl | rfl
    · exact .inl hid
    · cases hid
    · exact .inr (mem_writtenIds_of_mem_actionsOfAll hid stmts h)
    · cases hid
    · cases hid
  | .attr target attrs, h => by
    rw [List.mem_singleton.1 h] at hid
    cases hid
  | .inlineAttr attrs, h => by
    rw [List.mem_singleton.1 h] at hid
    cases hid
  | .unknown, h => by
    rw [List.mem_singleton.1 h] at hid
    cases hid

/-- The ids in the actions of statements are written in them. -/
theorem mem_writtenIds_of_mem_actionsOfAll {action : Action} {id : String}
    (hid : id ∈ action.ids) :
    ∀ stmts : List Statement, action ∈ actionsOfAll stmts → id ∈ writtenIdsOfAll stmts
  | [], h => by cases h
  | stmt :: rest, h => by
    rw [actionsOfAll, List.mem_append] at h
    rw [writtenIdsOfAll, List.mem_append]
    exact h.imp (mem_writtenIds_of_mem_actionsOf hid stmt)
      (mem_writtenIds_of_mem_actionsOfAll hid rest)

/-- The actions of a chain use ids of its elements and of what came before. -/
theorem mem_writtenIds_of_mem_chainActions {action : Action} {id : String}
    (hid : id ∈ action.ids) : ∀ (elems : List Statement) (attrs : Attrs) (prev : List String),
      action ∈ chainActions attrs prev elems → id ∈ prev ∨ id ∈ writtenIdsOfAll elems
  | [], attrs, prev, h => by cases h
  | elem :: rest, attrs, prev, h => by
    rw [chainActions, List.mem_append, List.mem_append] at h
    rw [writtenIdsOfAll, List.mem_append]
    rcases h with (h | h) | h
    · exact .inr (.inl (mem_writtenIds_of_mem_actionsOf hid elem h))
    · exact (mem_ids_of_linkActions h hid).imp_right .inl
    · rcases mem_writtenIds_of_mem_chainActions hid rest attrs _ h with h | h
      · exact (mem_nextEnds h).imp_right .inl
      · exact .inr (.inr h)

end

/-- The ids of a document, written and generated, are plain. -/
structure Admissible (settings : Settings) (doc : Document) : Prop where
  written : ∀ id ∈ doc.writtenIds, IsPlain id
  stem : IsPlain settings.subgraphIdStem

/-- The actions of an admissible document use plain ids. -/
theorem Admissible.isPlain {settings : Settings} {doc : Document} {action : Action} {id : String}
    (h : Admissible settings doc) (haction : action ∈ actionsOfAll doc.stmts)
    (hid : id ∈ action.ids) : IsPlain id :=
  h.written id (mem_writtenIds_of_mem_actionsOfAll hid doc.stmts haction)

/-- Two nodes are linked twice, one of them is removed as an empty subgraph, and it comes back in
another subgraph, linked twice again. -/
def recurringScope : Document where
  kind := .graph
  strict := false
  id := none
  stmts :=
    let linkedTwice : List Statement :=
      [.edge [.node "b" Attrs.empty, .node "s" Attrs.empty] Attrs.empty,
        .edge [.node "s" Attrs.empty, .node "b" Attrs.empty] Attrs.empty]
    linkedTwice ++ [.subgraph (some "s") [], .subgraph (some "t") linkedTwice]

theorem admissible_recurringScope : Admissible Settings.default recurringScope where
  written := by decide
  stem := by decide

end Build

end ClusterGraph
