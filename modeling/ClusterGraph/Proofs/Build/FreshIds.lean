import ClusterGraph.Proofs.Build.AddedNodes
import ClusterGraph.Proofs.Build.Keeping
import Mathlib.Data.List.Perm.Subperm

/-!
# The ids of anonymous subgraphs

The id that is generated for an anonymous subgraph is not the id of a node (`State.nextFree_spec`):
of all numbers above the counter the first is taken whose name is free, and since a graph counts its
nodes right, whatever their ids are (`Reaches.counted`), one of the numbers that are tried is free.

Nodes are all that is looked at. So the id is none of those that are written in the document as long
as an id that has been written is still that of a node, and the id is not written behind the place
where it is generated (`generated_not_written`). An id that is written later only can be taken:
the two subgraphs are then one (`not_generated_not_written`).
-/

namespace ClusterGraph.Build

/-! ### Free numbers -/

section FreeNumber

variable {taken : Nat → Bool} {fuel n : Nat}

/-- Only the last of the numbers that may be reached is not tried. -/
theorem freeNumber_eq_of_taken (h : taken (freeNumber taken fuel n) = true) :
    freeNumber taken fuel n = n + fuel + 1 := by
  induction fuel generalizing n with
  | zero => rfl
  | succ fuel ih =>
    rw [freeNumber] at h ⊢
    split
    · next hn =>
      rw [if_pos hn] at h
      rw [ih h]
      omega
    · next hn =>
      rw [if_neg hn] at h
      exact absurd h hn

/-- Where at most `fuel` names are taken, the name that is found is not one of them. -/
theorem numbered_freeNumber_not_mem {stem : String} {ids : List String}
    (htaken : ∀ n, taken n = true ↔ numbered stem n ∈ ids) (hfuel : ids.length ≤ fuel) (n : Nat) :
    numbered stem (freeNumber taken fuel n) ∉ ids := by
  intro hmem
  have hlast := freeNumber_eq_of_taken ((htaken _).2 hmem)
  -- all of the `fuel + 1` names from the first to the last one would be taken
  have htried : ∀ k ∈ List.range' (n + 1) (fuel + 1), numbered stem k ∈ ids := by
    intro k hk
    rw [List.mem_range'_1] at hk
    by_cases hlt : k < freeNumber taken fuel n
    · exact (htaken k).1 (taken_of_lt_freeNumber (by omega) hlt)
    · have heq : k = freeNumber taken fuel n := by omega
      exact heq ▸ hmem
  have hnodup : ((List.range' (n + 1) (fuel + 1)).map (numbered stem)).Nodup :=
    List.Nodup.map (fun _ _ h => numbered_inj.1 h) List.nodup_range'
  have hsubset : (List.range' (n + 1) (fuel + 1)).map (numbered stem) ⊆ ids := by
    intro x hx
    obtain ⟨k, hk, rfl⟩ := List.mem_map.1 hx
    exact htried k hk
  have hlength := (List.Nodup.subperm hnodup hsubset).length_le
  rw [List.length_map, List.length_range'] at hlength
  omega

end FreeNumber

variable {settings : Settings} {doc : Document} {p : Progress} {action : Action}
  {rest : List Action} {id : String}

/-- The next generated id is not the id of a node. -/
theorem State.nextFree_spec {s : State} (h : s.graph.Counted) (stem : String) :
    numbered stem (s.nextFree stem) ∉ s.graph.nodeIds :=
  numbered_freeNumber_not_mem (fun _ => Graph.hasNode_iff) (Nat.le_of_eq h.symm) s.counter

/-! ### Ids that are written -/

/-- The id that a node or a subgraph is given by the statement that an action belongs to. -/
def Action.declared : Action → Option String
  | .enter id => id
  | .addNode id => some id
  | _ => none

open Statement (writtenIdsOfAll)

mutual

theorem exists_declared_of_mem_writtenIds : ∀ stmt : Statement, id ∈ stmt.writtenIds →
    ∃ action ∈ actionsOf stmt, action.declared = some id
  | .node name attrs, h => by
    rw [List.mem_singleton.1 h]
    exact ⟨.addNode name, List.mem_cons_self, rfl⟩
  | .edge elems attrs, h => exists_declared_of_mem_elems attrs [] elems h
  | .subgraph name stmts, h => by
    rw [actionsOf]
    rcases List.mem_append.1 h with h | h
    · exact ⟨.enter name, by simp, Option.mem_toList.1 h⟩
    · obtain ⟨action, haction, hid⟩ := exists_declared_of_mem_writtenIdsOfAll stmts h
      exact ⟨action, List.mem_append_left _ (List.mem_append_right _ haction), hid⟩
  | .attr target attrs, h => by cases h
  | .inlineAttr attrs, h => by cases h
  | .unknown, h => by cases h

/-- Each id that is written in statements is declared by one of their actions. -/
theorem exists_declared_of_mem_writtenIdsOfAll : ∀ stmts : List Statement,
    id ∈ writtenIdsOfAll stmts → ∃ action ∈ actionsOfAll stmts, action.declared = some id
  | [], h => by cases h
  | stmt :: rest, h => by
    rw [actionsOfAll]
    rcases List.mem_append.1 h with h | h
    · obtain ⟨action, haction, hid⟩ := exists_declared_of_mem_writtenIds stmt h
      exact ⟨action, List.mem_append_left _ haction, hid⟩
    · obtain ⟨action, haction, hid⟩ := exists_declared_of_mem_writtenIdsOfAll rest h
      exact ⟨action, List.mem_append_right _ haction, hid⟩

theorem exists_declared_of_mem_elems (attrs : Attrs) (prev : List String) :
    ∀ elems : List Statement, id ∈ writtenIdsOfAll elems →
      ∃ action ∈ chainActions attrs prev elems, action.declared = some id
  | [], h => by cases h
  | elem :: rest, h => by
    rw [chainActions]
    rcases List.mem_append.1 h with h | h
    · obtain ⟨action, haction, hid⟩ := exists_declared_of_mem_writtenIds elem h
      exact ⟨action, List.mem_append_left _ (List.mem_append_left _ haction), hid⟩
    · obtain ⟨action, haction, hid⟩ := exists_declared_of_mem_elems attrs _ rest h
      exact ⟨action, List.mem_append_right _ haction, hid⟩

end

namespace Reaches

/-- An action that declares an id is followed by a point at which the id is that of a node. -/
theorem exists_mem_nodeIds (h : Reaches settings doc p (action :: rest))
    (hid : action.declared = some id) :
    ∃ q after, Reaches settings doc q after ∧ id ∈ q.graph.nodeIds ∧
      (after = rest ∨ rest = .addScope :: after) := by
  cases action with
  | addNode name =>
    obtain rfl := Option.some.inj hid
    exact ⟨_, rest, .next h, p.state.mem_nodeIds_ensureNode name p.scope, .inl rfl⟩
  | enter name =>
    obtain rfl : name = some id := hid
    have hopens : OpensScopes (.enter (some id) :: rest) := by
      obtain ⟨done, hdone⟩ := h.isSuffix
      have hall := opensScopes_actionsOfAll doc.stmts
      rw [← hdone] at hall
      clear hdone
      induction done with
      | nil => exact hall
      | cons action done ih => exact ih hall.tail
    obtain ⟨after, rfl⟩ := List.head?_eq_some_iff.1 hopens.1
    refine ⟨_, after, .next (.next h), ?_, .inr rfl⟩
    exact State.mem_nodeIds_ensureNode _ id p.scopes.head?
  | _ => cases hid

end Reaches

/-- The id that is generated for an anonymous subgraph is not the id of a node. As long as its node
has not been there before and been taken away, and the id is not written on a node or a subgraph
behind that place, it is written nowhere in the document, and so no action works on it by name. -/
theorem generated_not_written (h : Reaches settings doc p (.enter none :: rest))
    (hid : (p.state.subgraphId settings.subgraphIdStem none).1 = id)
    (hkept : ∀ q before, Reaches settings doc q (before ++ .enter none :: rest) →
      id ∈ q.graph.nodeIds → id ∈ p.graph.nodeIds)
    (hlater : ∀ action ∈ rest, action.declared ≠ some id) :
    id ∉ p.graph.nodeIds ∧ id ∉ doc.writtenIds ∧
      ∀ action ∈ actionsOfAll doc.stmts, id ∉ action.ids := by
  have hfree : id ∉ p.graph.nodeIds := by
    rw [← hid]
    exact State.nextFree_spec h.counted settings.subgraphIdStem
  have hwritten : id ∉ doc.writtenIds := by
    intro hmem
    obtain ⟨action, haction, hdeclared⟩ := exists_declared_of_mem_writtenIdsOfAll doc.stmts hmem
    -- the id has been written before, and its node was there then
    obtain ⟨done, hdone⟩ := h.isSuffix
    rw [← hdone] at haction
    rcases List.mem_append.1 haction with haction | haction
    · obtain ⟨xs, ys, rfl⟩ := List.append_of_mem haction
      have hsuffix : action :: (ys ++ .enter none :: rest) <:+ actionsOfAll doc.stmts :=
        ⟨xs, by rw [← hdone, List.append_assoc, List.cons_append]⟩
      obtain ⟨q, hq⟩ := Reaches.exists_of_isSuffix settings hsuffix
      obtain ⟨q', after, hq', hmem', rfl | hafter⟩ := hq.exists_mem_nodeIds hdeclared
      · exact hfree (hkept q' ys hq' hmem')
      · cases ys with
        | nil => cases hafter
        | cons y ys =>
          obtain ⟨-, rfl⟩ := List.cons_eq_cons.1 hafter
          exact hfree (hkept q' ys hq' hmem')
    · rcases List.mem_cons.1 haction with rfl | haction
      · cases hdeclared
      · exact hlater action haction hdeclared
  exact ⟨hfree, hwritten, fun action haction hmem =>
    hwritten (mem_writtenIds_of_mem_actionsOfAll hmem doc.stmts haction)⟩

/-- The id that would be generated first has been written before. -/
def numberTaken : Document where
  kind := .digraph
  strict := false
  id := none
  stmts := [.node "sg1" Attrs.empty, .subgraph none [.node "a" Attrs.empty], .node "b" Attrs.empty]

/-- The second number is taken, which is written nowhere. -/
theorem generated_not_written_numberTaken :
    ∃ p rest, Reaches Settings.default numberTaken p (.enter none :: rest) ∧
      (p.state.subgraphId Settings.default.subgraphIdStem none).1 = "sg2" ∧
      "sg2" ∉ p.graph.nodeIds ∧ "sg2" ∉ numberTaken.writtenIds ∧
      ∀ action ∈ actionsOfAll numberTaken.stmts, "sg2" ∉ action.ids := by
  have hinitial : Reaches Settings.default numberTaken (Progress.initial numberTaken)
      (actionsOf (.node "sg1" Attrs.empty) ++ (actionsOfAll numberTaken.stmts).drop 2) := .initial
  have hreach := hinitial.nexts
  have hid : ((performAll Settings.default (Progress.initial numberTaken)
      (actionsOf (.node "sg1" Attrs.empty))).state.subgraphId
        Settings.default.subgraphIdStem none).1 = "sg2" := by rfl
  refine ⟨_, _, hreach, hid, generated_not_written hreach hid (fun q before hq hmem => ?_) ?_⟩
  · -- no subgraph ends before the anonymous one is entered
    have hbefore : before <:+ actionsOf (.node "sg1" Attrs.empty) :=
      (List.suffix_append_inj_of_length_eq rfl).1 hq.isSuffix |>.1
    have helide : .elide ∉ before := fun h => by simpa [actionsOf] using hbefore.subset h
    rw [← hq.nexts.unique hreach]
    exact mem_nodeIds_performAll _ helide hmem
  · simp [actionsOfAll, actionsOf, Action.declared]

/-- The id that is generated first is written behind the place where it is generated. -/
def numberWrittenLater : Document where
  kind := .digraph
  strict := false
  id := none
  stmts := [.subgraph none [.node "a" Attrs.empty], .node "sg1" Attrs.empty]

/-- The statement that gives the node its id works on the anonymous subgraph. -/
theorem not_generated_not_written :
    ∃ p rest, Reaches Settings.default numberWrittenLater p (.enter none :: rest) ∧
      (p.state.subgraphId Settings.default.subgraphIdStem none).1 = "sg1" ∧
      "sg1" ∈ numberWrittenLater.writtenIds ∧
      (numberWrittenLater.build Settings.default).graph.nodeIds = ["sg1", "a"] ∧
      (numberWrittenLater.build Settings.default).graph.children "sg1" = ["a"] :=
  ⟨_, _, .initial, by rfl, by decide, by rfl, by rfl⟩

end ClusterGraph.Build
