import Mathlib.Logic.Function.Iterate
import RichChat.Render.Registry

/-!
# The visits of a walk

`visitsNode` lists the visits of a tree as a recursion over it makes them: the way into a node, the
visits of its children from left to right unless they are refused, and the way out. The walk makes
these visits and no others, in this order (`walkNode_recorded`).

A turn is a visit with the state that it finds, and `turnsNode` lists those of a walk. What each
turn keeps of the turns before it and of the state is kept by a walk (`traced_walkNode`), and what is
noted down on a walk is noted turn by turn (`walkNode_noted_eq`).

The walk keeps the visits to come on a stack. It takes as many passes over the stack as there are
visits (`iterate_walkPass_node`), which are at most two for each node (`length_visitsNode_le`).
-/

namespace RichChat

/-- The visits that come of one: the ways into the children, the first child being the next, and
the way out. -/
def Visit.after (v : Visit) (flow : Flow) : List Visit :=
  if v.entering then
    match flow with
    | .proceed => Visit.siblings v.node v.node.children ++ [v.back]
    | .skipChildren => [v.back]
  else []

section Walk

variable {σ : Type} (visitor : Visitor σ)

/-- A visitor that also lists its visits. -/
def Visitor.recorded : Visitor (List Visit × σ) := fun v state =>
  let (flow, s) := visitor v state.2
  (flow, (state.1 ++ [v], s))

/-- A visitor that also notes something at each visit, of the visit and the state before it. -/
def Visitor.noted {α : Type} (note : Visit → σ → List α) : Visitor (List α × σ) := fun v state =>
  let (flow, s) := visitor v state.2
  (flow, (state.1 ++ note v state.2, s))

/-- A pass over the stack: its first visit is made and those that come of it take its place. -/
def walkPass : List Visit × σ → List Visit × σ
  | ([], s) => ([], s)
  | (v :: rest, s) => (v.after (visitor v s).1 ++ rest, (visitor v s).2)

mutual

/-- The visits of a node, with its parent and its next sibling at hand. -/
def visitsNode (parent next : Option Node) : Node → σ → List Visit
  | .mk kind children, s =>
    let v : Visit := { node := .mk kind children, entering := true, parent, next }
    let inner := match visitor v s with
      | (.proceed, s) => visitsAll v.node children s
      | (.skipChildren, _) => []
    v :: inner ++ [v.back]

/-- The visits of the children of a node, each with its right neighbour as the next sibling. -/
def visitsAll (parent : Node) : List Node → σ → List Visit
  | [], _ => []
  | node :: nodes, s =>
    visitsNode (some parent) nodes.head? node s
      ++ visitsAll parent nodes (walkNode visitor (some parent) nodes.head? node s)

end

mutual

theorem walkNode_recorded (parent next : Option Node) : ∀ (node : Node) (vs : List Visit) (s : σ),
    walkNode visitor.recorded parent next node (vs, s)
      = (vs ++ visitsNode visitor parent next node s, walkNode visitor parent next node s)
  | .mk kind children, vs, s => by
    rw [walkNode, walkNode, visitsNode]
    simp only [Visitor.recorded]
    rcases visitor { node := .mk kind children, entering := true, parent, next } s with ⟨flow, t⟩
    cases flow with
    | proceed =>
      dsimp only
      rw [walkAll_recorded _ children]
      simp [Visit.back]
    | skipChildren => simp [Visit.back]

theorem walkAll_recorded (parent : Node) : ∀ (nodes : List Node) (vs : List Visit) (s : σ),
    walkAll visitor.recorded parent nodes (vs, s)
      = (vs ++ visitsAll visitor parent nodes s, walkAll visitor parent nodes s)
  | [], vs, s => by simp [walkAll, visitsAll]
  | node :: nodes, vs, s => by
    rw [walkAll, walkAll, visitsAll, walkNode_recorded, walkAll_recorded, List.append_assoc]

end

section Noted

variable {α : Type} (note : Visit → σ → List α)

mutual

/-- Taking notes does not change the walk. -/
theorem walkNode_noted (parent next : Option Node) : ∀ (node : Node) (notes : List α) (s : σ),
    (walkNode (visitor.noted note) parent next node (notes, s)).2
      = walkNode visitor parent next node s
  | .mk kind children, notes, s => by
    rw [walkNode, walkNode]
    simp only [Visitor.noted]
    rcases visitor { node := .mk kind children, entering := true, parent, next } s with ⟨flow, t⟩
    cases flow with
    | proceed =>
      dsimp only
      rw [walkAll_noted _ children]
    | skipChildren => rfl

theorem walkAll_noted (parent : Node) : ∀ (nodes : List Node) (notes : List α) (s : σ),
    (walkAll (visitor.noted note) parent nodes (notes, s)).2 = walkAll visitor parent nodes s
  | [], notes, s => by rw [walkAll, walkAll]
  | node :: nodes, notes, s => by
    rw [walkAll, walkAll, ← walkNode_noted (some parent) nodes.head? node notes s]
    exact walkAll_noted parent nodes _ _

end

end Noted

/-- A pass is what the walk does with the first visit on the stack. -/
theorem walkStack_walkPass (v : Visit) (rest : List Visit) (s : σ) :
    walkStack visitor (v :: rest) s
      = walkStack visitor (walkPass visitor (v :: rest, s)).1
          (walkPass visitor (v :: rest, s)).2 := by
  rw [walkStack, walkPass]
  unfold Visit.after
  rcases visitor v s with ⟨flow, t⟩
  cases hv : v.entering with
  | true =>
    cases flow with
    | proceed => simp
    | skipChildren => rfl
  | false => rfl

theorem walkPass_in (node : Node) (parent next : Option Node) (rest : List Visit) (s : σ) :
    let v : Visit := { node, entering := true, parent, next }
    walkPass visitor (v :: rest, s) = (match visitor v s with
      | (.proceed, t) => (Visit.siblings node node.children ++ v.back :: rest, t)
      | (.skipChildren, t) => (v.back :: rest, t)) := by
  intro v
  rw [walkPass, Visit.after.eq_def, if_pos rfl]
  rcases visitor v s with ⟨flow, t⟩
  cases flow with
  | proceed => exact congrArg (·, t) (List.append_assoc _ _ _)
  | skipChildren => rfl

theorem walkPass_out (v : Visit) (rest : List Visit) (s : σ) :
    walkPass visitor (v.back :: rest, s) = (rest, (visitor v.back s).2) := rfl

mutual

/-- As many passes as there are visits take a node off the stack. -/
theorem iterate_walkPass_node (parent next : Option Node) (rest : List Visit) :
    ∀ (node : Node) (s : σ),
      (walkPass visitor)^[(visitsNode visitor parent next node s).length]
          ({ node, entering := true, parent, next } :: rest, s)
        = (rest, walkNode visitor parent next node s)
  | .mk kind children, s => by
    rw [walkNode, visitsNode, List.length_append, List.length_cons, List.length_singleton,
      Function.iterate_succ_apply', Function.iterate_succ_apply, walkPass_in]
    rcases visitor { node := .mk kind children, entering := true, parent, next } s with ⟨flow, t⟩
    cases flow with
    | proceed =>
      dsimp only [Node.children]
      rw [iterate_walkPass_all, walkPass_out]
      rfl
    | skipChildren =>
      rw [List.length_nil, Function.iterate_zero_apply, walkPass_out]
      rfl

theorem iterate_walkPass_all (parent : Node) (rest : List Visit) :
    ∀ (nodes : List Node) (s : σ),
      (walkPass visitor)^[(visitsAll visitor parent nodes s).length]
          (Visit.siblings parent nodes ++ rest, s)
        = (rest, walkAll visitor parent nodes s)
  | [], s => by simp [visitsAll, walkAll, Visit.siblings]
  | node :: nodes, s => by
    rw [visitsAll, List.length_append, Nat.add_comm, Function.iterate_add_apply, Visit.siblings,
      List.cons_append, iterate_walkPass_node, iterate_walkPass_all, walkAll]

end

mutual

theorem length_visitsNode_le (parent next : Option Node) : ∀ (node : Node) (s : σ),
    (visitsNode visitor parent next node s).length ≤ 2 * node.size
  | .mk kind children, s => by
    rw [visitsNode, Node.size]
    rcases visitor { node := .mk kind children, entering := true, parent, next } s with ⟨flow, t⟩
    cases flow with
    | proceed =>
      have := length_visitsAll_le (.mk kind children) children t
      simp only [List.length_append, List.length_cons, List.length_nil]
      omega
    | skipChildren =>
      simp only [List.length_append, List.length_cons, List.length_nil]
      omega

theorem length_visitsAll_le (parent : Node) : ∀ (nodes : List Node) (s : σ),
    (visitsAll visitor parent nodes s).length ≤ 2 * Node.sizeAll nodes
  | [], s => by simp [visitsAll]
  | node :: nodes, s => by
    rw [visitsAll, Node.sizeAll, List.length_append]
    have hnode := length_visitsNode_le (some parent) nodes.head? node s
    have hnodes := length_visitsAll_le parent nodes
      (walkNode visitor (some parent) nodes.head? node s)
    omega

end

mutual

/-- The visits of a node, each with the state in front of it. -/
def turnsNode (parent next : Option Node) : Node → σ → List (Visit × σ)
  | .mk kind children, s =>
    let v : Visit := { node := .mk kind children, entering := true, parent, next }
    match visitor v s with
    | (.proceed, t) =>
      (v, s) :: turnsAll v.node children t ++ [(v.back, walkAll visitor v.node children t)]
    | (.skipChildren, t) => [(v, s), (v.back, t)]

/-- The visits of the children of a node, each with the state in front of it. -/
def turnsAll (parent : Node) : List Node → σ → List (Visit × σ)
  | [], _ => []
  | node :: nodes, s =>
    turnsNode (some parent) nodes.head? node s
      ++ turnsAll parent nodes (walkNode visitor (some parent) nodes.head? node s)

end

mutual

theorem map_fst_turnsNode (parent next : Option Node) : ∀ (node : Node) (s : σ),
    (turnsNode visitor parent next node s).map Prod.fst = visitsNode visitor parent next node s
  | .mk kind children, s => by
    rw [turnsNode, visitsNode]
    rcases visitor { node := .mk kind children, entering := true, parent, next } s with ⟨flow, t⟩
    cases flow with
    | proceed => simp [map_fst_turnsAll (.mk kind children) children t]
    | skipChildren => rfl

theorem map_fst_turnsAll (parent : Node) : ∀ (nodes : List Node) (s : σ),
    (turnsAll visitor parent nodes s).map Prod.fst = visitsAll visitor parent nodes s
  | [], _ => rfl
  | node :: nodes, s => by
    rw [turnsAll, visitsAll, List.map_append, map_fst_turnsNode, map_fst_turnsAll]

end

section Traced

variable {visitor} {P : List (Visit × σ) → σ → Prop}

mutual

/-- What each turn keeps of the turns before it and of the state is kept by a walk. -/
theorem traced_walkNode
    (hstep : ∀ {turns s} visit, P turns s → P (turns ++ [(visit, s)]) (visitor visit s).2)
    (parent next : Option Node) : ∀ (node : Node) {turns : List (Visit × σ)} {s : σ}, P turns s →
      P (turns ++ turnsNode visitor parent next node s) (walkNode visitor parent next node s)
  | .mk kind children, turns, s, h => by
    have hin := hstep { node := .mk kind children, entering := true, parent, next } h
    rw [turnsNode, walkNode]
    rcases hvis : visitor { node := .mk kind children, entering := true, parent, next } s
      with ⟨flow, t⟩
    rw [hvis] at hin
    cases flow with
    | proceed =>
      simpa [Visit.back] using hstep _ (traced_walkAll hstep (.mk kind children) children hin)
    | skipChildren => simpa [Visit.back] using hstep _ hin

theorem traced_walkAll
    (hstep : ∀ {turns s} visit, P turns s → P (turns ++ [(visit, s)]) (visitor visit s).2)
    (parent : Node) : ∀ (nodes : List Node) {turns : List (Visit × σ)} {s : σ}, P turns s →
      P (turns ++ turnsAll visitor parent nodes s) (walkAll visitor parent nodes s)
  | [], turns, s, h => by simpa [turnsAll, walkAll] using h
  | node :: nodes, turns, s, h => by
    rw [turnsAll, walkAll, ← List.append_assoc]
    exact traced_walkAll hstep parent nodes (traced_walkNode hstep _ _ node h)

end

end Traced

section Noted

variable {α : Type} (note : Visit → σ → List α)

mutual

theorem walkNode_noted_eq (parent next : Option Node) : ∀ (node : Node) (notes : List α) (s : σ),
    walkNode (visitor.noted note) parent next node (notes, s)
      = (notes ++ (turnsNode visitor parent next node s).flatMap fun turn => note turn.1 turn.2,
        walkNode visitor parent next node s)
  | .mk kind children, notes, s => by
    rw [walkNode, walkNode, turnsNode]
    simp only [Visitor.noted]
    rcases visitor { node := .mk kind children, entering := true, parent, next } s with ⟨flow, t⟩
    cases flow with
    | proceed =>
      dsimp only
      rw [walkAll_noted_eq _ children]
      simp [Visit.back]
    | skipChildren => simp [Visit.back]

theorem walkAll_noted_eq (parent : Node) : ∀ (nodes : List Node) (notes : List α) (s : σ),
    walkAll (visitor.noted note) parent nodes (notes, s)
      = (notes ++ (turnsAll visitor parent nodes s).flatMap fun turn => note turn.1 turn.2,
        walkAll visitor parent nodes s)
  | [], notes, s => by simp [walkAll, turnsAll]
  | node :: nodes, notes, s => by
    rw [walkAll, walkAll, turnsAll, walkNode_noted_eq, walkAll_noted_eq, List.flatMap_append,
      List.append_assoc]

end

end Noted

end Walk

/-- A tree is drawn as by the recursion over it. The walk makes the visits of the recursion, and
its stack is empty after as many passes. -/
theorem Canvas.draw_visits (registry : Registry) (scene : Scene) (node : Node) (c : Canvas) :
    let visitor := registry.visitor scene
    let drawn := walkNode visitor none none node c
    let visits := visitsNode visitor none none node c
    c.draw registry scene node = drawn ∧
      walk visitor.recorded node ([], c) = (visits, drawn) ∧
      (walkPass visitor)^[visits.length] ([{ node, entering := true }], c) = ([], drawn) ∧
      visits.length ≤ 2 * node.size ∧
      ∀ v rest d, walkStack visitor (v :: rest) d
        = walkStack visitor (walkPass visitor (v :: rest, d)).1
            (walkPass visitor (v :: rest, d)).2 := by
  intro visitor drawn visits
  refine ⟨?_, ?_, ?_, ?_, ?_⟩
  · rw [Canvas.draw, walk_eq_walkNode]
  · rw [walk_eq_walkNode, walkNode_recorded, List.nil_append]
  · exact iterate_walkPass_node visitor none none [] node c
  · exact length_visitsNode_le visitor none none node c
  · exact walkStack_walkPass visitor

end RichChat
