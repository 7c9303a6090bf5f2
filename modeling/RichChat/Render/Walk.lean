import RichChat.Markdown.Node

/-!
# The walk over a tree

Every node is visited twice, on the way in and on the way out, with its parent and its next sibling
at hand. On the way in the visitor may refuse the children, and the way out follows all the same.
`walk` keeps the visits to come on a stack; `walkNode` is the recursion that it carries out
(`walk_eq_walkNode`).
-/

namespace RichChat

/-- Whether the children of a node are visited. -/
inductive Flow
  | proceed
  | skipChildren
  deriving DecidableEq, Inhabited

structure Visit where
  node : Node
  /-- Whether this is the way in. -/
  entering : Bool
  parent : Option Node := none
  next : Option Node := none

/-- What is done at a visit. -/
abbrev Visitor (σ : Type) := Visit → σ → Flow × σ

namespace Node

mutual

/-- How many nodes a tree has. -/
def size : Node → Nat
  | mk _ children => 1 + sizeAll children

def sizeAll : List Node → Nat
  | [] => 0
  | node :: nodes => node.size + sizeAll nodes

end

theorem size_pos (node : Node) : 0 < node.size := by
  cases node; rw [size]; omega

end Node

namespace Visit

/-- How many visits come of one. -/
def cost (v : Visit) : Nat := if v.entering then 2 * v.node.size else 1

/-- The ways into siblings. -/
def siblings (parent : Node) : List Node → List Visit
  | [] => []
  | node :: nodes =>
    { node, entering := true, parent := some parent, next := nodes.head? } :: siblings parent nodes

/-- The way out of a node. -/
def back (v : Visit) : Visit := { v with entering := false }

/-- How many visits come of a stack of them. -/
def costAll : List Visit → Nat
  | [] => 0
  | v :: rest => v.cost + costAll rest

theorem costAll_append (vs ws : List Visit) : costAll (vs ++ ws) = costAll vs + costAll ws := by
  induction vs with
  | nil => simp [costAll]
  | cons v vs ih => simp [costAll, ih, Nat.add_assoc]

theorem costAll_siblings (parent : Node) (nodes : List Node) :
    costAll (siblings parent nodes) = 2 * Node.sizeAll nodes := by
  induction nodes with
  | nil => rfl
  | cons node nodes ih => simp [siblings, costAll, cost, Node.sizeAll, ih, Nat.mul_add]

theorem children_size (node : Node) : node.size = 1 + Node.sizeAll node.children := by
  cases node; simp [Node.size, Node.children]

end Visit

/-- Carries out the visits on a stack, the first one being the next. -/
def walkStack {σ : Type} (visitor : Visitor σ) : List Visit → σ → σ
  | [], s => s
  | v :: rest, s =>
    match visitor v s with
    | (flow, s) =>
      if v.entering then
        match flow with
        | .proceed => walkStack visitor (Visit.siblings v.node v.node.children ++ v.back :: rest) s
        | .skipChildren => walkStack visitor (v.back :: rest) s
      else walkStack visitor rest s
termination_by stack => Visit.costAll stack
decreasing_by
  · have := Visit.children_size v.node
    simp_all [Visit.costAll_siblings, Visit.costAll_append, Visit.costAll, Visit.cost, Visit.back]
    omega
  · have := Node.size_pos v.node
    simp_all [Visit.costAll, Visit.cost, Visit.back]
    omega
  · simp_all [Visit.costAll, Visit.cost]

/-- The walk over a tree. -/
def walk {σ : Type} (visitor : Visitor σ) (node : Node) (s : σ) : σ :=
  walkStack visitor [{ node, entering := true }] s

mutual

/-- The way into a node, the children unless they are refused, and the way out. -/
def walkNode {σ : Type} (visitor : Visitor σ) (parent next : Option Node) : Node → σ → σ
  | .mk kind children, s =>
    let node := Node.mk kind children
    let (flow, s) := visitor { node, entering := true, parent, next } s
    let s := match flow with
      | .proceed => walkAll visitor node children s
      | .skipChildren => s
    (visitor { node, entering := false, parent, next } s).2

def walkAll {σ : Type} (visitor : Visitor σ) (parent : Node) : List Node → σ → σ
  | [], s => s
  | node :: nodes, s =>
    walkAll visitor parent nodes (walkNode visitor (some parent) nodes.head? node s)

end

mutual

theorem walkStack_cons {σ : Type} (visitor : Visitor σ) (parent next : Option Node)
    (rest : List Visit) : ∀ (node : Node) (s : σ),
    walkStack visitor ({ node, entering := true, parent, next } :: rest) s
      = walkStack visitor rest (walkNode visitor parent next node s)
  | .mk kind children, s => by
    rw [walkStack, walkNode]
    rcases h : visitor { node := .mk kind children, entering := true, parent, next } s
      with ⟨flow, t⟩
    cases flow
    · simp only [if_true, Node.children]
      rw [walkStack_siblings, walkStack]
      simp [Visit.back]
    · simp only [if_true]
      rw [walkStack]
      simp [Visit.back]

theorem walkStack_siblings {σ : Type} (visitor : Visitor σ) (parent : Node)
    (rest : List Visit) : ∀ (nodes : List Node) (s : σ),
    walkStack visitor (Visit.siblings parent nodes ++ rest) s
      = walkStack visitor rest (walkAll visitor parent nodes s)
  | [], s => by simp [Visit.siblings, walkAll]
  | node :: nodes, s => by
    rw [Visit.siblings, List.cons_append, walkStack_cons, walkStack_siblings, walkAll]

end

theorem walk_eq_walkNode {σ : Type} (visitor : Visitor σ) (node : Node) (s : σ) :
    walk visitor node s = walkNode visitor none none node s := by
  rw [walk, walkStack_cons, walkStack]

end RichChat
