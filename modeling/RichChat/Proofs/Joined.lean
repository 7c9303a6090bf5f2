import Mathlib.Logic.Basic
import RichChat.Markdown.Tree

/-!
# Trees up to spoilers

Two trees show the same text if they are equal once their spoilers are taken apart into bars and
children (`Node.bared`) and texts that follow each other are joined (`Node.joined`).

Joining looks at a node and the start of what follows it, so that nodes can be joined from the right
(`join_foldr`), and lists that join to the same nodes can stand for each other in front of others
and behind them (`joinedAll_append_congr`). A break on the last text is joined to what a break on a
text of its own is joined to (`joinedAll_withBreak`).
-/

namespace RichChat

namespace Node

mutual

/-- A tree without spoilers: instead of each stand its children between bars. -/
def bared : Node → List Node
  | mk kind children =>
    if kind = .inline .spoiler then .text "||" :: baredAll children ++ [.text "||"]
    else [mk kind (baredAll children)]

def baredAll : List Node → List Node
  | [] => []
  | node :: nodes => node.bared ++ baredAll nodes

end

/-- Puts a node in front of others. A text without a break is joined to a text at their start,
whose break it gets. -/
def join : Node → List Node → List Node
  | mk (.text s false false) xs, mk (.text t soft hard) ys :: nodes =>
    mk (.text (s ++ t) soft hard) (xs ++ ys) :: nodes
  | node, nodes => node :: nodes

mutual

/-- A tree in which texts that follow each other without a break are one. -/
def joined : Node → Node
  | mk kind children => mk kind (joinedAll children)

def joinedAll : List Node → List Node
  | [] => []
  | node :: nodes => node.joined.join (joinedAll nodes)

end

theorem baredAll_append (xs ys : List Node) : baredAll (xs ++ ys) = baredAll xs ++ baredAll ys := by
  induction xs with
  | nil => rfl
  | cons x xs ih => rw [List.cons_append, baredAll, baredAll, ih, List.append_assoc]

theorem baredAll_singleton (node : Node) : baredAll [node] = node.bared := by
  rw [baredAll, baredAll, List.append_nil]

theorem bared_text (s : String) (soft hard : Bool) :
    (leaf (.text s soft hard)).bared = [leaf (.text s soft hard)] := by
  simp [leaf, bared, baredAll]

/-- Only texts without a break are joined. -/
theorem join_of_ne {kind : NodeKind} (h : ∀ s, kind ≠ .text s false false)
    (children nodes : List Node) : (mk kind children).join nodes = mk kind children :: nodes := by
  unfold join
  split
  · rename_i s xs t soft hard ys nodes heq
    exact absurd (Node.mk.inj heq).1 (h s)
  · rfl

theorem joinedAll_singleton (node : Node) : joinedAll [node] = [node.joined] := by
  rw [joinedAll, joinedAll]
  cases node.joined
  unfold join
  split
  · rename_i heq
    cases heq
  · rfl

/-- Joining a text to another one and this to a third is joining the three. -/
theorem join_join (s t : String) (soft hard : Bool) (xs ys zs : List Node) :
    (mk (.text s false false) xs).join ((mk (.text t soft hard) ys).join zs)
      = (mk (.text (s ++ t) soft hard) (xs ++ ys)).join zs := by
  by_cases h : ∀ u, NodeKind.text t soft hard ≠ .text u false false
  · have h' (u : String) : NodeKind.text (s ++ t) soft hard ≠ .text u false false := by
      intro heq
      cases heq
      exact h t rfl
    rw [join_of_ne h, join_of_ne h', join]
  · obtain ⟨u, heq⟩ := not_forall_not.1 h
    cases heq
    cases zs with
    | nil => rfl
    | cons z zs =>
      obtain ⟨kind, children⟩ := z
      cases kind with
      | text u soft hard => simp only [join, String.append_assoc, List.append_assoc]
      | _ => rfl

/-- A node is joined to the first of the nodes that follow it, whatever that is joined to. -/
theorem join_foldr (node : Node) (xs ys : List Node) :
    (node.join xs).foldr join ys = node.join (xs.foldr join ys) := by
  obtain ⟨kind, children⟩ := node
  by_cases h : ∀ s, kind ≠ .text s false false
  · rw [join_of_ne h, join_of_ne h, List.foldr_cons, join_of_ne h]
  · obtain ⟨s, rfl⟩ := not_forall_not.1 h
    cases xs with
    | nil => rfl
    | cons x xs =>
      obtain ⟨kind, children'⟩ := x
      cases kind with
      | text t soft hard => rw [join, List.foldr_cons, List.foldr_cons, join_join]
      | _ => rfl

theorem joinedAll_append (xs ys : List Node) :
    joinedAll (xs ++ ys) = (joinedAll xs).foldr join (joinedAll ys) := by
  induction xs with
  | nil => rfl
  | cons x xs ih => rw [List.cons_append, joinedAll, joinedAll, ih, join_foldr]

theorem joinedAll_append_congr {xs xs' ys ys' : List Node} (hx : joinedAll xs = joinedAll xs')
    (hy : joinedAll ys = joinedAll ys') : joinedAll (xs ++ ys) = joinedAll (xs' ++ ys') := by
  rw [joinedAll_append, joinedAll_append, hx, hy]

end Node

namespace Builder.Frame

open Node

/-- A break is put on the last text or, up to joining, on a text of its own. -/
theorem joinedAll_withBreak (hard : Bool) (nodes : List Node) :
    joinedAll (withBreak hard nodes)
      = joinedAll (nodes ++ [.leaf (.text "" (!hard) hard)]) := by
  fun_induction withBreak hard nodes with
  | case1 => rfl
  | case2 s children => simp [joinedAll, joined, join, leaf]
  | case3 node => rfl
  | case4 node nodes _ _ ih => rw [List.cons_append, joinedAll, joinedAll, ih]

theorem baredAll_withBreak (hard : Bool) (nodes : List Node) :
    joinedAll (baredAll (withBreak hard nodes))
      = joinedAll (baredAll (nodes ++ [.leaf (.text "" (!hard) hard)])) := by
  fun_induction withBreak hard nodes with
  | case1 => rfl
  | case2 s children => simp [baredAll, bared, joinedAll, joined, join, leaf]
  | case3 node => rfl
  | case4 node nodes _ _ ih =>
    rw [List.cons_append, baredAll, baredAll]
    exact joinedAll_append_congr rfl ih

end Builder.Frame

end RichChat
