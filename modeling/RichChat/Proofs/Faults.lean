import RichChat.Proofs.Counting
import RichChat.Proofs.Recount
import RichChat.Proofs.Turns

/-!
# Drawing with counts in an array

A tree can be drawn with counts in an array, which have 32 bits each. `Scene.renderNode?` follows
the turns of the tree and stops at the first one whose handler makes a call that fails there; which
call that is says `visit_counts`. In a tree that is less than `UInt32.size` high no count is ever
full, so that only a set with one bit without a meaning makes a call fail: the first such set of the
tree says which count is missing, and a tree without one is rendered (`renderNode?_eq`).
-/

namespace RichChat

/-- The set that the handler of a kind of nodes enters and leaves. -/
def NodeKind.attributes : NodeKind → Attribute
  | .inline a => a
  | .heading _ => .bold
  | _ => .empty

theorem NodeKind.opened_eq (kind : NodeKind) (counts : List Nat) :
    kind.opened counts = kind.attributes.opened counts := by
  have hempty : Attribute.empty.opened counts = counts := rfl
  cases kind with
  | inline _ | heading _ => rfl
  | _ => exact hempty.symm

/-- The call that a handler makes at a visit. -/
def Visit.call (visit : Visit) (offset : Nat) : Runs.Call where
  enters := visit.entering
  attributes := visit.node.kind.attributes
  offset

/-- How the call fails that a handler makes at a visit, with counts in an array. -/
def Visit.fault? (visit : Visit) (c : Canvas) : Option CountFault :=
  match c.runs.call? (visit.call c.length) with
  | .error fault => some fault
  | .ok _ => none

/-- Renders a tree with counts in an array, or tells which call is the first to fail. -/
def Scene.renderNode? (scene : Scene) (node : Node) : Except CountFault Rendered :=
  match (scene.turns node).findSome? fun turn => turn.1.fault? turn.2 with
  | some fault => .error fault
  | none => .ok (scene.renderNode node)

namespace Canvas

theorem call_counts (r : Runs) (call : Runs.Call) : (r.call call).counts
    = call.attributes.indices.foldl (fun counts i => counts.modify i call.count) r.counts := by
  rw [Runs.call_eq, Runs.counts_change]

/-- The counts change at a visit as they do at the call. -/
theorem visit_counts (scene : Scene) (visit : Visit) (c : Canvas) :
    (Registry.builtin.visitor scene visit c).2.runs.counts
      = (c.runs.call (visit.call c.length)).counts := by
  have hspace (d : Canvas) : (d.separate visit).runs.counts = d.runs.counts :=
    ((Balanced.refl d).separate visit).counts
  obtain ⟨⟨kind, children⟩, entering, parent, next⟩ := visit
  rw [call_counts]
  cases entering with
  | true =>
    have hin := ((Recounted.refl c).visitIn scene kind children parent next).counts
    exact hin.trans (kind.opened_eq _)
  | false =>
    have hkept {d : Canvas} (h : d.runs.counts = c.runs.counts) : d.runs.counts
        = Attribute.empty.indices.foldl (fun counts i => counts.modify i (· - 1)) c.runs.counts := h
    cases kind with
    | document | text _ _ _ | autolink _ | mention _ | emoji _ | listItem => exact hkept rfl
    | paragraph | codeBlock _ _ | thematicBreak => exact hkept (hspace c)
    | heading level => exact (hspace _).trans (c.exit_counts .bold)
    | inline a => exact c.exit_counts a
    | link url => exact hkept (c.closeLink_counts url)
    | blockquote => exact hkept ((hspace _).trans c.closeQuote_counts)
    | list start => exact hkept (hspace c.closeList)

end Canvas

theorem Runs.HasRoom.getD_lt {r : Runs} (h : r.HasRoom 1) (i : Nat) :
    r.counts.getD i 0 + 1 < UInt32.size := by
  rw [List.getD_eq_getElem?_getD]
  cases hi : r.counts[i]? with
  | none => decide
  | some n => exact h n (List.mem_of_getElem? hi)

theorem Node.height_pos (node : Node) : 0 < node.height := by
  cases node
  exact Nat.succ_pos _

/-- A call fails only for a count that is missing, if there is room to enter the set. -/
theorem Visit.fault?_eq {visit : Visit} {c : Canvas}
    (hlen : c.runs.counts.length = Attribute.count) (hroom : c.runs.HasRoom visit.room) :
    visit.fault? c = visit.node.kind.attributes.unknown.index?.map .missing := by
  let call := visit.call c.length
  have haccounts := call.accounts_foldlM call.attributes.nodup_indices c.runs.counts
  unfold fault? Runs.call?
  cases h : call.attributes.indices.foldlM call.change? c.runs.counts with
  | ok after =>
    rw [h] at haccounts
    obtain ⟨hall, -⟩ := haccounts
    rw [hlen] at hall
    have hnone : visit.node.kind.attributes.unknown.index? = none :=
      Attribute.index?_unknown_eq_none_iff.2 (Attribute.forall_lt_count_iff.1 hall)
    rw [hnone]
    rfl
  | error fault =>
    rw [h] at haccounts
    cases fault with
    | missing i =>
      obtain ⟨hi, hout⟩ := haccounts
      rw [hlen] at hout
      rw [Attribute.indices_eq_known, List.mem_append, Option.mem_toList] at hi
      have hlone : visit.node.kind.attributes.unknown.index? = some i :=
        hi.resolve_left fun hknown =>
          absurd (Attribute.lt_of_mem_indices_known hknown) (Nat.not_lt.2 hout)
      rw [hlone]
      rfl
    | full i =>
      obtain ⟨-, henters, hfull⟩ := haccounts
      have hin : visit.room = visit.node.height := if_pos henters
      rw [hin] at hroom
      exact absurd ((hroom.mono visit.node.height_pos).getD_lt i) (Nat.not_lt.2 hfull)

namespace Node

mutual

/-- The first count that is missing when a tree is drawn. -/
def missing? : Node → Option Nat
  | mk kind children =>
    kind.attributes.unknown.index?.or (if kind.isAtom then none else missingAll? children)

def missingAll? : List Node → Option Nat
  | [] => none
  | node :: nodes => node.missing?.or (missingAll? nodes)

end

end Node

mutual

/-- The turns find the sets of a tree in order, those of the children between the two visits. -/
theorem findSome?_turnsNode (scene : Scene) (parent next : Option Node) :
    ∀ (node : Node) (c : Canvas),
      (turnsNode (Registry.builtin.visitor scene) parent next node c).findSome?
        (fun turn => turn.1.node.kind.attributes.unknown.index?) = node.missing?
  | .mk kind children, c => by
    obtain ⟨hturns, -⟩ := turnsNode_mk scene kind children parent next c
    have hinner (d : Canvas) : (turnsAll (Registry.builtin.visitor scene) (.mk kind children)
        (if kind.isAtom then [] else children) d).findSome?
          (fun turn => turn.1.node.kind.attributes.unknown.index?)
        = if kind.isAtom then none else Node.missingAll? children := by
      split
      · rfl
      · exact findSome?_turnsAll scene (.mk kind children) children d
    rw [hturns, List.findSome?_append, List.findSome?_cons, hinner, Node.missing?]
    dsimp only [Visit.back, Node.kind]
    cases hi : kind.attributes.unknown.index? with
    | some i => rfl
    | none => simp [hi]

theorem findSome?_turnsAll (scene : Scene) (parent : Node) :
    ∀ (nodes : List Node) (c : Canvas),
      (turnsAll (Registry.builtin.visitor scene) parent nodes c).findSome?
        (fun turn => turn.1.node.kind.attributes.unknown.index?) = Node.missingAll? nodes
  | [], c => rfl
  | node :: nodes, c => by
    rw [turnsAll, List.findSome?_append, findSome?_turnsNode, findSome?_turnsAll, Node.missingAll?]

end

namespace Scene

variable (scene : Scene) {node : Node}

theorem fault?_of_mem_turns (h : node.height < UInt32.size) :
    ∀ turn ∈ scene.turns node,
      turn.1.fault? turn.2 = turn.1.node.kind.attributes.unknown.index?.map .missing := by
  obtain ⟨emojiSize, hsize⟩ := (Canvas.fresh scene.config).sizeEmoji_eq scene.config node
  let P (turns : List (Visit × Canvas)) (c : Canvas) : Prop :=
    (∀ turn ∈ turns, turn.2.runs.counts.length = Attribute.count) ∧
      c.runs.counts.length = Attribute.count
  have hstep {turns c} (visit) (hc : P turns c) :
      P (turns ++ [(visit, c)]) (Registry.builtin.visitor scene visit c).2 := by
    refine ⟨List.forall_mem_append.2 ⟨hc.1, List.forall_mem_singleton.2 hc.2⟩, ?_⟩
    rw [Canvas.visit_counts, Runs.length_call]
    exact hc.2
  have hstart : P [] ((Canvas.fresh scene.config).sizeEmoji scene.config node) := by
    rw [hsize]
    exact ⟨nofun, rfl⟩
  obtain ⟨hlen, -⟩ := traced_walkNode hstep none none node hstart
  have hroom : ((Canvas.fresh scene.config).sizeEmoji scene.config node).runs.HasRoom
      node.height := by
    rw [hsize]
    exact .fresh 0 h
  have hturns := room_turnsNode (Registry.isNamed_builtin.isBalanced scene)
    (Registry.isNamed_builtin.entersOne scene) none none node _ hroom
  exact fun turn hturn => Visit.fault?_eq (hlen turn hturn) (hturns turn hturn)

/-- A tree that is not too high is rendered unless a count is missing. -/
theorem renderNode?_eq (h : node.height < UInt32.size) :
    scene.renderNode? node = match node.missing? with
      | some i => .error (.missing i)
      | none => .ok (scene.renderNode node) := by
  have hfaults : ((scene.turns node).findSome? fun turn => turn.1.fault? turn.2)
      = node.missing?.map .missing := by
    rw [← List.head?_filterMap, List.filterMap_congr (scene.fault?_of_mem_turns h),
      List.head?_filterMap, ← findSome?_turnsNode scene none none node, List.map_findSome?]
    rfl
  unfold renderNode?
  rw [hfaults]
  cases node.missing? <;> rfl

end Scene

end RichChat
