import RichChat.Proofs.Inks

/-!
# Turns

The turns of a tree that is rendered (`Scene.turns`) are the visits with the canvas that each finds,
so that it can be said of one visit among the others what is drawn there. The text after a turn is
how the whole text starts (`Scene.prefix_turn`).
-/

namespace RichChat

/-- Handlers draw a node and then those of its children that are visited, which are none if the node
is drawn without them. -/
theorem turnsNode_mk (scene : Scene) (kind : NodeKind) (children : List Node)
    (parent next : Option Node) (c : Canvas) :
    let visitor := Registry.builtin.visitor scene
    let node : Node := .mk kind children
    let visit : Visit := { node, entering := true, parent, next }
    let inner := if kind.isAtom then [] else children
    let d := (visitor visit c).2
    let e := walkAll visitor node inner d
    turnsNode visitor parent next node c
        = (visit, c) :: turnsAll visitor node inner d ++ [(visit.back, e)] ∧
      walkNode visitor parent next node c = (visitor visit.back e).2 := by
  intro visitor node visit inner d e
  have hflow := flow_visitor scene kind children parent next c
  cases hatom : kind.isAtom with
  | true =>
    have hd : visitor visit c = (.skipChildren, d) := Prod.ext (by rw [hflow, hatom]; rfl) rfl
    have hinner : inner = [] := by simp [inner, hatom]
    have he : e = d := by
      show walkAll visitor node inner d = d
      rw [hinner, walkAll]
    rw [turnsNode, walkNode]
    dsimp only
    rw [hd, he, hinner, turnsAll]
    exact ⟨rfl, rfl⟩
  | false =>
    have hd : visitor visit c = (.proceed, d) := Prod.ext (by rw [hflow, hatom]; rfl) rfl
    have hinner : inner = children := by simp [inner, hatom]
    have he : e = walkAll visitor node children d := by rw [← hinner]
    rw [turnsNode, walkNode]
    dsimp only
    rw [hd, he, hinner]
    exact ⟨rfl, rfl⟩

/-- What is written after a turn comes behind the text that there is then. -/
theorem prefix_turnsNode {scene : Scene} {visitor : Visitor Canvas}
    (hv : Visitor.IsPlanned scene visitor) (parent next : Option Node) (node : Node) (c : Canvas) :
    ∀ turn ∈ turnsNode visitor parent next node c,
      (visitor turn.1 turn.2).2.buffer.text
        <+: (walkNode visitor parent next node c).buffer.text := by
  let P (turns : List (Visit × Canvas)) (d : Canvas) : Prop :=
    ∀ turn ∈ turns, (visitor turn.1 turn.2).2.buffer.text <+: d.buffer.text
  have hstep {turns d} (visit) (h : P turns d) :
      P (turns ++ [(visit, d)]) (visitor visit d).2 :=
    List.forall_mem_append.2 ⟨fun turn hturn => (h turn hturn).trans (hv visit d).prefix_text,
      List.forall_mem_singleton.2 List.prefix_rfl⟩
  have hstart : P [] c := nofun
  exact traced_walkNode hstep parent next node hstart

namespace Scene

variable (scene : Scene) (node : Node)

/-- The turns of a tree when it is rendered. -/
def turns : List (Visit × Canvas) :=
  turnsNode (Registry.builtin.visitor scene) none none node
    ((Canvas.fresh scene.config).sizeEmoji scene.config node)

/-- The canvas on which a tree has been drawn. -/
def drawn : Canvas :=
  walkNode (Registry.builtin.visitor scene) none none node
    ((Canvas.fresh scene.config).sizeEmoji scene.config node)

theorem document_eq_drawn :
    (Canvas.fresh scene.config).document .builtin scene node = scene.drawn node :=
  walk_eq_walkNode _ node _

/-- The text of a tree is that on its canvas, where nothing is left to close. -/
theorem renderNode_drawn :
    (scene.renderNode node).text = ⟨(scene.drawn node).content, (scene.drawn node).segments⟩ := by
  have hfinish : (scene.drawn node).finish = scene.drawn node := by
    obtain ⟨emojiSize, hsize⟩ := (Canvas.fresh scene.config).sizeEmoji_eq scene.config node
    have hbalanced := balanced_walkNode (Registry.isNamed_builtin.isBalanced scene) none none node
      ((Canvas.fresh scene.config).sizeEmoji scene.config node)
    rw [hsize] at hbalanced
    rw [drawn, hsize]
    exact Canvas.finish_eq_self hbalanced.counts hbalanced.quotes
  unfold renderNode compose
  dsimp only
  rw [document_eq_drawn, hfinish]

/-- The turns are the visits. -/
theorem map_fst_turns : (scene.turns node).map Prod.fst = scene.visits node :=
  map_fst_turnsNode _ none none node _

theorem steps_eq_turns : scene.steps node = (scene.turns node).flatMap fun turn =>
    turn.2.page.steps scene.config (turn.1.pens scene turn.2) := by
  rw [steps, walk_eq_walkNode, walkNode_noted_eq, List.nil_append]
  rfl

/-- The text after a turn is how the whole text starts. -/
theorem prefix_turn {turn : Visit × Canvas} (h : turn ∈ scene.turns node) :
    (Registry.builtin.visitor scene turn.1 turn.2).2.buffer.text
      <+: (scene.drawn node).buffer.text :=
  prefix_turnsNode (Registry.isNamed_builtin.isPlanned scene) none none node _ turn h

end Scene

end RichChat
