import RichChat.Proofs.Room

/-!
# Nothing is left to close

The end of a rendering closes what is still open. After a walk from an empty canvas nothing is, with
whatever handlers on whatever nodes (`balanced_draw`), and so the end changes nothing
(`finish_eq_self`). A walk from any other canvas leaves open what was open there. Its counts do not
outgrow 32 bits if they have room for the tree.
-/

namespace RichChat

namespace Canvas

/-- A canvas with no attributes and no quotes open is finished. -/
theorem finish_eq_self {c : Canvas} (hcounts : c.runs.counts = List.replicate Attribute.count 0)
    (hquotes : c.quotes = []) : c.finish = c := by
  have hruns : ({ c.runs with counts := List.replicate Attribute.count 0 } : Runs) = c.runs := by
    rw [← hcounts]
  rw [finish_eq, hquotes, List.length_nil, closeQuotes, leave_eq, change, Runs.change, hruns,
    if_pos rfl]
  rfl

/-- The size of emoji is no part of what is open. -/
theorem sizeEmoji_eq (c : Canvas) (config : Config) (node : Node) :
    ∃ emojiSize, c.sizeEmoji config node = { c with emojiSize } := by
  unfold sizeEmoji
  split
  · split
    · exact ⟨_, rfl⟩
    · exact ⟨_, rfl⟩
  · exact ⟨_, rfl⟩

end Canvas

theorem Registry.IsNamed.balanced {registry : Registry} (h : registry.IsNamed) (scene : Scene)
    (node : Node) (c : Canvas) : Balanced c (c.draw registry scene node) := by
  rw [Canvas.draw, walk_eq_walkNode]
  exact balanced_walkNode (h.isBalanced scene) none none node c

/-- Named handlers on any kinds of nodes leave open what was open before, and nothing else, unless a
count grows beyond 32 bits meanwhile. None does where there is room for as many more as the tree is
high. On an empty canvas nothing is open, so that the end of the rendering has nothing to close. -/
theorem Registry.IsNamed.balanced_draw {registry : Registry} (h : registry.IsNamed)
    (scene : Scene) (node : Node) :
    (∀ c : Canvas, c.runs.HasRoom node.height → c.StaysInRange registry scene node) ∧
      (∀ c : Canvas, c.StaysInRange registry scene node →
        Balanced c (c.draw registry scene node)) ∧
      let empty := (Canvas.fresh scene.config).sizeEmoji scene.config node
      let d := (Canvas.fresh scene.config).document registry scene node
      empty.StaysInRange registry scene node →
        d.runs.counts = List.replicate Attribute.count 0 ∧ d.links = [] ∧ d.quotes = [] ∧
          d.lists = [] ∧ d.buffer.marker = [] ∧ d.finish = d := by
  -- The counts here have no bound, so that only those of 32 bits need to stay in range.
  refine ⟨fun c hroom turn hturn => ?_, fun c _ => h.balanced scene node c, ?_⟩
  · have hrest := room_turnsNode (h.isBalanced scene) (h.entersOne scene) none none node c hroom
    exact (hrest turn hturn).mono (Nat.zero_le _)
  · intro empty d _
    obtain ⟨emojiSize, hsize⟩ := (Canvas.fresh scene.config).sizeEmoji_eq scene.config node
    have hd : Balanced { Canvas.fresh scene.config with emojiSize } d :=
      hsize ▸ h.balanced scene node _
    exact ⟨hd.counts, hd.links, hd.quotes, List.eq_nil_of_length_eq_zero hd.depth, hd.marker,
      Canvas.finish_eq_self hd.counts hd.quotes⟩

/-- A tree of more than emoji, as it is drawn on an empty canvas. -/
theorem renderNode_text (scene : Scene) {node : Node} (h : node.emojiOnlyCount.getD 0 = 0) :
    let d := (Canvas.fresh scene.config).draw .builtin scene node
    (scene.renderNode node).text = ⟨d.content, d.segments⟩ := by
  intro d
  have hbalanced : Balanced (.fresh scene.config) d :=
    Registry.isNamed_builtin.balanced scene node _
  have hsize : (Canvas.fresh scene.config).sizeEmoji scene.config node = .fresh scene.config := by
    unfold Canvas.sizeEmoji
    split
    · rename_i n hn
      rw [hn, Option.getD_some] at h
      rw [if_neg (by omega)]
    · rfl
  unfold Scene.renderNode Scene.compose
  dsimp only
  rw [Canvas.document, hsize, Canvas.finish_eq_self hbalanced.counts hbalanced.quotes]

/-- Quotes of paragraphs, headings of texts: what is opened on foreign nodes is closed there, also
where bold has been entered almost as often as 32 bits can tell. -/
theorem Registry.IsNamed.balanced_draw_foreign :
    let registry : Registry := { handlers := [(.paragraph, Handler.blockquote),
      (.text, Handler.heading), (.emoji, Handler.list), (.link, Handler.inline)] }
    let node : Node := .mk .document [.mk .paragraph [.mk (.link "u") [.leaf (.list none)],
      .mk (.plain "a") [.leaf (.autolink "b")]]]
    let d := (Canvas.fresh {}).document registry {} node
    let full : Canvas := { Canvas.fresh {} with runs := ⟨0, [UInt32.size - 5, 0, 0, 0, 0, 0]⟩ }
    registry.IsNamed ∧ d.quotes = [] ∧ d.buffer.marker = [] ∧
      d.finish.segments = [⟨2, 3, .styled .bold⟩, ⟨0, 3, .quoteBlock⟩] ∧
      full.runs.HasRoom node.height ∧ full.StaysInRange registry {} node ∧
      (full.draw registry {} node).runs.counts = full.runs.counts := by
  intro registry node d full
  have h : registry.IsNamed := by
    intro entry hentry
    simp only [registry, List.mem_cons, List.not_mem_nil, or_false] at hentry
    rcases hentry with rfl | rfl | rfl | rfl <;> simp [Handler.named]
  have hroom : full.runs.HasRoom node.height := by decide
  obtain ⟨hrange, hbalanced, hempty⟩ := h.balanced_draw {} node
  have hfull : full.StaysInRange registry {} node := hrange full hroom
  obtain ⟨-, -, hquotes, -, hmarker, hfinish⟩ := hempty (hrange _ (.fresh 0 (by decide)))
  refine ⟨h, hquotes, hmarker, ?_, hroom, hfull, (hbalanced full hfull).counts⟩
  have hwalk : d = walkNode (registry.visitor {}) none none node (.fresh {}) :=
    walk_eq_walkNode _ node _
  rw [show d.finish = d from hfinish, hwalk]
  decide

end RichChat
