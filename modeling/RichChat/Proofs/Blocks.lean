import RichChat.Proofs.Closing
import RichChat.Proofs.ShiftHandler

/-!
# A document is its blocks

The blocks of a document do not see each other. If each of them, alone in a document, gives a text
that neither starts nor ends with a line feed, then all of them give these texts with an empty line
in between, and the segments of each of them at its place (`renderNode_blocks`).

A block leaves the space after it on the way out, and that is all that its siblings change
(`walkNode_block`). What is drawn behind the space is moved (`moved_walkNode`), and since a walk
gives back all that it opened (`balanced_walkNode`) the next block starts as on an empty canvas.
-/

namespace RichChat

/-- The kinds of nodes that a document is made of. -/
def NodeTag.isBlock : NodeTag → Bool
  | .paragraph | .heading | .blockquote | .codeBlock | .list | .thematicBreak => true
  | .document | .text | .inline | .link | .autolink | .listItem | .mention | .emoji => false

/-- The segments of texts that are written after each other, the first at `n` and each other one
after an empty line. -/
def placedSegments (n : Nat) : List RichText → List Segment
  | [] => []
  | t :: ts => t.segments.map (·.shift n) ++ placedSegments (n + t.content.utf8ByteSize + 2) ts

/-- The handler of a block looks at the parent and the next sibling only to leave space at the
end. -/
theorem visitor_block (scene : Scene) {node : Node} (hb : node.tag.isBlock = true)
    (parent parent' next : Option Node) (c : Canvas) :
    Registry.builtin.visitor scene { node, entering := true, parent, next } c
        = Registry.builtin.visitor scene { node, entering := true, parent := parent' } c ∧
      (Registry.builtin.visitor scene { node, entering := false, parent, next } c).2
        = (Registry.builtin.visitor scene { node, entering := false, parent := parent' } c).2.separate
          { node, entering := false, parent, next } := by
  obtain ⟨kind, children⟩ := node
  cases kind with
  | paragraph => exact ⟨rfl, rfl⟩
  | heading _ => exact ⟨rfl, rfl⟩
  | blockquote => exact ⟨rfl, rfl⟩
  | codeBlock _ _ => exact ⟨rfl, rfl⟩
  | list _ => exact ⟨rfl, rfl⟩
  | thematicBreak => exact ⟨rfl, rfl⟩
  | _ => cases hb

def Canvas.block (c : Canvas) (scene : Scene) (node : Node) : Canvas :=
  walkNode (Registry.builtin.visitor scene) none none node c

/-- What siblings change of a block is the space behind it. -/
theorem walkNode_block (scene : Scene) {node : Node} (hb : node.tag.isBlock = true)
    (parent next : Option Node) (c : Canvas) :
    walkNode (Registry.builtin.visitor scene) parent next node c
      = (c.block scene node).separate { node, entering := false, parent, next } := by
  obtain ⟨kind, children⟩ := node
  unfold Canvas.block
  rw [walkNode, walkNode]
  dsimp only
  rw [(visitor_block scene hb parent none next c).1, (visitor_block scene hb parent none next _).2]

section Alone

variable (scene : Scene) (node : Node)

def aloneCanvas : Canvas := (Canvas.fresh scene.config).block scene node

theorem balanced_alone : Balanced (.fresh scene.config) (aloneCanvas scene node) :=
  balanced_walkNode (Registry.isNamed_builtin.isBalanced scene) none none node _

theorem inBounds_alone : (aloneCanvas scene node).InBounds := by
  obtain ⟨plan, hplan⟩ := planned_walkNode (Registry.isNamed_builtin.isPlanned scene) none none node
    (Canvas.fresh scene.config)
  obtain ⟨ss, hss, -⟩ := plan.drawn scene (.fresh scene.config)
  rw [hplan] at hss
  exact hss.inBounds (Canvas.inBounds_fresh _)

end Alone

theorem draw_document (scene : Scene) (nodes : List Node) (c : Canvas) :
    c.draw .builtin scene (.mk .document nodes)
      = walkAll (Registry.builtin.visitor scene) (.mk .document nodes) nodes c := by
  rw [Canvas.draw, walk_eq_walkNode, walkNode]
  rfl

theorem document_eq (scene : Scene) (hl : scene.config.largeEmojiLimit = 0) (nodes : List Node)
    (c : Canvas) : c.document .builtin scene (.mk .document nodes)
      = walkAll (Registry.builtin.visitor scene) (.mk .document nodes) nodes c := by
  have hsize : c.sizeEmoji scene.config (.mk .document nodes) = c := by
    unfold Canvas.sizeEmoji
    split
    · rw [hl, if_neg (by omega)]
    · rfl
  rw [Canvas.document, hsize, draw_document]

/-- The end of a rendering adds nothing to what was drawn of a document. -/
theorem renderNode_document (scene : Scene) (hl : scene.config.largeEmojiLimit = 0)
    (nodes : List Node) :
    let d := walkAll (Registry.builtin.visitor scene) (.mk .document nodes) nodes
      (.fresh scene.config)
    (scene.renderNode (.mk .document nodes)).text = ⟨d.content, d.segments⟩ := by
  intro d
  have hbalanced : Balanced (.fresh scene.config) d :=
    balanced_walkAll (Registry.isNamed_builtin.isBalanced scene) _ nodes _
  unfold Scene.renderNode Scene.compose
  dsimp only
  rw [document_eq scene hl, Canvas.finish_eq_self hbalanced.counts hbalanced.quotes]

theorem renderNode_alone (scene : Scene) (hl : scene.config.largeEmojiLimit = 0) {node : Node}
    (hb : node.tag.isBlock = true) :
    (scene.renderNode (.mk .document [node])).text
      = ⟨(aloneCanvas scene node).content, (aloneCanvas scene node).segments⟩ := by
  rw [renderNode_document scene hl, walkAll, walkAll, walkNode_block scene hb]
  rfl

/-- A text that is a block of its own: it neither starts nor ends with a line feed. -/
structure StandsAlone (text : List Char) : Prop where
  ne_nil : text ≠ []
  head : text.head? ≠ some '\n'
  last : text.getLast? ≠ some '\n'

/-- After a block and the space behind it the next block starts as on an empty canvas. -/
theorem shifted_startBlock {scene : Scene} {node : Node} {front : List Char}
    {before : List Segment} {d : Canvas} (he : Edge front before)
    (ha : StandsAlone (aloneCanvas scene node).buffer.text)
    (h : (aloneCanvas scene node).Shifted front before d) :
    let front' := front ++ (aloneCanvas scene node).buffer.text ++ ['\n', '\n']
    let before' := before ++ (aloneCanvas scene node).segments.map (·.shift (Text.size front))
    Edge front' before' ∧ (Canvas.fresh scene.config).Shifted front' before' d.startBlock := by
  intro front' before'
  have hb := balanced_alone scene node
  have hsize : Text.size front' = Text.size front + (aloneCanvas scene node).length + 2 := by
    rw [Text.size_append, Text.size_append]
    rfl
  refine ⟨⟨.inr ⟨_, rfl⟩, fun s hs => ?_⟩, ?_⟩
  · rcases List.mem_append.1 hs with hs | hs
    · have := he.before s hs
      omega
    · obtain ⟨t, ht, rfl⟩ := List.mem_map.1 hs
      have hfits := (inBounds_alone scene node).segments t ht
      have hstop : t.stop ≤ (aloneCanvas scene node).length := hfits.stop.le
      have hle := hfits.le
      simp only [Segment.shift]
      omega
  · have hbuffer : d.startBlock.buffer = d.buffer.append ['\n', '\n'] := by
      refine Buffer.startBlock_of_getLast?_ne (h.buffer.ne_nil ha.ne_nil) ?_
      obtain ⟨x, hx⟩ := Option.ne_none_iff_exists'.1
        (fun hnone => ha.ne_nil (List.getLast?_eq_none_iff.1 hnone))
      have hlast := ha.last
      rw [h.buffer.text, List.getLast?_append, hx]
      rwa [hx] at hlast
    refine ⟨⟨?_, ?_⟩, ?_, h.counts.trans hb.counts, ?_, ?_, ?_, ?_, h.emojiSize.trans hb.emojiSize⟩
    · rw [hbuffer, Buffer.append_text, h.buffer.text]
      exact (List.append_nil _).symm
    · rw [hbuffer]
      exact h.buffer.marker.trans hb.marker
    · exact h.segments.trans (List.append_nil _).symm
    · have hnone : ({ start := 0 } : Runs).active.isEmpty = true := by decide
      intro hactive
      rw [show (Canvas.fresh scene.config).runs = { start := 0 } from rfl, hnone] at hactive
      cases hactive
    · exact h.links.trans (congrArg _ hb.links)
    · exact h.quotes.trans (congrArg _ hb.quotes)
    · exact h.lists.trans (List.eq_nil_of_length_eq_zero hb.depth)

theorem separate_document {doc : Node} (hdoc : doc.tag = .document) (node next : Node) (c : Canvas) :
    c.separate { node, entering := false, parent := some doc, next := some next } = c.startBlock := by
  unfold Canvas.separate
  rw [Option.map_some, hdoc]

/-- Blocks that stand alone are written after each other with an empty line in between. -/
theorem walkAll_blocks (scene : Scene) {doc : Node} (hdoc : doc.tag = .document) :
    ∀ {nodes : List Node}, (∀ node ∈ nodes, node.tag.isBlock = true) →
      (∀ node ∈ nodes, StandsAlone (aloneCanvas scene node).buffer.text) →
      ∀ {front : List Char} {before : List Segment} {c : Canvas}, Edge front before →
      (Canvas.fresh scene.config).Shifted front before c →
      let d := walkAll (Registry.builtin.visitor scene) doc nodes c
      let texts := nodes.map fun node =>
        (⟨(aloneCanvas scene node).content, (aloneCanvas scene node).segments⟩ : RichText)
      d.content = String.ofList front ++ "\n\n".intercalate (texts.map (·.content)) ∧
        d.segments = before ++ placedSegments (Text.size front) texts
  | [], _, _, front, before, c, _, h => by
    intro d texts
    have htext : c.buffer.text = front := h.buffer.text.trans (List.append_nil _)
    have hsegments : c.segments = before := h.segments.trans (List.append_nil _)
    have hd : d = c := by rw [show d = walkAll _ doc [] c from rfl, walkAll]
    rw [hd]
    refine ⟨?_, ?_⟩
    · rw [Canvas.content, htext]
      simp [texts]
    · rw [hsegments]
      exact (List.append_nil _).symm
  | node :: nodes, hblock, halone, front, before, c, he, h => by
    intro d texts
    have ha := halone node List.mem_cons_self
    have hmoved : Canvas.Moved front before (aloneCanvas scene node) (c.block scene node) :=
      moved_walkNode (Registry.isNamed_builtin.moves scene)
        (Registry.isNamed_builtin.isPlanned scene) none none node (Canvas.behind_of_edge he _) (.inr h)
    have hshifted := hmoved.resolve_left ha.head
    have hd : d = walkAll (Registry.builtin.visitor scene) doc nodes ((c.block scene node).separate
        { node, entering := false, parent := some doc, next := nodes.head? }) := by
      rw [show d = walkAll _ doc (node :: nodes) c from rfl, walkAll,
        walkNode_block scene (hblock node List.mem_cons_self)]
    cases nodes with
    | nil =>
      rw [List.head?_nil, Canvas.separate, walkAll] at hd
      rw [hd]
      refine ⟨?_, ?_⟩
      · rw [Canvas.content, hshifted.buffer.text, String.ofList_append]
        simp [texts, Canvas.content]
      · rw [hshifted.segments]
        simp [texts, placedSegments]
    | cons node' nodes =>
      rw [List.head?_cons, separate_document hdoc] at hd
      obtain ⟨he', hs'⟩ := shifted_startBlock he ha hshifted
      obtain ⟨hcontent, hsegments⟩ := walkAll_blocks scene hdoc
        (fun n hn => hblock n (List.mem_cons_of_mem _ hn))
        (fun n hn => halone n (List.mem_cons_of_mem _ hn)) he' hs'
      have hsize : Text.size (front ++ (aloneCanvas scene node).buffer.text ++ ['\n', '\n'])
          = Text.size front + (aloneCanvas scene node).content.utf8ByteSize + 2 := by
        rw [Text.size_append, Text.size_append, Canvas.content, Text.utf8ByteSize_ofList]
        rfl
      rw [← hd] at hcontent hsegments
      refine ⟨?_, ?_⟩
      · rw [hcontent]
        simp only [texts, List.map_cons, String.intercalate_cons_cons, String.ofList_append,
          String.append_assoc]
        rfl
      · rw [hsegments, hsize, List.append_assoc]
        rfl

/-- The text of a document is that of its blocks with empty lines in between, and its segments are
those of its blocks, each at the place of the block. -/
theorem renderNode_blocks (scene : Scene) (nodes : List Node)
    (hl : scene.config.largeEmojiLimit = 0) (hblock : ∀ node ∈ nodes, node.tag.isBlock = true)
    (halone : ∀ node ∈ nodes,
      StandsAlone (scene.renderNode (.mk .document [node])).text.content.toList) :
    let texts := nodes.map fun node => (scene.renderNode (.mk .document [node])).text
    let whole := (scene.renderNode (.mk .document nodes)).text
    whole.content = "\n\n".intercalate (texts.map (·.content)) ∧
      whole.segments = placedSegments 0 texts := by
  intro texts whole
  have htexts : texts = nodes.map fun node =>
      (⟨(aloneCanvas scene node).content, (aloneCanvas scene node).segments⟩ : RichText) :=
    List.map_congr_left fun node hn => renderNode_alone scene hl (hblock node hn)
  have hstart : (Canvas.fresh scene.config).Shifted [] [] (.fresh scene.config) :=
    ⟨⟨rfl, rfl⟩, rfl, rfl, fun _ => rfl, rfl, rfl, rfl, rfl⟩
  have halone' : ∀ node ∈ nodes, StandsAlone (aloneCanvas scene node).buffer.text := by
    intro node hn
    have := halone node hn
    rwa [renderNode_alone scene hl (hblock node hn), Canvas.content, String.toList_ofList] at this
  have hdoc : (Node.mk .document nodes).tag = .document := rfl
  obtain ⟨hcontent, hsegments⟩ :=
    walkAll_blocks scene hdoc hblock halone' ⟨.inl rfl, by simp⟩ hstart
  rw [show whole = _ from renderNode_document scene hl nodes, htexts]
  exact ⟨hcontent.trans (String.empty_append), hsegments⟩

theorem renderNode_blocks_quote_heading :
    let scene : Scene := { config := { largeEmojiLimit := 0 } }
    let quote : Node := .mk .blockquote [.mk .paragraph [.leaf (.text "é" false false)]]
    let heading : Node := .mk (.heading 1) [.leaf (.text "a" false false)]
    scene.config.largeEmojiLimit = 0 ∧
      (∀ node ∈ [quote, heading], node.tag.isBlock = true) ∧
      (∀ node ∈ [quote, heading],
        StandsAlone (scene.renderNode (.mk .document [node])).text.content.toList) ∧
      (scene.renderNode (.mk .document [quote, heading])).text.content = "> é\n\na" ∧
      (scene.renderNode (.mk .document [quote, heading])).text.segments
        = [⟨0, 4, .quoteBlock⟩, ⟨6, 7, .styled .bold⟩] := by
  intro scene quote heading
  have hquote := renderNode_alone scene rfl (show quote.tag.isBlock = true from rfl)
  have hheading := renderNode_alone scene rfl (show heading.tag.isBlock = true from rfl)
  have hblock : ∀ node ∈ [quote, heading], node.tag.isBlock = true := by
    simp only [List.forall_mem_cons]
    exact ⟨rfl, rfl, by simp⟩
  have halone : ∀ node ∈ [quote, heading],
      StandsAlone (scene.renderNode (.mk .document [node])).text.content.toList := by
    simp only [List.forall_mem_cons]
    rw [hquote, hheading]
    exact ⟨⟨by decide, by decide, by decide⟩, ⟨by decide, by decide, by decide⟩, by simp⟩
  obtain ⟨hcontent, hsegments⟩ := renderNode_blocks scene [quote, heading] rfl hblock halone
  refine ⟨rfl, hblock, halone, hcontent.trans ?_, hsegments.trans ?_⟩
  · rw [List.map_cons, List.map_singleton, hquote, hheading]
    decide
  · rw [List.map_cons, List.map_singleton, hquote, hheading]
    decide

end RichChat
