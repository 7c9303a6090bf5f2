import Mathlib
import RichChat.Proofs.Blocks
import RichChat.Proofs.FirstBlock

/-!
# A nested rendering is one of its own

A text that is drawn inside another one comes out as it does alone, with its segments moved, if no
quote is open around it and its first block is a paragraph or a heading with text (`nested_alone`).

Nothing need end a line in front of it. The first block has nothing but inline elements in it, which
leave no space, so it is drawn the same behind any text (`shifted_block`). Then there is text for
the spacing of the later blocks to look back on.
-/

namespace RichChat

/-- The visitor draws inline elements the same behind any text while no marker is due, and puts no
marker there. -/
def Visitor.MovesInline (visitor : Visitor Canvas) : Prop :=
  ∀ {front : List Char} {before : List Segment} (visit : Visit) {c d : Canvas},
    visit.node.tag.isInline = true → c.Apart front before → c.Shifted front before d →
    (visitor visit d).1 = (visitor visit c).1 ∧ (visitor visit c).2.Apart front before ∧
      Canvas.Shifted front before (visitor visit c).2 (visitor visit d).2

section Inline

variable {front : List Char} {before : List Segment}

theorem movesInline_builtin (scene : Scene) : (Registry.builtin.visitor scene).MovesInline := by
  intro front before visit c d hn he h
  have hmoves : (Registry.builtin.visitor scene visit d).1
      = (Registry.builtin.visitor scene visit c).1 ∧
      Canvas.Shifted front before (Registry.builtin.visitor scene visit c).2
        (Registry.builtin.visitor scene visit d).2 := by
    obtain ⟨⟨kind, children⟩, entering, parent, next⟩ := visit
    cases kind with
    | text s soft hard =>
      exact Handler.isInlineMovable_text scene ⟨.mk (.text s soft hard) children, _, _, _⟩ c d h he
    | inline a =>
      exact Handler.isInlineMovable_inline scene ⟨.mk (.inline a) children, _, _, _⟩ c d h he
    | link url =>
      exact Handler.isInlineMovable_link scene ⟨.mk (.link url) children, _, _, _⟩ c d h he
    | autolink url =>
      exact Handler.isInlineMovable_autolink scene ⟨.mk (.autolink url) children, _, _, _⟩ c d h he
    | mention target =>
      exact Handler.isInlineMovable_mention scene ⟨.mk (.mention target) children, _, _, _⟩ c d h he
    | emoji e =>
      exact Handler.isInlineMovable_emoji scene ⟨.mk (.emoji e) children, _, _, _⟩ c d h he
    | _ => cases hn
  have hquote : visit.node.tag ≠ .blockquote := fun h => by
    rw [h] at hn
    cases hn
  refine ⟨hmoves.1, he.mono ?_ (marker_visit scene visit hquote c), hmoves.2⟩
  exact (Registry.isNamed_builtin.isPlanned scene visit c).prefix_text

mutual

theorem shifted_walkNode {visitor : Visitor Canvas} (hm : visitor.MovesInline)
    (parent next : Option Node) :
    ∀ (node : Node) {c d : Canvas}, node.AllInline → c.Apart front before →
      c.Shifted front before d →
      Canvas.Apart front before (walkNode visitor parent next node c) ∧
        Canvas.Shifted front before (walkNode visitor parent next node c)
          (walkNode visitor parent next node d)
  | .mk kind children, c, d, hn, he, h => by
    obtain ⟨htag, hchildren⟩ := Node.allInline_mk.1 hn
    obtain ⟨hflow, hein, hin⟩ :=
      hm { node := .mk kind children, entering := true, parent, next } htag he h
    rw [walkNode, walkNode]
    dsimp only
    rw [hflow]
    split
    · obtain ⟨heall, hall⟩ := shifted_walkAll hm (.mk kind children) children hchildren hein hin
      exact (hm { node := .mk kind children, entering := false, parent, next } htag heall hall).2
    · exact (hm { node := .mk kind children, entering := false, parent, next } htag hein hin).2

theorem shifted_walkAll {visitor : Visitor Canvas} (hm : visitor.MovesInline) (parent : Node) :
    ∀ (nodes : List Node) {c d : Canvas}, (∀ n ∈ nodes, n.AllInline) → c.Apart front before →
      c.Shifted front before d →
      Canvas.Apart front before (walkAll visitor parent nodes c) ∧
        Canvas.Shifted front before (walkAll visitor parent nodes c)
          (walkAll visitor parent nodes d)
  | [], c, d, _, he, h => by
    rw [walkAll, walkAll]
    exact ⟨he, h⟩
  | node :: nodes, c, d, hn, he, h => by
    obtain ⟨hnode, hnodes⟩ := List.forall_mem_cons.1 hn
    obtain ⟨he', h'⟩ := shifted_walkNode hm (some parent) nodes.head? node hnode he h
    rw [walkAll, walkAll]
    exact shifted_walkAll hm parent nodes hnodes he' h'

end

/-- A paragraph or a heading is drawn the same behind any text while no marker is due. -/
theorem shifted_block (scene : Scene) {node : Node}
    (htag : node.tag = .paragraph ∨ node.tag = .heading) (hn : ∀ n ∈ node.children, n.AllInline)
    {c d : Canvas} (he : c.Apart front before) (h : c.Shifted front before d) :
    Canvas.Shifted front before (c.block scene node) (d.block scene node) := by
  have hm : (Registry.builtin.visitor scene).MovesInline := movesInline_builtin scene
  obtain ⟨kind, children⟩ := node
  unfold Canvas.block
  rw [walkNode, walkNode]
  cases kind with
  | paragraph => exact (shifted_walkAll hm _ children hn he h).2
  | heading level =>
    have henter : Canvas.Apart front before (c.enter .bold) := by
      refine he.mono (c.drawn_enter scene .bold).prefix_text ?_
      simp [Canvas.enter_eq]
    obtain ⟨he', h'⟩ := shifted_walkAll hm (.mk (.heading level) children) children hn henter
      (h.enter he .bold)
    exact h'.exit he' .bold
  | _ => rcases htag with htag | htag <;> cases htag

end Inline

theorem Text.head?_of_prefix {as bs : List Char} (h : as <+: bs) (hne : as ≠ []) :
    bs.head? = as.head? := by
  obtain ⟨cs, rfl⟩ := h
  exact List.head?_append_of_ne_nil _ hne

/-- A document that starts with a paragraph or a heading with text is drawn the same behind any text
while no marker is due. -/
theorem shifted_document {scene : Scene} {first : Node} (rest : List Node)
    (htag : first.tag = .paragraph ∨ first.tag = .heading)
    (hn : ∀ n ∈ first.children, n.AllInline)
    (hne : (aloneCanvas scene first).buffer.text ≠ [])
    (hlead : (aloneCanvas scene first).buffer.text.head? ≠ some '\n') {front : List Char}
    {d : Canvas} (h : (Canvas.fresh scene.config).Shifted front [] d) :
    let doc : Node := .mk .document (first :: rest)
    Canvas.Shifted front [] ((Canvas.fresh scene.config).draw .builtin scene doc)
      (d.draw .builtin scene doc) := by
  intro doc
  have hblock : first.tag.isBlock = true := by
    rcases htag with htag | htag <;> rw [htag] <;> rfl
  have hplanned := Registry.isNamed_builtin.isPlanned scene
  have hfirst : (aloneCanvas scene first).Shifted front [] (d.block scene first) :=
    shifted_block scene htag hn ⟨by simp, fun _ => .inr rfl⟩ h
  have hbehind : (aloneCanvas scene first).Behind front [] := ⟨by simp, fun hnil => absurd hnil hne⟩
  let visit : Visit :=
    { node := first, entering := false, parent := some doc, next := rest.head? }
  have hspace := hfirst.separate hbehind hlead visit
  have hbehind' := Canvas.Behind.kept.separate hbehind visit
  have hrest := moved_walkAll (Registry.isNamed_builtin.moves scene) hplanned doc rest hbehind'
    (.inr hspace)
  rw [draw_document, draw_document, walkAll, walkAll, walkNode_block scene hblock,
    walkNode_block scene hblock]
  refine hrest.resolve_left fun hnewline => hlead ?_
  have hprefix := (((Planned.refl (aloneCanvas scene first)).separate visit).trans
    (planned_walkAll hplanned doc rest _)).prefix_text
  rw [← Text.head?_of_prefix hprefix hne]
  exact hnewline

/-- While no quote is open there is no marker. -/
theorem marker_of_quotes (scene : Scene) (plan : Plan)
    (h : (plan.run scene (.fresh scene.config)).quotes = []) :
    (plan.run scene (.fresh scene.config)).buffer.marker = [] := by
  obtain ⟨ss, hdrawn, -⟩ := plan.drawn scene (.fresh scene.config)
  have hfresh : (Canvas.fresh scene.config).StackedOn scene.config [] := rfl
  have hstacked := hdrawn.stacked hfresh
  unfold Canvas.StackedOn at hstacked
  rw [h] at hstacked
  exact hstacked

/-- A nested rendering while no marker is due: it goes on behind the text, and its segments come
after the run that it ends. -/
theorem nested_eq (scene : Scene) (c : Canvas) (source : String) (hmarker : c.buffer.marker = [])
    (hdepth : c.depth + 1 < scene.config.maxDepth) :
    let inner := (c.splitRun.child scene.config).draw .builtin scene (.ofSource source)
    (c.nested .builtin scene source).buffer = inner.buffer ∧
      (c.nested .builtin scene source).segments = c.splitRun.segments ++ inner.segments := by
  intro inner
  have hflush : c.flush = c := Canvas.flush_of_not_due (by simp [Buffer.markerDue, hmarker])
  have hbalanced := Registry.isNamed_builtin.balanced scene (.ofSource source)
    (c.splitRun.child scene.config)
  have hfinish : inner.finish = inner :=
    Canvas.finish_eq_self hbalanced.counts hbalanced.quotes
  unfold Canvas.nested
  rw [if_neg (by omega), hflush]
  dsimp only
  rw [hfinish]
  exact ⟨rfl, rfl⟩

/-- Without an open quote, and above the greatest depth, a nested text adds what it renders to alone:
its content, and its segments behind the run that was open. Only a text of nothing but emoji, and one
that does not start with a paragraph or a heading with text, may come out otherwise. -/
theorem nested_alone (scene : Scene) :
    (∀ plan : Plan, (plan.run scene (.fresh scene.config)).quotes = [] →
        (plan.run scene (.fresh scene.config)).buffer.marker = []) ∧
      ∀ (c : Canvas) (source : String) (first : Node) (rest : List Node),
        c.buffer.marker = [] → c.depth + 1 < scene.config.maxDepth →
        (Node.ofSource source).emojiOnlyCount.getD 0 = 0 →
        (Node.ofSource source).children = first :: rest →
        first.tag = .paragraph ∨ first.tag = .heading →
        ((Canvas.fresh scene.config).draw .builtin scene first).buffer.text ≠ [] →
        ((Canvas.fresh scene.config).draw .builtin scene first).buffer.text.head? ≠ some '\n' →
        let alone := (scene.renderSource source).text
        (c.nested .builtin scene source).content = c.content ++ alone.content ∧
          (c.nested .builtin scene source).segments
            = c.splitRun.segments ++ alone.segments.map (·.shift c.length) := by
  refine ⟨marker_of_quotes scene, ?_⟩
  intro c source first rest hmarker hdepth hemoji hchildren htag hne hlead alone
  obtain ⟨hkind, hinline⟩ := Node.ofSource_first source
  have hdoc : Node.ofSource source = .mk .document (first :: rest) := by
    rw [← hkind, ← hchildren]
    cases Node.ofSource source
    rfl
  rw [Canvas.draw, walk_eq_walkNode] at hne hlead
  have hchild : (Canvas.fresh scene.config).Shifted c.buffer.text []
      (c.splitRun.child scene.config) := by
    refine ⟨⟨?_, ?_⟩, rfl, rfl, ?_, rfl, rfl, rfl, rfl⟩
    · simp [Canvas.child, Canvas.fresh]
    · simpa [Canvas.child, Canvas.fresh] using hmarker
    · intro _
      simp [Canvas.child, Canvas.fresh, Canvas.length, Buffer.length]
  have hshifted := shifted_document rest htag (hinline first rest hchildren htag) hne hlead hchild
  rw [← hdoc] at hshifted
  obtain ⟨hbuffer, hsegments⟩ := nested_eq scene c source hmarker hdepth
  have halone : alone = _ := renderNode_text scene hemoji
  refine ⟨?_, ?_⟩
  · rw [Canvas.content, hbuffer, hshifted.buffer.text, String.ofList_append, halone]
    rfl
  · rw [hsegments, hshifted.segments, List.nil_append, halone]
    rfl

theorem nested_alone_open_run :
    let scene : Scene := {}
    let c := ((Canvas.fresh {}).enter .bold).put "é"
    let source := "*a*\n\n- b"
    let first : Node := .mk .paragraph [.mk (.inline .italic) [.text "a"]]
    let list : Node := .mk (.list none) [.mk .listItem [.text "b"]]
    c.buffer.marker = [] ∧ c.depth + 1 < scene.config.maxDepth ∧
      (Node.ofSource source).emojiOnlyCount.getD 0 = 0 ∧
      (Node.ofSource source).children = [first, list] ∧
      ((Canvas.fresh scene.config).draw .builtin scene first).buffer.text = ['a'] ∧
      (c.nested .builtin scene source).content = "éa\n\n• b" ∧
      (c.nested .builtin scene source).segments
        = [⟨0, 2, .styled .bold⟩, ⟨2, 3, .styled .italic⟩] := by
  intro scene c source first list
  have hmarker : c.buffer.marker = [] := by decide
  have htree : Node.ofSource source = .mk .document [first, list] := by cbv
  have hemoji : (Node.ofSource source).emojiOnlyCount.getD 0 = 0 := by
    rw [htree]
    decide
  have hchildren : (Node.ofSource source).children = [first, list] := by rw [htree]; rfl
  have htext : ((Canvas.fresh scene.config).draw .builtin scene first).buffer.text = ['a'] := by
    rw [Canvas.draw, walk_eq_walkNode]
    decide
  have halone : (scene.renderSource source).text = _ := renderNode_text scene hemoji
  rw [htree, draw_document] at halone
  obtain ⟨hcontent, hsegments⟩ := (nested_alone scene).2 c source first [list] hmarker (by decide)
    hemoji hchildren (.inl rfl) (by rw [htext]; decide) (by rw [htext]; decide)
  rw [halone] at hcontent hsegments
  exact ⟨hmarker, by decide, hemoji, hchildren, htext, hcontent.trans (by decide),
    hsegments.trans (by decide)⟩

end RichChat
