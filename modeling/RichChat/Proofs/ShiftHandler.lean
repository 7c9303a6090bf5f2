import RichChat.Proofs.Balance
import RichChat.Proofs.InStep
import RichChat.Proofs.Shift

/-!
# Handlers behind another text

Behind an edge a handler draws what it draws on an empty canvas (`Handler.IsMovable`), and so does
a walk (`moved_walkNode`). A handler that leaves an empty line before or after a block looks back at
the text only before it writes, so it is enough that the text in front of it does not start with a
line feed. The handlers of inline elements leave no space, and draw the same behind any text while
no marker is due.
-/

namespace RichChat

/-- The visitor draws the same on moved canvases with a property, and goes on in the same way. -/
def Visitor.Moves (P : List Char → List Segment → Canvas → Prop) (visitor : Visitor Canvas) :
    Prop :=
  ∀ {front : List Char} {before : List Segment} (visit : Visit) (c d : Canvas),
    c.Shifted front before d → P front before c →
    (visitor visit d).1 = (visitor visit c).1 ∧
      Canvas.Shifted front before (visitor visit c).2 (visitor visit d).2

/-- What spacing needs of a canvas behind another text. -/
def Canvas.Spaced (front : List Char) (before : List Segment) (c : Canvas) : Prop :=
  c.Behind front before ∧ c.buffer.text.head? ≠ some '\n'

/-- The handler draws the same on moved canvases and goes on in the same way. -/
def Handler.IsMovable (handler : Handler) : Prop :=
  ∀ scene, Visitor.Moves Canvas.Spaced (handler scene)

namespace Canvas

variable {front : List Char} {before : List Segment}

theorem Apart.kept : Kept (Apart front before) where
  flush _ h := h.flush
  append _ cs h := h.grow (h.buffer.append cs)
  push _ _ _ h := h.mono List.prefix_rfl rfl
  note _ _ h := h.mono List.prefix_rfl rfl

theorem Behind.kept : Kept (Behind front before) where
  flush _ h := h.mono (by simp [Buffer.flush_eq_append])
  append _ _ h := h.mono (List.prefix_append _ _)
  push _ _ _ h := h.mono List.prefix_rfl
  note _ _ h := h.mono List.prefix_rfl

end Canvas

namespace Canvas.Shifted

variable {front : List Char} {before : List Segment} {c d : Canvas}

theorem inStep (front : List Char) (before : List Segment) :
    InStep (shiftRange (Text.size front)) fun c d =>
      Shifted front before c d ∧ c.Apart front before where
  write text h := ⟨(h.1.write h.2 text).1, h.1.put h.2 text, Apart.kept.put h.2 text⟩
  emit range kind h := ⟨h.1.emit range kind, h.2.mono List.prefix_rfl rfl⟩
  anchor kind h := ⟨h.1.anchor h.2 kind, h.2.flush.mono List.prefix_rfl rfl⟩
  request scene r h := ⟨h.1.request scene r, Apart.kept.request h.2 scene r⟩

theorem mention (h : Shifted front before c d) (he : c.Apart front before) (scene : Scene)
    (target : Reference) :
    Shifted front before (c.mention scene target) (d.mention scene target) :=
  ((inStep front before).mention ⟨h, he⟩ scene target).1

theorem drawCode (h : Shifted front before c d) (he : c.Behind front before)
    (hlead : c.buffer.text.head? ≠ some '\n') (language : Option String) (lines : List String) :
    Shifted front before (Handler.drawCode c language lines) (Handler.drawCode d language lines) := by
  have hflush := (h.startBlock he hlead).flush (Behind.kept.startBlock he).apart
  have hwritten := hflush.grow (hflush.buffer.append ("\n".intercalate lines).toList)
  have heq (c : Canvas) : Handler.drawCode c language lines =
      let code := ("\n".intercalate lines).toList
      let w := { c.startBlock.flush with buffer := c.startBlock.flush.buffer.append code }
      if 0 < Text.size code then w.emit (c.startBlock.flush.length, w.length) (.codeBlock language)
      else w := by
    simp [Handler.drawCode, cursor, Canvas.length, Canvas.writeVerbatim, Buffer.writeVerbatim]
  rw [heq, heq]
  dsimp only
  split
  · rw [hflush.length, hwritten.length]
    exact hwritten.emit _ _
  · exact hwritten

end Canvas.Shifted

namespace Handler

/-- The handler draws the same behind any text while no marker is due. -/
def IsInlineMovable (handler : Handler) : Prop :=
  ∀ scene, Visitor.Moves Canvas.Apart (handler scene)

theorem IsInlineMovable.isMovable {handler : Handler} (h : IsInlineMovable handler) :
    IsMovable handler :=
  fun scene _ _ visit c d hs hp => h scene visit c d hs hp.1.apart

theorem isInlineMovable_text : IsInlineMovable text := by
  intro scene front before visit c d h he
  unfold text
  split
  · rename_i s soft hard _ _
    refine ⟨rfl, ?_⟩
    have hput := h.put he s
    have he' := Canvas.Apart.kept.put he s
    dsimp only
    split
    · exact hput.put he' _
    · split
      · exact hput.put he' _
      · exact hput
  · exact ⟨rfl, h⟩

theorem isInlineMovable_inline : IsInlineMovable inline := by
  intro scene front before visit c d h he
  unfold inline
  split
  · refine ⟨rfl, ?_⟩
    dsimp only
    split
    · exact h.enter he _
    · exact h.exit he _
  · exact ⟨rfl, h⟩

theorem isInlineMovable_link : IsInlineMovable link := by
  intro scene front before visit c d h he
  unfold link
  split
  · refine ⟨rfl, ?_⟩
    dsimp only
    split
    · exact h.openLink he
    · exact h.closeLink _
  · exact ⟨rfl, h⟩

theorem isInlineMovable_autolink : IsInlineMovable autolink := by
  intro scene front before visit c d h he
  unfold autolink
  split
  · rename_i url _ _
    refine ⟨rfl, ?_⟩
    obtain ⟨hrange, hput⟩ := h.write he url
    have hlink : (d.write url).2.inLink = (c.write url).2.inLink := by
      have := hput.links
      unfold Canvas.put at this
      rw [Canvas.inLink, this, List.isEmpty_map]
      rfl
    dsimp only
    rw [hrange, hlink]
    split
    · exact hput
    · exact hput.emit _ _
  · exact ⟨rfl, h⟩

theorem isInlineMovable_mention : IsInlineMovable mention := by
  intro scene front before visit c d h he
  unfold mention
  split
  · exact ⟨rfl, h.mention he scene _⟩
  · exact ⟨rfl, h⟩

theorem isInlineMovable_emoji : IsInlineMovable emoji := by
  intro scene front before visit c d h he
  unfold emoji
  split
  · refine ⟨rfl, ?_⟩
    rw [h.emojiSize]
    exact h.anchor he _
  · exact ⟨rfl, h⟩

theorem isMovable_document : IsMovable document := fun _ _ _ _ _ _ h _ => ⟨rfl, h⟩

theorem isMovable_paragraph : IsMovable paragraph := by
  rintro scene front before visit c d h ⟨he, hlead⟩
  refine ⟨rfl, ?_⟩
  unfold paragraph
  dsimp only
  split
  · exact h
  · exact h.separate he hlead visit

theorem isMovable_heading : IsMovable heading := by
  rintro scene front before visit c d h ⟨he, hlead⟩
  refine ⟨rfl, ?_⟩
  have hexit : (c.exit .bold).buffer = c.buffer := by rw [Canvas.exit_eq, Canvas.change_buffer]
  unfold heading
  dsimp only
  split
  · exact h.enter he.apart _
  · refine (h.exit he.apart _).separate (he.mono ?_) ?_ visit
    · simp only [hexit, List.prefix_rfl]
    · rwa [hexit]

theorem isMovable_blockquote : IsMovable blockquote := by
  rintro scene front before visit c d h ⟨he, hlead⟩
  refine ⟨rfl, ?_⟩
  unfold blockquote
  dsimp only
  split
  · exact (h.startBlock he hlead).pushQuote scene.config
  · refine (h.closeQuote he.apart).separate (he.mono ?_) ?_ visit
    · simp only [Canvas.closeQuote_text, List.prefix_rfl]
    · rwa [Canvas.closeQuote_text]

theorem isMovable_codeBlock : IsMovable codeBlock := by
  rintro scene front before visit c d h ⟨he, hlead⟩
  unfold codeBlock
  split
  · refine ⟨rfl, ?_⟩
    dsimp only
    split
    · exact h.drawCode he hlead _ _
    · exact h.separate he hlead visit
  · exact ⟨rfl, h⟩

theorem isMovable_list : IsMovable list := by
  rintro scene front before visit c d h ⟨he, hlead⟩
  unfold list
  split
  · refine ⟨rfl, ?_⟩
    dsimp only
    rw [h.lists]
    split
    · split
      · exact (h.startBlock he hlead).openList _
      · exact (h.ensureBreak he).openList _
    · exact h.closeList.separate (he.mono List.prefix_rfl) hlead visit
  · exact ⟨rfl, h⟩

theorem isMovable_listItem : IsMovable listItem := by
  rintro scene front before visit c d h ⟨he, hlead⟩
  refine ⟨rfl, ?_⟩
  obtain ⟨hmarker, hnext⟩ := (h.ensureBreak he).nextListMarker
  have hbreak := Canvas.Behind.kept.ensureBreak he
  unfold listItem
  dsimp only
  split
  · rw [hmarker]
    exact hnext.put (hbreak.mono (Canvas.drawn_nextListMarker scene _).prefix_text).apart _
  · exact h

theorem isMovable_thematicBreak : IsMovable thematicBreak := by
  rintro scene front before visit c d h ⟨he, hlead⟩
  refine ⟨rfl, ?_⟩
  unfold thematicBreak
  dsimp only
  split
  · exact (h.startBlock he hlead).put (Canvas.Behind.kept.startBlock he).apart _
  · exact h.separate he hlead visit

theorem isMovable_fallback : IsMovable fallback := by
  rintro scene front before visit c d h ⟨he, hlead⟩
  unfold fallback
  split
  · exact ⟨rfl, h⟩
  · exact isMovable_paragraph scene visit c d h ⟨he, hlead⟩
  · exact isInlineMovable_text scene visit c d h he.apart
  · split
    · refine ⟨rfl, ?_⟩
      dsimp only
      split
      · exact h.put he.apart _
      · exact h
    · exact ⟨rfl, h⟩

theorem isMovable_of_mem_named {handler : Handler} (h : handler ∈ named.map (·.2)) :
    IsMovable handler := by
  simp only [named, List.map_cons, List.map_nil, List.mem_cons, List.not_mem_nil, or_false] at h
  rcases h with rfl | rfl | rfl | rfl | rfl | rfl | rfl | rfl | rfl | rfl | rfl | rfl | rfl | rfl |
    rfl
  · exact isMovable_fallback
  · exact isMovable_document
  · exact isMovable_paragraph
  · exact isInlineMovable_text.isMovable
  · exact isMovable_heading
  · exact isInlineMovable_inline.isMovable
  · exact isInlineMovable_link.isMovable
  · exact isInlineMovable_autolink.isMovable
  · exact isMovable_blockquote
  · exact isMovable_codeBlock
  · exact isMovable_list
  · exact isMovable_listItem
  · exact isMovable_thematicBreak
  · exact isInlineMovable_mention.isMovable
  · exact isInlineMovable_emoji.isMovable

end Handler

theorem Registry.IsNamed.moves {registry : Registry} (h : registry.IsNamed) (scene : Scene) :
    (registry.visitor scene).Moves Canvas.Spaced :=
  fun visit c d hs hp =>
    Handler.isMovable_of_mem_named (h.mem_named visit.node.tag) scene visit c d hs hp

theorem moved_visit {scene : Scene} {visitor : Visitor Canvas}
    (hm : visitor.Moves Canvas.Spaced) (hp : Visitor.IsPlanned scene visitor)
    {front : List Char} {before : List Segment} (visit : Visit) {c d : Canvas}
    (he : c.Behind front before) (h : c.Moved front before d) :
    Canvas.Moved front before (visitor visit c).2 (visitor visit d).2 :=
  h.map (hp visit c).prefix_text fun hlead hs => .inr (hm visit c d hs ⟨he, hlead⟩).2

mutual

theorem moved_walkNode {scene : Scene} {visitor : Visitor Canvas}
    (hm : visitor.Moves Canvas.Spaced) (hp : Visitor.IsPlanned scene visitor)
    {front : List Char} {before : List Segment} (parent next : Option Node) :
    ∀ (node : Node) {c d : Canvas}, c.Behind front before → c.Moved front before d →
      Canvas.Moved front before (walkNode visitor parent next node c)
        (walkNode visitor parent next node d)
  | .mk kind children, c, d, he, h => by
    refine h.map (planned_walkNode hp parent next _ c).prefix_text fun hlead hs => ?_
    obtain ⟨hflow, hin⟩ :=
      hm { node := .mk kind children, entering := true, parent, next } c d hs ⟨he, hlead⟩
    have hein := he.mono
      (hp { node := .mk kind children, entering := true, parent, next } c).prefix_text
    rw [walkNode, walkNode]
    refine moved_visit hm hp _ ?_ ?_
    · split
      · exact hein.mono (planned_walkAll hp _ children _).prefix_text
      · exact hein
    · rw [hflow]
      split
      · exact moved_walkAll hm hp _ children hein (.inr hin)
      · exact .inr hin

theorem moved_walkAll {scene : Scene} {visitor : Visitor Canvas}
    (hm : visitor.Moves Canvas.Spaced) (hp : Visitor.IsPlanned scene visitor)
    {front : List Char} {before : List Segment} (parent : Node) :
    ∀ (nodes : List Node) {c d : Canvas}, c.Behind front before → c.Moved front before d →
      Canvas.Moved front before (walkAll visitor parent nodes c) (walkAll visitor parent nodes d)
  | [], c, d, _, h => by
    rw [walkAll, walkAll]
    exact h
  | node :: nodes, c, d, he, h => by
    rw [walkAll, walkAll]
    refine moved_walkAll hm hp parent nodes (he.mono ?_) (moved_walkNode hm hp _ _ node he h)
    exact (planned_walkNode hp _ _ node c).prefix_text

end

end RichChat
