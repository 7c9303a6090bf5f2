import RichChat.Proofs.Closing
import RichChat.Proofs.Invariant
import RichChat.Proofs.Page
import RichChat.Proofs.Visits

/-!
# What a text is made of

Every part of a text is an `Ink`: a marker that was due, what a handler wrote, or line feeds that
leave space. An ink knows how many quotes were open when it was written. The inks of a tree
(`Scene.inks`) are noted down on the walk that draws it, at each visit from the page as it is.

If the marker of a quote does not go over several lines, then all inks are ruled (`Ruled`): a line
starts with the markers of all quotes that are open, except inside of code, and a marker stands
nowhere else (`Scene.ruled_renderNode`).
-/

namespace RichChat

/-- What a part of a text is written as. -/
inductive Origin
  | marker
  | text
  | code
  | space
  deriving DecidableEq

/-- A part of a text, and how many quotes are open where it is written. -/
structure Ink where
  text : List Char
  origin : Origin
  quotes : Nat
  deriving DecidableEq

namespace Page

def ink (p : Page) (text : List Char) (origin : Origin) : Ink := ⟨text, origin, p.quotes.length⟩

/-- The marker, if it is due. -/
def dueInks (p : Page) : List Ink :=
  if p.buffer.markerDue then [p.ink p.buffer.marker .marker] else []

/-- The pieces of a text, each after the marker if that is due. -/
def pieceInks (p : Page) : List (List Char) → List Ink
  | [] => []
  | piece :: pieces =>
    (if piece = ['\n'] then [] else p.dueInks) ++ p.ink piece .text
      :: (p.writePiece piece).pieceInks pieces

/-- The line feeds by which a buffer is longer. -/
def lineFeeds (p : Page) (b : Buffer) : List Char :=
  List.replicate (b.text.length - p.buffer.text.length) '\n'

end Page

/-- What a pen writes, marker by marker and piece by piece. -/
def Pen.inks : Pen → Page → List Ink
  | text s, p => p.pieceInks (Text.pieces s.toList)
  | code s, p => p.dueInks ++ [p.ink s.toList .code]
  | point, p => p.dueInks
  | endLine, p => [p.ink (p.lineFeeds p.buffer.ensureBreak) .space]
  | startBlock, p | openQuote, p => [p.ink (p.lineFeeds p.buffer.startBlock) .space]
  | closeQuote, _ => []

/-- What a pen is told to write, and the line feeds with which it leaves space. -/
def Pen.written : Pen → Page → List Char
  | text s, _ | code s, _ => s.toList
  | endLine, p => p.lineFeeds p.buffer.ensureBreak
  | startBlock, p | openQuote, p => p.lineFeeds p.buffer.startBlock
  | point, _ | closeQuote, _ => []

/-- The pens, each with the page as it finds it. -/
def Page.steps (config : Config) (p : Page) : List Pen → List (Page × Pen)
  | [] => []
  | pen :: pens => (p, pen) :: (pen.run config p).steps config pens

namespace Scene

/-- All that is done to the page when a tree is drawn on an empty canvas, noted down on the walk. -/
def steps (scene : Scene) (node : Node) : List (Page × Pen) :=
  (walk ((Registry.builtin.visitor scene).noted fun visit c =>
      c.page.steps scene.config (visit.pens scene c))
    node ([], (Canvas.fresh scene.config).sizeEmoji scene.config node)).1

/-- The inks of a tree. -/
def inks (scene : Scene) (node : Node) : List Ink :=
  (scene.steps node).flatMap fun (page, pen) => pen.inks page

/-- What the handlers write of a tree, and the line feeds that leave space. -/
def written (scene : Scene) (node : Node) : List Char :=
  (scene.steps node).flatMap fun (page, pen) => pen.written page

end Scene

/-- Whether the next character starts a line. -/
def StartsLine (cs : List Char) : Prop := ∀ c ∈ cs.getLast?, c = '\n'

/-- Whether an ink keeps to the lines after the text `before`. A marker is that of all open quotes
and stands at the start of a line. A line that has text starts with that marker, unless it is one of
the lines of code after the first. -/
structure Ink.IsRuled (unit before : List Char) (ink : Ink) : Prop where
  marker : ink.origin = .marker → 0 < ink.quotes ∧ ink.text ≠ [] ∧
    ink.text = (List.replicate ink.quotes unit).flatten ∧ StartsLine before
  line : ∀ {xs c ys}, ink.text = xs ++ c :: ys → c ≠ '\n' → StartsLine (before ++ xs) →
    (List.replicate ink.quotes unit).flatten <+: c :: ys ∨ ink.origin = .code ∧ '\n' ∈ xs

/-- Whether all inks keep to the lines. -/
def Ruled (unit : List Char) (inks : List Ink) : Prop :=
  ∀ before ink, before ++ [ink] <+: inks → ink.IsRuled unit (before.flatMap Ink.text)

theorem Ruled.concat {unit : List Char} {inks : List Ink} {ink : Ink} (h : Ruled unit inks)
    (hink : ink.IsRuled unit (inks.flatMap Ink.text)) : Ruled unit (inks ++ [ink]) := by
  intro before last hprefix
  rcases List.prefix_concat_iff.1 hprefix with heq | hprefix
  · obtain ⟨rfl, hlast⟩ := List.append_inj' heq rfl
    obtain rfl := List.singleton_inj.1 hlast
    exact hink
  · exact h before last hprefix

/-- A page whose text is made of inks that keep to the lines. -/
structure Page.Inked (unit : List Char) (inks : List Ink) (p : Page) : Prop where
  text : p.buffer.text = inks.flatMap Ink.text
  stacked : Stacked unit [] p.quotes p.buffer.marker
  ruled : Ruled unit inks

namespace Page.Inked

variable {unit : List Char} {inks : List Ink} {p : Page}

theorem marker_eq (h : p.Inked unit inks) :
    p.buffer.marker = (List.replicate p.quotes.length unit).flatten := by
  have := h.stacked.eq_append
  simpa using this

theorem newline_not_mem (h : p.Inked unit inks) (hunit : '\n' ∉ unit) :
    '\n' ∉ p.buffer.marker := by
  rw [h.marker_eq]
  intro hmem
  obtain ⟨cs, hcs, hmem⟩ := List.mem_flatten.1 hmem
  rw [List.eq_of_mem_replicate hcs] at hmem
  exact hunit hmem

theorem startsLine_iff (h : p.Inked unit inks) :
    StartsLine (inks.flatMap Ink.text) ↔ p.buffer.atLineStart = true := by
  rw [StartsLine, Buffer.atLineStart, h.text]
  cases hlast : (inks.flatMap Ink.text).getLast? with
  | none => simp [List.getLast?_eq_none_iff.1 hlast]
  | some c => 
    have : inks.flatMap Ink.text ≠ [] := by
      intro hnil
      simp [hnil] at hlast
    simp [this]

/-- After a marker that was due, a line starts only where there is none. -/
theorem marker_eq_nil (h : p.Inked unit inks) (hdue : p.buffer.markerDue = false)
    (hstart : StartsLine (inks.flatMap Ink.text)) : p.buffer.marker = [] := by
  rw [Buffer.markerDue, h.startsLine_iff.1 hstart] at hdue
  simpa using hdue

/-- An ink that keeps to the lines goes on with the text. -/
theorem concat (h : p.Inked unit inks) {cs : List Char} {origin : Origin}
    (hink : (p.ink cs origin).IsRuled unit (inks.flatMap Ink.text)) :
    (p.append cs).Inked unit (inks ++ [p.ink cs origin]) where
  text := by simp [Page.append, h.text, Page.ink]
  stacked := h.stacked
  ruled := h.ruled.concat hink

/-- Line feeds start no line that has text. -/
theorem feed (h : p.Inked unit inks) {cs : List Char} (hcs : ∀ c ∈ cs, c = '\n') {origin : Origin}
    (horigin : origin ≠ .marker) : (p.append cs).Inked unit (inks ++ [p.ink cs origin]) :=
  h.concat
    { marker := fun hmarker => absurd hmarker horigin
      line := fun heq hc => by
        have hcs' : _ ∈ cs := (show cs = _ from heq) ▸ List.mem_append_right _ List.mem_cons_self
        exact absurd (hcs _ hcs') hc }

/-- A text after the marker starts no other line, unless it is code. -/
theorem write (h : p.Inked unit inks) (hdue : p.buffer.markerDue = false) {cs : List Char}
    {origin : Origin} (horigin : origin ≠ .marker)
    (hcs : ∀ xs c ys, cs = xs ++ c :: ys → '\n' ∈ xs → origin = .code) :
    (p.append cs).Inked unit (inks ++ [p.ink cs origin]) := by
  refine h.concat ⟨fun hmarker => absurd hmarker horigin, ?_⟩
  intro xs c ys heq _ hstart
  rcases List.eq_nil_or_concat' xs with rfl | ⟨xs, last, rfl⟩
  · rw [List.append_nil] at hstart
    have hnil := h.marker_eq.symm.trans (h.marker_eq_nil hdue hstart)
    refine .inl ?_
    show (List.replicate p.quotes.length unit).flatten <+: _
    rw [hnil]
    exact List.nil_prefix
  · have hlast : last = '\n' := hstart last (by simp)
    have hmem : '\n' ∈ xs ++ [last] := by simp [hlast]
    exact .inr ⟨hcs _ _ _ heq hmem, hmem⟩

/-- The marker is put at the start of a line, and it is the one of all quotes that are open. -/
theorem flush (h : p.Inked unit inks) (hunit : '\n' ∉ unit) :
    p.flush.Inked unit (inks ++ p.dueInks) := by
  unfold Page.flush Page.dueInks
  rw [Buffer.flush]
  split
  · rename_i hdue
    obtain ⟨hne, hline⟩ : p.buffer.marker ≠ [] ∧ p.buffer.atLineStart = true := by
      simpa [Buffer.markerDue] using hdue
    refine h.concat ⟨fun _ => ⟨?_, hne, h.marker_eq, h.startsLine_iff.2 hline⟩, ?_⟩
    · have hmarker := h.marker_eq
      refine Nat.pos_of_ne_zero fun hzero => hne ?_
      rw [hmarker, show p.quotes.length = 0 from hzero]
      rfl
    · intro xs c ys heq _ hstart
      rcases List.eq_nil_or_concat' xs with rfl | ⟨xs, last, rfl⟩
      · refine .inl ?_
        show (List.replicate p.quotes.length unit).flatten <+: _
        rw [← h.marker_eq]
        exact (show p.buffer.marker = c :: ys from heq) ▸ List.prefix_rfl
      · have hlast : last = '\n' := hstart last (by simp)
        refine absurd ?_ (h.newline_not_mem hunit)
        rw [show p.buffer.marker = _ from heq, hlast]
        simp
  · rw [List.append_nil]
    exact h

theorem not_due_flush (h : p.Inked unit inks) (hunit : '\n' ∉ unit) :
    p.flush.buffer.markerDue = false :=
  p.buffer.not_markerDue_flush fun hlast =>
    h.newline_not_mem hunit (List.mem_of_getLast? hlast)

theorem piece (h : p.Inked unit inks) (hunit : '\n' ∉ unit) {cs : List Char}
    (hcs : Text.pieces cs = [cs]) : (p.writePiece cs).Inked unit
      (inks ++ ((if cs = ['\n'] then [] else p.dueInks) ++ [p.ink cs .text])) := by
  unfold Page.writePiece
  split
  · rename_i hfeed
    rw [List.nil_append]
    exact h.feed (by simp [hfeed]) nofun
  · rename_i hfeed
    have hflush := h.flush hunit
    have hdue := h.not_due_flush hunit
    have hlast : '\n' ∉ cs.dropLast :=
      Text.newline_not_mem_dropLast (hcs ▸ List.mem_singleton_self cs : cs ∈ Text.pieces cs)
    have hwrite : (p.flush.buffer.write cs).2 = p.flush.buffer.append cs := by
      rw [Buffer.write_piece _ hcs hfeed, Buffer.flush, hdue]
      rfl
    rw [hwrite, ← List.append_assoc]
    refine hflush.write hdue nofun fun xs c ys heq hmem => absurd ?_ hlast
    rw [heq, List.dropLast_append_of_ne_nil (by simp)]
    exact List.mem_append_left _ hmem

theorem pieces {ps : List (List Char)} (h : p.Inked unit inks) (hunit : '\n' ∉ unit)
    (hps : ∀ q ∈ ps, Text.pieces q = [q]) :
    (ps.foldl Page.writePiece p).Inked unit (inks ++ p.pieceInks ps) := by
  induction ps generalizing p inks with
  | nil => simpa [Page.pieceInks] using h
  | cons q ps ih =>
    have hq := h.piece hunit (hps q List.mem_cons_self)
    have := ih hq fun r hr => hps r (List.mem_cons_of_mem q hr)
    simpa [Page.pieceInks] using this

/-- Space is made of line feeds. -/
theorem space (h : p.Inked unit inks) {b : Buffer}
    (hb : ∃ k, b = p.buffer.append (List.replicate k '\n')) :
    Page.Inked unit (inks ++ [p.ink (p.lineFeeds b) .space]) { p with buffer := b } := by
  obtain ⟨k, rfl⟩ := hb
  have hfeeds : p.lineFeeds (p.buffer.append (List.replicate k '\n')) = List.replicate k '\n' := by
    simp [Page.lineFeeds]
  rw [hfeeds]
  exact h.feed (fun c hc => List.eq_of_mem_replicate hc) nofun

theorem startBlock (h : p.Inked unit inks) :
    p.startBlock.Inked unit (inks ++ [p.ink (p.lineFeeds p.buffer.startBlock) .space]) :=
  h.space (p.buffer.padNewlines_eq_append 2)

theorem popQuote (h : p.Inked unit inks) : p.popQuote.Inked unit inks := by
  unfold Page.popQuote
  split
  · exact h
  · rename_i quote quotes hquotes
    have hstacked := h.stacked
    rw [hquotes] at hstacked
    exact ⟨h.text, hstacked.pop, h.ruled⟩

/-- What a pen writes goes on with the text of the page. -/
theorem pen {config : Config} (h : p.Inked config.quoteMarker.toList inks)
    (hunit : '\n' ∉ config.quoteMarker.toList) (pen : Pen) :
    (pen.run config p).Inked config.quoteMarker.toList (inks ++ pen.inks p) := by
  cases pen with
  | text s => exact h.pieces hunit fun q hq => Text.pieces_of_mem hq
  | code s =>
    have hflush := h.flush hunit
    rw [Pen.inks, ← List.append_assoc]
    exact hflush.write (h.not_due_flush hunit) nofun fun _ _ _ _ _ => rfl
  | point => exact h.flush hunit
  | endLine => exact h.space (p.buffer.padNewlines_eq_append 1)
  | startBlock => exact h.startBlock
  | openQuote =>
    have hstart := h.startBlock
    exact ⟨hstart.text, hstart.stacked.push _, hstart.ruled⟩
  | closeQuote =>
    rw [Pen.inks, List.append_nil]
    exact h.popQuote

theorem run {config : Config} (h : p.Inked config.quoteMarker.toList inks)
    (hunit : '\n' ∉ config.quoteMarker.toList) (pens : List Pen) :
    (p.run config pens).Inked config.quoteMarker.toList
      (inks ++ (p.steps config pens).flatMap fun (page, pen) => pen.inks page) := by
  induction pens generalizing p inks with
  | nil => simpa [Page.steps] using h
  | cons pen pens ih =>
    have := ih (h.pen hunit pen)
    simpa [Page.steps] using this

end Page.Inked

section Written

/-- What is left of inks without the markers. -/
def withoutMarkers (inks : List Ink) : List Char :=
  (inks.filter (·.origin ≠ .marker)).flatMap Ink.text

theorem withoutMarkers_append (inks more : List Ink) :
    withoutMarkers (inks ++ more) = withoutMarkers inks ++ withoutMarkers more := by
  simp [withoutMarkers]

theorem withoutMarkers_cons (ink : Ink) (inks : List Ink) :
    withoutMarkers (ink :: inks) = withoutMarkers [ink] ++ withoutMarkers inks :=
  withoutMarkers_append [ink] inks

variable (p : Page)

theorem withoutMarkers_ink (cs : List Char) {origin : Origin} (h : origin ≠ .marker) :
    withoutMarkers [p.ink cs origin] = cs := by
  simp [withoutMarkers, Page.ink, h]

theorem withoutMarkers_dueInks : withoutMarkers p.dueInks = [] := by
  unfold Page.dueInks
  split <;> rfl

theorem withoutMarkers_pieceInks (ps : List (List Char)) :
    withoutMarkers (p.pieceInks ps) = ps.flatten := by
  induction ps generalizing p with
  | nil => rfl
  | cons q ps ih =>
    rw [Page.pieceInks, withoutMarkers_append, withoutMarkers_cons, ih,
      withoutMarkers_ink p q (by decide), List.flatten_cons]
    split
    · rfl
    · rw [withoutMarkers_dueInks]
      rfl

/-- Without the markers there is what the pen was to write, and the space. -/
theorem Pen.withoutMarkers_inks (pen : Pen) : withoutMarkers (pen.inks p) = pen.written p := by
  cases pen with
  | text s => exact (withoutMarkers_pieceInks p _).trans (Text.flatten_pieces _)
  | code s =>
    rw [inks, withoutMarkers_append, withoutMarkers_dueInks]
    exact withoutMarkers_ink p _ nofun
  | point => exact withoutMarkers_dueInks p
  | endLine | startBlock | openQuote => exact withoutMarkers_ink p _ nofun
  | closeQuote => rfl

theorem Scene.withoutMarkers_inks (scene : Scene) (node : Node) :
    withoutMarkers (scene.inks node) = scene.written node := by
  unfold Scene.inks Scene.written
  induction scene.steps node with
  | nil => rfl
  | cons step steps ih =>
    rw [List.flatMap_cons, List.flatMap_cons, withoutMarkers_append, ih,
      step.2.withoutMarkers_inks]

end Written

theorem Scene.inked_draw (scene : Scene) (hunit : '\n' ∉ scene.config.quoteMarker.toList)
    (node : Node) :
    ((Canvas.fresh scene.config).document .builtin scene node).page.Inked
      scene.config.quoteMarker.toList (scene.inks node) := by
  let note (visit : Visit) (c : Canvas) : List (Page × Pen) :=
    c.page.steps scene.config (visit.pens scene c)
  let Q (state : List (Page × Pen) × Canvas) : Prop :=
    state.2.page.Inked scene.config.quoteMarker.toList
      (state.1.flatMap fun (page, pen) => pen.inks page)
  have hkeeps : ((Registry.builtin.visitor scene).noted note).Keeps (fun _ => True) Q := by
    rintro visit ⟨steps, c⟩ - h
    have hrun := Page.Inked.run h hunit (visit.pens scene c)
    rw [← c.page_visitor] at hrun
    simpa [Q, note, Visitor.noted] using hrun
  obtain ⟨emojiSize, hsize⟩ := (Canvas.fresh scene.config).sizeEmoji_eq scene.config node
  have hfresh : Q ([], { Canvas.fresh scene.config with emojiSize }) :=
    ⟨rfl, rfl, fun before ink h => by simp at h⟩
  have hwalk := keeps_walkNode hkeeps none none node (fun _ _ => trivial) hfresh
  dsimp only [Q] at hwalk
  rw [walkNode_noted] at hwalk
  unfold Scene.inks Scene.steps
  rw [Canvas.document, Canvas.draw, walk_eq_walkNode, walk_eq_walkNode, hsize]
  exact hwalk

/-- If the marker of a quote has no line feed, the text of a tree is made of inks that keep to the
lines, and without the markers it is what the handlers write, with the space. -/
theorem Scene.ruled_renderNode (scene : Scene) (node : Node)
    (hunit : '\n' ∉ scene.config.quoteMarker.toList) :
    (scene.renderNode node).text.content.toList = (scene.inks node).flatMap Ink.text ∧
      Ruled scene.config.quoteMarker.toList (scene.inks node) ∧
      withoutMarkers (scene.inks node) = scene.written node := by
  have h := scene.inked_draw hunit node
  refine ⟨?_, h.ruled, scene.withoutMarkers_inks node⟩
  rw [← h.text]
  simp [renderNode, compose, Canvas.content, Canvas.page]

/-- The second line of code has no marker, and the text after the quote has none either. -/
theorem Scene.ruled_renderNode_code :
    let scene : Scene := { config := { quoteMarker := "> " } }
    let code : Node := .leaf (.codeBlock none ["a", "b"])
    let node : Node := .mk .document [.mk .blockquote [code], .text "c"]
    '\n' ∉ scene.config.quoteMarker.toList ∧
      (scene.renderNode node).text.content = "> a\nb\n\nc" ∧
      scene.inks node = [⟨[], .space, 0⟩, ⟨[], .space, 1⟩, ⟨['>', ' '], .marker, 1⟩,
        ⟨['a', '\n', 'b'], .code, 1⟩, ⟨['\n', '\n'], .space, 0⟩, ⟨['c'], .text, 0⟩] ∧
      Ruled scene.config.quoteMarker.toList (scene.inks node) ∧
      withoutMarkers (scene.inks node) = scene.written node := by
  intro scene code node
  have hunit : '\n' ∉ scene.config.quoteMarker.toList := by decide
  have hinks : scene.inks node = [⟨[], .space, 0⟩, ⟨[], .space, 1⟩, ⟨['>', ' '], .marker, 1⟩,
      ⟨['a', '\n', 'b'], .code, 1⟩, ⟨['\n', '\n'], .space, 0⟩, ⟨['c'], .text, 0⟩] := by
    unfold Scene.inks Scene.steps
    rw [walk_eq_walkNode]
    decide
  obtain ⟨hcontent, hruled, hwritten⟩ := scene.ruled_renderNode node hunit
  rw [hinks] at hcontent
  exact ⟨hunit, String.toList_injective hcontent, hinks, hruled, hwritten⟩

end RichChat
