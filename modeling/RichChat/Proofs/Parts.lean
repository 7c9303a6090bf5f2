import Mathlib
import RichChat.Proofs.Closing
import RichChat.Proofs.Rendering

/-!
# The parts of a message

The body of a message, its embeds and its attachments each leave nothing open. So the next part is
drawn on a canvas without attributes, and what it draws is added to the segments that are there,
none of which changes any more (`Canvas.Extends.embed`, `Canvas.Extends.attachments`). A message
with more embeds or attachments is rendered as the one without them and what these add
(`Message.render_prefix`).

A run that ends makes the last segment longer if that is a run too. In an embed this is a segment of
the embed itself, since the line that it opens with is a segment: a canvas with more segments than
`front` keeps `front` whatever is drawn (`Drawn.past`).
-/

namespace RichChat

namespace Canvas

/-- Whether a list of segments goes on after the ones in `front`. -/
def GoesPast (front segments : List Segment) : Prop :=
  front <+: segments ∧ front.length < segments.length

theorem GoesPast.append {front segments : List Segment} (h : GoesPast front segments)
    (more : List Segment) : GoesPast front (segments ++ more) :=
  ⟨h.1.trans (List.prefix_append _ _), by simpa using Nat.lt_add_right _ h.2⟩

theorem GoesPast.addRun {front segments : List Segment} (h : GoesPast front segments)
    (run : Option Segment) : GoesPast front (addRun segments run) := by
  cases run with
  | none => exact h
  | some run =>
    rcases addRun_cases segments run with heq | ⟨init, last, rfl, -, -, heq⟩ <;> rw [heq]
    · exact h.append [run]
    · have hlength := h.2
      rw [List.length_append, List.length_singleton] at hlength
      have hinit : front <+: init :=
        List.prefix_of_prefix_length_le h.1 (List.prefix_append _ _) (by omega)
      refine ⟨hinit.trans (List.prefix_append _ _), ?_⟩
      rwa [List.length_append, List.length_singleton]

/-- Whether there are segments after the ones in `front`. -/
def Past (front : List Segment) (c : Canvas) : Prop := GoesPast front c.segments

section Past

variable {front : List Segment} {c : Canvas}

theorem Past.change (h : c.Past front) (counts : List Nat) : (c.change counts).Past front := by
  rcases c.change_cases counts with ⟨-, heq⟩ | ⟨-, heq⟩ <;> rw [heq]
  · exact h
  · exact GoesPast.addRun h _

theorem Past.flush (h : c.Past front) : c.flush.Past front := by
  rcases c.flush_cases with ⟨-, heq⟩ | ⟨-, heq⟩ <;> rw [heq]
  · exact h
  · exact GoesPast.addRun h _

end Past

end Canvas

/-- Drawing leaves all segments but the last one as they are. -/
theorem Drawn.past {scene : Scene} {c d : Canvas} {ss : List Stroke} (h : Drawn scene c ss d)
    {front : List Segment} (hc : c.Past front) : d.Past front := by
  induction h generalizing front with
  | refl => exact hc
  | marker _ _ ih => exact (ih hc).flush
  | text _ _ ih => exact ih hc
  | change counts _ ih => exact (ih hc).change counts
  | openLink _ ih => exact ih hc
  | @closeLink c d ss url _ ih =>
    rcases d.closeLink_cases url with ⟨-, heq⟩ | ⟨start, links, -, heq | ⟨-, heq⟩⟩ <;> rw [heq]
    · exact ih hc
    · exact ih hc
    · exact (ih hc).append _
  | pushQuote _ ih => exact ih hc
  | @closeQuote c d ss _ ih =>
    rcases d.closeQuote_cases with ⟨-, heq⟩ | ⟨quote, quotes, -, heq | ⟨-, heq⟩⟩ <;> rw [heq]
    · exact ih hc
    · exact ih hc
    · exact (ih hc).append _
  | note _ _ _ _ ih => exact ih hc
  | anchor kind _ _ ih => exact (ih hc).flush.append _
  | mark _ _ ih => exact (ih hc).append _
  | nested _ _ ih _ =>
    rw [Canvas.adopt_eq]
    exact ((ih hc).addRun _).append _

theorem Planned.past {scene : Scene} {c d : Canvas} (h : Planned scene c d) {front : List Segment}
    (hc : c.Past front) : d.Past front := by
  obtain ⟨plan, rfl⟩ := h
  obtain ⟨ss, hdrawn, -⟩ := plan.drawn scene c
  exact hdrawn.past hc

namespace Balanced

variable {c d : Canvas}

theorem writeWith (h : Balanced c d) (a : Attribute) (text : String) :
    Balanced c (d.writeWith a text).2 := by
  rw [Canvas.writeWith_eq]
  exact h.trans (Balanced.put _ text).exit

theorem linkRange (h : Balanced c d) (range : Nat × Nat) (url : Option String) :
    Balanced c (d.linkRange range url) := by
  unfold Canvas.linkRange
  split
  · split
    · exact h.emit _ _
    · exact h
  · exact h

theorem placeIcon (h : Balanced c d) (config : Config) (icon : Option String) (name : String) :
    Balanced c (d.placeIcon config icon name) := by
  unfold Canvas.placeIcon
  split
  · exact (kept c).put ((kept c).anchor h rfl) " "
  · exact h

theorem embedFooter (h : Balanced c d) (config : Config) (embed : Embed) :
    Balanced c (d.embedFooter config embed) := by
  unfold Canvas.embedFooter
  cases embed.footer with
  | none =>
    cases embed.timestamp with
    | none => exact h
    | some t => exact (kept c).put h _
  | some footer =>
    have hfooter := (kept c).put (h.placeIcon config footer.iconUrl footer.text) footer.text
    cases embed.timestamp with
    | none => exact hfooter
    | some t => exact (kept c).put ((kept c).put hfooter _) _

/-- A nested rendering gives the marker back that it goes on with. -/
theorem nested (h : Balanced c d) (scene : Scene) (source : String) :
    Balanced c (d.nested .builtin scene source) := by
  unfold Canvas.nested
  split
  · exact (kept c).put h source
  · have hflush := (kept c).flush d h
    obtain ⟨plan, hplan⟩ := Canvas.planned_draw scene
      (d.flush.splitRun.child scene.config) (.ofSource source)
    obtain ⟨ss, hdrawn, -⟩ := plan.drawn scene (d.flush.splitRun.child scene.config)
    rw [hplan] at hdrawn
    have hmarker := Canvas.finish_marker
      (hdrawn.stacked (d.flush.splitRun.stackedOn_child scene.config))
    rw [Canvas.splitRun_buffer] at hmarker
    dsimp only
    rw [Canvas.adopt_eq]
    exact ⟨hflush.counts, hflush.links, hflush.quotes, hmarker.trans hflush.marker, hflush.depth,
      hflush.lists, hflush.emojiSize⟩

theorem embed (h : Balanced c d) (scene : Scene) (embed : Embed) :
    Balanced c (d.embed .builtin scene embed) := by
  have hbreak {e : Canvas} (he : Balanced c e) : Balanced c e.ensureBreak := (kept c).ensureBreak he
  refine Canvas.embed_keeps scene d (Q := Balanced c) (R := Balanced c) ?_
    (fun author he => ((kept c).put ((hbreak he).placeIcon _ _ _) _).linkRange _ _)
    (fun title he => ((hbreak he).writeWith _ _).linkRange _ _)
    (fun media _ _ he => (kept c).anchor (hbreak he) rfl)
    (Canvas.drawSome_keeps (Q := Balanced c) (fun source he => (hbreak he).nested scene source) _)
    (fun field he => (kept c).put
      ((kept c).put (((kept c).put (hbreak he) _).writeWith _ _) _) _)
    (fun he => (hbreak he).embedFooter _ _)
    (fun media _ _ he => (kept c).anchor (hbreak he) rfl)
  exact ((kept c).put ((kept c).startBlock h) _).emit _ _

end Balanced

/-- Whether a canvas has what another one has and then maybe more, with nothing left open. -/
structure Canvas.Extends (c d : Canvas) : Prop where
  text : c.buffer.text <+: d.buffer.text
  segments : c.segments <+: d.segments
  counts : d.runs.counts = List.replicate Attribute.count 0
  quotes : d.quotes = []

namespace Canvas.Extends

variable {c d : Canvas}

theorem refl (counts : c.runs.counts = List.replicate Attribute.count 0) (quotes : c.quotes = []) :
    c.Extends c := ⟨List.prefix_rfl, List.prefix_rfl, counts, quotes⟩

theorem self (h : c.Extends d) : d.Extends d := .refl h.counts h.quotes

theorem finish_eq (h : c.Extends d) : d.finish = d := finish_eq_self h.counts h.quotes

theorem append (h : c.Extends d) (cs : List Char) :
    c.Extends { d with buffer := d.buffer.append cs } :=
  ⟨h.text.trans (List.prefix_append _ _), h.segments, h.counts, h.quotes⟩

theorem push (h : c.Extends d) (s : Segment) : c.Extends (d.push s) :=
  ⟨h.text, h.segments.trans (List.prefix_append _ _), h.counts, h.quotes⟩

/-- No run ends where no attributes are active. -/
theorem flush (h : c.Extends d) : c.Extends d.flush := by
  rcases d.flush_cases with ⟨-, heq⟩ | ⟨-, heq⟩ <;> rw [heq]
  · exact h
  · have hempty : d.runs.active.isEmpty = true := by
      rw [Runs.active, h.counts]
      rfl
    refine ⟨h.text.trans (List.prefix_append _ _), ?_, h.counts, h.quotes⟩
    rcases region_cases d.runs d.runs.active d.length with ⟨hnone, -⟩ | ⟨-, -, hsome⟩
    · rw [hnone]
      exact h.segments
    · rw [hempty] at hsome
      cases hsome

theorem put (h : c.Extends d) (text : String) : c.Extends (d.put text) :=
  put_keeps (fun _ h => h.flush) (fun _ cs h => h.append cs) h text

theorem ensureBreak (h : c.Extends d) : c.Extends d.ensureBreak := by
  obtain ⟨k, hk⟩ := d.buffer.padNewlines_eq_append 1
  rw [Canvas.ensureBreak, Buffer.ensureBreak, hk]
  exact h.append _

theorem startBlock (h : c.Extends d) : c.Extends d.startBlock := by
  obtain ⟨k, hk⟩ := d.buffer.padNewlines_eq_append 2
  rw [Canvas.startBlock, Buffer.startBlock, hk]
  exact h.append _

/-- The line of an embed is a segment, so that what comes after it leaves the segments before it
alone. -/
theorem embed (h : c.Extends d) (scene : Scene) (embed : Embed) :
    c.Extends (d.embed .builtin scene embed) := by
  have hput := h.startBlock.put scene.config.embedSeparator
  have hpast : (d.embedLine scene.config embed).Past c.segments := by
    refine ⟨(hput.push _).segments, ?_⟩
    have := hput.segments.length_le
    simpa [embedLine, emit, Canvas.push, Canvas.put, Nat.lt_succ_iff] using this
  have hbalanced := (Balanced.refl d).embed scene embed
  exact ⟨h.text.trans (d.planned_embed scene embed).prefix_text,
    ((d.planned_embedParts scene embed).past hpast).1,
    hbalanced.counts.trans h.counts, hbalanced.quotes.trans h.quotes⟩

theorem embeds (h : c.Extends d) (scene : Scene) (embeds : List Embed) :
    c.Extends (embeds.foldl (·.embed .builtin scene) d) :=
  List.foldlRecOn _ _ h fun _ he embed _ => he.embed scene embed

theorem attachment (h : c.Extends d) (config : Config) (file : Attachment) :
    c.Extends (d.attachment config file) := by
  unfold Canvas.attachment
  dsimp only
  split
  · exact h.ensureBreak.flush.push _
  · exact (((h.ensureBreak.put _).put _).push _).put _

theorem files (h : c.Extends d) (config : Config) (files : List Attachment) :
    c.Extends (files.foldl (·.attachment config) d) :=
  List.foldlRecOn _ _ h fun _ he file _ => he.attachment config file

theorem attachments (h : c.Extends d) (config : Config) (files : List Attachment) :
    c.Extends (d.attachments config files) := by
  unfold Canvas.attachments
  split
  · exact h
  · exact h.startBlock.files config files

end Canvas.Extends

/-- What a message is drawn with does not depend on its parts. -/
theorem Registry.visitor_of_parts (message : Message) (config : Config) (store : Option Store)
    (embeds : List Embed) (attachments : List Attachment) :
    Registry.builtin.visitor
        { config, message := some { message with embeds, attachments }, store }
      = Registry.builtin.visitor { config, message := some message, store } := by
  funext visit c
  obtain ⟨⟨kind, children⟩, entering, parent, next⟩ := visit
  cases kind with
  | mention target => cases entering <;> cases target <;> rfl
  | _ => rfl

theorem Canvas.embed_congr (registry : Registry) {scene scene' : Scene}
    (hconfig : scene'.config = scene.config)
    (hvisitor : registry.visitor scene' = registry.visitor scene) :
    (fun c : Canvas => c.embed registry scene') = fun c => c.embed registry scene := by
  funext c embed
  simp only [Canvas.embed, nested, draw, hconfig, hvisitor]

namespace Message

/-- What is drawn of a message that has its own content, but maybe other parts. -/
def drawnWith (message : Message) (scene : Scene) (embeds : List Embed)
    (attachments : List Attachment) : Canvas :=
  (embeds.foldl (·.embed .builtin scene)
    ((Canvas.fresh scene.config).document .builtin scene (.ofSource message.content))).attachments
      scene.config attachments

variable (message : Message) (embeds : List Embed) (attachments : List Attachment)

theorem extends_drawnWith (scene : Scene) : (message.drawnWith scene embeds attachments).Extends
    (message.drawnWith scene embeds attachments) := by
  let node := Node.ofSource message.content
  obtain ⟨emojiSize, hsize⟩ := (Canvas.fresh scene.config).sizeEmoji_eq scene.config node
  have hbody : Balanced { Canvas.fresh scene.config with emojiSize }
      ((Canvas.fresh scene.config).document .builtin scene node) := by
    rw [Canvas.document, hsize, Canvas.draw, walk_eq_walkNode]
    exact balanced_walkNode (Registry.isNamed_builtin.isBalanced scene) none none node _
  exact (((Canvas.Extends.refl hbody.counts hbody.quotes).embeds scene embeds).attachments
    scene.config attachments).self

theorem render_of_parts (config : Config) (store : Option Store) :
    ({ message with embeds, attachments }.render config store).text =
      let c := message.drawnWith { config, message := some message, store } embeds attachments
      ⟨c.content, c.segments⟩ := by
  let scene : Scene := { config, message := some message, store }
  let scene' : Scene := { config, message := some { message with embeds, attachments }, store }
  have hvisitor : Registry.builtin.visitor scene' = Registry.builtin.visitor scene :=
    Registry.visitor_of_parts message config store embeds attachments
  have hembed := Canvas.embed_congr .builtin (show scene'.config = scene.config from rfl) hvisitor
  have hfinish := (message.extends_drawnWith embeds attachments scene).finish_eq
  have hrender : ({ message with embeds, attachments }.render config store).text
      = ⟨(message.drawnWith scene embeds attachments).finish.content,
        (message.drawnWith scene embeds attachments).finish.segments⟩ := by
    unfold Message.render Scene.compose drawnWith Canvas.document Canvas.draw
    rw [← hvisitor, ← hembed]
  rw [hrender, hfinish]

/-- Embeds at the end of the list, if there are no attachments yet, and attachments at the end of
theirs add to a message and change nothing of it. -/
theorem render_prefix (config : Config) (store : Option Store)
    (h : embeds = [] ∨ message.attachments = []) :
    let before := (message.render config store).text
    let after := ({ message with
      embeds := message.embeds ++ embeds
      attachments := message.attachments ++ attachments }.render config store).text
    before.content.toList <+: after.content.toList ∧ before.segments <+: after.segments := by
  intro before after
  let scene : Scene := { config, message := some message, store }
  let c := message.drawnWith scene message.embeds message.attachments
  let d := message.drawnWith scene (message.embeds ++ embeds) (message.attachments ++ attachments)
  have hd : c.Extends d := by
    have hc : c.Extends c := message.extends_drawnWith _ _ scene
    by_cases hnone : message.attachments = []
    · have hcards : c.Extends (embeds.foldl (·.embed .builtin scene) c) := hc.embeds scene embeds
      have hd : d = (embeds.foldl (·.embed .builtin scene) c).attachments config attachments := by
        simp only [c, d, drawnWith, hnone, List.foldl_append, List.nil_append]
        rfl
      rw [hd]
      exact hcards.attachments config attachments
    · have hd : d = attachments.foldl (·.attachment config) c := by
        simp only [c, d, drawnWith, h.resolve_right hnone, List.append_nil, Canvas.attachments]
        simp [hnone, scene]
      rw [hd]
      exact hc.files config attachments
  have hbefore : before = ⟨c.content, c.segments⟩ := message.render_of_parts _ _ config store
  have hafter : after = ⟨d.content, d.segments⟩ := message.render_of_parts _ _ config store
  rw [hbefore, hafter]
  exact ⟨by simpa [Canvas.content] using hd.text, hd.segments⟩

/-- The bold run of the body is not made longer by the bold title of an embed. -/
theorem render_prefix_bold :
    let message : Message :=
      { id := ⟨1⟩, channel := ⟨2⟩, author := { id := ⟨3⟩, username := "" }, content := "**b**" }
    let embeds : List Embed := [{ title := some "t" }]
    let files : List Attachment := [{ filename := "f", url := "u" }]
    let before := (message.render {} none).text
    let after := ({ message with
      embeds := message.embeds ++ embeds
      attachments := message.attachments ++ files }.render {} none).text
    message.attachments = [] ∧ before = ⟨"b", [⟨0, 1, .styled .bold⟩]⟩ ∧
      before.content.toList <+: after.content.toList ∧ before.segments <+: after.segments := by
  intro message embeds files before after
  have htext : (message.render {} none).text = ⟨"b", [⟨0, 1, .styled .bold⟩]⟩ := by cbv
  exact ⟨rfl, htext, message.render_prefix embeds files {} none (.inr rfl)⟩

end Message

end RichChat
