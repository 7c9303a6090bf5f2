import RichChat.Proofs.CardLines

/-!
# The lines of attachments

Attachments are drawn one on a line, but the line of an image has no text. A line that has no text
yet is not ended, so the next attachment is on the same line: between the places of two attachments
there is a line feed just if one of those from the first up to the second is drawn by its name
(`Message.render_attachments`).
-/

namespace RichChat

namespace CardLine

/-- Behind lines the next one starts after a line feed if one of them has text. -/
theorem endLine_layout {lines : List CardLine}
    (hlines : ∀ line ∈ lines, line.text ≠ [] → ¬ StartsLine line.text) (front : List Char) :
    ∃ written, Text.endLine (layout front lines) = Text.endLine front ++ written ∧
      ('\n' ∈ written ↔ ∃ line ∈ lines, line.text ≠ []) := by
  induction lines generalizing front with
  | nil => exact ⟨[], (List.append_nil _).symm, by simp⟩
  | cons line lines ih =>
    obtain ⟨hline, hlines⟩ := List.forall_mem_cons.1 hlines
    obtain ⟨written, hnext, hiff⟩ := ih hlines (Text.endLine front ++ line.text)
    rw [show layout front (line :: lines) = layout (Text.endLine front ++ line.text) lines from rfl,
      hnext]
    by_cases hempty : line.text = []
    · refine ⟨written, ?_, by simp [hiff, hempty]⟩
      rw [hempty, List.append_nil, Text.endLine_of_startsLine (Text.startsLine_endLine front)]
    · have hmid : ¬ StartsLine (Text.endLine front ++ line.text) := by
        rw [StartsLine.append_iff hempty]
        exact hline hempty
      refine ⟨line.text ++ '\n' :: written, ?_, by simp [hempty]⟩
      rw [Text.endLine, Text.lineBreak, if_neg hmid]
      simp

end CardLine

/-- The line of an attachment: an image without text, or the name with a link. -/
def Attachment.line (config : Config) (file : Attachment) : CardLine :=
  if config.isImageFile file.filename then
    let (width, height) := fit (file.width.getD 0) (file.height.getD 0) config.imageMaxWidth
      config.imageMaxHeight
    ⟨[], [⟨0, 0, .image ⟨file.source, width, height, file.filename⟩⟩]⟩
  else
    let stop := 6 + Text.size file.filename.toList
    ⟨("File: " ++ file.filename ++ " (" ++ fileSize file.size.toNat ++ ")").toList,
      [⟨6, stop, .link file.url⟩]⟩

theorem Attachment.text_line (config : Config) (file : Attachment) :
    (file.line config).text ≠ [] ↔ config.isImageFile file.filename = false := by
  unfold Attachment.line
  split <;> simp_all

theorem Attachment.not_startsLine (config : Config) (file : Attachment)
    (h : (file.line config).text ≠ []) : ¬ StartsLine (file.line config).text := by
  rw [Attachment.text_line] at h
  have htext : (file.line config).text
      = ("File: " ++ file.filename ++ " (" ++ fileSize file.size.toNat).toList ++ [')'] := by
    simp [Attachment.line, h]
  rw [htext]
  exact not_startsLine_append (by decide) (by decide)

namespace Canvas

variable {c d : Canvas} {lines : List CardLine}

theorem AddsLines.attachment (h : AddsLines c d lines) (config : Config) (file : Attachment) :
    AddsLines c (d.attachment config file) (lines ++ [file.line config]) := by
  have hstart := Adds.refl h.ready.ensureBreak
  refine h.line ?_
  by_cases himage : config.isImageFile file.filename = true
  · simp only [Canvas.attachment, Attachment.line, himage, if_true]
    exact hstart.anchor _
  · obtain ⟨hrange, hname⟩ := (hstart.put "File: ").write file.filename
    have hlink := hname.emit (Text.size ([] ++ "File: ".toList))
      (Nat.le_of_eq (Text.size_append _ _).symm) (.link file.url)
    rw [← hrange] at hlink
    have hfile := hlink.put (" (" ++ fileSize file.size.toNat ++ ")")
    have hsix : Text.size ([] ++ "File: ".toList) = 6 := by decide
    have htext : [] ++ "File: ".toList ++ file.filename.toList ++
        (" (" ++ fileSize file.size.toNat ++ ")").toList
          = ("File: " ++ file.filename ++ " (" ++ fileSize file.size.toNat ++ ")").toList := by
      simp only [String.toList_append, List.nil_append, List.append_assoc]
    rw [htext, hsix] at hfile
    simp only [Canvas.attachment, Attachment.line, himage]
    exact hfile

theorem AddsLines.attachments (h : c.Ready) (config : Config) (files : List Attachment) :
    AddsLines c (files.foldl (·.attachment config) c) (files.map (·.line config)) :=
  (AddsLines.refl h).foldl files fun file h => h.attachment config file

end Canvas

namespace Message

variable (message : Message)

/-- The body and the embeds of a message leave nothing open. -/
theorem ready_drawnWith (scene : Scene) (embeds : List Embed) :
    (message.drawnWith scene embeds []).Ready := by
  let node := Node.ofSource message.content
  let start := (Canvas.fresh scene.config).sizeEmoji scene.config node
  let body := start.draw .builtin scene node
  have hbody : Balanced start body := Registry.isNamed_builtin.balanced scene node start
  have hembeds : Balanced start (message.drawnWith scene embeds []) :=
    List.foldlRecOn embeds _ hbody fun _ h embed _ => h.embed scene embed
  have hmarker : start.buffer.marker = [] := by
    obtain ⟨emojiSize, hsize⟩ := (Canvas.fresh scene.config).sizeEmoji_eq scene.config node
    rw [show start = _ from hsize]
    rfl
  have hplanned : Planned scene (.fresh scene.config) (message.drawnWith scene embeds []) :=
    .foldl (fun c embed => c.planned_embed scene embed) embeds
      ((Canvas.fresh scene.config).planned_document scene node)
  obtain ⟨plan, hplan⟩ := hplanned
  obtain ⟨ss, hdrawn, -⟩ := plan.drawn scene (.fresh scene.config)
  rw [hplan] at hdrawn
  have hbounds := hdrawn.inBounds (Canvas.inBounds_fresh scene.config)
  exact ⟨hembeds.marker.trans hmarker, (message.extends_drawnWith embeds [] scene).counts,
    fun s hs => (hbounds.segments s (List.mem_of_getLast? hs)).stop.le⟩

/-- The attachments of a message are drawn as lines behind its body and its embeds. The place of an
attachment is where its line starts. Between two places there is a line feed just if one of the
attachments from the first place up to the second is not an image. -/
theorem render_attachments (config : Config) (store : Option Store) :
    let scene : Scene := { config, message := some message, store }
    let files := message.attachments
    let body := message.drawnWith scene message.embeds []
    let start := if files.isEmpty then body else body.startBlock
    let layout (files : List Attachment) : List Char :=
      CardLine.layout start.buffer.text (files.map (·.line config))
    let text := (message.render config store).text
    text.content.toList = layout files ∧
      text.segments
        = body.segments ++ CardLine.placed start.buffer.text (files.map (·.line config)) ∧
      ∀ earlier between file later, files = earlier ++ between ++ file :: later →
        ∃ written, Text.endLine (layout (earlier ++ between))
            = Text.endLine (layout earlier) ++ written ∧
          Text.endLine (layout (earlier ++ between)) <+: text.content.toList ∧
          ('\n' ∈ written ↔ ∃ f ∈ between, config.isImageFile f.filename = false) := by
  intro scene files body start layout text
  have hbody := message.ready_drawnWith scene message.embeds
  have hstart : start.Ready := by
    unfold start
    split
    · exact hbody
    · exact hbody.startBlock
  let d := message.drawnWith scene message.embeds files
  have hd : d = files.foldl (·.attachment config) start := by
    show Canvas.attachments _ _ _ = _
    unfold Canvas.attachments start
    cases files <;> rfl
  have htext : text = ⟨d.content, d.segments⟩ :=
    message.render_of_parts message.embeds files config store
  have hlines := Canvas.AddsLines.attachments hstart config files
  rw [← hd] at hlines
  have hcontent : text.content.toList = layout files := by
    rw [htext]
    exact (String.toList_ofList ..).trans hlines.text
  have hsegments : start.segments = body.segments := by
    unfold start
    split <;> rfl
  refine ⟨hcontent, by rw [htext, ← hsegments]; exact hlines.segments, ?_⟩
  intro earlier between file later hfiles
  have hlast (line : CardLine) (hline : line ∈ between.map (·.line config)) :
      line.text ≠ [] → ¬ StartsLine line.text := by
    obtain ⟨f, -, rfl⟩ := List.mem_map.1 hline
    exact f.not_startsLine config
  obtain ⟨written, hnext, hiff⟩ := CardLine.endLine_layout hlast (layout earlier)
  refine ⟨written, ?_, ?_, hiff.trans ?_⟩
  · rw [← hnext, ← CardLine.layout_append, ← List.map_append]
  · have hmap : files.map (·.line config) = (earlier ++ between).map (·.line config) ++
        file.line config :: later.map (·.line config) := by
      rw [hfiles, List.map_append, List.map_cons]
    rw [hcontent, show layout files = CardLine.layout _ (files.map _) from rfl, hmap]
    exact (List.prefix_append _ _).trans (CardLine.prefix_start _ _ _ _)
  · simp [Attachment.text_line]

/-- Two images of a message without text are both at the start of the first line. -/
theorem not_render_attachments_images :
    let files : List Attachment :=
      [{ filename := "a.png", url := "u" }, { filename := "b.png", url := "v" }]
    let message : Message :=
      { id := ⟨1⟩, channel := ⟨2⟩, author := { id := ⟨3⟩, username := "" }, attachments := files }
    let text := (message.render {} none).text
    (∀ file ∈ files, '\n' ∉ file.filename.toList) ∧ ∃ first second,
      text.segments = [first, second] ∧
        first.kind = .image ⟨"u", 400, 300, "a.png"⟩ ∧
        second.kind = .image ⟨"v", 400, 300, "b.png"⟩ ∧
        ¬ ∃ between, Text.slice? text.content first.start second.start = some between ∧
          '\n' ∈ between.toList := by
  intro files message text
  have htext : (message.render {} none).text = ⟨"", [⟨0, 0, .image ⟨"u", 400, 300, "a.png"⟩⟩,
      ⟨0, 0, .image ⟨"v", 400, 300, "b.png"⟩⟩]⟩ := by
    cbv
  refine ⟨by decide, ⟨0, 0, .image ⟨"u", 400, 300, "a.png"⟩⟩,
    ⟨0, 0, .image ⟨"v", 400, 300, "b.png"⟩⟩, by rw [show text = _ from htext], rfl, rfl, ?_⟩
  rintro ⟨between, hslice, hmem⟩
  rw [show text = _ from htext] at hslice
  obtain rfl : "" = between := Option.some.inj hslice
  exact absurd hmem (by decide)

end Message

end RichChat
