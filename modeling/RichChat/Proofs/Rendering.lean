import RichChat.Proofs.Handler

/-!
# Renderings are planned

Whatever is rendered, a tree, a message with its embeds and attachments, a reply header, presence
or a tooltip, is the text of a plan on an empty canvas (`Rendered.IsPlanned`). A property of every
plan therefore holds of every rendering.
-/

namespace RichChat

namespace Canvas

variable (scene : Scene) (c : Canvas)

theorem planned_linkRange {d : Canvas} {range : Nat × Nat} (h : Planned scene c d)
    (hr : d.Spans range) (url : Option String) : Planned scene c (d.linkRange range url) := by
  unfold linkRange
  split
  · split
    · exact h.emit hr rfl
    · exact h
  · exact h

theorem planned_placeIcon (icon : Option String) (name : String) :
    Planned scene c (c.placeIcon scene.config icon name) := by
  unfold placeIcon
  split
  · exact ((Planned.refl c).anchor rfl).put _
  · exact .refl c

theorem spans_writeWith (a : Attribute) (text : String) :
    (c.writeWith a text).2.Spans (c.writeWith a text).1 := by
  have h := spans_write (c.enter a) text
  have hexit : (((c.enter a).write text).2.exit a).buffer.text
      = ((c.enter a).write text).2.buffer.text := by rw [exit_eq, change_buffer]
  exact h.mono ⟨[], by rw [List.append_nil, ← hexit]; rfl⟩

theorem planned_embedAuthor (author : EmbedAuthor) :
    Planned scene c (c.embedAuthor scene.config author) := by
  have h := ((Planned.refl c).ensureBreak).trans
    (planned_placeIcon scene c.ensureBreak author.iconUrl author.name)
  exact planned_linkRange scene c (h.put author.name) (spans_write _ _) author.url

theorem planned_embedTitle (url : Option String) (title : String) :
    Planned scene c (c.embedTitle url title) :=
  planned_linkRange scene c (((Planned.refl c).ensureBreak).writeWith .bold title)
    (spans_writeWith _ _ _) url

theorem planned_embedField (field : EmbedField) : Planned scene c (c.embedField field) :=
  (((((Planned.refl c).ensureBreak).put "  ").writeWith .bold field.name).put ": ").put field.value

theorem planned_embedFooter (embed : Embed) :
    Planned scene c (c.embedFooter scene.config embed) := by
  unfold embedFooter
  cases embed.footer with
  | none =>
    cases embed.timestamp with
    | none => exact .refl c
    | some t => exact (Planned.refl c).put _
  | some footer =>
    have hfooter := (c.planned_placeIcon scene footer.iconUrl footer.text).put footer.text
    cases embed.timestamp with
    | none => exact hfooter
    | some t => exact (hfooter.put " • ").put _

theorem planned_placeMedia (media : EmbedMedia) (maxWidth maxHeight : UInt32) :
    Planned scene c (c.placeMedia media maxWidth maxHeight) := (Planned.refl c).anchor rfl

/-- The line that an embed opens with. -/
def embedLine (config : Config) (embed : Embed) : Canvas :=
  let (range, c) := c.startBlock.write config.embedSeparator
  c.emit range (.color (Rgba.ofRgb (embed.color.getD config.defaultEmbedColor)))

theorem drawSome_keeps {Q : Canvas → Prop} {c : Canvas} {α : Type} {draw : Canvas → α → Canvas}
    (hdraw : ∀ {c} x, Q c → Q (draw c x)) (part : Option α) (h : Q c) : Q (c.drawSome part draw) := by
  cases part with
  | none => exact h
  | some x => exact hdraw x h

/-- The parts of an embed come one after the other. What holds after each one may tell of the
thumbnail, the description and the image. -/
theorem embed_steps {Q R S T : Canvas → Prop} {embed : Embed}
    (line : Q (c.embedLine scene.config embed))
    (author : ∀ {c} author, Q c → Q (c.embedAuthor scene.config author))
    (title : ∀ {c} title, Q c → Q (c.embedTitle embed.url title))
    (thumbnail : ∀ {c}, Q c → R (c.drawSome embed.thumbnail fun c media =>
      c.ensureBreak.placeMedia media scene.config.thumbnailSize scene.config.thumbnailSize))
    (description : ∀ {c}, R c → S (c.drawSome (embed.description.filter fun text => !text.isEmpty)
      fun c source => c.ensureBreak.nested .builtin scene source))
    (field : ∀ {c} field, S c → S (c.embedField field))
    (footer : ∀ {c}, S c → S (c.ensureBreak.embedFooter scene.config embed))
    (image : ∀ {c}, S c → T (c.drawSome embed.image fun c media =>
      c.ensureBreak.placeMedia media scene.config.imageMaxWidth scene.config.imageMaxHeight)) :
    T (c.embed .builtin scene embed) := by
  unfold Canvas.embed
  dsimp only
  refine image ?_
  -- whether there is a last line or not, the fields come before it
  suffices h : ∀ d, S d → S (if (embed.footer.isSome || embed.timestamp.isSome) = true then
      d.ensureBreak.embedFooter scene.config embed else d) by
    refine h _ (List.foldlRecOn _ embedField (description (thumbnail ?_)) fun _ hd f _ => field f hd)
    exact drawSome_keeps title _ (drawSome_keeps author _ line)
  intro d hd
  split
  · exact footer hd
  · exact hd

/-- What the line of an embed and the parts before its description make true, and what comes of that
with the description and is kept by the parts after it. -/
theorem embed_keeps {Q R : Canvas → Prop} {embed : Embed}
    (line : Q (c.embedLine scene.config embed))
    (author : ∀ {c} author, Q c → Q (c.embedAuthor scene.config author))
    (title : ∀ {c} title, Q c → Q (c.embedTitle embed.url title))
    (thumbnail : ∀ {c} media width height, Q c → Q (c.ensureBreak.placeMedia media width height))
    (description : ∀ {c}, Q c → R (c.drawSome (embed.description.filter fun text => !text.isEmpty)
      fun c source => c.ensureBreak.nested .builtin scene source))
    (field : ∀ {c} field, R c → R (c.embedField field))
    (footer : ∀ {c}, R c → R (c.ensureBreak.embedFooter scene.config embed))
    (image : ∀ {c} media width height, R c → R (c.ensureBreak.placeMedia media width height)) :
    R (c.embed .builtin scene embed) :=
  embed_steps scene c line author title (drawSome_keeps (fun media => thumbnail media _ _) _)
    description field footer (drawSome_keeps (fun media => image media _ _) _)

theorem planned_embedLine (embed : Embed) : Planned scene c (c.embedLine scene.config embed) :=
  (((Planned.refl c).startBlock).put _).emit (spans_write _ _) rfl

/-- What comes of an embed after its line. -/
theorem planned_embedParts (embed : Embed) :
    Planned scene (c.embedLine scene.config embed) (c.embed .builtin scene embed) :=
  embed_keeps scene c (.refl _) (fun author h => h.trans (planned_embedAuthor scene _ author))
    (fun title h => h.trans (planned_embedTitle scene _ _ title))
    (fun media _ _ h => h.ensureBreak.trans (planned_placeMedia scene _ media _ _))
    (drawSome_keeps (fun source h => h.ensureBreak.trans (planned_nested scene _ source)) _)
    (fun field h => h.trans (planned_embedField scene _ field))
    (fun h => h.ensureBreak.trans (planned_embedFooter scene _ embed))
    (fun media _ _ h => h.ensureBreak.trans (planned_placeMedia scene _ media _ _))

theorem planned_embed (embed : Embed) : Planned scene c (c.embed .builtin scene embed) :=
  (c.planned_embedLine scene embed).trans (c.planned_embedParts scene embed)

theorem planned_attachment (file : Attachment) :
    Planned scene c (c.attachment scene.config file) := by
  unfold Canvas.attachment
  dsimp only
  split
  · exact ((Planned.refl c).ensureBreak).anchor rfl
  · exact (((((Planned.refl c).ensureBreak).put _).put _).emit (spans_write _ _) rfl).put _

theorem planned_attachments (files : List Attachment) :
    Planned scene c (c.attachments scene.config files) := by
  unfold attachments
  split
  · exact .refl c
  · exact .foldl (fun c file => c.planned_attachment scene file) _ (Planned.refl c).startBlock

theorem planned_excerpt (message : Message) :
    Planned scene c (c.excerpt .builtin scene message) := by
  unfold excerpt
  split
  · exact c.planned_draw scene _
  · split
    · exact .refl c
    · exact (Planned.refl c).writeWith _ _

theorem planned_replied (message : Message) :
    Planned scene c (c.replied .builtin scene message) :=
  ((c.planned_mentionUser scene _ _).put ": ").trans (planned_excerpt scene _ message)

theorem planned_roleLine (role : Role) : Planned scene c (c.roleLine role) := by
  have h : Planned scene c (c.ensureBreak.put role.name) :=
    ((Planned.refl c).ensureBreak).put role.name
  unfold roleLine
  dsimp only
  split
  · exact h
  · exact h.emit (spans_write _ _) rfl

theorem planned_profile (user : User) (name avatarUrl : String) :
    Planned scene c (c.profile scene.config user name avatarUrl) :=
  (((((Planned.refl c).anchor rfl).put " ").writeWith .bold name).ensureBreak).put _

theorem planned_statusEmoji (emoji : ActivityEmoji) :
    Planned scene c (c.statusEmoji scene.config emoji) := by
  unfold statusEmoji
  split
  · exact (Planned.refl c).anchor rfl
  · exact (Planned.refl c).put _

theorem planned_status (activity : Activity) :
    Planned scene c (c.status scene.config activity) := by
  unfold status
  refine .drawSome (fun c text => (Planned.refl c).put text) _ ?_
  refine .drawSome (fun c emoji => ?_) _ (.refl c)
  dsimp only
  split
  · exact (c.planned_statusEmoji scene emoji).put _
  · exact c.planned_statusEmoji scene emoji

theorem planned_activity (verb : String) (activity : Activity) :
    Planned scene c (c.activity verb activity) := by
  unfold Canvas.activity
  dsimp only
  have line (c : Canvas) (text : String) : Planned scene c (c.ensureBreak.put text) :=
    ((Planned.refl c).ensureBreak).put text
  refine .drawSome line _ (.drawSome line _ ?_)
  have h : Planned scene c ((c.put verb).writeWith .bold activity.name).2 :=
    ((Planned.refl c).put verb).writeWith .bold activity.name
  split
  · exact h.emit (spans_writeWith _ _ _) rfl
  · exact h

end Canvas

/-- What is composed on an empty canvas is what some plan draws there. -/
def Rendered.IsPlanned (scene : Scene) (rendered : Rendered) : Prop :=
  ∃ plan : Plan, rendered = scene.compose (plan.run scene)

theorem Planned.compose {scene : Scene} {draw : Canvas → Canvas}
    (h : Planned scene (.fresh scene.config) (draw (.fresh scene.config))) :
    (scene.compose draw).IsPlanned scene := by
  obtain ⟨plan, h⟩ := h
  refine ⟨plan, ?_⟩
  unfold Scene.compose
  rw [h]

theorem Scene.isPlanned_renderNode (scene : Scene) (node : Node) :
    (scene.renderNode node).IsPlanned scene :=
  Planned.compose (Canvas.planned_document scene _ node)

theorem Message.isPlanned_render (message : Message) (config : Config) (store : Option Store) :
    (message.render config store).IsPlanned { config, message := some message, store } := by
  unfold Message.render
  refine Planned.compose ?_
  refine Planned.trans ?_ (Canvas.planned_attachments _ _ message.attachments)
  exact .foldl (fun c embed => c.planned_embed _ embed) _ (Canvas.planned_document _ _ _)

theorem Message.isPlanned_renderReply (message : Message) (referenced : Option Message)
    (config : Config) (store : Option Store) :
    (message.renderReply referenced config store).IsPlanned
      { config, message := some (referenced.getD message), store } := by
  unfold Message.renderReply
  refine Planned.compose ?_
  have whole {c d : Canvas} {scene : Scene} (h : Planned scene c d) (id : MessageId) :
      Planned scene c (d.emit (0, d.length) (.messageReference id)) :=
    h.emit ⟨Nat.zero_le _, .zero _, .size _⟩ rfl
  have h : Planned { config, message := some (referenced.getD message), store }
      (.fresh config) ((Canvas.fresh config).put "↪ ") := (Planned.refl _).put _
  dsimp only
  cases referenced with
  | none =>
    dsimp only
    split
    · exact whole (h.writeWith _ _) _
    · exact h.writeWith _ _
  | some m =>
    have := h.trans (Canvas.planned_replied _ _ m)
    dsimp only
    split
    · exact whole this _
    · exact this

theorem Activity.isPlanned_render (activity : Activity) (config : Config) :
    (activity.render config).IsPlanned { config } := by
  unfold Activity.render
  refine Planned.compose ?_
  dsimp only
  split
  · exact Canvas.planned_activity _ _ _ activity
  · exact Canvas.planned_status { config } _ activity

theorem User.isPlanned_renderTooltip (user : User) (guild : Option GuildId) (config : Config)
    (store : Option Store) : (user.renderTooltip guild config store).IsPlanned { config, store } := by
  unfold User.renderTooltip
  refine Planned.compose ?_
  dsimp only
  split
  · refine .foldl (fun c role => c.planned_roleLine _ role) _ ?_
    refine Planned.trans ?_ (Canvas.planned_profile _ _ user _ _)
    split
    · exact Canvas.planned_request _ _ _
    · exact .refl _
  · refine Planned.trans ?_ (Canvas.planned_profile _ _ user _ _)
    split
    · exact Canvas.planned_request _ _ _
    · exact .refl _

end RichChat
