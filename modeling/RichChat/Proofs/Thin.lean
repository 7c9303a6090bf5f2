import Mathlib
import RichChat.Proofs.Addresses
import RichChat.Proofs.Rendering
import RichChat.Proofs.Styles

/-!
# Segments without text

Images and avatars stand at a point. Other segments are made of a text that is never empty, or left
out if there is no text, with four exceptions: the line that opens an embed, the name of a file, of
what is streamed and of a role with a color become segments even if they are empty. So a rendering
has a segment without text exactly if it shows one of these and it is empty (`isFilled_iff`).

`Canvas.thin` lists the segments in question. Runs are not among them: one may take the place of
another in the list, and all have text (`Proper`). Whatever is drawn either keeps the list or, in
the four places, keeps it empty exactly if the text is not.
-/

namespace RichChat

/-- Every segment but the anchors has text. -/
def RichText.IsFilled (t : RichText) : Prop :=
  ∀ s ∈ t.segments, s.kind.isAnchor = false → s.start < s.stop

instance : DecidablePred RichText.IsFilled :=
  fun t => inferInstanceAs (Decidable (∀ s ∈ t.segments, s.kind.isAnchor = false → s.start < s.stop))

/-- Whether a segment has no text, and is neither an anchor nor a run. -/
def Segment.isThin (s : Segment) : Bool := s.isEmpty && !s.kind.isAnchor && s.style?.isNone

namespace Segment

theorem isThin_mk (start stop : Nat) (kind : SegmentKind) (point : kind.isAnchor = false)
    (hk : ∀ a, kind ≠ .styled a) : isThin ⟨start, stop, kind⟩ = decide (stop ≤ start) := by
  have hstyle : style? ⟨start, stop, kind⟩ = none := style?_eq_none hk
  simp [isThin, isEmpty, point, hstyle]

theorem IsSolid.isThin {s : Segment} (h : s.IsSolid) : s.isThin = false := by
  cases point : s.kind.isAnchor with
  | true => simp [Segment.isThin, point]
  | false =>
    have hlt := h.2 point
    have hopen : s.isEmpty = false := by simpa [isEmpty] using hlt
    simp [Segment.isThin, hopen]

theorem isThin_styled (start stop : Nat) (a : Attribute) :
    isThin ⟨start, stop, .styled a⟩ = false := by
  simp [isThin, style?]

end Segment

/-- A run that ends does not count, whether it is joined to another one or not. -/
theorem filter_isThin_addRun (segments : List Segment) (r : Runs) (a : Attribute) (n : Nat) :
    (addRun segments (r.region a n)).filter Segment.isThin = segments.filter Segment.isThin := by
  rcases region_cases r a n with ⟨heq, -⟩ | ⟨heq, -, -⟩ <;> rw [heq]
  · rfl
  · rcases addRun_cases segments ⟨r.start, n, .styled a⟩ with h | ⟨front, last, rfl, hk, -, h⟩ <;>
      rw [h]
    · simp [Segment.isThin_styled]
    · simp [Segment.isThin, Segment.style?, hk]

namespace Canvas

def thin (c : Canvas) : List Segment := c.segments.filter Segment.isThin

theorem invariant_thin (segments : List Segment) : Invariant fun c => c.thin = segments where
  flush c h := by
    rcases c.flush_cases with ⟨-, heq⟩ | ⟨-, heq⟩ <;> rw [heq]
    · exact h
    · exact (filter_isThin_addRun _ _ _ _).trans h
  append _ _ h := h
  push c s hs h := by simpa [thin, push, hs.isThin] using h
  note _ _ h := h
  change {c} counts h := by
    rcases c.change_cases counts with ⟨-, heq⟩ | ⟨-, heq⟩ <;> rw [heq]
    · exact h
    · exact (filter_isThin_addRun _ _ _ _).trans h
  frame _ _ _ _ _ _ h := h

section Kept

variable (c : Canvas)

@[simp] theorem thin_put (text : String) : (c.put text).thin = c.thin :=
  (invariant_thin _).put rfl text

@[simp] theorem thin_writeWith (a : Attribute) (text : String) :
    (c.writeWith a text).2.thin = c.thin := (invariant_thin _).writeWith rfl a text

@[simp] theorem thin_ensureBreak : c.ensureBreak.thin = c.thin :=
  (invariant_thin _).ensureBreak rfl

@[simp] theorem thin_startBlock : c.startBlock.thin = c.thin := (invariant_thin _).startBlock rfl

@[simp] theorem thin_request (scene : Scene) (r : FetchRequest) :
    (c.request scene r).thin = c.thin := (invariant_thin _).request rfl scene r

@[simp] theorem thin_finish : c.finish.thin = c.thin := (invariant_thin _).finish rfl

theorem thin_anchor {kind : SegmentKind} (point : kind.isAnchor = true) :
    (c.anchor kind).thin = c.thin := (invariant_thin _).anchor rfl point

@[simp] theorem thin_placeAvatar (config : Config) (url name : String) :
    (c.placeAvatar config url name).thin = c.thin := c.thin_anchor rfl

@[simp] theorem thin_placeMedia (media : EmbedMedia) (maxWidth maxHeight : UInt32) :
    (c.placeMedia media maxWidth maxHeight).thin = c.thin := c.thin_anchor rfl

@[simp] theorem thin_placeEmoji (config : Config) (emoji : CustomEmoji) (size : UInt32) :
    (c.placeEmoji config emoji size).thin = c.thin := c.thin_anchor rfl

@[simp] theorem thin_placeIcon (config : Config) (icon : Option String) (name : String) :
    (c.placeIcon config icon name).thin = c.thin := by
  unfold placeIcon
  split <;> simp

@[simp] theorem thin_linkRange (range : Nat × Nat) (url : Option String) :
    (c.linkRange range url).thin = c.thin := by
  unfold linkRange
  split
  · split
    · rename_i hlt
      exact (invariant_thin _).emit rfl hlt (by simp)
    · rfl
  · rfl

theorem thin_drawSome {α : Type} (part : Option α) {draw : Canvas → α → Canvas}
    (hdraw : ∀ c x, (draw c x).thin = c.thin) : (c.drawSome part draw).thin = c.thin := by
  cases part with
  | none => rfl
  | some x => exact hdraw c x

theorem thin_foldl {α : Type} (xs : List α) {draw : Canvas → α → Canvas}
    (hdraw : ∀ c x, (draw c x).thin = c.thin) : (xs.foldl draw c).thin = c.thin :=
  List.foldlRecOn (motive := fun d => d.thin = c.thin) xs draw rfl
    fun d hd x _ => (hdraw d x).trans hd

theorem thin_draw (scene : Scene) {node : Node} (hn : node.Addressed) :
    (c.draw .builtin scene node).thin = c.thin := (invariant_thin _).draw scene hn rfl

theorem thin_document (scene : Scene) {node : Node} (hn : node.Addressed) :
    (c.document .builtin scene node).thin = c.thin := (invariant_thin _).document scene hn rfl

/-- The canvas of a nested text starts with no segments, and has none without text at the end. -/
theorem thin_nested (scene : Scene) (source : String) :
    (c.nested .builtin scene source).thin = c.thin := by
  unfold Canvas.nested
  dsimp only
  split
  · exact c.thin_put source
  · have hinner : (((c.flush.splitRun.child scene.config).draw .builtin scene
        (.ofSource source)).finish).thin = [] := by
      rw [thin_finish, thin_draw _ _ (Node.addressed_ofSource source)]
      rfl
    rw [adopt_eq, thin, List.filter_append, filter_isThin_addRun,
      show List.filter _ _ = [] from hinner, List.append_nil]
    exact (invariant_thin _).flush c rfl

theorem thin_embedAuthor (config : Config) (author : EmbedAuthor) :
    (c.embedAuthor config author).thin = c.thin := by
  have hwrite := (c.ensureBreak.placeIcon config author.iconUrl author.name).thin_put author.name
  rw [thin_placeIcon, thin_ensureBreak] at hwrite
  exact (thin_linkRange _ _ _).trans hwrite

theorem thin_embedTitle (url : Option String) (title : String) :
    (c.embedTitle url title).thin = c.thin := by
  simp [embedTitle]

theorem thin_embedField (field : EmbedField) : (c.embedField field).thin = c.thin := by
  simp [embedField]

theorem thin_embedFooter (config : Config) (embed : Embed) :
    (c.embedFooter config embed).thin = c.thin := by
  unfold embedFooter
  cases embed.footer <;> cases embed.timestamp <;> simp

theorem thin_status (config : Config) (activity : Activity) :
    (c.status config activity).thin = c.thin := by
  have hemoji (c : Canvas) (emoji : ActivityEmoji) :
      (c.statusEmoji config emoji).thin = c.thin := by
    unfold statusEmoji
    split <;> simp
  unfold status
  rw [thin_drawSome _ _ thin_put, thin_drawSome]
  intro c emoji
  dsimp only
  split <;> simp [hemoji]

theorem thin_profile (config : Config) (user : User) (name avatarUrl : String) :
    (c.profile config user name avatarUrl).thin = c.thin := by
  simp [profile]

theorem thin_excerpt (scene : Scene) (message : Message) :
    (c.excerpt .builtin scene message).thin = c.thin := by
  unfold excerpt
  split
  · rename_i line _
    have hinlines := Node.addressed_inlines _ (Node.addressed_ofSource (String.ofList line))
    have hparagraph : (Node.mk .paragraph (Node.ofSource (String.ofList line)).inlines).Addressed :=
      Node.addressed_mk.2 ⟨nofun, hinlines⟩
    exact c.thin_draw scene (Node.addressed_mk.2 ⟨nofun, by simpa using hparagraph⟩)
  · split <;> simp

theorem thin_replied (scene : Scene) (message : Message) :
    (c.replied .builtin scene message).thin = c.thin := by
  unfold replied
  rw [thin_excerpt, thin_put]
  exact (invariant_thin _).mentionUser rfl scene _ _

end Kept

section Emitted

variable (c : Canvas)

theorem write_lt_iff (text : String) :
    (c.write text).1.1 < (c.write text).1.2 ↔ text ≠ "" := by
  refine ⟨?_, c.lt_write⟩
  rintro h rfl
  exact Nat.lt_irrefl _ h

theorem thin_emit_eq_nil (range : Nat × Nat) {kind : SegmentKind} (point : kind.isAnchor = false)
    (hk : ∀ a, kind ≠ .styled a) :
    (c.emit range kind).thin = [] ↔ c.thin = [] ∧ range.1 < range.2 := by
  simp [thin, emit, push, Segment.isThin_mk _ _ _ point hk]

/-- Where a text is made a segment as it comes, the text decides. -/
theorem thin_write_eq_nil (text : String) {kind : SegmentKind} (point : kind.isAnchor = false)
    (hk : ∀ a, kind ≠ .styled a) :
    ((c.write text).2.emit (c.write text).1 kind).thin = [] ↔ c.thin = [] ∧ text ≠ "" := by
  have hput : (c.write text).2.thin = c.thin := c.thin_put text
  rw [thin_emit_eq_nil _ _ point hk, write_lt_iff, hput]

theorem thin_foldl_eq_nil {α : Type} (xs : List α) {draw : Canvas → α → Canvas} {ok : α → Prop}
    (hdraw : ∀ c x, (draw c x).thin = [] ↔ c.thin = [] ∧ ok x) :
    (xs.foldl draw c).thin = [] ↔ c.thin = [] ∧ ∀ x ∈ xs, ok x := by
  induction xs generalizing c with
  | nil => simp
  | cons x xs ih => rw [List.foldl_cons, ih, hdraw, List.forall_mem_cons, and_assoc]

theorem thin_embed_eq_nil (scene : Scene) (embed : Embed) :
    (c.embed .builtin scene embed).thin = [] ↔
      c.thin = [] ∧ scene.config.embedSeparator ≠ "" := by
  unfold Canvas.embed
  dsimp only
  rw [thin_drawSome _ _ (by simp)]
  -- whether there is a last line or not, it is the separator that decides
  suffices h : ∀ d : Canvas, (if (embed.footer.isSome || embed.timestamp.isSome) = true then
      d.ensureBreak.embedFooter scene.config embed else d).thin = d.thin by
    rw [h, thin_foldl _ _ thin_embedField,
      thin_drawSome _ _ fun c text => (thin_nested _ _ _).trans c.thin_ensureBreak,
      thin_drawSome _ _ (by simp), thin_drawSome _ _ fun c title => c.thin_embedTitle _ title,
      thin_drawSome _ _ fun c author => c.thin_embedAuthor _ author,
      thin_write_eq_nil _ _ rfl (by simp), thin_startBlock]
  intro d
  split
  · rw [thin_embedFooter, thin_ensureBreak]
  · rfl

theorem thin_attachment_eq_nil (config : Config) (file : Attachment) :
    (c.attachment config file).thin = [] ↔ c.thin = [] ∧ file.filename ≠ "" := by
  unfold attachment
  dsimp only
  split
  · rename_i himage
    have hne : file.filename ≠ "" := by
      intro hempty
      rw [hempty] at himage
      cases himage
    rw [thin_anchor _ rfl, thin_ensureBreak]
    exact (and_iff_left hne).symm
  · rw [thin_put, thin_write_eq_nil _ _ rfl (by simp), thin_put, thin_ensureBreak]

theorem thin_attachments_eq_nil (config : Config) (files : List Attachment) :
    (c.attachments config files).thin = [] ↔
      c.thin = [] ∧ ∀ file ∈ files, file.filename ≠ "" := by
  unfold attachments
  split
  · rename_i hempty
    simp [List.isEmpty_iff.1 hempty]
  · rw [thin_foldl_eq_nil _ _ fun c file => c.thin_attachment_eq_nil config file, thin_startBlock]

theorem thin_activity_eq_nil (verb : String) (activity : Activity) :
    (c.activity verb activity).thin = [] ↔
      c.thin = [] ∧ (activity.kind = .streaming → activity.url.isSome → activity.name ≠ "") := by
  unfold Canvas.activity
  dsimp only
  rw [thin_drawSome _ _ (by simp), thin_drawSome _ _ (by simp)]
  split
  · rename_i url hkind hurl
    have hname := ((c.put verb).enter .bold).write_lt_iff activity.name
    rw [thin_emit_eq_nil _ _ rfl (by simp), thin_writeWith, thin_put]
    refine (and_congr_right' hname).trans ?_
    simp [hkind, hurl]
  · rename_i hother
    rw [thin_writeWith, thin_put]
    refine (and_iff_left fun hkind hsome => ?_).symm
    obtain ⟨url, hurl⟩ := Option.isSome_iff_exists.1 hsome
    exact absurd hurl (hother url hkind)

theorem thin_roleLine_eq_nil (role : Role) :
    (c.roleLine role).thin = [] ↔ c.thin = [] ∧ (role.color ≠ 0 → role.name ≠ "") := by
  unfold roleLine
  dsimp only
  split
  · rename_i hcolor
    rw [show (c.ensureBreak.write role.name).2.thin = _ from thin_put _ _, thin_ensureBreak]
    simp [hcolor]
  · rename_i hcolor
    rw [thin_write_eq_nil _ _ rfl (by simp), thin_ensureBreak]
    simp [hcolor]

end Emitted

end Canvas

/-- Where runs have text, as in all that plans draw, the list says whether the rest has. -/
theorem Rendered.IsPlanned.isFilled_compose_iff {scene : Scene} {draw : Canvas → Canvas}
    (h : (scene.compose draw).IsPlanned scene) :
    (scene.compose draw).text.IsFilled ↔ (draw (.fresh scene.config)).thin = [] := by
  have hproper : Proper (scene.compose draw).text.segments := by
    obtain ⟨plan, heq⟩ := h
    obtain ⟨ss, hss, -⟩ := plan.drawn scene (.fresh scene.config)
    rw [heq]
    exact (hss.covered (covered_of_empty rfl rfl)).finish.1
  rw [← Canvas.thin_finish, Canvas.thin, List.filter_eq_nil_iff]
  constructor
  · intro hfilled s hs hthin
    simp only [Segment.isThin, Segment.isEmpty, Bool.and_eq_true, Bool.not_eq_true',
      decide_eq_true_eq] at hthin
    have := hfilled s hs hthin.1.2
    omega
  · intro hthin s hs point
    cases hstyle : s.style? with
    | some a => exact hproper s hs (by simp [hstyle])
    | none =>
      have := hthin s hs
      simpa [Segment.isThin, Segment.isEmpty, point, hstyle] using this

theorem Message.isFilled_render_iff (message : Message) (config : Config) (store : Option Store) :
    (message.render config store).text.IsFilled ↔
      (message.embeds ≠ [] → config.embedSeparator ≠ "") ∧
        ∀ file ∈ message.attachments, file.filename ≠ "" := by
  have hplanned := message.isPlanned_render config store
  unfold Message.render at hplanned ⊢
  dsimp only at hplanned ⊢
  rw [hplanned.isFilled_compose_iff, Canvas.thin_attachments_eq_nil,
    Canvas.thin_foldl_eq_nil _ _ fun c embed => c.thin_embed_eq_nil _ embed,
    Canvas.thin_document _ _ (Node.addressed_ofSource _)]
  have hfresh : (Canvas.fresh config).thin = [] := rfl
  have hembeds : (∀ embed ∈ message.embeds, config.embedSeparator ≠ "") ↔
      (message.embeds ≠ [] → config.embedSeparator ≠ "") := by
    cases message.embeds with
    | nil => simp
    | cons embed embeds => simpa using fun hne _ _ => hne
  rw [hembeds, and_iff_right hfresh]

theorem Message.isFilled_renderReply (message : Message) (referenced : Option Message)
    (config : Config) (store : Option Store) :
    (message.renderReply referenced config store).text.IsFilled := by
  have hplanned := message.isPlanned_renderReply referenced config store
  unfold Message.renderReply at hplanned ⊢
  dsimp only at hplanned ⊢
  rw [hplanned.isFilled_compose_iff]
  -- the header is never without text, and so is the reference over all of it
  have hwhole (scene : Scene) {d : Canvas} (hthin : d.thin = [])
      (hd : Planned scene ((Canvas.fresh config).put "↪ ") d) (id : MessageId) :
      (d.emit (0, d.length) (.messageReference id)).thin = [] := by
    refine (d.thin_emit_eq_nil _ rfl (by simp)).2 ⟨hthin, ?_⟩
    have harrow : ((Canvas.fresh config).put "↪ ").buffer.text = "↪ ".toList := rfl
    have hprefix := Text.size_mono hd.prefix_text
    rw [harrow] at hprefix
    exact Nat.lt_of_lt_of_le (show 0 < Text.size "↪ ".toList by decide) hprefix
  have hput : ((Canvas.fresh config).put "↪ ").thin = [] := Canvas.thin_put _ _
  cases referenced with
  | none =>
    have hdeleted := (Canvas.thin_writeWith _ .italic "Original message was deleted").trans hput
    dsimp only
    split
    · exact hwhole {} hdeleted ((Planned.refl _).writeWith _ _) _
    · exact hdeleted
  | some m =>
    have hreplied := (Canvas.thin_replied _ { config, message := some m, store } m).trans hput
    dsimp only
    split
    · exact hwhole _ hreplied (Canvas.planned_replied { config, message := some m, store } _ m) _
    · exact hreplied

theorem Activity.isFilled_render_iff (activity : Activity) (config : Config) :
    (activity.render config).text.IsFilled ↔
      (activity.kind = .streaming → activity.url.isSome → activity.name ≠ "") := by
  have hplanned := activity.isPlanned_render config
  unfold Activity.render at hplanned ⊢
  dsimp only at hplanned ⊢
  rw [hplanned.isFilled_compose_iff]
  have hfresh : (Canvas.fresh config).thin = [] := rfl
  split
  · simp [Canvas.thin_activity_eq_nil, hfresh]
  · rename_i hcustom
    have hkind : activity.kind ≠ .streaming := by
      intro hstreaming
      rw [hstreaming] at hcustom
      cases hcustom
    simp [Canvas.thin_status, hfresh, hkind]

theorem User.isFilled_renderTooltip_iff (user : User) (guild : Option GuildId) (config : Config)
    (store : Option Store) :
    (user.renderTooltip guild config store).text.IsFilled ↔
      ∀ g ∈ guild, ∀ s ∈ store, ∀ m ∈ s.member g user.id,
        ∀ role ∈ s.memberRoles g m, role.color ≠ 0 → role.name ≠ "" := by
  have hplanned := user.isPlanned_renderTooltip guild config store
  unfold User.renderTooltip at hplanned ⊢
  dsimp only at hplanned ⊢
  rw [hplanned.isFilled_compose_iff]
  split
  · rename_i guild member store hmember
    replace hmember : store.member guild user.id = some member := hmember
    rw [Canvas.thin_foldl_eq_nil _ _ Canvas.thin_roleLine_eq_nil, Canvas.thin_profile]
    refine (and_iff_right ?_).trans ?_
    · split
      · exact Canvas.thin_request _ _ _
      · rfl
    · simp [hmember]
  · rename_i hmissing
    rw [Canvas.thin_profile]
    refine ⟨fun _ g hg s hs m hm => ?_, fun _ => ?_⟩
    · cases hg
      cases hs
      exact absurd rfl (hmissing g m s rfl hm)
    · split
      · exact Canvas.thin_request _ _ _
      · rfl

/-- A message has a segment without text exactly if it has an embed and the line that opens one is
empty, or if it has a file without a name. A reply header never has one. Presence has one exactly if
what is streamed has an address and no name, and a tooltip if it shows a role with a color and no
name. -/
theorem isFilled_iff (config : Config) (store : Option Store) :
    (∀ message : Message, (message.render config store).text.IsFilled ↔
        (message.embeds ≠ [] → config.embedSeparator ≠ "") ∧
          ∀ file ∈ message.attachments, file.filename ≠ "") ∧
      (∀ (message : Message) (referenced : Option Message),
        (message.renderReply referenced config store).text.IsFilled) ∧
      (∀ activity : Activity, (activity.render config).text.IsFilled ↔
        (activity.kind = .streaming → activity.url.isSome → activity.name ≠ "")) ∧
      ∀ (user : User) (guild : Option GuildId),
        (user.renderTooltip guild config store).text.IsFilled ↔
          ∀ g ∈ guild, ∀ s ∈ store, ∀ m ∈ s.member g user.id,
            ∀ role ∈ s.memberRoles g m, role.color ≠ 0 → role.name ≠ "" :=
  ⟨fun message => message.isFilled_render_iff config store,
    fun message referenced => message.isFilled_renderReply referenced config store,
    fun activity => activity.isFilled_render_iff config,
    fun user guild => user.isFilled_renderTooltip_iff guild config store⟩

/-- The link over the name of a file stands at a point if there is no name. -/
theorem not_isFilled_nameless_file :
    let file : Attachment := { filename := "", url := "u" }
    let author : User := { id := ⟨3⟩, username := "author" }
    let message : Message := { id := ⟨1⟩, channel := ⟨2⟩, author, attachments := [file] }
    (message.render {} none).text = ⟨"File:  (0 B)", [⟨6, 6, .link "u"⟩]⟩ ∧
      ¬ (message.render {} none).text.IsFilled := by
  intro file author message
  have htext : (message.render {} none).text = ⟨"File:  (0 B)", [⟨6, 6, .link "u"⟩]⟩ := by cbv
  rw [htext]
  exact ⟨rfl, by decide⟩

end RichChat
