import RichChat.Proofs.Fitting
import RichChat.Proofs.Mentioned
import RichChat.Proofs.Requests

/-!
# Pictures and their sizes

The images in a text are those of its pictures, in their order (`Canvas.Shows`): of the emoji in the
body, of the thumbnail, the description and the image of each embed, and of the files that are shown
as images. Each has the size that its picture is given. If the configuration is valid, no size is
zero, and so every image fits the box of its kind (`Picture.suits_image`), whatever size the message
says it has.
-/

namespace RichChat

namespace Segment

def image? (s : Segment) : Option ImageAnchor :=
  match s.kind with
  | .image image => some image
  | _ => none

def avatar? (s : Segment) : Option AvatarAnchor :=
  match s.kind with
  | .avatar avatar => some avatar
  | _ => none

theorem avatar?_eq_some {s : Segment} {avatar : AvatarAnchor} :
    s.avatar? = some avatar ↔ s.kind = .avatar avatar := by
  unfold avatar?
  split <;> simp_all

end Segment

namespace RichText

/-- The images in a text, in the order in which they are listed. -/
def images (t : RichText) : List ImageAnchor := t.segments.filterMap Segment.image?

def avatars (t : RichText) : List AvatarAnchor := t.segments.filterMap Segment.avatar?

end RichText

/-- A picture in a text: an emoji, which may be a large one, the thumbnail or the main image of an
embed, or a file. -/
inductive Picture
  | emoji (emoji : CustomEmoji) (large : Bool)
  | thumbnail (media : EmbedMedia)
  | main (media : EmbedMedia)
  | file (file : Attachment)
  deriving DecidableEq

def Config.sizeOfEmoji (config : Config) (large : Bool) : UInt32 :=
  if large then config.largeEmojiSize else config.emojiSize

/-- Whether emoji are large in a document. -/
def Config.enlarges (config : Config) (node : Node) : Bool :=
  match node.emojiOnlyCount with
  | some n => 0 < n ∧ n ≤ config.largeEmojiLimit
  | none => false

namespace Picture

/-- How a picture is placed. -/
def image (config : Config) : Picture → ImageAnchor
  | emoji e large =>
    let size := config.sizeOfEmoji large
    ⟨Cdn.emojiUrl config.cdnBase e.id e.animated size, size, size, ":" ++ e.name ++ ":"⟩
  | thumbnail media =>
    let (width, height) := fit media.width media.height config.thumbnailSize config.thumbnailSize
    ⟨media.source, width, height, ""⟩
  | main media =>
    let (width, height) := fit media.width media.height config.imageMaxWidth config.imageMaxHeight
    ⟨media.source, width, height, ""⟩
  | file f =>
    let (width, height) := fit (f.width.getD 0) (f.height.getD 0) config.imageMaxWidth
      config.imageMaxHeight
    ⟨f.source, width, height, f.filename⟩

/-- Whether an image shows a picture, at a size that it may have. -/
def Suits (config : Config) : Picture → ImageAnchor → Prop
  | emoji e large, image =>
    let size := config.sizeOfEmoji large
    image.url = Cdn.emojiUrl config.cdnBase e.id e.animated size ∧
      image.altText = ":" ++ e.name ++ ":" ∧ image.width = size ∧ image.height = size
  | thumbnail media, image =>
    image.url = media.source ∧
      FitsBox (image.width, image.height) (config.thumbnailSize, config.thumbnailSize)
  | main media, image =>
    image.url = media.source ∧
      FitsBox (image.width, image.height) (config.imageMaxWidth, config.imageMaxHeight)
  | file f, image =>
    image.url = f.source ∧ image.altText = f.filename ∧
      FitsBox (image.width, image.height) (config.imageMaxWidth, config.imageMaxHeight)

end Picture

theorem Config.size_ne_zero {config : Config} (h : config.validate = .ok ()) (name : String)
    {size : UInt32} (hs : (name, size) ∈ config.sizes) : size ≠ 0 := by
  unfold validate at h
  split at h
  · cases h
  · split at h
    · cases h
    · rename_i hnone
      simpa using List.find?_eq_none.1 hnone (name, size) hs

namespace Picture

variable {config : Config}

theorem suits_image (h : config.validate = .ok ()) (picture : Picture) :
    picture.Suits config (picture.image config) := by
  have hthumbnail : config.thumbnailSize ≠ 0 :=
    Config.size_ne_zero h "thumbnail_size" (by simp [Config.sizes])
  have hwidth : config.imageMaxWidth ≠ 0 :=
    Config.size_ne_zero h "image_max_width" (by simp [Config.sizes])
  have hheight : config.imageMaxHeight ≠ 0 :=
    Config.size_ne_zero h "image_max_height" (by simp [Config.sizes])
  cases picture with
  | emoji e large => exact ⟨rfl, rfl, rfl, rfl⟩
  | thumbnail media => exact ⟨rfl, fitsBox_fit _ _ hthumbnail hthumbnail⟩
  | main media => exact ⟨rfl, fitsBox_fit _ _ hwidth hheight⟩
  | file f => exact ⟨rfl, rfl, fitsBox_fit _ _ hwidth hheight⟩

end Picture

/-- Whether a segment is no image, and an avatar only of the configured size. -/
def SegmentKind.NoPicture (config : Config) (kind : SegmentKind) : Prop :=
  (∀ image, kind ≠ .image image) ∧ ∀ avatar, kind = .avatar avatar → avatar.size = config.avatarSize

theorem SegmentKind.Allows.noPicture (config : Config) : Allows config (NoPicture config) where
  link _ := ⟨nofun, nofun⟩
  quoteBlock := ⟨nofun, nofun⟩
  codeBlock _ := ⟨nofun, nofun⟩
  color _ := ⟨nofun, nofun⟩
  avatar _ _ := ⟨nofun, fun _ h => by cases h; rfl⟩

theorem SegmentKind.AllowsMention.noPicture (config : Config) :
    AllowsMention config (NoPicture config) :=
  (Allows.noPicture config).withMention fun _ => ⟨nofun, nofun⟩

def NodeKind.pictures (large : Bool) : NodeKind → List Picture
  | .emoji e => [.emoji e large]
  | _ => []

/-- The emoji that are drawn of a tree. -/
def Node.pictures (node : Node) (large : Bool) : List Picture :=
  node.collect (NodeKind.pictures large)

namespace Canvas

/-- A canvas of a depth, with emoji of a size, that has the images of pictures and no others. -/
structure Shows (config : Config) (depth : Nat) (large : Bool) (pictures : List Picture)
    (c : Canvas) : Prop where
  depth : c.depth = depth
  emojiSize : c.emojiSize = config.sizeOfEmoji large
  images : c.segments.filterMap Segment.image? = pictures.map (Picture.image config)
  avatars : ∀ avatar ∈ c.segments.filterMap Segment.avatar?, avatar.size = config.avatarSize

variable {config : Config} {depth : Nat} {large : Bool} {pictures : List Picture} {c : Canvas}

theorem shows_fresh (config : Config) : (Canvas.fresh config).Shows config 0 false [] :=
  ⟨rfl, rfl, rfl, fun _ => nofun⟩

theorem Shows.addRun (h : c.Shows config depth large pictures) {d : Canvas}
    (hdepth : d.depth = c.depth) (hsize : d.emojiSize = c.emojiSize)
    (hsegments : d.segments = RichChat.addRun c.segments (c.runs.region c.runs.active c.length)) :
    d.Shows config depth large pictures := by
  refine ⟨hdepth.trans h.depth, hsize.trans h.emojiSize, ?_, ?_⟩
  · rw [hsegments, filterMap_addRun fun _ _ _ => rfl, h.images]
  · rw [hsegments, filterMap_addRun fun _ _ _ => rfl]
    exact h.avatars

theorem stable_shows (config : Config) (depth : Nat) (large : Bool) (pictures : List Picture) :
    Stable (SegmentKind.NoPicture config) (Shows config depth large pictures) where
  flush {c} h := by
    rcases c.flush_cases with ⟨-, heq⟩ | ⟨-, heq⟩ <;> rw [heq]
    · exact h
    · exact h.addRun rfl rfl rfl
  append _ h := ⟨h.depth, h.emojiSize, h.images, h.avatars⟩
  change {c} counts h := by
    rcases c.change_cases counts with ⟨-, heq⟩ | ⟨-, heq⟩ <;> rw [heq]
    · exact ⟨h.depth, h.emojiSize, h.images, h.avatars⟩
    · exact h.addRun rfl rfl rfl
  push {c s} hk _ h := by
    have himage : s.image? = none := by
      unfold Segment.image?
      split
      · exact absurd ‹_› (hk.1 _)
      · rfl
    refine ⟨h.depth, h.emojiSize, ?_, ?_⟩
    · simpa [push, himage] using h.images
    · intro avatar hmem
      rw [push, List.filterMap_append, List.mem_append] at hmem
      rcases hmem with hmem | hmem
      · exact h.avatars avatar hmem
      · obtain ⟨s, hs, hkind⟩ := List.mem_filterMap.1 hmem
        obtain rfl := List.mem_singleton.1 hs
        exact hk.2 avatar (Segment.avatar?_eq_some.1 hkind)
  frame _ _ _ _ h := ⟨h.depth, h.emojiSize, h.images, h.avatars⟩

section Draw

variable (scene : Scene)

/-- The image of a picture is one more. -/
theorem Shows.anchor (h : c.Shows config depth large pictures) (picture : Picture) :
    (c.anchor (.image (picture.image config))).Shows config depth large
      (pictures ++ [picture]) := by
  have hflush := (stable_shows _ _ _ _).flush h
  refine ⟨hflush.depth, hflush.emojiSize, ?_, ?_⟩
  · have := hflush.images
    simpa [Canvas.anchor, cursor, push, Segment.image?] using this
  · have := hflush.avatars
    simpa [Canvas.anchor, cursor, push, Segment.avatar?] using this

theorem Shows.emoji (h : c.Shows config depth large pictures) (e : CustomEmoji) :
    (c.placeEmoji config e c.emojiSize).Shows config depth large
      (pictures ++ [.emoji e large]) := by
  rw [h.emojiSize]
  exact h.anchor (.emoji e large)

theorem Shows.note (h : c.Shows config depth large pictures) (requested : List FetchRequest) :
    Shows config depth large pictures { c with requested } :=
  ⟨h.depth, h.emojiSize, h.images, h.avatars⟩

theorem Shows.mentionUser (h : c.Shows scene.config depth large pictures) (id : UserId)
    (known : Option User) :
    (c.mentionUser scene id known).Shows scene.config depth large pictures :=
  (stable_shows _ _ _ _).mentionUser (SegmentKind.AllowsMention.noPicture _) (fun _ h => h.note _) h
    id known

theorem Shows.mention (h : c.Shows scene.config depth large pictures) (target : Reference) :
    (c.mention scene target).Shows scene.config depth large pictures :=
  (stable_shows _ _ _ _).mention (SegmentKind.AllowsMention.noPicture _) (fun _ h => h.note _) h
    target

theorem tells_shows (depth : Nat) (large : Bool) :
    Tells scene (NodeKind.pictures large) (Shows scene.config depth large) where
  enter kind children parent next h := by
    cases kind with
    | emoji e => exact h.emoji e
    | mention target =>
      rw [show NodeKind.pictures large _ = [] from rfl, List.append_nil]
      exact h.mention scene target
    | _ =>
      rw [show NodeKind.pictures large _ = [] from rfl, List.append_nil]
      exact (stable_shows _ _ _ _).visitor (.noPicture _) _ (fun _ => nofun) (fun _ => nofun) h
  leave _ _ _ h := (stable_shows _ _ _ _).visitor (.noPicture _) _ nofun nofun h

theorem Shows.draw (h : c.Shows scene.config depth large pictures) (node : Node) :
    (c.draw .builtin scene node).Shows scene.config depth large
      (pictures ++ node.pictures large) :=
  (tells_shows scene depth large).draw h node

/-- The emoji of a document may be large. -/
theorem Shows.document (h : c.Shows scene.config depth false pictures) (node : Node) :
    (c.document .builtin scene node).Shows scene.config depth (scene.config.enlarges node)
      (pictures ++ node.pictures (scene.config.enlarges node)) := by
  refine Shows.draw scene ?_ node
  have hsize : (c.sizeEmoji scene.config node).emojiSize
      = scene.config.sizeOfEmoji (scene.config.enlarges node) := by
    unfold sizeEmoji Config.enlarges Config.sizeOfEmoji
    cases node.emojiOnlyCount with
    | none => exact h.emojiSize
    | some n =>
      dsimp only
      by_cases hn : 0 < n ∧ n ≤ scene.config.largeEmojiLimit
      · simp [hn]
      · simpa [hn, Config.sizeOfEmoji] using h.emojiSize
  obtain ⟨emojiSize, heq⟩ := c.sizeEmoji_eq scene.config node
  rw [heq] at hsize ⊢
  exact ⟨h.depth, hsize, h.images, h.avatars⟩

/-- In a nested rendering emoji are not large, whatever there is besides. -/
theorem Shows.nested (h : c.Shows scene.config depth large pictures) (source : String) :
    (c.nested .builtin scene source).Shows scene.config depth large
      (pictures ++ if scene.config.maxDepth ≤ depth + 1 then []
        else (Node.ofSource source).pictures false) := by
  unfold Canvas.nested
  rw [h.depth]
  split
  · rw [List.append_nil]
    exact (stable_shows _ _ _ _).put h source
  · have hchild : (c.flush.splitRun.child scene.config).Shows scene.config
        (c.flush.splitRun.depth + 1) false [] := ⟨rfl, rfl, rfl, fun _ => nofun⟩
    have hinner := (stable_shows _ _ _ _).finish (SegmentKind.Allows.noPicture _).quoteBlock
      (hchild.draw scene (.ofSource source))
    have hflush := (stable_shows _ _ _ _).flush h
    rw [adopt_eq]
    refine ⟨hflush.depth, hflush.emojiSize, ?_, fun avatar hmem => ?_⟩
    · rw [List.filterMap_append, filterMap_addRun fun _ _ _ => rfl, List.map_append, hflush.images,
        hinner.images, List.nil_append]
    · rw [List.filterMap_append, filterMap_addRun fun _ _ _ => rfl, List.mem_append] at hmem
      exact hmem.elim (hflush.avatars avatar) (hinner.avatars avatar)

end Draw

end Canvas

/-- The pictures of an embed. A description that is too deep is not drawn. -/
def Embed.pictures (embed : Embed) (config : Config) : List Picture :=
  (embed.thumbnail.map Picture.thumbnail).toList
    ++ (if config.maxDepth ≤ 1 then [] else match embed.description with
      | some text => (Node.ofSource text).pictures false
      | none => [])
    ++ (embed.image.map Picture.main).toList

def Attachment.pictures (file : Attachment) (config : Config) : List Picture :=
  if config.isImageFile file.filename then [.file file] else []

namespace Message

/-- The pictures of a message, in the order in which they are drawn. -/
def pictures (message : Message) (config : Config) : List Picture :=
  let node := Node.ofSource message.content
  node.pictures (config.enlarges node) ++ message.embeds.flatMap (·.pictures config)
    ++ message.attachments.flatMap (·.pictures config)

/-- The pictures in the line that a reply header shows. -/
def excerptPictures (message : Message) : List Picture :=
  match message.excerpt? with
  | some line => (Node.ofSource (String.ofList line)).pictures false
  | none => []

end Message

/-- The picture of a custom status, if its emoji is one of a guild. -/
def Activity.pictures (activity : Activity) : List Picture :=
  match activity.kind, activity.emoji with
  | .custom, some ⟨name, some id, animated⟩ => [.emoji ⟨name, id, animated⟩ false]
  | _, _ => []

namespace Canvas.Shows

variable {config : Config} {large : Bool} {pictures : List Picture} {c : Canvas}

theorem part (h : c.Shows config 0 large pictures) {α : Type} (part : Option α)
    (picture : α → Picture) {draw : Canvas → α → Canvas}
    (hdraw : ∀ x, draw c x = c.ensureBreak.anchor (.image ((picture x).image config))) :
    (c.drawSome part draw).Shows config 0 large
      (pictures ++ (part.map picture).toList) := by
  cases part with
  | none => simpa [drawSome] using h
  | some x =>
    rw [drawSome, hdraw]
    exact ((stable_shows _ _ _ _).ensureBreak h).anchor (picture x)

theorem embed (scene : Scene) (h : c.Shows scene.config 0 large pictures) (embed : Embed) :
    (c.embed .builtin scene embed).Shows scene.config 0 large
      (pictures ++ embed.pictures scene.config) := by
  have allows := SegmentKind.Allows.noPicture scene.config
  have stable := stable_shows scene.config 0 large
  unfold Embed.pictures
  rw [← List.append_assoc, ← List.append_assoc]
  refine embed_steps scene c (Q := Shows scene.config 0 large pictures)
    (S := Shows scene.config 0 large (_ ++ _)) ((stable _).embedLine allows h embed)
    (fun author hc => (stable _).embedAuthor allows hc author)
    (fun title hc => (stable _).embedTitle allows hc _ title)
    (fun hc => hc.part embed.thumbnail .thumbnail fun _ => rfl) ?_
    (fun field hc => (stable _).embedField hc field)
    (fun hc => (stable _).embedFooter allows ((stable _).ensureBreak hc) embed)
    (fun hc => hc.part embed.image .main fun _ => rfl)
  intro c hc
  rcases embed.description_cases with ⟨hnone, hd⟩ | ⟨text, hsome, hd⟩
  · have hempty : (Node.ofSource "").pictures false = [] := rfl
    rw [hnone]
    rcases hd with hd | hd <;> simpa [hd, hempty, drawSome] using hc
  · rw [hsome, hd]
    exact ((stable _).ensureBreak hc).nested scene text

theorem embeds (scene : Scene) (h : c.Shows scene.config 0 large pictures) (embeds : List Embed) :
    (embeds.foldl (·.embed .builtin scene) c).Shows scene.config 0 large
      (pictures ++ embeds.flatMap (·.pictures scene.config)) := by
  induction embeds generalizing c pictures with
  | nil => simpa using h
  | cons embed embeds ih => simpa using ih (h.embed scene embed)

theorem attachment (h : c.Shows config 0 large pictures) (file : Attachment) :
    (c.attachment config file).Shows config 0 large
      (pictures ++ file.pictures config) := by
  unfold Attachment.pictures
  cases hfile : config.isImageFile file.filename with
  | true =>
    unfold Canvas.attachment
    rw [if_pos rfl, if_pos hfile]
    exact ((stable_shows _ _ _ _).ensureBreak h).anchor (.file file)
  | false =>
    rw [if_neg Bool.false_ne_true, List.append_nil]
    exact (stable_shows _ _ _ _).attachment (.noPicture _) h (by simp [hfile])

theorem attachments (h : c.Shows config 0 large pictures) (files : List Attachment) :
    (c.attachments config files).Shows config 0 large
      (pictures ++ files.flatMap (·.pictures config)) := by
  have hfiles : ∀ {c : Canvas} {pictures}, c.Shows config 0 large pictures →
      (files.foldl (·.attachment config) c).Shows config 0 large
        (pictures ++ files.flatMap (·.pictures config)) := by
    induction files with
    | nil => exact fun h => by simpa using h
    | cons file files ih => exact fun h => by simpa using ih (h.attachment file)
  unfold Canvas.attachments
  split
  · rename_i hempty
    simpa [List.isEmpty_iff.1 hempty] using h
  · exact hfiles ((stable_shows _ _ _ _).startBlock h)

theorem excerpt (scene : Scene) (h : c.Shows scene.config 0 false pictures) (message : Message) :
    (c.excerpt .builtin scene message).Shows scene.config 0 false
      (pictures ++ message.excerptPictures) := by
  unfold Canvas.excerpt Message.excerptPictures
  cases message.excerpt? with
  | none =>
    rw [List.append_nil]
    dsimp only
    split
    · exact h
    · exact (stable_shows _ _ _ _).writeWith h _ _
  | some line =>
    let node := Node.ofSource (String.ofList line)
    have hinlines : Node.collectAll (NodeKind.pictures false) node.inlines = node.pictures false :=
      Node.collectAll_inlines (fun kind _ he => by
        cases kind with
        | emoji e => exact absurd rfl he
        | _ => rfl) node
    have := h.draw scene (.mk .document [.mk .paragraph node.inlines])
    simpa [Node.pictures, Node.collect, Node.collectAll, NodeKind.pictures, NodeKind.isAtom,
      hinlines] using this

theorem replied (scene : Scene) (h : c.Shows scene.config 0 false pictures) (message : Message) :
    (c.replied .builtin scene message).Shows scene.config 0 false
      (pictures ++ message.excerptPictures) :=
  ((stable_shows _ _ _ _).put (h.mentionUser scene _ _) ": ").excerpt scene message

theorem status (h : c.Shows config 0 false pictures) {activity : Activity}
    (hkind : activity.kind = .custom) :
    (c.status config activity).Shows config 0 false (pictures ++ activity.pictures) := by
  have stable := stable_shows config 0 false
  have hemoji : (c.drawSome activity.emoji fun c emoji =>
      let c := c.statusEmoji config emoji
      if activity.state.isSome then c.put " " else c).Shows config 0 false
        (pictures ++ activity.pictures) := by
    unfold Activity.pictures
    rw [hkind]
    cases activity.emoji with
    | none => simpa [drawSome] using h
    | some emoji =>
      obtain ⟨name, id, animated⟩ := emoji
      have hstatus : (c.statusEmoji config ⟨name, id, animated⟩).Shows config 0 false
          (pictures ++ (id.map fun id => Picture.emoji ⟨name, id, animated⟩ false).toList) := by
        cases id with
        | none =>
          rw [Option.map_none, Option.toList_none, List.append_nil]
          exact (stable _).put h name
        | some id => exact h.anchor (.emoji ⟨name, id, animated⟩ false)
      cases id <;> dsimp only [drawSome] <;> split
      · exact (stable _).put hstatus _
      · exact hstatus
      · exact (stable _).put hstatus _
      · exact hstatus
  exact drawSome_keeps (Q := Shows config 0 false (pictures ++ activity.pictures))
    (fun text hc => (stable _).put hc text) _ hemoji

end Canvas.Shows

/-- A text with the images of pictures and no others. No size is zero, and avatars have the size
that is configured. -/
structure RichText.Sized (config : Config) (pictures : List Picture) (t : RichText) : Prop where
  images : List.Forall₂ (Picture.Suits config) pictures t.images
  image_pos : ∀ image ∈ t.images, 1 ≤ image.width ∧ 1 ≤ image.height
  avatars : ∀ avatar ∈ t.avatars, avatar.size = config.avatarSize ∧ 1 ≤ avatar.size

section Valid

variable {config : Config} (h : config.validate = .ok ())
include h

theorem Config.one_le_size (name : String) {size : UInt32} (hs : (name, size) ∈ config.sizes) :
    1 ≤ size :=
  UInt32.le_iff_toNat_le.2
    (Nat.one_le_iff_ne_zero.2 fun h0 => config.size_ne_zero h name hs (UInt32.toNat.inj h0))

theorem Picture.image_pos (picture : Picture) :
    1 ≤ (picture.image config).width ∧ 1 ≤ (picture.image config).height := by
  have hsuits := picture.suits_image h
  cases picture with
  | emoji e large =>
    have hsize : 1 ≤ config.sizeOfEmoji large := by
      cases large with
      | true => exact config.one_le_size h "large_emoji_size" (.tail _ (.head _))
      | false => exact config.one_le_size h "emoji_size" (.head _)
    exact ⟨hsize, hsize⟩
  | thumbnail media => exact ⟨hsuits.2.one_le_width, hsuits.2.one_le_height⟩
  | main media => exact ⟨hsuits.2.one_le_width, hsuits.2.one_le_height⟩
  | file f => exact ⟨hsuits.2.2.one_le_width, hsuits.2.2.one_le_height⟩

end Valid

/-- What is drawn with the images of pictures becomes a text with them. -/
theorem Scene.sized_compose (scene : Scene) (h : scene.config.validate = .ok ())
    {draw : Canvas → Canvas} (large : Bool) {pictures : List Picture}
    (hdraw : (draw (.fresh scene.config)).Shows scene.config 0 large pictures) :
    (scene.compose draw).text.Sized scene.config pictures := by
  have hfinish := (Canvas.stable_shows _ _ _ _).finish
    (SegmentKind.Allows.noPicture _).quoteBlock hdraw
  have himages : (scene.compose draw).text.images = pictures.map (Picture.image scene.config) :=
    hfinish.images
  refine ⟨?_, ?_, fun avatar hmem => ?_⟩
  · rw [himages, List.forall₂_map_right_iff, List.forall₂_same]
    exact fun picture _ => picture.suits_image h
  · rw [himages, List.forall_mem_map]
    exact fun picture _ => picture.image_pos h
  · rw [hfinish.avatars avatar hmem]
    exact ⟨rfl, scene.config.one_le_size h "avatar_size" (.tail _ (.tail _ (.head _)))⟩

section Renderings

variable {config : Config} (h : config.validate = .ok ())
include h

theorem Message.sized_render (message : Message) (store : Option Store) :
    (message.render config store).text.Sized config (message.pictures config) := by
  let scene : Scene := { config, message := some message, store }
  have hbody := (Canvas.shows_fresh config).document scene (.ofSource message.content)
  rw [List.nil_append] at hbody
  exact scene.sized_compose h _
    ((hbody.embeds scene message.embeds).attachments message.attachments)

theorem Message.sized_renderReply (message : Message) (referenced : Option Message)
    (store : Option Store) :
    (message.renderReply referenced config store).text.Sized config
      (referenced.elim [] Message.excerptPictures) := by
  have stable := Canvas.stable_shows config 0 false
  have hput := (stable []).put (Canvas.shows_fresh config) "↪ "
  unfold Message.renderReply
  refine Scene.sized_compose { config, message := some (referenced.getD message), store } h false
    ?_
  cases referenced with
  | none =>
    have hdeleted := (stable []).writeWith hput .italic "Original message was deleted"
    dsimp only
    split
    · exact (stable _).emitAll hdeleted ⟨nofun, nofun⟩
    · exact hdeleted
  | some m =>
    let scene : Scene := { config, message := some m, store }
    have := hput.replied scene m
    exact (stable _).emitAll this ⟨nofun, nofun⟩

theorem Activity.sized_render (activity : Activity) :
    (activity.render config).text.Sized config activity.pictures := by
  have hfresh := Canvas.shows_fresh config
  unfold Activity.render
  refine Scene.sized_compose { config } h false ?_
  dsimp only
  cases hkind : activity.kind with
  | custom => exact hfresh.status hkind
  | _ =>
    have hnone : activity.pictures = [] := by simp [Activity.pictures, hkind]
    rw [hnone]
    exact (Canvas.stable_shows _ _ _ _).activity (SegmentKind.Allows.noPicture _).link hfresh _
      activity

theorem User.sized_renderTooltip (user : User) (guild : Option GuildId) (store : Option Store) :
    (user.renderTooltip guild config store).text.Sized config [] := by
  obtain ⟨draw, heq, hdraw⟩ := (Canvas.stable_shows config 0 false []).tooltip
    (SegmentKind.Allows.noPicture _) (fun _ h => h.note _) (Canvas.shows_fresh config) user guild
    store
  rw [heq]
  exact Scene.sized_compose { config, store } h false hdraw

end Renderings

/-- With a configuration that passes the rules, no image and no avatar has a size of zero, and every
image fits the box of its kind. -/
theorem Config.sized_renderings {config : Config} (h : config.validate = .ok ())
    (store : Option Store) :
    (∀ message : Message,
      (message.render config store).text.Sized config (message.pictures config)) ∧
    (∀ (message : Message) (referenced : Option Message),
      (message.renderReply referenced config store).text.Sized config
        (referenced.elim [] Message.excerptPictures)) ∧
    (∀ activity : Activity, (activity.render config).text.Sized config activity.pictures) ∧
    ∀ (user : User) (guild : Option GuildId),
      (user.renderTooltip guild config store).text.Sized config [] :=
  ⟨fun message => message.sized_render h store,
    fun message referenced => message.sized_renderReply h referenced store,
    fun activity => activity.sized_render h,
    fun user guild => user.sized_renderTooltip h guild store⟩

/-- A thumbnail that is said to be very wide, an image and a file of unknown size, and an emoji that
is not alone. -/
theorem Config.sized_renderings_wide :
    let config : Config := { thumbnailSize := 10 }
    let wide : EmbedMedia := { url := "t", width := 4294967295, height := 1 }
    let unknown : EmbedMedia := { url := "i", width := 0, height := 7 }
    let photo : Attachment := { filename := "p.PNG", url := "p" }
    let message : Message :=
      { id := ⟨1⟩, channel := ⟨2⟩, author := { id := ⟨3⟩, username := "" }, content := "hi <:ok:5>",
        embeds := [{ thumbnail := some wide, image := some unknown }], attachments := [photo] }
    let pictures : List Picture :=
      [.emoji ⟨"ok", ⟨5⟩, false⟩ false, .thumbnail wide, .main unknown, .file photo]
    config.validate = .ok () ∧
      pictures.map (fun picture => ((picture.image config).width, (picture.image config).height))
        = [(22, 22), (10, 1), (400, 300), (400, 300)] ∧
      (message.render config none).text.Sized config pictures := by
  intro config wide unknown photo message pictures
  have hvalid : config.validate = .ok () := rfl
  have hpictures : message.pictures config = pictures := by cbv
  refine ⟨hvalid, by decide, ?_⟩
  rw [← hpictures]
  exact (Config.sized_renderings hvalid none).1 message

end RichChat
