import RichChat.Config.Path
import RichChat.Render.Registry
import RichChat.Render.Size
import RichChat.Time.Format

/-!
# Embeds and attachments

An embed is a card that opens with a colored line; its parts follow, each on a line of its own. Its
description is markdown. Attachments come after the embeds, one on a line: pictures as anchors,
other files by their names and sizes.
-/

namespace RichChat.Canvas

def placeAvatar (c : Canvas) (config : Config) (url name : String) : Canvas :=
  c.anchor (.avatar ⟨url, config.avatarSize, name⟩)

/-- Places the picture of an embed so that it fits a box. -/
def placeMedia (c : Canvas) (media : EmbedMedia) (maxWidth maxHeight : UInt32) : Canvas :=
  let (width, height) := fit media.width media.height maxWidth maxHeight
  c.anchor (.image ⟨media.source, width, height, ""⟩)

/-- Makes a range a link, if there is an address and the range has text. -/
def linkRange (c : Canvas) (range : Nat × Nat) (url : Option String) : Canvas :=
  match url with
  | some url => if range.1 < range.2 then c.emit range (.link url) else c
  | none => c

/-- Places an icon with a space after it, if there is one. -/
def placeIcon (c : Canvas) (config : Config) (icon : Option String) (name : String) : Canvas :=
  match icon with
  | some icon => (c.placeAvatar config icon name).put " "
  | none => c

def embedAuthor (c : Canvas) (config : Config) (author : EmbedAuthor) : Canvas :=
  let c := c.ensureBreak.placeIcon config author.iconUrl author.name
  let (range, c) := c.write author.name
  c.linkRange range author.url

def embedTitle (c : Canvas) (url : Option String) (title : String) : Canvas :=
  let (range, c) := c.ensureBreak.writeWith .bold title
  c.linkRange range url

def embedField (c : Canvas) (field : EmbedField) : Canvas :=
  let c := c.ensureBreak.put "  "
  (((c.writeWith .bold field.name).2).put ": ").put field.value

/-- The footer and the time of an embed, on one line. -/
def embedFooter (c : Canvas) (config : Config) (embed : Embed) : Canvas :=
  let c := match embed.footer with
    | some footer => (c.placeIcon config footer.iconUrl footer.text).put footer.text
    | none => c
  match embed.timestamp with
  | some t =>
    let c := if embed.footer.isSome then c.put " • " else c
    c.put (t.format config.timestampFormat)
  | none => c

/-- Draws a part, if there is one. -/
def drawSome {α : Type} (c : Canvas) (part : Option α) (draw : Canvas → α → Canvas) : Canvas :=
  match part with
  | some part => draw c part
  | none => c

def embed (c : Canvas) (registry : Registry) (scene : Scene) (embed : Embed) : Canvas :=
  let config := scene.config
  let color := Rgba.ofRgb (embed.color.getD config.defaultEmbedColor)
  let (range, c) := c.startBlock.write config.embedSeparator
  let c := c.emit range (.color color)
  let c := c.drawSome embed.author fun c author => c.embedAuthor config author
  let c := c.drawSome embed.title fun c title => c.embedTitle embed.url title
  let c := c.drawSome embed.thumbnail fun c media =>
    c.ensureBreak.placeMedia media config.thumbnailSize config.thumbnailSize
  let c := c.drawSome (embed.description.filter fun text => !text.isEmpty) fun c text =>
    c.ensureBreak.nested registry scene text
  let c := embed.fields.foldl embedField c
  let c :=
    if embed.footer.isSome || embed.timestamp.isSome then c.ensureBreak.embedFooter config embed
    else c
  c.drawSome embed.image fun c media =>
    c.ensureBreak.placeMedia media config.imageMaxWidth config.imageMaxHeight

def attachment (c : Canvas) (config : Config) (file : Attachment) : Canvas :=
  let c := c.ensureBreak
  if config.isImageFile file.filename then
    let (width, height) := fit (file.width.getD 0) (file.height.getD 0) config.imageMaxWidth
      config.imageMaxHeight
    c.anchor (.image ⟨file.source, width, height, file.filename⟩)
  else
    let (range, c) := (c.put "File: ").write file.filename
    (c.emit range (.link file.url)).put (" (" ++ fileSize file.size.toNat ++ ")")

def attachments (c : Canvas) (config : Config) (files : List Attachment) : Canvas :=
  if files.isEmpty then c else files.foldl (·.attachment config) c.startBlock

end RichChat.Canvas
