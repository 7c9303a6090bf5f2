import RichChat.Json.Decode
import RichChat.Model.Store
import RichChat.Time.Rfc3339

/-!
# Chat data in JSON

For every type of the chat's data a reader and a writer. What is written has every field, with
`null` for none; what is read may leave out fields that have a default.
-/

namespace RichChat

open Json

namespace Id

def ofJson {kind : Entity} (j : Json) : Decoded (Id kind) := (toWord j).map fun n => ⟨n⟩

def toJson {kind : Entity} (id : Id kind) : Json := ofWord id.value

end Id

namespace Timestamp

def ofJson (j : Json) : Decoded Timestamp := do
  match ofRfc3339? (← toText j) with
  | some t => return t
  | none => throw .unexpected

def toJson (t : Timestamp) : Json := str t.toRfc3339

end Timestamp

namespace User

def reader : FieldReader User :=
  return {
    id := ← required "id" Id.ofJson
    username := ← required "username" toText
    globalName := ← optional "global_name" toText
    avatar := ← optional "avatar" toText
    bot := ← withDefault "bot" toBool false }

def ofJson : Json → Decoded User := toRecord reader

def toJson (user : User) : Json :=
  obj [("id", user.id.toJson), ("username", str user.username),
    ("global_name", ofOption str user.globalName), ("avatar", ofOption str user.avatar),
    ("bot", bool user.bot)]

end User

namespace Member

def reader : FieldReader Member :=
  return {
    user := ← required "user" User.ofJson
    nick := ← optional "nick" toText
    roles := ← withDefault "roles" (toListOf Id.ofJson) []
    avatar := ← optional "avatar" toText }

def ofJson : Json → Decoded Member := toRecord reader

def toJson (member : Member) : Json :=
  obj [("user", member.user.toJson), ("nick", ofOption str member.nick),
    ("roles", arr (member.roles.map Id.toJson)), ("avatar", ofOption str member.avatar)]

end Member

namespace Role

def reader : FieldReader Role :=
  return {
    id := ← required "id" Id.ofJson
    name := ← required "name" toText
    color := ← withDefault "color" toHalf 0
    position := ← withDefault "position" toSignedHalf 0 }

def ofJson : Json → Decoded Role := toRecord reader

def toJson (role : Role) : Json :=
  obj [("id", role.id.toJson), ("name", str role.name), ("color", ofHalf role.color),
    ("position", int role.position.toInt)]

end Role

namespace Channel

def reader : FieldReader Channel :=
  return {
    id := ← required "id" Id.ofJson
    guild := ← optional "guild_id" Id.ofJson
    name := ← required "name" toText }

def ofJson : Json → Decoded Channel := toRecord reader

def toJson (channel : Channel) : Json :=
  obj [("id", channel.id.toJson), ("guild_id", ofOption Id.toJson channel.guild),
    ("name", str channel.name)]

end Channel

namespace EmbedAuthor

def ofJson : Json → Decoded EmbedAuthor := toRecord do
  return {
    name := ← required "name" toText
    url := ← optional "url" toText
    iconUrl := ← optional "icon_url" toText }

def toJson (author : EmbedAuthor) : Json :=
  obj [("name", str author.name), ("url", ofOption str author.url),
    ("icon_url", ofOption str author.iconUrl)]

end EmbedAuthor

namespace EmbedFooter

def ofJson : Json → Decoded EmbedFooter := toRecord do
  return {
    text := ← required "text" toText
    iconUrl := ← optional "icon_url" toText }

def toJson (footer : EmbedFooter) : Json :=
  obj [("text", str footer.text), ("icon_url", ofOption str footer.iconUrl)]

end EmbedFooter

namespace EmbedMedia

def ofJson : Json → Decoded EmbedMedia := toRecord do
  return {
    url := ← required "url" toText
    proxyUrl := ← optional "proxy_url" toText
    width := ← withDefault "width" toHalf 0
    height := ← withDefault "height" toHalf 0 }

def toJson (media : EmbedMedia) : Json :=
  obj [("url", str media.url), ("proxy_url", ofOption str media.proxyUrl),
    ("width", ofHalf media.width), ("height", ofHalf media.height)]

end EmbedMedia

namespace EmbedField

def ofJson : Json → Decoded EmbedField := toRecord do
  return {
    name := ← required "name" toText
    value := ← required "value" toText
    inline := ← withDefault "inline" toBool false }

def toJson (field : EmbedField) : Json :=
  obj [("name", str field.name), ("value", str field.value), ("inline", bool field.inline)]

end EmbedField

namespace Embed

def ofJson : Json → Decoded Embed := toRecord do
  return {
    title := ← optional "title" toText
    url := ← optional "url" toText
    description := ← optional "description" toText
    color := ← optional "color" toHalf
    timestamp := ← optional "timestamp" Timestamp.ofJson
    author := ← optional "author" EmbedAuthor.ofJson
    footer := ← optional "footer" EmbedFooter.ofJson
    thumbnail := ← optional "thumbnail" EmbedMedia.ofJson
    image := ← optional "image" EmbedMedia.ofJson
    fields := ← withDefault "fields" (toListOf EmbedField.ofJson) [] }

def toJson (embed : Embed) : Json :=
  obj [("title", ofOption str embed.title), ("url", ofOption str embed.url),
    ("description", ofOption str embed.description), ("color", ofOption ofHalf embed.color),
    ("timestamp", ofOption Timestamp.toJson embed.timestamp),
    ("author", ofOption EmbedAuthor.toJson embed.author),
    ("footer", ofOption EmbedFooter.toJson embed.footer),
    ("thumbnail", ofOption EmbedMedia.toJson embed.thumbnail),
    ("image", ofOption EmbedMedia.toJson embed.image),
    ("fields", arr (embed.fields.map EmbedField.toJson))]

end Embed

namespace Attachment

def ofJson : Json → Decoded Attachment := toRecord do
  return {
    filename := ← required "filename" toText
    url := ← required "url" toText
    proxyUrl := ← optional "proxy_url" toText
    size := ← withDefault "size" toWord 0
    width := ← optional "width" toHalf
    height := ← optional "height" toHalf }

def toJson (file : Attachment) : Json :=
  obj [("filename", str file.filename), ("url", str file.url),
    ("proxy_url", ofOption str file.proxyUrl), ("size", ofWord file.size),
    ("width", ofOption ofHalf file.width), ("height", ofOption ofHalf file.height)]

end Attachment

namespace Message

def ofJson : Json → Decoded Message := toRecord do
  return {
    id := ← required "id" Id.ofJson
    channel := ← required "channel_id" Id.ofJson
    guild := ← optional "guild_id" Id.ofJson
    author := ← required "author" User.ofJson
    content := ← withDefault "content" toText ""
    mentions := ← withDefault "mentions" (toListOf User.ofJson) []
    embeds := ← withDefault "embeds" (toListOf Embed.ofJson) []
    attachments := ← withDefault "attachments" (toListOf Attachment.ofJson) []
    reference := ← optional "reference" Id.ofJson
    timestamp := ← optional "timestamp" Timestamp.ofJson }

def toJson (message : Message) : Json :=
  obj [("id", message.id.toJson), ("channel_id", message.channel.toJson),
    ("guild_id", ofOption Id.toJson message.guild), ("author", message.author.toJson),
    ("content", str message.content), ("mentions", arr (message.mentions.map User.toJson)),
    ("embeds", arr (message.embeds.map Embed.toJson)),
    ("attachments", arr (message.attachments.map Attachment.toJson)),
    ("reference", ofOption Id.toJson message.reference),
    ("timestamp", ofOption Timestamp.toJson message.timestamp)]

end Message

namespace ActivityKind

def named : List (String × ActivityKind) :=
  [("playing", playing), ("streaming", streaming), ("listening", listening),
    ("watching", watching), ("custom", custom), ("competing", competing)]

def toText : ActivityKind → String
  | playing => "playing"
  | streaming => "streaming"
  | listening => "listening"
  | watching => "watching"
  | custom => "custom"
  | competing => "competing"

end ActivityKind

namespace ActivityEmoji

def ofJson : Json → Decoded ActivityEmoji := toRecord do
  return {
    name := ← required "name" toText
    id := ← optional "id" Id.ofJson
    animated := ← withDefault "animated" toBool false }

def toJson (emoji : ActivityEmoji) : Json :=
  obj [("name", str emoji.name), ("id", ofOption Id.toJson emoji.id),
    ("animated", bool emoji.animated)]

end ActivityEmoji

namespace Activity

def ofJson : Json → Decoded Activity := toRecord do
  return {
    kind := ← required "kind" (toVariant ActivityKind.named)
    name := ← required "name" toText
    url := ← optional "url" toText
    details := ← optional "details" toText
    state := ← optional "state" toText
    emoji := ← optional "emoji" ActivityEmoji.ofJson }

def toJson (activity : Activity) : Json :=
  obj [("kind", str activity.kind.toText), ("name", str activity.name),
    ("url", ofOption str activity.url), ("details", ofOption str activity.details),
    ("state", ofOption str activity.state),
    ("emoji", ofOption ActivityEmoji.toJson activity.emoji)]

end Activity

namespace FetchRequest

def toJson : FetchRequest → Json
  | .member g u => obj [("type", str "member"), ("guild", g.toJson), ("user", u.toJson)]
  | .user u => obj [("type", str "user"), ("user", u.toJson)]
  | .role g r => obj [("type", str "role"), ("guild", g.toJson), ("role", r.toJson)]
  | .channel c => obj [("type", str "channel"), ("channel", c.toJson)]

end FetchRequest

/-- A snapshot of the entities that are known, each kind in a list of its own. -/
def Store.ofJson : Json → Decoded Store := toRecord do
  let users ← withDefault "users" (toListOf User.ofJson) []
  let members ← withDefault "members" (toListOf (toObject do
    return (← required "guild_id" Id.ofJson, ← Member.reader))) []
  let roles ← withDefault "roles" (toListOf (toObject do
    return (← required "guild_id" Id.ofJson, ← Role.reader))) []
  let channels ← withDefault "channels" (toListOf Channel.ofJson) []
  let store := users.foldl insertUser {}
  let store := members.foldl (fun store m => store.insertMember m.1 m.2) store
  let store := roles.foldl (fun store r => store.insertRole r.1 r.2) store
  return channels.foldl insertChannel store

end RichChat
