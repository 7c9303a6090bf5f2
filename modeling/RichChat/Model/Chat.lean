import RichChat.Model.Id
import RichChat.Time.Timestamp

/-!
# Chat data

Users, their memberships in guilds, roles, channels, messages with their embeds and attachments, and
presence activities, as they come from the chat.
-/

namespace RichChat

structure User where
  id : UserId
  username : String
  /-- The name that the user chose to be shown by. -/
  globalName : Option String := none
  /-- A hash, which starts with `a_` when the avatar is animated. -/
  avatar : Option String := none
  bot : Bool := false
  deriving DecidableEq, Inhabited

def User.displayName (user : User) : String := user.globalName.getD user.username

/-- A user's membership in a guild. -/
structure Member where
  user : User
  nick : Option String := none
  roles : List RoleId := []
  /-- The hash of an avatar for this guild only. -/
  avatar : Option String := none
  deriving DecidableEq, Inhabited

def Member.displayName (member : Member) : String := member.nick.getD member.user.displayName

structure Role where
  id : RoleId
  name : String
  /-- An RGB color. Zero gives names no color. -/
  color : UInt32 := 0
  position : Int32 := 0
  deriving DecidableEq, Inhabited

structure Channel where
  id : ChannelId
  guild : Option GuildId := none
  name : String
  deriving DecidableEq, Inhabited

structure EmbedAuthor where
  name : String
  url : Option String := none
  iconUrl : Option String := none
  deriving DecidableEq, Inhabited

structure EmbedFooter where
  text : String
  iconUrl : Option String := none
  deriving DecidableEq, Inhabited

/-- The image or the thumbnail of an embed. -/
structure EmbedMedia where
  url : String
  proxyUrl : Option String := none
  width : UInt32 := 0
  height : UInt32 := 0
  deriving DecidableEq, Inhabited

/-- Where the picture is loaded from: its proxied copy, if there is one. -/
def EmbedMedia.source (media : EmbedMedia) : String := media.proxyUrl.getD media.url

structure EmbedField where
  name : String
  value : String
  inline : Bool := false
  deriving DecidableEq, Inhabited

/-- A card attached to a message, such as the preview of a link. -/
structure Embed where
  title : Option String := none
  url : Option String := none
  /-- Markdown, rendered like the body of a message. -/
  description : Option String := none
  color : Option UInt32 := none
  timestamp : Option Timestamp := none
  author : Option EmbedAuthor := none
  footer : Option EmbedFooter := none
  thumbnail : Option EmbedMedia := none
  image : Option EmbedMedia := none
  fields : List EmbedField := []
  deriving DecidableEq, Inhabited

/-- A file uploaded with a message. -/
structure Attachment where
  filename : String
  url : String
  proxyUrl : Option String := none
  size : UInt64 := 0
  width : Option UInt32 := none
  height : Option UInt32 := none
  deriving DecidableEq, Inhabited

def Attachment.source (file : Attachment) : String := file.proxyUrl.getD file.url

structure Message where
  id : MessageId
  channel : ChannelId
  guild : Option GuildId := none
  author : User
  content : String := ""
  /-- The users mentioned in the content, as delivered with it. -/
  mentions : List User := []
  embeds : List Embed := []
  attachments : List Attachment := []
  /-- The message that this one replies to. -/
  reference : Option MessageId := none
  timestamp : Option Timestamp := none
  deriving DecidableEq, Inhabited

inductive ActivityKind
  | playing | streaming | listening | watching | custom | competing
  deriving DecidableEq, Inhabited

/-- The emoji of a custom status, which has an id unless it is a plain character. -/
structure ActivityEmoji where
  name : String
  id : Option EmojiId := none
  animated : Bool := false
  deriving DecidableEq, Inhabited

/-- What a user is doing. -/
structure Activity where
  kind : ActivityKind
  name : String
  url : Option String := none
  details : Option String := none
  state : Option String := none
  emoji : Option ActivityEmoji := none
  deriving DecidableEq, Inhabited

end RichChat
