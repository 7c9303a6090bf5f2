/-!
# Configuration

The settings that every rendering shares, and the rules that a loaded configuration has to keep.
-/

namespace RichChat

structure Config where
  /-- Written in front of every line with text inside a quote. -/
  quoteMarker : String := "> "
  /-- The text of the colored line that opens an embed. -/
  embedSeparator : String := "▌"
  /-- The RGB color of embeds that have none. -/
  defaultEmbedColor : UInt32 := 0x4F545C
  /-- How deep a rendering may be nested, the message itself being the first level. -/
  maxDepth : Nat := 2
  emojiSize : UInt32 := 22
  /-- The size of emoji in a document of nothing but emoji. -/
  largeEmojiSize : UInt32 := 48
  /-- The greatest number of emoji that are shown large. -/
  largeEmojiLimit : Nat := 27
  avatarSize : UInt32 := 24
  /-- Whether a mentioned user's avatar stands before the name. -/
  mentionAvatars : Bool := false
  thumbnailSize : UInt32 := 80
  imageMaxWidth : UInt32 := 400
  imageMaxHeight : UInt32 := 300
  /-- How the timestamp of an embed is written. -/
  timestampFormat : String := "%Y-%m-%d %H:%M"
  /-- The extensions of files that are shown as images. -/
  imageExtensions : List String := ["png", "jpg", "jpeg", "gif", "webp"]
  /-- The address that avatars and emoji are loaded from. -/
  cdnBase : String := "https://cdn.discordapp.com"
  deriving DecidableEq, Inhabited

/-- Why a configuration cannot be used. -/
inductive ConfigError
  /-- The file cannot be read. -/
  | unreadable
  /-- The text is no configuration. -/
  | malformed
  | depth (found : Nat)
  | zero (setting : String)
  | noExtensions
  deriving DecidableEq

namespace ConfigError

/-- The text of an error that the rules give, for those that come from reading a short one. -/
def message : ConfigError → String
  | unreadable => "failed to read config"
  | malformed => "failed to parse config"
  | depth found => "invalid config: max_depth must be between 1 and 8, got " ++ toString found
  | zero setting => "invalid config: " ++ setting ++ " must not be zero"
  | noExtensions => "invalid config: image_extensions must list at least one extension"

end ConfigError

namespace Config

/-- The greatest depth that may be configured. -/
def depthCeiling : Nat := 8

/-- The sizes that must not be zero, with their names. -/
def sizes (config : Config) : List (String × UInt32) :=
  [("emoji_size", config.emojiSize), ("large_emoji_size", config.largeEmojiSize),
    ("avatar_size", config.avatarSize), ("thumbnail_size", config.thumbnailSize),
    ("image_max_width", config.imageMaxWidth), ("image_max_height", config.imageMaxHeight)]

/-- The first rule that a configuration breaks, or nothing. -/
def validate (config : Config) : Except ConfigError Unit :=
  if config.maxDepth = 0 ∨ depthCeiling < config.maxDepth then .error (.depth config.maxDepth)
  else match config.sizes.find? fun s => s.2 == 0 with
    | some s => .error (.zero s.1)
    | none => if config.imageExtensions.isEmpty then .error .noExtensions else .ok ()

end Config

end RichChat
