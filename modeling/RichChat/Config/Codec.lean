import RichChat.Config.Basic
import RichChat.Json.Decode

/-!
# Configurations in JSON
-/

namespace RichChat.Config

open RichChat.Json

/-- Every setting may be left out. -/
def ofJson : Json → Decoded Config := toRecord do
  let d : Config := {}
  return {
    quoteMarker := ← withDefault "quote_prefix" toText d.quoteMarker
    embedSeparator := ← withDefault "embed_separator" toText d.embedSeparator
    defaultEmbedColor := ← withDefault "default_embed_color" toHalf d.defaultEmbedColor
    maxDepth := ← withDefault "max_depth" toSize d.maxDepth
    emojiSize := ← withDefault "emoji_size" toHalf d.emojiSize
    largeEmojiSize := ← withDefault "large_emoji_size" toHalf d.largeEmojiSize
    largeEmojiLimit := ← withDefault "large_emoji_limit" toSize d.largeEmojiLimit
    avatarSize := ← withDefault "avatar_size" toHalf d.avatarSize
    mentionAvatars := ← withDefault "mention_avatars" toBool d.mentionAvatars
    thumbnailSize := ← withDefault "thumbnail_size" toHalf d.thumbnailSize
    imageMaxWidth := ← withDefault "image_max_width" toHalf d.imageMaxWidth
    imageMaxHeight := ← withDefault "image_max_height" toHalf d.imageMaxHeight
    timestampFormat := ← withDefault "timestamp_format" toText d.timestampFormat
    imageExtensions := ← withDefault "image_extensions" (toListOf toText) d.imageExtensions
    cdnBase := ← withDefault "cdn_base" toText d.cdnBase }

def toJson (c : Config) : Json :=
  obj [("quote_prefix", str c.quoteMarker), ("embed_separator", str c.embedSeparator),
    ("default_embed_color", ofHalf c.defaultEmbedColor), ("max_depth", ofNat c.maxDepth),
    ("emoji_size", ofHalf c.emojiSize), ("large_emoji_size", ofHalf c.largeEmojiSize),
    ("large_emoji_limit", ofNat c.largeEmojiLimit), ("avatar_size", ofHalf c.avatarSize),
    ("mention_avatars", bool c.mentionAvatars), ("thumbnail_size", ofHalf c.thumbnailSize),
    ("image_max_width", ofHalf c.imageMaxWidth), ("image_max_height", ofHalf c.imageMaxHeight),
    ("timestamp_format", str c.timestampFormat),
    ("image_extensions", arr (c.imageExtensions.map str)), ("cdn_base", str c.cdnBase)]

end RichChat.Config
