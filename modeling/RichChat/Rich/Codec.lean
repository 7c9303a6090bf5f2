import RichChat.Json.Decode
import RichChat.Model.Codec
import RichChat.Rich.AttributeText
import RichChat.Rich.Segment

/-!
# Rich text in JSON

A segment is one object: its offsets, the name of its kind under `type`, and the fields of the kind.
The kind may also be given by its place among the kinds.
-/

namespace RichChat

open Json

namespace Attribute

def ofJson (j : Json) : Decoded Attribute := do
  match ofString? (← toText j) with
  | some a => return a
  | none => throw .unexpected

def toJson (a : Attribute) : Json := str a.toString

end Attribute

namespace Rgba

def ofJson (j : Json) : Decoded Rgba := (toHalf j).map fun n => ⟨n⟩

def toJson (c : Rgba) : Json := ofHalf c.packed

end Rgba

namespace ImageAnchor

def reader : FieldReader ImageAnchor :=
  return {
    url := ← required "url" toText
    width := ← required "width" toHalf
    height := ← required "height" toHalf
    altText := ← required "alt_text" toText }

def ofJson : Json → Decoded ImageAnchor := toRecord reader

def fields (image : ImageAnchor) : List (String × Json) :=
  [("url", str image.url), ("width", ofHalf image.width), ("height", ofHalf image.height),
    ("alt_text", str image.altText)]

end ImageAnchor

namespace AvatarAnchor

def reader : FieldReader AvatarAnchor :=
  return {
    url := ← required "url" toText
    size := ← required "size" toHalf
    altText := ← required "alt_text" toText }

def ofJson : Json → Decoded AvatarAnchor := toRecord reader

def fields (avatar : AvatarAnchor) : List (String × Json) :=
  [("url", str avatar.url), ("size", ofHalf avatar.size), ("alt_text", str avatar.altText)]

end AvatarAnchor

namespace MentionKind

def named : List (String × MentionKind) := [("user", user), ("role", role), ("channel", channel)]

def toText : MentionKind → String
  | user => "user"
  | role => "role"
  | channel => "channel"

end MentionKind

namespace MentionData

def ofJson : Json → Decoded MentionData := toRecord do
  return {
    name := ← required "name" toText
    color := ← optional "color" Rgba.ofJson
    avatarUrl := ← optional "avatar_url" toText }

def toJson (data : MentionData) : Json :=
  obj [("name", str data.name), ("color", ofOption Rgba.toJson data.color),
    ("avatar_url", ofOption str data.avatarUrl)]

end MentionData

namespace Mention

def reader : FieldReader Mention :=
  return {
    kind := ← required "kind" (toVariant MentionKind.named)
    id := ← required "id" toWord
    guild := ← optional "guild_id" Id.ofJson
    resolved := ← optional "resolved" MentionData.ofJson }

def fields (mention : Mention) : List (String × Json) :=
  [("kind", str mention.kind.toText), ("id", ofWord mention.id),
    ("guild_id", ofOption Id.toJson mention.guild),
    ("resolved", ofOption MentionData.toJson mention.resolved)]

end Mention

namespace SegmentKind

/-- The readers of the fields of each kind, with the name of the kind. -/
def readers : List (String × FieldReader SegmentKind) :=
  [("attribute", return styled (← required "attributes" Attribute.ofJson)),
    ("link", return link (← required "url" toText)),
    ("quote_block", return quoteBlock),
    ("code_block", return codeBlock (← optional "language" toText)),
    ("color", return color (← required "color" Rgba.ofJson)),
    ("image", return image (← ImageAnchor.reader)),
    ("avatar", return avatar (← AvatarAnchor.reader)),
    ("mention", return mention (← Mention.reader)),
    ("message_reference", return messageReference (← required "message_id" Id.ofJson))]

/-- The reader that a kind's name or place stands for. -/
def readerOf (j : Json) : Decoded (FieldReader SegmentKind) :=
  let found : Option (String × FieldReader SegmentKind) := match j with
    | str name => readers.find? fun r => r.1 == name
    | int n => if 0 ≤ n then readers[n.toNat]? else none
    | _ => none
  match found with
  | some r => .ok r.2
  | none => .error .unexpected

def fields : SegmentKind → List (String × Json)
  | styled a => [("type", str "attribute"), ("attributes", a.toJson)]
  | link url => [("type", str "link"), ("url", str url)]
  | quoteBlock => [("type", str "quote_block")]
  | codeBlock language => [("type", str "code_block"), ("language", ofOption str language)]
  | color c => [("type", str "color"), ("color", c.toJson)]
  | image i => ("type", str "image") :: i.fields
  | avatar a => ("type", str "avatar") :: a.fields
  | mention m => ("type", str "mention") :: m.fields
  | messageReference m => [("type", str "message_reference"), ("message_id", m.toJson)]

end SegmentKind

namespace Segment

def ofJson : Json → Decoded Segment := toObject do
  let start ← required "start" toSize
  let stop ← required "end" toSize
  let reader ← required "type" SegmentKind.readerOf
  return ⟨start, stop, ← reader⟩

def toJson (s : Segment) : Json :=
  obj (("start", ofNat s.start) :: ("end", ofNat s.stop) :: s.kind.fields)

end Segment

namespace RichText

def ofJson : Json → Decoded RichText := toRecord do
  return ⟨← required "content" toText, ← required "segments" (toListOf Segment.ofJson)⟩

def fields (t : RichText) : List (String × Json) :=
  [("content", str t.content), ("segments", arr (t.segments.map Segment.toJson))]

def toJson (t : RichText) : Json := obj t.fields

end RichText

end RichChat
