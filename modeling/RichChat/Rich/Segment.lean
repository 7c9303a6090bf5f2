import RichChat.Model.Id
import RichChat.Rich.Attribute
import RichChat.Text.Bytes
import RichChat.Text.Decimal

/-!
# Rich text

Rendered text is a plain string with segments over ranges of its bytes. A segment says what its
range is: styled, a link, a quote, a mention. Images and avatars stand at a point between two
characters and cover nothing. Segments are listed in the order in which they were closed.
-/

namespace RichChat

/-- A color of eight bits each of red, green, blue and opacity, packed in that order. -/
structure Rgba where
  packed : UInt32
  deriving DecidableEq, Inhabited

namespace Rgba

/-- The opaque color of the low 24 bits. -/
def ofRgb (rgb : UInt32) : Rgba := ⟨((rgb &&& 0xFFFFFF) <<< 8) ||| 0xFF⟩

def rgb (c : Rgba) : UInt32 := c.packed >>> 8

def alpha (c : Rgba) : UInt8 := c.packed.toUInt8

protected def toString (c : Rgba) : String :=
  String.ofList ('#' :: Text.lastDigits 16 8 c.packed.toNat)

end Rgba

/-- A picture between two characters: a custom emoji, an image of an embed or an attachment. -/
structure ImageAnchor where
  url : String
  width : UInt32
  height : UInt32
  altText : String
  deriving DecidableEq, Inhabited

/-- A round picture of one size between two characters. -/
structure AvatarAnchor where
  url : String
  size : UInt32
  altText : String
  deriving DecidableEq, Inhabited

inductive MentionKind
  | user | role | channel
  deriving DecidableEq, Inhabited

/-- How a mentioned entity is shown. -/
structure MentionData where
  name : String
  color : Option Rgba
  avatarUrl : Option String
  deriving DecidableEq, Inhabited

/-- A mention. It has no `resolved` data when the entity was not known. -/
structure Mention where
  kind : MentionKind
  id : UInt64
  guild : Option GuildId
  resolved : Option MentionData
  deriving DecidableEq, Inhabited

/-- What a range of text is. -/
inductive SegmentKind
  | styled (attributes : Attribute)
  | link (url : String)
  | quoteBlock
  | codeBlock (language : Option String)
  | color (color : Rgba)
  | image (image : ImageAnchor)
  | avatar (avatar : AvatarAnchor)
  | mention (mention : Mention)
  | messageReference (message : MessageId)
  deriving DecidableEq, Inhabited

/-- Whether the kind stands at a point. -/
def SegmentKind.isAnchor : SegmentKind → Bool
  | .image _ | .avatar _ => true
  | _ => false

/-- A range of bytes and what it is. -/
structure Segment where
  start : Nat
  stop : Nat
  kind : SegmentKind
  deriving DecidableEq, Inhabited

namespace Segment

def length (s : Segment) : Nat := s.stop - s.start

def isEmpty (s : Segment) : Bool := s.stop ≤ s.start

/-- The segment with its range moved towards the end. -/
def shift (s : Segment) (n : Nat) : Segment := { s with start := s.start + n, stop := s.stop + n }

end Segment

/-- A text with its segments. -/
structure RichText where
  content : String
  segments : List Segment
  deriving DecidableEq, Inhabited

namespace RichText

def plain (content : String) : RichText := ⟨content, []⟩

def isEmpty (t : RichText) : Bool := t.content.isEmpty && t.segments.isEmpty

/-- The text that a segment covers, empty when its range is no part of the content. -/
def textOf (t : RichText) (s : Segment) : String :=
  (Text.slice? t.content s.start s.stop).getD ""

/-- Whether every range is in order and ends inside the content. -/
def offsetsValid (t : RichText) : Bool :=
  t.segments.all fun s => s.start ≤ s.stop && s.stop ≤ t.content.utf8ByteSize

/-- The ranges of the attributes. -/
def attributes (t : RichText) : List (Nat × Nat × Attribute) :=
  t.segments.filterMap fun s => match s.kind with
    | .styled a => some (s.start, s.stop, a)
    | _ => none

end RichText

end RichChat
