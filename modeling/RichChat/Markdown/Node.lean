import RichChat.Model.Id
import RichChat.Rich.Attribute
import RichChat.Text.Blank

/-!
# Syntax trees

A message is a tree of blocks and of the inline elements in them. Mentions, custom emoji and bare
addresses are leaves of their own. `Node.emojiOnlyCount` tells a message of nothing but emoji.
-/

namespace RichChat

/-- A user, a role or a channel named in a message. -/
inductive Reference
  | user (id : UserId)
  | role (id : RoleId)
  | channel (id : ChannelId)
  deriving DecidableEq, Inhabited

/-- How a mention is written in a message. -/
def Reference.sourceForm : Reference → String
  | user id => "<@" ++ id.toString ++ ">"
  | role id => "<@&" ++ id.toString ++ ">"
  | channel id => "<#" ++ id.toString ++ ">"

/-- An emoji of a guild. -/
structure CustomEmoji where
  name : String
  id : EmojiId
  animated : Bool
  deriving DecidableEq, Inhabited

/-- How an emoji is written in a message. -/
def CustomEmoji.sourceForm (emoji : CustomEmoji) : String :=
  (if emoji.animated then "<a:" else "<:") ++ emoji.name ++ ":" ++ emoji.id.toString ++ ">"

/-- What a node of the tree is. -/
inductive NodeKind
  | document
  | paragraph
  | heading (level : Nat)
  /-- Text, and whether a soft or a hard line break follows it. -/
  | text (text : String) (soft hard : Bool)
  /-- A span of attributes. -/
  | inline (attributes : Attribute)
  | link (url : String)
  /-- An address that stands in the text as it is. -/
  | autolink (url : String)
  | blockquote
  | codeBlock (language : Option String) (lines : List String)
  /-- A list with its first number, which bullets do not have. -/
  | list (start : Option UInt64)
  | listItem
  | thematicBreak
  | mention (target : Reference)
  | emoji (emoji : CustomEmoji)
  deriving DecidableEq, Inhabited

/-- The kinds of nodes without what they hold. -/
inductive NodeTag
  | document | paragraph | heading | text | inline | link | autolink | blockquote | codeBlock
  | list | listItem | thematicBreak | mention | emoji
  deriving DecidableEq, Inhabited

namespace NodeTag

/-- All tags, in the order in which they are listed. -/
def all : List NodeTag :=
  [document, paragraph, heading, text, inline, link, autolink, blockquote, codeBlock, list,
    listItem, thematicBreak, mention, emoji]

def name : NodeTag → String
  | document => "Document"
  | paragraph => "Paragraph"
  | heading => "Heading"
  | text => "Text"
  | inline => "Inline"
  | link => "Link"
  | autolink => "Autolink"
  | blockquote => "Blockquote"
  | codeBlock => "CodeBlock"
  | list => "List"
  | listItem => "ListItem"
  | thematicBreak => "ThematicBreak"
  | mention => "Mention"
  | emoji => "Emoji"

def ofName? (name : String) : Option NodeTag := all.find? fun tag => tag.name = name

end NodeTag

namespace NodeKind

def tag : NodeKind → NodeTag
  | document => .document
  | paragraph => .paragraph
  | heading _ => .heading
  | text _ _ _ => .text
  | inline _ => .inline
  | link _ => .link
  | autolink _ => .autolink
  | blockquote => .blockquote
  | codeBlock _ _ => .codeBlock
  | list _ => .list
  | listItem => .listItem
  | thematicBreak => .thematicBreak
  | mention _ => .mention
  | emoji _ => .emoji

/-- Text without a break. -/
def plain (s : String) : NodeKind := text s false false

/-- A leaf as it could be written in a message. A container has no such text. -/
def sourceForm : NodeKind → Option String
  | text s _ _ => some s
  | autolink url => some url
  | codeBlock _ lines => some (String.intercalate "\n" lines)
  | thematicBreak => some "---"
  | mention target => some target.sourceForm
  | emoji e => some e.sourceForm
  | _ => none

end NodeKind

/-- A node with its children. -/
inductive Node where
  | mk (kind : NodeKind) (children : List Node)
  deriving Inhabited

namespace Node

def kind : Node → NodeKind
  | mk kind _ => kind

def children : Node → List Node
  | mk _ children => children

def tag (node : Node) : NodeTag := node.kind.tag

def leaf (kind : NodeKind) : Node := mk kind []

/-- A leaf of text without a break. -/
def text (s : String) : Node := leaf (.plain s)

mutual

/-- How many emoji there are, if the tree has nothing but emoji and blanks. -/
def emojiOnlyCount : Node → Option Nat
  | mk (.emoji _) _ => some 1
  | mk (.text s _ _) _ => if (Text.trim s.toList).isEmpty then some 0 else none
  | mk .document children => emojiOnlySum children
  | mk .paragraph children => emojiOnlySum children
  | _ => none

def emojiOnlySum : List Node → Option Nat
  | [] => some 0
  | node :: nodes => do
    let here ← node.emojiOnlyCount
    let later ← emojiOnlySum nodes
    return here + later

end

mutual

/-- The node and everything below it, parents first. -/
def preorder : Node → List Node
  | mk kind children => mk kind children :: preorderAll children

def preorderAll : List Node → List Node
  | [] => []
  | node :: nodes => node.preorder ++ preorderAll nodes

end

end Node

end RichChat
