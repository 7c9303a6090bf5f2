import RichChat.Markdown.Node

/-!
# Markdown events

Markdown is read into a sequence of events: containers that start and stop, with text, code and line
breaks between them. Most containers are closed by the same event, whatever they are. The text of a
code block comes between events of its own.
-/

namespace RichChat

/-- What an event can start. -/
inductive Container
  | paragraph
  | heading (level : Nat)
  | blockquote
  | list (start : Option UInt64)
  | item
  | emphasis
  /-- Strong emphasis, and whether it is written with underscores. -/
  | strong (underscores : Bool)
  | strikethrough
  /-- A link or an image. -/
  | link (url : String)
  /-- A block of tags. -/
  | html

namespace Container

/-- The node that a container becomes. Underscores underline, and tags are shown as a paragraph. -/
def kind : Container → NodeKind
  | paragraph => .paragraph
  | heading level => .heading level
  | blockquote => .blockquote
  | list start => .list start
  | item => .listItem
  | emphasis => .inline .italic
  | strong true => .inline .underline
  | strong false => .inline .bold
  | strikethrough => .inline .strikethrough
  | link url => .link url
  | html => .paragraph

end Container

inductive Event
  | start (container : Container)
  | stop
  | startCode (language : Option String)
  | stopCode
  | text (run : List Char)
  /-- A tag, which is shown as it is written. -/
  | html (run : List Char)
  | code (text : String)
  | softBreak
  | hardBreak
  | rule

end RichChat
