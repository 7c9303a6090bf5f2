import RichChat.Render.Message

/-!
# Reply headers

Above a reply stands a line with the author of the message that it answers and the first line of
that message. Blocks are taken apart, so that the header keeps to one line.
-/

namespace RichChat

namespace Node

mutual

/-- The inline elements of a tree. Code becomes text, and breaks between blocks are left out. -/
def inlines : Node → List Node
  | mk (.codeBlock _ lines) _ => [.text (" ".intercalate lines)]
  | mk .thematicBreak _ => []
  | mk .document children => inlinesAll children
  | mk .paragraph children => inlinesAll children
  | mk (.heading _) children => inlinesAll children
  | mk .blockquote children => inlinesAll children
  | mk (.list _) children => inlinesAll children
  | mk .listItem children => inlinesAll children
  | node => [node]

def inlinesAll : List Node → List Node
  | [] => []
  | node :: nodes => node.inlines ++ inlinesAll nodes

end

end Node

namespace Message

/-- The first line of a message that has text and opens no code block. -/
def excerpt? (message : Message) : Option (List Char) :=
  ((Text.lines message.content.toList).map Text.trim).find? fun line =>
    !line.isEmpty && !(List.replicate 3 '\x60').isPrefixOf line
      && !(List.replicate 3 '~').isPrefixOf line

end Message

namespace Canvas

/-- Draws what a reply header shows of a message's content. -/
def excerpt (c : Canvas) (registry : Registry) (scene : Scene) (message : Message) : Canvas :=
  match message.excerpt? with
  | some line =>
    let inlines := (Node.ofSource (String.ofList line)).inlines
    c.draw registry scene (.mk .document [.mk .paragraph inlines])
  | none =>
    if message.attachments.isEmpty && message.embeds.isEmpty then c
    else (c.writeWith .italic "Click to see attachment").2

/-- Draws the author of a message and what it starts with. -/
def replied (c : Canvas) (registry : Registry) (scene : Scene) (message : Message) : Canvas :=
  let c := c.mentionUser scene message.author.id (some message.author)
  (c.put ": ").excerpt registry scene message

end Canvas

/-- Renders the header of a reply. The message that it answers may be unknown. The header is a
reference to that message as a whole. -/
def Message.renderReply (message : Message) (referenced : Option Message) (config : Config)
    (store : Option Store) (registry : Registry := .builtin) : Rendered :=
  let scene : Scene := { config, message := some (referenced.getD message), store }
  scene.compose fun c =>
    let c := c.put "↪ "
    let c := match referenced with
      | some m => c.replied registry scene m
      | none => (c.writeWith .italic "Original message was deleted").2
    match (referenced.map (·.id)).or message.reference with
    | some id => c.emit (0, c.length) (.messageReference id)
    | none => c

end RichChat
