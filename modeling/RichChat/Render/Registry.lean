import RichChat.Markdown.Tree
import RichChat.Render.Element

/-!
# Registries and documents

A registry says which handler draws which kind of node. A document is drawn by a walk that asks the
registry at every visit. `Canvas.nested` draws a text within another one, on a canvas of its own
that shares the buffer; below the greatest depth it writes the text as it is.
-/

namespace RichChat

/-- Handlers by the tag of the node, the last to be registered first. -/
structure Registry where
  handlers : List (NodeTag × Handler) := []

namespace Registry

def get? (registry : Registry) (tag : NodeTag) : Option Handler := lookup tag registry.handlers

def contains (registry : Registry) (tag : NodeTag) : Bool := (registry.get? tag).isSome

/-- Puts a handler on a tag, in place of any other. -/
def register (registry : Registry) (tag : NodeTag) (handler : Handler) : Registry :=
  { handlers := (tag, handler) :: registry.handlers }

/-- Every tag with the handler that is made for it. -/
def builtin : Registry where
  handlers :=
    [(.document, Handler.document), (.paragraph, Handler.paragraph), (.text, Handler.text),
      (.heading, Handler.heading), (.inline, Handler.inline), (.link, Handler.link),
      (.autolink, Handler.autolink), (.blockquote, Handler.blockquote),
      (.codeBlock, Handler.codeBlock), (.list, Handler.list), (.listItem, Handler.listItem),
      (.thematicBreak, Handler.thematicBreak), (.mention, Handler.mention),
      (.emoji, Handler.emoji)]

/-- The tags that have a handler, for reading. -/
protected def toString (registry : Registry) : String :=
  let tags := (NodeTag.all.filter registry.contains).map NodeTag.name
  "Registry \x7b handlers: [" ++ ", ".intercalate tags ++ "] \x7d"

instance : ToString Registry := ⟨Registry.toString⟩

/-- Draws a node at a visit. -/
def visitor (registry : Registry) (scene : Scene) : Visitor Canvas := fun visit c =>
  ((registry.get? visit.node.tag).getD Handler.fallback) scene visit c

end Registry

namespace Canvas

/-- Draws a tree. -/
def draw (c : Canvas) (registry : Registry) (scene : Scene) (node : Node) : Canvas :=
  walk (registry.visitor scene) node c

/-- Emoji are large in a document of nothing else, if there are not too many. -/
def sizeEmoji (c : Canvas) (config : Config) (node : Node) : Canvas :=
  match node.emojiOnlyCount with
  | some n =>
    if 0 < n ∧ n ≤ config.largeEmojiLimit then { c with emojiSize := config.largeEmojiSize } else c
  | none => c

/-- Draws a whole document. -/
def document (c : Canvas) (registry : Registry) (scene : Scene) (node : Node) : Canvas :=
  (c.sizeEmoji scene.config node).draw registry scene node

/-- Draws a text inside the one that is being drawn. -/
def nested (c : Canvas) (registry : Registry) (scene : Scene) (source : String) : Canvas :=
  if scene.config.maxDepth ≤ c.depth + 1 then c.put source
  else
    let c := c.flush.splitRun
    let inner := ((c.child scene.config).draw registry scene (.ofSource source)).finish
    (c.adopt inner).resetRun

end Canvas

end RichChat
