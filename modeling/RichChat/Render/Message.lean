import RichChat.Render.Card

/-!
# Renderings

A rendering starts on an empty canvas, and what is drawn there becomes rich text. Nothing can go
wrong: whatever is not known is shown as it is written, and the requests for it are part of the
result.
-/

namespace RichChat

/-- A rendered text, and what the store was asked to fetch for it. -/
structure Rendered where
  text : RichText
  requests : List FetchRequest
  deriving DecidableEq, Inhabited

namespace Scene

/-- What has been drawn on an empty canvas. -/
def compose (scene : Scene) (draw : Canvas → Canvas) : Rendered :=
  let c := (draw (.fresh scene.config)).finish
  { text := ⟨c.content, c.segments⟩, requests := c.requested }

/-- Renders a tree. -/
def renderNode (scene : Scene) (node : Node) (registry : Registry := .builtin) : Rendered :=
  scene.compose fun c => c.document registry scene node

/-- Renders markdown. -/
def renderSource (scene : Scene) (source : String) (registry : Registry := .builtin) : Rendered :=
  scene.renderNode (.ofSource source) registry

end Scene

/-- Renders the body of a message, its embeds and its attachments. -/
def Message.render (message : Message) (config : Config) (store : Option Store)
    (registry : Registry := .builtin) : Rendered :=
  let scene : Scene := { config, message := some message, store }
  scene.compose fun c =>
    let c := c.document registry scene (.ofSource message.content)
    let c := message.embeds.foldl (·.embed registry scene) c
    c.attachments config message.attachments

end RichChat
