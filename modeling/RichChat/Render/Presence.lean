import RichChat.Render.Message

/-!
# Presence

What a user is doing, in a few lines: the kind of activity with its name, then details. A custom
status shows its emoji and its text.
-/

namespace RichChat

/-- What stands in front of the name of an activity. Custom ones show no name. -/
def ActivityKind.verb? : ActivityKind → Option String
  | playing => some "Playing "
  | streaming => some "Streaming "
  | listening => some "Listening to "
  | watching => some "Watching "
  | competing => some "Competing in "
  | custom => none

namespace Canvas

/-- Draws the emoji of a custom status, which is a picture if it has an id. -/
def statusEmoji (c : Canvas) (config : Config) (emoji : ActivityEmoji) : Canvas :=
  match emoji.id with
  | some id => c.placeEmoji config ⟨emoji.name, id, emoji.animated⟩ config.emojiSize
  | none => c.put emoji.name

def status (c : Canvas) (config : Config) (activity : Activity) : Canvas :=
  let c := c.drawSome activity.emoji fun c emoji =>
    let c := c.statusEmoji config emoji
    if activity.state.isSome then c.put " " else c
  c.drawSome activity.state put

def activity (c : Canvas) (verb : String) (activity : Activity) : Canvas :=
  let (range, c) := (c.put verb).writeWith .bold activity.name
  let c := match activity.kind, activity.url with
    | .streaming, some url => c.emit range (.link url)
    | _, _ => c
  let line (c : Canvas) (text : String) : Canvas := c.ensureBreak.put text
  (c.drawSome activity.details line).drawSome activity.state line

end Canvas

/-- Renders an activity. -/
def Activity.render (activity : Activity) (config : Config) : Rendered :=
  let scene : Scene := { config }
  scene.compose fun c =>
    match activity.kind.verb? with
    | some verb => c.activity verb activity
    | none => c.status config activity

end RichChat
