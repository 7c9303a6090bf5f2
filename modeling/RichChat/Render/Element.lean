import RichChat.Render.Mention

/-!
# Drawing elements

A handler draws one kind of node, at both visits of the node. Blocks leave space after them only if
something follows, so that a text does not end with empty lines. The handlers of `Handler.named` can
be put on any kind of node; where one does not fit it draws nothing.
-/

namespace RichChat

abbrev Handler := Scene → Visit → Canvas → Flow × Canvas

namespace Handler

def document : Handler := fun _ _ c => (.proceed, c)

def paragraph : Handler := fun _ visit c =>
  (.proceed, if visit.entering then c else c.separate visit)

/-- Text with its break: a hard one leaves a line empty. -/
def text : Handler := fun _ visit c =>
  match visit.entering, visit.node.kind with
  | true, .text s soft hard =>
    let c := c.put s
    (.proceed, if hard then c.put "\n\n" else if soft then c.put "\n" else c)
  | _, _ => (.proceed, c)

def heading : Handler := fun _ visit c =>
  (.proceed, if visit.entering then c.enter .bold else (c.exit .bold).separate visit)

def inline : Handler := fun _ visit c =>
  match visit.node.kind with
  | .inline a => (.proceed, if visit.entering then c.enter a else c.exit a)
  | _ => (.proceed, c)

def link : Handler := fun _ visit c =>
  match visit.node.kind with
  | .link url => (.proceed, if visit.entering then c.openLink else c.closeLink url)
  | _ => (.proceed, c)

/-- An address is a link, except inside a link, whose destination comes first. -/
def autolink : Handler := fun _ visit c =>
  match visit.entering, visit.node.kind with
  | true, .autolink url =>
    let (range, c) := c.write url
    (.skipChildren, if c.inLink then c else c.emit range (.link url))
  | _, _ => (.skipChildren, c)

def blockquote : Handler := fun scene visit c =>
  (.proceed, if visit.entering then c.openQuote scene.config else c.closeQuote.separate visit)

/-- Draws the lines of a code block without the markers of quotes. -/
def drawCode (c : Canvas) (language : Option String) (lines : List String) : Canvas :=
  let (start, c) := c.startBlock.cursor
  let ((_, stop), c) := c.writeVerbatim ("\n".intercalate lines)
  if start < stop then c.emit (start, stop) (.codeBlock language) else c

def codeBlock : Handler := fun _ visit c =>
  match visit.node.kind with
  | .codeBlock language lines =>
    (.skipChildren, if visit.entering then drawCode c language lines else c.separate visit)
  | _ => (.skipChildren, c)

def list : Handler := fun _ visit c =>
  match visit.node.kind with
  | .list start =>
    (.proceed,
      if visit.entering then
        (if c.lists.isEmpty then c.startBlock else c.ensureBreak).openList start
      else c.closeList.separate visit)
  | _ => (.proceed, c)

def listItem : Handler := fun _ visit c =>
  (.proceed,
    if visit.entering then
      let (marker, c) := c.ensureBreak.nextListMarker
      c.put marker
    else c)

def thematicBreak : Handler := fun _ visit c =>
  (.skipChildren, if visit.entering then c.startBlock.put "───" else c.separate visit)

def mention : Handler := fun scene visit c =>
  match visit.entering, visit.node.kind with
  | true, .mention target => (.skipChildren, c.mention scene target)
  | _, _ => (.skipChildren, c)

def emoji : Handler := fun scene visit c =>
  match visit.entering, visit.node.kind with
  | true, .emoji e => (.skipChildren, c.placeEmoji scene.config e c.emojiSize)
  | _, _ => (.skipChildren, c)

/-- Draws a node that nothing else draws: containers show what they hold, and leaves are written as
they would be in a message. -/
def fallback : Handler := fun scene visit c =>
  match visit.node.kind with
  | .document => (.proceed, c)
  | .paragraph => paragraph scene visit c
  | .text _ _ _ => text scene visit c
  | kind =>
    match kind.sourceForm with
    | some source => (.skipChildren, if visit.entering then c.put source else c)
    | none => (.proceed, c)

/-- All handlers with their names. -/
def named : List (String × Handler) :=
  [("fallback", fallback), ("document", document), ("paragraph", paragraph), ("text", text),
    ("heading", heading), ("inline", inline), ("link", link), ("autolink", autolink),
    ("blockquote", blockquote), ("code_block", codeBlock), ("list", list),
    ("list_item", listItem), ("thematic_break", thematicBreak), ("mention", mention),
    ("emoji", emoji)]

def ofName? (name : String) : Option Handler := (named.find? fun e => e.1 = name).map (·.2)

end Handler

end RichChat
