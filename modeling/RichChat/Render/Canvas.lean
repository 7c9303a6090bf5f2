import RichChat.Config.Basic
import RichChat.Model.Store
import RichChat.Render.Buffer
import RichChat.Render.Runs
import RichChat.Render.Walk

/-!
# The canvas

A rendering draws on a canvas: it writes text, enters and leaves attributes, opens and closes links,
quotes and lists, and places anchors. The canvas keeps the offsets at which things were opened and
makes a segment of each when it is closed. The markers of quotes belong to no run of attributes.

What a rendering knows of the chat is its `Scene`.
-/

namespace RichChat

/-- What is known while a text is rendered. -/
structure Scene where
  config : Config := {}
  /-- The message that the text belongs to, with its guild and the users that it mentions. -/
  message : Option Message := none
  store : Option Store := none
  deriving Inhabited

def Scene.guild (scene : Scene) : Option GuildId := scene.message.bind (·.guild)

/-- An open quote. -/
structure Quote where
  start : Nat
  /-- How long the marker was in front of it. -/
  outerMarker : Nat
  deriving DecidableEq, Inhabited

structure Canvas where
  buffer : Buffer := {}
  /-- What the store was asked to fetch, in this order. -/
  requested : List FetchRequest := []
  segments : List Segment := []
  runs : Runs := { start := 0 }
  /-- The offsets of open links, the innermost first, as in the next two lists. -/
  links : List Nat := []
  quotes : List Quote := []
  /-- The next number of each open list, unless it has bullets. -/
  lists : List (Option UInt64) := []
  /-- How many renderings this one is nested in. -/
  depth : Nat := 0
  /-- The size of emoji in the document. -/
  emojiSize : UInt32
  deriving Inhabited

namespace Canvas

/-- An empty canvas. -/
def fresh (config : Config) : Canvas := { emojiSize := config.emojiSize }

def length (c : Canvas) : Nat := c.buffer.length

def content (c : Canvas) : String := String.ofList c.buffer.text

def isEmpty (c : Canvas) : Bool := c.buffer.isEmpty

def push (c : Canvas) (segment : Segment) : Canvas :=
  { c with segments := c.segments ++ [segment] }

/-- A run of attributes that has ended. It is joined to the last segment if that has the same
attributes and ends where the run starts. -/
def pushRun (c : Canvas) (run : Option Segment) : Canvas :=
  match run with
  | none => c
  | some segment =>
    match c.segments.getLast? with
    | some last =>
      if last.kind = segment.kind ∧ last.stop = segment.start then
        { c with segments := c.segments.dropLast ++ [{ last with stop := segment.stop }] }
      else c.push segment
    | none => c.push segment

/-- Ends the open run at the end of the text. -/
def splitRun (c : Canvas) : Canvas :=
  let (run, runs) := c.runs.split c.length
  { c with runs }.pushRun run

/-- Starts the open run at the end of the text. -/
def resetRun (c : Canvas) : Canvas := { c with runs := c.runs.reset c.length }

/-- Writes a marker that is due, outside of the open run. -/
def flush (c : Canvas) : Canvas :=
  if c.buffer.markerDue then
    let c := c.splitRun
    { c with buffer := c.buffer.flush }.resetRun
  else c

/-- The offset at which the next text starts, after a marker that is due. -/
def cursor (c : Canvas) : Nat × Canvas := (c.flush.length, c.flush)

/-- Adds a part of a text that ends at the end of a line or of the text, and widens the range of the
parts before it. -/
def writePiece (state : Option (Nat × Nat) × Canvas) (piece : List Char) :
    Option (Nat × Nat) × Canvas :=
  let c := if piece = ['\n'] then state.2 else state.2.flush
  let (range, buffer) := c.buffer.write piece
  (some ((state.1.getD range).1, range.2), { c with buffer })

/-- Adds a text and gives the range of its bytes. -/
def write (c : Canvas) (text : String) : (Nat × Nat) × Canvas :=
  let (range, c) := (Text.pieces text.toList).foldl writePiece (none, c)
  (range.getD (c.length, c.length), c)

/-- Adds a text. -/
def put (c : Canvas) (text : String) : Canvas := (c.write text).2

/-- Adds a text without a marker in any of its lines. -/
def writeVerbatim (c : Canvas) (text : String) : (Nat × Nat) × Canvas :=
  let (range, buffer) := c.buffer.writeVerbatim text.toList
  (range, { c with buffer })

def inLink (c : Canvas) : Bool := !c.links.isEmpty

def ensureBreak (c : Canvas) : Canvas := { c with buffer := c.buffer.ensureBreak }

def startBlock (c : Canvas) : Canvas := { c with buffer := c.buffer.startBlock }

/-- The space after a block that has a next sibling: an empty line in the document itself, and a
line end further inside. -/
def separate (c : Canvas) (visit : Visit) : Canvas :=
  match visit.next, visit.parent.map Node.tag with
  | none, _ => c
  | some _, none | some _, some .document => c.startBlock
  | some _, some _ => c.ensureBreak

def emit (c : Canvas) (range : Nat × Nat) (kind : SegmentKind) : Canvas :=
  c.push ⟨range.1, range.2, kind⟩

/-- A segment at the point where the next text starts. -/
def anchor (c : Canvas) (kind : SegmentKind) : Canvas :=
  let (offset, c) := c.cursor
  c.push ⟨offset, offset, kind⟩

def enter (c : Canvas) (a : Attribute) : Canvas :=
  let (offset, c) := c.cursor
  let (run, runs) := c.runs.enter a offset
  { c with runs }.pushRun run

def exit (c : Canvas) (a : Attribute) : Canvas :=
  let (run, runs) := c.runs.exit a c.length
  { c with runs }.pushRun run

/-- Adds a text with more attributes than are active. -/
def writeWith (c : Canvas) (a : Attribute) (text : String) : (Nat × Nat) × Canvas :=
  let (range, c) := (c.enter a).write text
  (range, c.exit a)

def openLink (c : Canvas) : Canvas :=
  let (offset, c) := c.cursor
  { c with links := offset :: c.links }

/-- Closes the innermost link, which is a segment if it has text. -/
def closeLink (c : Canvas) (url : String) : Canvas :=
  match c.links with
  | [] => c
  | start :: links =>
    let c := { c with links }
    if start < c.length then c.emit (start, c.length) (.link url) else c

def openQuote (c : Canvas) (config : Config) : Canvas :=
  let c := c.startBlock
  let start := c.length
  let (outerMarker, buffer) := c.buffer.pushMarker config.quoteMarker.toList
  { c with buffer, quotes := { start, outerMarker } :: c.quotes }

/-- Where the text of a quote ends without the blanks after it. -/
def quoteTextEnd (c : Canvas) (start : Nat) : Nat :=
  max start (Text.size (c.buffer.text.reverse.dropWhile Text.isAsciiBlank))

/-- The last anchor of a quote. -/
def lastAnchor? (c : Canvas) (start : Nat) : Option Nat :=
  ((c.segments.filter fun s => s.kind.isAnchor && start ≤ s.start).map (·.start)).max?

/-- Closes the innermost quote. Its segment leaves out the blanks at the end, but no anchor. -/
def closeQuote (c : Canvas) : Canvas :=
  match c.quotes with
  | [] => c
  | quote :: quotes =>
    let c := { c with buffer := c.buffer.popMarker quote.outerMarker, quotes }
    let stop := max (c.quoteTextEnd quote.start) ((c.lastAnchor? quote.start).getD 0)
    if quote.start < stop then c.emit (quote.start, stop) .quoteBlock else c

def openList (c : Canvas) (start : Option UInt64) : Canvas :=
  { c with lists := start :: c.lists }

def closeList (c : Canvas) : Canvas := { c with lists := c.lists.tail }

/-- The marker of the next item of the innermost list, indented by the lists around it. -/
def nextListMarker (c : Canvas) : String × Canvas :=
  let indent := "".pushn ' ' (2 * (c.lists.length - 1))
  match c.lists with
  | some n :: lists =>
    (indent ++ toString n.toNat ++ ". ", { c with lists := some (n + 1) :: lists })
  | _ => (indent ++ "• ", c)

/-- Asks the store, if there is one, to fetch an entity, at most once in a rendering. -/
def request (c : Canvas) (scene : Scene) (request : FetchRequest) : Canvas :=
  if scene.store.isSome && !c.requested.contains request then
    { c with requested := c.requested ++ [request] }
  else c

def closeQuotes : Nat → Canvas → Canvas
  | 0, c => c
  | n + 1, c => closeQuotes n c.closeQuote

/-- Closes everything that can be closed. Links that are still open are none. -/
def finish (c : Canvas) : Canvas :=
  let (run, runs) := c.runs.finish c.length
  closeQuotes c.quotes.length ({ c with runs }.pushRun run)

/-- A canvas for a nested rendering, which goes on in the same buffer. -/
def child (c : Canvas) (config : Config) : Canvas :=
  { buffer := c.buffer
    requested := c.requested
    runs := { start := c.length }
    depth := c.depth + 1
    emojiSize := config.emojiSize }

/-- Takes over what was drawn on a nested canvas. -/
def adopt (c : Canvas) (child : Canvas) : Canvas :=
  { c with
    buffer := child.buffer
    requested := child.requested
    segments := c.segments ++ child.segments }

end Canvas

end RichChat
