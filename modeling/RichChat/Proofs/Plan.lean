import RichChat.Render.Registry

/-!
# Plans

A plan is a finite sequence of operations on a canvas, in any order and not balanced in any way. In
it a nested rendering carries the plan of its own canvas. `Plan.run` carries a plan out, and
`Plan.strokes` says what it writes, piece by piece, with the attributes that are active where a
piece is written.

What handlers draw is a plan (`Handler.IsPlanned`, in `RichChat.Proofs.Handler`), so what holds after
every plan holds of every rendering.
-/

namespace RichChat

/-- Kinds of segments that handlers make of a range of the text. Runs, quotes and anchors come of
operations of their own. -/
def SegmentKind.isMark : SegmentKind → Bool
  | .link _ | .codeBlock _ | .color _ | .mention _ | .messageReference _ => true
  | .styled _ | .quoteBlock | .image _ | .avatar _ => false

/-- An operation on a canvas. -/
inductive Op
  | write (text : String)
  | writeVerbatim (text : String)
  | writeWith (a : Attribute) (text : String)
  | cursor
  | enter (a : Attribute)
  | exit (a : Attribute)
  /-- Leaves all attributes. -/
  | leave
  | ensureBreak
  | startBlock
  | openLink
  | closeLink (url : String)
  | openQuote
  | closeQuote
  | openList (start : Option UInt64)
  | closeList
  | numberItem
  | anchor (kind : SegmentKind) (point : kind.isAnchor = true)
  /-- Makes a segment of two offsets between characters, the first of which is no later. -/
  | mark (start stop : Nat) (kind : SegmentKind)
  | request (request : FetchRequest)
  | enlargeEmoji

/-- Operations in the order in which they are done. A nested rendering is made of a source, which is
what it writes below the greatest depth, and of the plan of its own canvas. -/
inductive Plan
  | done
  | op (o : Op) (rest : Plan)
  | nested (source : String) (inner rest : Plan)

namespace Canvas

def leave (c : Canvas) : Canvas :=
  let (run, runs) := c.runs.finish c.length
  { c with runs }.pushRun run

/-- Whether a segment of the kind can be made of the range. -/
def admits (c : Canvas) (start stop : Nat) (kind : SegmentKind) : Bool :=
  kind.isMark && start ≤ stop && (Text.dropBytes? start c.buffer.text).isSome
    && (Text.dropBytes? stop c.buffer.text).isSome

def mark (c : Canvas) (start stop : Nat) (kind : SegmentKind) : Canvas :=
  if c.admits start stop kind then c.emit (start, stop) kind else c

/-- A nested rendering whose own canvas is drawn on by `draw`. -/
def within (c : Canvas) (config : Config) (source : String) (draw : Canvas → Canvas) : Canvas :=
  if config.maxDepth ≤ c.depth + 1 then c.put source
  else
    let c := c.flush.splitRun
    (c.adopt (draw (c.child config)).finish).resetRun

end Canvas

def Op.run (scene : Scene) : Op → Canvas → Canvas
  | write text, c => c.put text
  | writeVerbatim text, c => (c.writeVerbatim text).2
  | writeWith a text, c => (c.writeWith a text).2
  | cursor, c => c.cursor.2
  | enter a, c => c.enter a
  | exit a, c => c.exit a
  | leave, c => c.leave
  | ensureBreak, c => c.ensureBreak
  | startBlock, c => c.startBlock
  | openLink, c => c.openLink
  | closeLink url, c => c.closeLink url
  | openQuote, c => c.openQuote scene.config
  | closeQuote, c => c.closeQuote
  | openList start, c => c.openList start
  | closeList, c => c.closeList
  | numberItem, c => c.nextListMarker.2
  | anchor kind _, c => c.anchor kind
  | mark start stop kind, c => c.mark start stop kind
  | request r, c => c.request scene r
  | enlargeEmoji, c => { c with emojiSize := scene.config.largeEmojiSize }

namespace Plan

def run (scene : Scene) : Plan → Canvas → Canvas
  | done, c => c
  | op o rest, c => rest.run scene (o.run scene c)
  | nested source inner rest, c => rest.run scene (c.within scene.config source (inner.run scene))

def append : Plan → Plan → Plan
  | done, q => q
  | op o rest, q => op o (rest.append q)
  | nested source inner rest, q => nested source inner (rest.append q)

theorem run_append (scene : Scene) (p q : Plan) (c : Canvas) :
    (p.append q).run scene c = q.run scene (p.run scene c) := by
  induction p generalizing c with
  | done => rfl
  | op o rest ih => exact ih _
  | nested source inner rest _ ih => exact ih _

end Plan

/-- A piece of text as it was written. -/
structure Stroke where
  text : List Char
  /-- The attributes that were active where it was written, unless it is the marker of a quote. -/
  attributes : Option Attribute
  deriving DecidableEq

namespace Canvas

/-- The marker, if it is due. -/
def dueStrokes (c : Canvas) : List Stroke :=
  if c.buffer.markerDue then [⟨c.buffer.marker, none⟩] else []

/-- A piece of text under the attributes that are active. -/
def stroke (c : Canvas) (text : List Char) : Stroke := ⟨text, some c.runs.active⟩

/-- The pieces of a text, each after the marker if that is due. -/
def pieceStrokes (c : Canvas) : List (List Char) → List Stroke
  | [] => []
  | p :: ps =>
    (if p = ['\n'] then [] else c.dueStrokes) ++ c.stroke p
      :: pieceStrokes (writePiece (none, c) p).2 ps

def writeStrokes (c : Canvas) (text : String) : List Stroke :=
  c.pieceStrokes (Text.pieces text.toList)

/-- What has been added to the text of `c` in `d`, under the attributes that are active in `c`. -/
def addedStrokes (c d : Canvas) : List Stroke :=
  [c.stroke (d.buffer.text.drop c.buffer.text.length)]

end Canvas

/-- What an operation writes. -/
def Op.strokes (scene : Scene) : Op → Canvas → List Stroke
  | write text, c => c.writeStrokes text
  | writeVerbatim text, c => [c.stroke text.toList]
  | writeWith a text, c => c.dueStrokes ++ (c.enter a).writeStrokes text
  | cursor, c | enter _, c | openLink, c | anchor _ _, c => c.dueStrokes
  | ensureBreak, c => c.addedStrokes c.ensureBreak
  | startBlock, c => c.addedStrokes c.startBlock
  | openQuote, c => c.addedStrokes (c.openQuote scene.config)
  | exit _, _ | leave, _ | closeLink _, _ | closeQuote, _ | openList _, _ | closeList, _
  | numberItem, _ | mark _ _ _, _ | request _, _ | enlargeEmoji, _ => []

/-- What a plan writes. -/
def Plan.strokes (scene : Scene) : Plan → Canvas → List Stroke
  | done, _ => []
  | op o rest, c => o.strokes scene c ++ rest.strokes scene (o.run scene c)
  | nested source inner rest, c =>
    (if scene.config.maxDepth ≤ c.depth + 1 then c.writeStrokes source
      else c.dueStrokes ++ inner.strokes scene (c.flush.splitRun.child scene.config))
      ++ rest.strokes scene (c.within scene.config source (inner.run scene))

end RichChat
