import RichChat.Markdown.Outline
import RichChat.Markdown.Token
import RichChat.Text.Lines

/-!
# Trees

`Builder` folds a sequence of events into a tree. Consecutive texts are put together before they are
cut into tokens, so that a mention is found wherever markdown has split it. Bars open and close
spoilers within one container; a spoiler that is still open when its container stops was none, and
its bars come back as text. Any sequence of events gives a tree, balanced or not. So every message
has one, since what is no markdown is text.
-/

namespace RichChat

/-- A container that has not been closed. -/
structure Builder.Frame where
  kind : NodeKind
  children : List Node := []
  /-- Whether bars opened it. -/
  spoiler : Bool := false

namespace Builder.Frame

def node (frame : Frame) : Node := .mk frame.kind frame.children

def push (frame : Frame) (nodes : List Node) : Frame :=
  { frame with children := frame.children ++ nodes }

def isLink (frame : Frame) : Bool := frame.kind.tag = .link

/-- The children with a break after the last of them, on a text of its own unless that is a text
without a break. -/
def withBreak (hard : Bool) : List Node → List Node
  | [] => [.leaf (.text "" (!hard) hard)]
  | [.mk (.text s false false) children] => [.mk (.text s (!hard) hard) children]
  | [node] => [node, .leaf (.text "" (!hard) hard)]
  | node :: nodes => node :: withBreak hard nodes

def markBreak (frame : Frame) (hard : Bool) : Frame :=
  { frame with children := withBreak hard frame.children }

end Builder.Frame

/-- The part of a tree that has been read. -/
structure Builder where
  /-- The innermost open container. -/
  top : Builder.Frame := { kind := .document }
  /-- The containers around it, the document last. -/
  below : List Builder.Frame := []
  /-- Text that has not been cut into tokens. -/
  pending : List Char := []
  /-- The language and the text of an open code block. -/
  code : Option (Option String × List Char) := none

namespace Builder

def push (b : Builder) (nodes : List Node) : Builder := { b with top := b.top.push nodes }

def openFrame (b : Builder) (frame : Frame) : Builder :=
  { b with top := frame, below := b.top :: b.below }

/-- Puts the innermost container into the one around it. The document stays open. -/
def close (b : Builder) : Builder :=
  match b.below with
  | [] => b
  | f :: fs => { b with top := f.push [b.top.node], below := fs }

/-- The children of an open spoiler that is none, after its bars. -/
def unwrapped (frame : Frame) : List Node := .text "||" :: frame.children

/-- Gives up the open spoilers that are innermost. -/
def unwrap (top : Frame) : List Frame → Frame × List Frame
  | [] => (top, [])
  | f :: fs => if top.spoiler then unwrap (f.push (unwrapped top)) fs else (top, f :: fs)

def unwrapSpoilers (b : Builder) : Builder :=
  let (top, below) := unwrap b.top b.below
  { b with top, below }

/-- Whether an enclosing container is a link. Addresses inside a link stay text. -/
def inLink (b : Builder) : Bool := b.top.isLink || b.below.any (·.isLink)

/-- Bars close the spoiler that is innermost, or open one. -/
def toggleSpoiler (b : Builder) : Builder :=
  if b.top.spoiler then b.close
  else b.openFrame { kind := .inline .spoiler, spoiler := true }

def token (inLink : Bool) (b : Builder) : Token → Builder
  | .text run => b.push [.text (String.ofList run)]
  | .mention target => b.push [.leaf (.mention target)]
  | .emoji e => b.push [.leaf (.emoji e)]
  | .url address =>
    let s := String.ofList address
    b.push [if inLink then .text s else .leaf (.autolink s)]
  | .spoiler => b.toggleSpoiler

/-- Cuts the pending text into tokens. -/
def flush (b : Builder) : Builder :=
  (Token.scan b.pending).foldl (token b.inLink) { b with pending := [] }

/-- The lines of a code block, whose last line end is no line of its own. -/
def codeLines (cs : List Char) : List String :=
  let body := match cs.reverse with
    | '\n' :: rest => rest.reverse
    | _ => cs
  if body.isEmpty then [] else (Text.splitAt '\n' body).map String.ofList

def stop (b : Builder) : Builder := b.flush.unwrapSpoilers.close

/-- One more event. Inside a code block only text and its end count. -/
def event (b : Builder) (e : Event) : Builder :=
  match b.code with
  | some (language, text) =>
    match e with
    | .text run => { b with code := some (language, text ++ run) }
    | .stopCode => { b with code := none }.push [.leaf (.codeBlock language (codeLines text))]
    | _ => b
  | none =>
    match e with
    | .text run | .html run => { b with pending := b.pending ++ run }
    | .code text => b.flush.push [.mk (.inline .monospace) [.text text]]
    | .softBreak => { b.flush with top := b.flush.top.markBreak false }
    | .hardBreak => { b.flush with top := b.flush.top.markBreak true }
    | .rule => b.flush.push [.leaf .thematicBreak]
    | .startCode language => { b.flush with code := some (language, []) }
    | .start container => b.flush.openFrame { kind := container.kind }
    | .stop | .stopCode => b.stop

/-- Everything that is still open put into what is around it. -/
def closeAll (top : Frame) : List Frame → Frame
  | [] => top
  | f :: fs => closeAll (f.push (if top.spoiler then unwrapped top else [top.node])) fs

def finish (b : Builder) : Node := (closeAll b.flush.top b.flush.below).node

end Builder

/-- The tree of a sequence of events. -/
def Node.ofEvents (events : List Event) : Node := (events.foldl Builder.event {}).finish

/-- The tree of a message. -/
def Node.ofSource (source : String) : Node := .ofEvents (Markdown.events source.toList)

end RichChat
