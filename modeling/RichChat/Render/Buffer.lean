import RichChat.Text.Bytes
import RichChat.Text.Lines

/-!
# The output buffer

Text is only ever added to the buffer. While quotes are open there is a marker that stands in front
of every line with text; it is written when the text of the line comes, so that empty lines have
none. `write` gives the range of what was written, without a marker in front of it.
-/

namespace RichChat

structure Buffer where
  text : List Char := []
  /-- What stands in front of every line with text. -/
  marker : List Char := []
  deriving Inhabited

namespace Buffer

def length (b : Buffer) : Nat := Text.size b.text

def isEmpty (b : Buffer) : Bool := b.text.isEmpty

/-- Whether the next character starts a line. -/
def atLineStart (b : Buffer) : Bool := b.text.isEmpty || b.text.getLast? == some '\n'

/-- Whether the marker has to come before any other text. -/
def markerDue (b : Buffer) : Bool := !b.marker.isEmpty && b.atLineStart

def append (b : Buffer) (cs : List Char) : Buffer := { b with text := b.text ++ cs }

/-- Writes the marker if it is due. -/
def flush (b : Buffer) : Buffer := if b.markerDue then b.append b.marker else b

/-- Adds a part of a text that ends at the end of a line or of the text. Only a line feed that
stands alone needs no marker. The offset of the first part is kept. -/
def writePiece (state : Option Nat × Buffer) (piece : List Char) : Option Nat × Buffer :=
  let b := if piece = ['\n'] then state.2 else state.2.flush
  (some (state.1.getD b.length), b.append piece)

/-- Adds a text and gives the range of its bytes. -/
def write (b : Buffer) (cs : List Char) : (Nat × Nat) × Buffer :=
  let (start, b) := (Text.pieces cs).foldl writePiece (none, b)
  ((start.getD b.length, b.length), b)

/-- Adds a text as it is, without a marker in any of its lines. -/
def writeVerbatim (b : Buffer) (cs : List Char) : (Nat × Nat) × Buffer :=
  ((b.length, b.length + Text.size cs), b.append cs)

/-- The offset at which the next text starts, after a marker that is due. -/
def cursor (b : Buffer) : Nat × Buffer := (b.flush.length, b.flush)

/-- The character `offset` places before the end, the last one being at 1. -/
def fromEnd? (b : Buffer) (offset : Nat) : Option Char :=
  if offset = 0 then none else b.text.reverse[offset - 1]?

/-- Adds a line feed unless there is one `offset` places before the end. -/
def padAt (b : Buffer) (offset : Nat) : Buffer :=
  if b.fromEnd? offset = some '\n' then b else (b.write ['\n']).2

/-- Looks back over the last `n` places and adds a line feed for each that has none. A buffer
without text stays so. -/
def padNewlines (b : Buffer) (n : Nat) : Buffer :=
  if b.isEmpty then b else (List.range n).foldl (fun b i => b.padAt (i + 1)) b

/-- Ends the line. -/
def ensureBreak (b : Buffer) : Buffer := b.padNewlines 1

/-- Leaves a line empty before the next block. -/
def startBlock (b : Buffer) : Buffer := b.padNewlines 2

/-- Makes the marker longer. The length that it had is needed to take that back. -/
def pushMarker (b : Buffer) (cs : List Char) : Nat × Buffer :=
  (b.marker.length, { b with marker := b.marker ++ cs })

def popMarker (b : Buffer) (length : Nat) : Buffer :=
  { b with marker := b.marker.take length }

end Buffer

end RichChat
