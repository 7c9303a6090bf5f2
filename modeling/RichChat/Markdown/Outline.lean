import RichChat.Markdown.Block
import RichChat.Markdown.Opening

/-!
# The outline of a document

`Outline` reads a document line by line. It holds the containers that are open, with the blocks in
them, and the leaf that the last line belongs to. A line first goes through the marks of the open
containers; what is left of it either continues the leaf or closes it, together with the containers
whose marks were missing, and opens new containers and a new leaf. A paragraph may go on without the
marks. Definitions are part of a paragraph until it is closed; then they are taken from its start,
and if nothing else is in it there is no paragraph.
-/

namespace RichChat.Markdown

/-- A container as its marks know it. -/
inductive Frame
  | quote
  | list (mark : Char) (start : Option UInt64) (tight : Bool)
  /-- An item whose lines are indented by a number of columns. -/
  | item (indent : Nat)

namespace Frame

/-- What a line that starts with a quote mark has after it. -/
def quoted (cursor : Cursor) : Cursor := ((cursor.advance 1).skip 1).2

/-- What a line has after the mark of a container, if it has the mark. -/
def follow? (frame : Frame) (cursor : Cursor) : Option Cursor :=
  match frame with
  | quote =>
    let (_, next) := cursor.skip 3
    if next.rest.head? = some '>' then some (quoted next) else none
  | list _ _ _ => some cursor
  | item indent =>
    let (missing, next) := cursor.skip indent
    if missing = 0 || next.atEnd then some next else none

end Frame

/-- An open container with the blocks in it. -/
structure Open where
  frame : Frame
  blocks : List Block := []

def Open.block (o : Open) : Block :=
  match o.frame with
  | .quote => .quote o.blocks
  | .list _ start tight => .list start tight o.blocks
  | .item _ => .item o.blocks

/-- A block that the next line may go on with. -/
inductive Leaf
  /-- A paragraph, and how its last line ends. -/
  | paragraph (content : Content) (ending : List Char)
  /-- A fenced block: the columns before the fence, the fence, and what has been read. -/
  | fenced (indent : Nat) (mark : Char) (length : Nat) (name text : List Char)
  /-- An indented block, and the blank lines after it. -/
  | indented (text blanks : List Char)
  /-- A block of tags, and the text that ends it if a blank line does not. -/
  | html (last? : Option (List Char)) (text : List Char)

structure Outline where
  /-- The open containers, the innermost first. -/
  opens : List Open := []
  /-- The blocks outside of them. -/
  blocks : List Block := []
  leaf : Option Leaf := none
  definitions : Definitions := []
  /-- Whether the last line was blank. -/
  blank : Bool := false
  /-- Whether the last item to be opened had nothing in its first line. -/
  began : Bool := false
  /-- Whether the last line ended with a carriage return alone. -/
  returned : Bool := false

namespace Outline

def add (s : Outline) (block : Block) : Outline :=
  match s.opens with
  | [] => { s with blocks := s.blocks ++ [block] }
  | o :: os => { s with opens := { o with blocks := o.blocks ++ [block] } :: os }

/-- Closes the innermost container. -/
def pop (s : Outline) : Outline :=
  match s.opens with
  | [] => s
  | o :: os => { s with opens := os }.add o.block

def popMany : Nat → Outline → Outline
  | 0, s => s
  | n + 1, s => popMany n s.pop

def openFrame (s : Outline) (frame : Frame) : Outline :=
  { s with opens := { frame } :: s.opens }

def define (s : Outline) (definitions : Definitions) : Outline :=
  { s with definitions := s.definitions ++ definitions }

/-- Adds the paragraph that content makes without the definitions at its start, if there is one. -/
def addParagraph (s : Outline) (content : Content) : Outline :=
  let (found, left) := content.splitDefinitions
  if left.atoms.isEmpty then s.define found else (s.define found).add (.paragraph left)

def closeLeaf (s : Outline) : Outline :=
  let closed := { s with leaf := none }
  match s.leaf with
  | none => closed
  | some (.paragraph content _) => closed.addParagraph content
  | some (.fenced _ _ _ name text) => closed.add (.code name text)
  | some (.indented text _) => closed.add (.code [] text)
  | some (.html _ text) => closed.add (.html text)

/-- How many containers, from the outermost on, have their marks in a line, and what comes then. -/
def followAll : List Open → Cursor → Nat × Cursor
  | [], cursor => (0, cursor)
  | o :: os, cursor =>
    match o.frame.follow? cursor with
    | some next => let (n, last) := followAll os next; (n + 1, last)
    | none => (0, cursor)

/-- Whether all containers have their marks in a line, and what comes after the marks. -/
def follow (s : Outline) (line : Line) : Bool × Cursor :=
  let (n, cursor) := followAll s.opens.reverse { rest := line.text }
  (n == s.opens.length, cursor)

/-- An item with nothing but blank lines is over. -/
def finishEmptyItem (s : Outline) : Outline :=
  let s' := match s.began && s.blank, s.opens with
    | true, { frame := .item _, .. } :: _ => s.pop
    | _, _ => s
  { s' with began := false }

/-- The list around the innermost container is loose if the last line was blank. -/
def loosen (s : Outline) : Outline :=
  match s.blank, s.opens with
  | true, o :: { frame := .list mark start _, blocks } :: os =>
    { s with opens := o :: { frame := .list mark start false, blocks } :: os, blank := false }
  | _, _ => { s with blank := false }

/-- Something that is no item follows in the innermost container: a list in it is over. -/
def finishList (s : Outline) : Outline :=
  let s := s.finishEmptyItem
  match s.opens with
  | { frame := .list _ _ _, .. } :: _ => s.pop.loosen
  | _ => s.loosen

/-- An item follows: it continues a list with the same mark, or opens one. -/
def continueList (s : Outline) (m : ItemMark) : Outline :=
  let start := if m.numbered then some (UInt64.ofNat m.number) else none
  let fresh (s : Outline) : Outline := { s.openFrame (.list m.mark start true) with blank := false }
  let s := s.finishEmptyItem
  match s.opens with
  | [] => fresh s
  | { frame := .list mark start tight, blocks } :: os =>
    if mark = m.mark then
      { s with
        opens := { frame := .list mark start (tight && !s.blank), blocks } :: os, blank := false }
    else fresh s.finishList
  | _ => fresh s.finishList

/-- The columns that the lines of an item are indented by, and what its first line has after the
mark, given the columns before the mark and the line after it. -/
def itemStart? (outer : Nat) (m : ItemMark) (cursor : Cursor) : Option (Nat × Cursor) :=
  let (missing, next) := cursor.skip 1
  let indent := outer + m.width + 1
  if missing = 0 || cursor.atEnd then
    if next.isBlank then some (indent, next)
    else
      let (more, after) := next.indent 4
      if more < 4 then some (indent + more, after) else some (indent, next)
  else none

/-- Opens the containers whose marks come next in a line. Of an item with nothing after its mark
nothing is left. Each container takes up a mark, so that `fuel` need not exceed the line. -/
def openContainers : Nat → Outline → Cursor → Outline × Option Cursor
  | 0, s, cursor => (s, some cursor)
  | fuel + 1, s, cursor =>
    let (outer, next) := cursor.indent 4
    if 4 ≤ outer || isThematicBreak next.rest then (s, some cursor)
    else if next.rest.head? = some '>' then
      openContainers fuel (s.finishList.openFrame .quote) (Frame.quoted next)
    else
      match itemMark? next.rest with
      | none => (s, some cursor)
      | some m =>
        match itemStart? outer m (next.advance m.width) with
        | none => (s, some cursor)
        | some (indent, after) =>
          let s := (s.continueList m).openFrame (.item indent)
          if after.isBlank then ({ s with began := true }, none)
          else openContainers fuel s after

/-- A blank line that belongs to no leaf. -/
def blankLine (s : Outline) : Outline :=
  match s.opens with
  | { frame := .quote, .. } :: _ => s
  | { frame := .item _, blocks } :: os =>
    if s.began then { s with opens := { frame := .item 0, blocks } :: os, blank := true }
    else { s with blank := true }
  | _ => { s with blank := true }

/-- The text of a verbatim line. -/
def verbatim (cursor : Cursor) (line : Line) : List Char := cursor.text ++ line.plainEnding

/-- A block of tags that has been read up to the end of a line. -/
def addHtml (s : Outline) (last? : Option (List Char)) (text line : List Char) : Outline :=
  let ended := match last? with
    | some last => occursIn last line
    | none => false
  if ended then s.add (.html (text ++ line))
  else { s with leaf := some (.html last? (text ++ line)) }

/-- The kind of a block of tags, by what ends it, if a line opens one. -/
def htmlStart? (cs : List Char) : Option (Option (List Char)) :=
  match cs with
  | '<' :: rest =>
    match Tag.blockEnd? rest with
    | some last => some (some last)
    | none => if Tag.opensBlock rest || Tag.isWholeLine rest then some none else none
  | _ => none

/-- The character that the rest of a line comes after. -/
def before (cursor : Cursor) (line : Line) : Char :=
  ((cursor.passed line.text).getLast?).getD '\n'

/-- Opens a leaf in a line that has one, given the line without its indentation. -/
def openLeaf (s : Outline) (line : Line) (indent : Nat) (cursor : Cursor) : Outline :=
  let s := s.finishList
  let cs := cursor.rest
  match htmlStart? cs with
  | some last? => s.addHtml last? [] (List.replicate indent ' ' ++ cs ++ line.plainEnding)
  | none =>
    if isThematicBreak cs then s.add .rule
    else match headingLevel? cs with
    | some level =>
      let inner := (cs.drop level).dropWhile Text.isInlineBlank
      s.add (.heading level { before := ' ', atoms := ofChars (headingText inner) })
    | none =>
      match fence? cs with
      | some (mark, length) =>
        { s with leaf := some (.fenced indent mark length (infoText length cs) []) }
      | none =>
        let content := { before := before cursor line, atoms := ofChars cs }
        { s with leaf := some (.paragraph content line.ending) }

/-- A line that continues no leaf. -/
def openLine (s : Outline) (line : Line) : Outline :=
  let (n, cursor) := followAll s.opens.reverse { rest := line.text }
  let s := popMany (s.opens.length - n) s
  match openContainers (line.text.length + 1) s cursor with
  | (s, none) => s
  | (s, some cursor) =>
    if cursor.isBlank then s.blankLine
    else
      let (indent, next) := cursor.indent 4
      if indent = 4 then
        { s.finishList with leaf := some (.indented (verbatim next line) []) }
      else s.openLeaf line indent next

/-- The heading that a line makes of a paragraph by underlining it, if the line goes on with all
containers and there is more than definitions in the paragraph. -/
def underline? (s : Outline) (content : Content) (line : Line) : Option Outline := do
  let (all, marked) := s.follow line
  let (missing, cursor) := marked.skip 4
  if !all || missing = 0 then none
  let level ← underlineLevel? cursor.rest
  let (found, left) := content.splitDefinitions
  if left.atoms.isEmpty then none
  some (({ s with leaf := none }.define found).add (.heading level left))

/-- The paragraph with one more line. -/
def extendParagraph? (s : Outline) (content : Content) (ending : List Char) (line : Line) :
    Option Outline :=
  let (all, marked) := s.follow line
  let (missing, cursor) := marked.skip 4
  if 0 < missing ∧ interrupts (!all) cursor.rest then none
  else
    let rest := cursor.rest.dropWhile fun c => c == ' ' || c == '\t'
    if rest.isEmpty then none
    else
      let marks := marked.passed line.text
      let lead := (marked.rest).take (marked.rest.length - rest.length)
      let atoms := content.atoms ++ .newline ending marks lead :: ofChars rest
      some { s with leaf := some (.paragraph { content with atoms } line.ending) }

/-- The leaf with one more line, unless the line ends it and belongs to something else. -/
def continueLeaf? (s : Outline) (leaf : Leaf) (line : Line) : Option Outline :=
  let (all, cursor) := s.follow line
  let raw := line.text ++ line.plainEnding
  match leaf with
  | .paragraph content ending =>
    s.underline? content line <|> s.extendParagraph? content ending line
  | .fenced indent mark length name text =>
    if s.returned then some { s with leaf := some (.fenced indent mark length name (text ++ raw)) }
    else if !all then none
    else
      let (_, inner) := cursor.skip indent
      let (missing, closing) := inner.skip (4 - indent)
      if 0 < missing ∧ closesFence mark length closing.rest then some s.closeLeaf
      else
        let text := text ++ verbatim inner line
        some { s with leaf := some (.fenced indent mark length name text) }
  | .indented text blanks =>
    if s.returned then some { s with leaf := some (.indented (text ++ blanks ++ raw) []) }
    else
      let (missing, inner) := cursor.skip 4
      if !all || (0 < missing && !inner.atEnd) then none
      else if inner.isBlank then
        some { s with leaf := some (.indented text (blanks ++ verbatim inner line)), blank := true }
      else
        let text := text ++ blanks ++ verbatim inner line
        some { s with leaf := some (.indented text []), blank := false }
  | .html last? text =>
    if s.returned then some ({ s with leaf := none }.addHtml last? text raw)
    else if !all || (last?.isNone && cursor.isBlank) then none
    else some ({ s with leaf := none }.addHtml last? text (verbatim cursor line))

/-- One more line. -/
def step (s : Outline) (line : Line) : Outline :=
  let next := match s.leaf with
    | some leaf => (s.continueLeaf? leaf line).getD (s.closeLeaf.openLine line)
    | none => s.openLine line
  { next with returned := line.returns }

def finish (s : Outline) : Outline := popMany s.opens.length s.closeLeaf

end Outline

/-- The events of a document. -/
def events (source : List Char) : List Event :=
  let outline := ((Line.split source).foldl Outline.step {}).finish
  Block.allEvents outline.definitions false outline.blocks

end RichChat.Markdown
