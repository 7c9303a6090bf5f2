import RichChat.Text.Blank

/-!
# Lines of a document

A line ends at a line feed, at a carriage return, or at both. Indentation is counted in columns: a
tab goes on to the next multiple of four, and whoever takes only some of its columns owes the others
to the text that follows.
-/

namespace RichChat.Markdown

/-- A line, and how it ends. The last line may have no ending. -/
structure Line where
  text : List Char
  ending : List Char
  deriving Inhabited

namespace Line

/-- Whether the line ends with a carriage return alone. -/
def returns (line : Line) : Bool := line.ending == ['\x0d']

/-- The ending of the line in a verbatim block, where a carriage return is left out in front of a
line feed only. -/
def plainEnding (line : Line) : List Char :=
  if line.ending == ['\x0d', '\n'] then ['\n'] else line.ending

def prepend (c : Char) : List Line → List Line
  | line :: lines => { line with text := c :: line.text } :: lines
  | [] => [⟨[c], []⟩]

/-- The lines of a document. -/
def split : List Char → List Line
  | [] => []
  | '\n' :: cs => ⟨[], ['\n']⟩ :: split cs
  | '\x0d' :: '\n' :: cs => ⟨[], ['\x0d', '\n']⟩ :: split cs
  | '\x0d' :: cs => ⟨[], ['\x0d']⟩ :: split cs
  | c :: cs => prepend c (split cs)

end Line

def isBlankText (cs : List Char) : Bool := cs.all Text.isInlineBlank

/-- A place in a line. -/
structure Cursor where
  rest : List Char
  /-- How many columns come before the place. -/
  column : Nat := 0
  /-- How many columns of a tab before the place have not been taken. -/
  owed : Nat := 0

namespace Cursor

/-- Takes up to `n` columns of blanks, and tells how many are missing. -/
def takeBlanks : Nat → Nat → List Char → Nat × Cursor
  | 0, column, cs => (0, ⟨cs, column, 0⟩)
  | n + 1, column, ' ' :: cs => takeBlanks n (column + 1) cs
  | n + 1, column, '\t' :: cs =>
    let width := 4 - column % 4
    if width ≤ n + 1 then takeBlanks (n + 1 - width) (column + width) cs
    else (0, ⟨cs, column + width, width - (n + 1)⟩)
  | n, column, cs => (n, ⟨cs, column, 0⟩)

/-- Goes over up to `n` columns of blanks, and tells how many are missing. -/
def skip (n : Nat) (cursor : Cursor) : Nat × Cursor :=
  if n ≤ cursor.owed then (0, { cursor with owed := cursor.owed - n })
  else takeBlanks (n - cursor.owed) cursor.column cursor.rest

/-- Goes over up to `n` columns of blanks, and tells how many there were. -/
def indent (n : Nat) (cursor : Cursor) : Nat × Cursor :=
  let (missing, next) := cursor.skip n
  (n - missing, next)

/-- Goes over `n` characters of one column each. -/
def advance (n : Nat) (cursor : Cursor) : Cursor :=
  { cursor with rest := cursor.rest.drop n, column := cursor.column + n }

def atEnd (cursor : Cursor) : Bool := cursor.rest.isEmpty

def isBlank (cursor : Cursor) : Bool := isBlankText cursor.rest

/-- The rest of the line with the columns owed as spaces. -/
def text (cursor : Cursor) : List Char := List.replicate cursor.owed ' ' ++ cursor.rest

/-- What has been passed of a line. -/
def passed (cursor : Cursor) (line : List Char) : List Char :=
  line.take (line.length - cursor.rest.length)

end Cursor

end RichChat.Markdown
