import RichChat.Text.Blank

/-!
# The content of a block

The inline content of a block is a list of characters and line ends. A line end keeps the marks of
the containers around the block (`> ` and the indentation of items) and the blanks that the next
line starts with, since a few constructs can see them.
-/

namespace RichChat.Markdown

inductive Atom
  | char (c : Char)
  /-- A line end, the marks of the containers on the next line, and the blanks after these. -/
  | newline (ending marks lead : List Char)
  deriving DecidableEq

namespace Atom

/-- What the document has in this place. -/
def source : Atom → List Char
  | char c => [c]
  | newline ending marks lead => ending ++ marks ++ lead

/-- What the document has in this place apart from the marks of containers. -/
def text : Atom → List Char
  | char c => [c]
  | newline ending _ lead => ending ++ lead

/-- The character that the next one stands after. -/
def last (a : Atom) : Char := a.source.getLast?.getD '\n'

def isNewline : Atom → Bool
  | char _ => false
  | newline _ _ _ => true

/-- Whether it is a character that has a property. -/
def is (a : Atom) (p : Char → Bool) : Bool :=
  match a with
  | char c => p c
  | newline _ _ _ => false

end Atom

/-- The characters up to the end of the line. -/
def lineChars : List Atom → List Char
  | .char c :: rest => c :: lineChars rest
  | _ => []

def ofChars (cs : List Char) : List Atom := cs.map .char

/-- Without the inline blanks at the start. -/
def skipInlineBlanks (atoms : List Atom) : List Atom := atoms.dropWhile (·.is Text.isInlineBlank)

/-- Without blanks at the start, which may go over one line end. -/
def skipSpace (atoms : List Atom) : List Atom :=
  match skipInlineBlanks atoms with
  | .newline _ _ _ :: rest => skipInlineBlanks rest
  | rest => rest

/-- The inline content of a block. -/
structure Content where
  /-- The character in front of the content. -/
  before : Char := ' '
  atoms : List Atom

end RichChat.Markdown
