/-!
# Blank characters

Three notions of white space are in use. `isBlank` is the `White_Space` property of Unicode, which
trimming and the chat tokens go by. `isAsciiBlank` is its part that the end of a quote is trimmed
by. `isInlineBlank` is what may stand between the words of one line of markdown.
-/

namespace RichChat.Text

/-- A character with the Unicode property `White_Space`. -/
def isBlank (c : Char) : Bool :=
  let n := c.toNat
  (9 ≤ n && n ≤ 13) || n == 0x20 || n == 0x85 || n == 0xA0 || n == 0x1680
    || (0x2000 ≤ n && n ≤ 0x200A) || n == 0x2028 || n == 0x2029 || n == 0x202F || n == 0x205F
    || n == 0x3000

/-- A blank, tab, line feed, form feed or carriage return. -/
def isAsciiBlank (c : Char) : Bool :=
  c == ' ' || c == '\t' || c == '\n' || c == '\x0c' || c == '\x0d'

/-- A blank that does not end the line: a space, tab, vertical tab or form feed. -/
def isInlineBlank (c : Char) : Bool :=
  c == ' ' || c == '\t' || c == '\x0b' || c == '\x0c'

/-- An ASCII blank of any kind, line ends included. -/
def isLineBlank (c : Char) : Bool :=
  isInlineBlank c || c == '\n' || c == '\r'

def trimStart (cs : List Char) : List Char :=
  cs.dropWhile isBlank

def trimEnd (cs : List Char) : List Char :=
  (cs.reverse.dropWhile isBlank).reverse

def trim (cs : List Char) : List Char :=
  trimEnd (trimStart cs)

end RichChat.Text
