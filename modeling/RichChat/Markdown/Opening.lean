import RichChat.Markdown.Entity
import RichChat.Markdown.Html
import RichChat.Markdown.Line

/-!
# How blocks open

Whether a line, given without its indentation, opens a block of some kind: a thematic break, a
heading, a fence, a quote, an item of a list, a block of tags. `interrupts` tells which of these end
a paragraph without a blank line between.
-/

namespace RichChat.Markdown

/-- Three or more stars, hyphens or underscores with nothing but blanks between them. -/
def isThematicBreak (cs : List Char) : Bool :=
  match cs with
  | c :: _ =>
    (c == '*' || c == '-' || c == '_') && cs.all (fun d => d == c || d == ' ' || d == '\t')
      && 3 ≤ cs.count c
  | [] => false

/-- The level of a heading that is written with number signs. -/
def headingLevel? (cs : List Char) : Option Nat :=
  let level := (cs.takeWhile (· == '#')).length
  match cs.drop level with
  | [] => if 1 ≤ level ∧ level ≤ 6 then some level else none
  | c :: _ => if 1 ≤ level ∧ level ≤ 6 ∧ Text.isLineBlank c then some level else none

/-- The text of a heading without the blanks and number signs that may end it. -/
def headingText (cs : List Char) : List Char :=
  let trimmed := (cs.reverse.dropWhile (· == ' ')).reverse
  let body := (trimmed.reverse.dropWhile (· == '#')).reverse
  if body.isEmpty then []
  else if body.getLast? = some ' ' then (body.reverse.dropWhile (· == ' ')).reverse
  else trimmed

/-- The level of a heading that is underlined by a line. -/
def underlineLevel? (cs : List Char) : Option Nat :=
  match cs with
  | c :: _ =>
    if (c = '=' ∨ c = '-') ∧ isBlankText (cs.dropWhile (· == c)) then
      some (if c = '=' then 1 else 2)
    else none
  | [] => none

/-- The mark and the length of a fence. -/
def fence? (cs : List Char) : Option (Char × Nat) :=
  match cs with
  | c :: _ =>
    let length := (cs.takeWhile (· == c)).length
    if (c = '\x60' ∨ c = '~') ∧ 3 ≤ length then
      if c = '\x60' ∧ (cs.drop length).contains c then none else some (c, length)
    else none
  | [] => none

/-- The info text of a fence of some length. -/
def infoText (length : Nat) (cs : List Char) : List Char :=
  let info := (cs.drop length).dropWhile Text.isInlineBlank
  unescape (info.reverse.dropWhile Text.isLineBlank).reverse

/-- Whether a line closes a fence. -/
def closesFence (mark : Char) (length : Nat) (cs : List Char) : Bool :=
  let rest := cs.dropWhile (· == mark)
  length ≤ cs.length - rest.length && rest.all (· == ' ')

/-- The mark of an item: a bullet, or a number with a period or a parenthesis. -/
structure ItemMark where
  mark : Char
  number : Nat
  /-- How many characters it has. -/
  width : Nat

/-- Whether the list of the mark is numbered. -/
def ItemMark.numbered (m : ItemMark) : Bool := m.mark == '.' || m.mark == ')'

/-- The mark at the start of a line, whatever comes after it. -/
def itemMark? (cs : List Char) : Option ItemMark :=
  match cs with
  | c :: _ =>
    if c = '-' ∨ c = '+' ∨ c = '*' then some ⟨c, 0, 1⟩
    else
      let digits := cs.takeWhile Char.isDigit
      match cs.drop digits.length with
      | d :: _ =>
        if (d = '.' ∨ d = ')') ∧ digits.length ≤ 9 then
          (Text.readNat? 10 digits).map fun n => ⟨d, n, digits.length + 1⟩
        else none
      | [] => none
  | [] => none

/-- Whether an item may start in a line of a paragraph. Where the paragraph is continued without the
marks of its containers any item may, and otherwise only one with text whose number, if it has one,
is one. -/
def interruptsAsItem (continued : Bool) (cs : List Char) : Bool :=
  match itemMark? cs with
  | none => false
  | some m =>
    let rest := cs.drop m.width
    match rest with
    | [] => continued
    | c :: _ =>
      (c == ' ' || c == '\t')
        && (continued || ((!m.numbered || m.number == 1) && !isBlankText rest))

/-- Whether a line ends a paragraph. -/
def interrupts (continued : Bool) (cs : List Char) : Bool :=
  cs.isEmpty || isThematicBreak cs || (headingLevel? cs).isSome || (fence? cs).isSome
    || cs.head? == some '>' || interruptsAsItem continued cs
    || match cs with
      | '<' :: rest => (Tag.blockEnd? rest).isSome || Tag.opensBlock rest
      | _ => false

end RichChat.Markdown
