import RichChat.Markdown.Content
import RichChat.Markdown.Entity
import RichChat.Text.Fold

/-!
# Links

A link has its destination in parentheses after its text, or it refers by a label to a definition
elsewhere in the document. Labels are the same when they differ only in case, in the length of the
blanks in them and in blanks at their ends. Definitions stand at the start of a paragraph, from
which `Content.splitDefinitions` takes them.
-/

namespace RichChat.Markdown

/-- The definitions of a document, each a label and a destination, the first one first. -/
abbrev Definitions := List (List Char × List Char)

/-- A destination in angle brackets, after the first of them. -/
def pointyDestination? : List Atom → Option (List Char × List Atom)
  | .char '>' :: rest => some ([], rest)
  | .char '<' :: _ => none
  | .char '\\' :: .char c :: rest =>
    if Text.isAsciiPunctuation c then
      (pointyDestination? rest).map fun (cs, rest) => ('\\' :: c :: cs, rest)
    else (pointyDestination? (.char c :: rest)).map fun (cs, rest) => ('\\' :: cs, rest)
  | .char c :: rest => (pointyDestination? rest).map fun (cs, rest) => (c :: cs, rest)
  | _ => none

/-- How many parentheses may be open in front of another one in a destination. -/
def nestingLimit : Nat := 32

/-- A destination without brackets, `depth` parentheses being open in it. It ends at a blank, at a
control character and at a parenthesis that it has not opened. -/
def bareDestination? : Nat → List Atom → Option (List Char × List Atom)
  | depth, .char '\\' :: .char c :: rest =>
    if Text.isAsciiPunctuation c then
      (bareDestination? depth rest).map fun (cs, rest) => ('\\' :: c :: cs, rest)
    else (bareDestination? depth (.char c :: rest)).map fun (cs, rest) => ('\\' :: cs, rest)
  | depth, .char '(' :: rest =>
    if nestingLimit < depth then none
    else (bareDestination? (depth + 1) rest).map fun (cs, rest) => ('(' :: cs, rest)
  | 0, .char ')' :: rest => some ([], .char ')' :: rest)
  | depth + 1, .char ')' :: rest =>
    (bareDestination? depth rest).map fun (cs, rest) => (')' :: cs, rest)
  | depth, .char c :: rest =>
    if c.toNat ≤ 0x20 then if depth = 0 then some ([], .char c :: rest) else none
    else (bareDestination? depth rest).map fun (cs, rest) => (c :: cs, rest)
  | depth, atoms => if depth = 0 then some ([], atoms) else none

/-- A destination as it is written, and what comes after it. -/
def destination? (atoms : List Atom) : Option (List Char × List Atom) :=
  match atoms with
  | .char '<' :: rest => pointyDestination? rest
  | atoms => bareDestination? 0 atoms

/-- Whether only blanks come before the end of the line. -/
def isBlankLine (atoms : List Atom) : Bool :=
  match skipInlineBlanks atoms with
  | [] | .newline _ _ _ :: _ => true
  | _ => false

/-- What comes after a title, given its closing mark and the part after its opening mark. -/
def titleEnd? (opening closing : Char) : List Atom → Option (List Atom)
  | .char '\\' :: .char c :: rest =>
    if Text.isAsciiPunctuation c then titleEnd? opening closing rest
    else titleEnd? opening closing (.char c :: rest)
  | .char c :: rest =>
    if c = closing then some rest
    else if c = opening then none
    else titleEnd? opening closing rest
  | .newline _ _ _ :: rest => if isBlankLine rest then none else titleEnd? opening closing rest
  | [] => none

/-- What comes after a title. -/
def title? : List Atom → Option (List Atom)
  | .char '"' :: rest => titleEnd? '"' '"' rest
  | .char '\'' :: rest => titleEnd? '\'' '\'' rest
  | .char '(' :: rest => titleEnd? '(' ')' rest
  | _ => none

/-- The destination in parentheses after the text of a link, and what comes after them. -/
def inlineLink? : List Atom → Option (List Char × List Atom)
  | .char '(' :: rest => do
    let (dest, rest) ← destination? (skipSpace rest)
    let rest := skipSpace rest
    let rest := match title? rest with
      | some rest => skipSpace rest
      | none => rest
    match rest with
    | .char ')' :: rest => some (unescape dest, rest)
    | _ => none
  | _ => none

/-- The longest label. -/
def labelLimit : Nat := 999

/-- The characters of a label of at most `room` characters, up to its closing bracket, and what
comes after that. Blanks in a row become one space, and only one line end may be among them. -/
def labelChars? : Nat → List Atom → Option (List Char × List Atom)
  | _, [] => none
  | 0, .char ']' :: rest => some ([], rest)
  | 0, _ => none
  | room + 1, atom :: rest =>
    match atom, rest with
    | .char ']', rest => some ([], rest)
    | .char '[', _ => none
    | .char '\\', .char c :: _ =>
      if Text.isAsciiPunctuation c then
        (labelChars? room rest.tail).map fun (cs, after) => ('\\' :: c :: cs, after)
      else (labelChars? room rest).map fun (cs, after) => ('\\' :: cs, after)
    | atom, _ =>
      if atom.isNewline && isBlankLine rest then none
      else
        let c := labelChar atom
        (labelChars? room rest).map fun (cs, after) =>
          (if c = ' ' ∧ cs.head? = some ' ' then cs else c :: cs, after)
where
  /-- A character of a label, a space being written for every blank. -/
  labelChar : Atom → Char
    | .char c => if Text.isLineBlank c then ' ' else c
    | .newline _ _ _ => ' '

/-- A label in brackets, folded for comparison, and what comes after it. -/
def label? : List Atom → Option (List Char × List Atom)
  | .char '[' :: rest => do
    let (cs, rest) ← labelChars? labelLimit rest
    let trimmed := ((cs.dropWhile (· == ' ')).reverse.dropWhile (· == ' ')).reverse
    if trimmed.isEmpty then none else some (trimmed.flatMap Text.foldCase, rest)
  | _ => none

def Definitions.find? (definitions : Definitions) (label : List Char) : Option (List Char) :=
  (List.find? (fun d => d.1 = label) definitions).map (·.2)

/-- The definition of a label at the start of a paragraph, and what comes after it, which is blank
up to the end of the line. A title may follow the destination after a blank. If it turns out to be
none, the definition ends before it, provided that it starts on a line of its own. -/
def definition? (atoms : List Atom) : Option ((List Char × List Char) × List Atom) := do
  let (label, rest) ← label? atoms
  let .char ':' :: rest := rest | none
  let start := skipSpace rest
  let (dest, rest) ← destination? start
  if start.length = rest.length then none
  let next := skipSpace rest
  let titled? := if next.length = rest.length then none else (title? next).filter isBlankLine
  match titled? with
  | some after => some ((label, unescape dest), after)
  | none => if isBlankLine rest then some ((label, unescape dest), rest) else none

namespace Content

/-- The definitions at the start of a paragraph, in their order, and the content after them. Each
definition takes up atoms, so that `fuel` need not exceed their number. -/
def splitDefinitionsWith : Nat → Content → Definitions × Content
  | 0, content => ([], content)
  | fuel + 1, content =>
    match definition? content.atoms with
    | none => ([], content)
    | some (found, after) =>
      let rest := match skipInlineBlanks after with
        | [] => { before := content.before, atoms := [] }
        | a :: atoms => { before := a.last, atoms }
      let (more, left) := splitDefinitionsWith fuel rest
      (found :: more, left)

/-- The definitions at the start of a paragraph, and the content after them. -/
def splitDefinitions (content : Content) : Definitions × Content :=
  splitDefinitionsWith content.atoms.length content

end Content

end RichChat.Markdown
