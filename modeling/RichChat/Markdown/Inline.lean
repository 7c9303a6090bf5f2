import RichChat.Markdown.Autolink
import RichChat.Markdown.Delimiter
import RichChat.Markdown.Html
import RichChat.Markdown.Link

/-!
# Inline content

`Content.events` reads the inline content of a block from left to right. Code, autolinks and tags
take up characters before anything else can; brackets wait for their other half on a stack, and the
text between them becomes a link if a destination follows or a definition is found. Inside a link no
bracket can open another one. Blanks at the end of a line are dropped, and two of them make the line
end a hard break.
-/

namespace RichChat.Markdown

/-- An opening bracket, with the parts in front of it, the last one first. -/
structure Bracket where
  image : Bool
  /-- Whether it can still become a link. -/
  active : Bool := true
  before : List Piece
  /-- The content after the bracket. -/
  inside : List Atom

/-- The bracket as text. -/
def Bracket.text (b : Bracket) : Piece :=
  .events [.text (if b.image then ['!', '['] else ['['])]

/-- What has been read of inline content. -/
structure Reading where
  /-- The parts after the last open bracket, the last one first. -/
  pieces : List Piece := []
  brackets : List Bracket := []
  /-- The character that comes before the rest. -/
  before : Char

namespace Reading

def add (r : Reading) (piece : Piece) : Reading := { r with pieces := piece :: r.pieces }

def text (r : Reading) (cs : List Char) : Reading := r.add (.events [.text cs])

/-- The last open bracket becomes text. -/
def giveUp (r : Reading) (b : Bracket) (rest : List Bracket) : Reading :=
  { r with pieces := r.pieces ++ b.text :: b.before, brackets := rest }

/-- The last open bracket becomes a link. -/
def link (r : Reading) (b : Bracket) (rest : List Bracket) (dest : List Char) : Reading :=
  let inner := Delimiter.resolve r.pieces.reverse
  let piece : Piece := .events (.start (.link (String.ofList dest)) :: inner ++ [.stop])
  { r with
    pieces := piece :: b.before
    brackets := if b.image then rest else rest.map fun o =>
      if o.image then o else { o with active := false } }

/-- The destination for a bracket that is closed in front of `rest`, and what comes after the link:
in parentheses, by a label in brackets, or by its own text. -/
def target? (definitions : Definitions) (b : Bracket) (rest : List Atom) :
    Option (List Char × List Atom) :=
  match inlineLink? rest with
  | some found => some found
  | none =>
    let byText (after : List Atom) : Option (List Char × List Atom) := do
      let (label, end') ← label? (.char '[' :: b.inside)
      if end'.length = rest.length then return (← definitions.find? label, after) else none
    match rest with
    | .char '[' :: .char ']' :: after => byText after
    | _ => match label? rest with
      | some (label, after) => (definitions.find? label).map fun dest => (dest, after)
      | none => byText rest

/-- A closing bracket in front of `rest`, and what is left of that. -/
def closeBracket (r : Reading) (definitions : Definitions) (rest : List Atom) :
    Reading × List Atom :=
  match r.brackets with
  | [] => (r.text [']'], rest)
  | b :: bs =>
    let found := if b.active then target? definitions b rest else none
    match found with
    | some (dest, after) => (r.link b bs dest, after)
    | none => ((r.giveUp b bs).text [']'], rest)

/-- How many characters come before the next run of exactly `n` backticks, given that the last
`run` characters were backticks and `seen` characters have been passed. -/
def codeLength? (n : Nat) : Nat → Nat → List Atom → Option Nat
  | run, seen, [] => if run = n then some (seen - n) else none
  | run, seen, a :: rest =>
    if a = .char '\x60' then codeLength? n (run + 1) (seen + 1) rest
    else if run = n then some (seen - n)
    else codeLength? n 0 (seen + 1) rest

/-- The text of code: line ends are spaces, and a space at both ends is left out. -/
def codeText (atoms : List Atom) : List Char :=
  let cs := atoms.flatMap fun a => match a with
    | .char c => [c]
    | .newline _ _ lead => ' ' :: lead
  if cs.head? = some ' ' && cs.getLast? = some ' ' && !cs.all (· == ' ') then cs.tail.dropLast
  else cs

/-- A run of `n` backticks in front of `rest`, and what is left of that. -/
def code (r : Reading) (n : Nat) (rest : List Atom) : Reading × List Atom :=
  match codeLength? n 0 0 rest with
  | some length =>
    (r.add (.events [.code (String.ofList (codeText (rest.take length)))]), rest.drop (length + n))
  | none => (r.text (List.replicate n '\x60'), rest)

/-- An angle bracket in front of `rest`, and what is left of that. -/
def angle (r : Reading) (rest : List Atom) : Reading × List Atom :=
  match Autolink.scan? (lineChars rest) with
  | some address =>
    (r.add (.events [.start (.link (String.ofList address)), .text address, .stop]),
      rest.drop (address.length + 1))
  | none =>
    match Tag.inline? rest with
    | some after =>
      let inside := rest.take (rest.length - after.length)
      let shown := match inside with
        | .char '!' :: _ | .char '?' :: _ => inside.flatMap Atom.source
        | _ => inside.flatMap Atom.text
      (r.add (.events [.html ('<' :: shown)]), after)
    | none => (r.text ['<'], rest)

/-- A blank in front of `rest`, `first` and `rest` being the content. -/
def blank (r : Reading) (first : Char) (rest : List Atom) : Reading × List Atom :=
  let after := skipInlineBlanks rest
  match after with
  | [] => (r, [])
  | .newline _ _ _ :: next =>
    (r.add (.events [if after.length < rest.length then .hardBreak else .softBreak]), next)
  | _ => (r.text (first :: (lineChars rest).takeWhile Text.isInlineBlank), after)

/-- Whether a character has a meaning in inline content. -/
def isSpecial (c : Char) : Bool :=
  ['*', '_', '~', '\x60', '\\', '<', '!', '[', ']', '&'].contains c || Text.isInlineBlank c

/-- A character that stands in front of `rest`, and what is left of that. -/
def character (r : Reading) (definitions : Definitions) (c : Char) (rest : List Atom) :
    Reading × List Atom :=
  if c = '*' ∨ c = '_' ∨ c = '~' then
    let length := ((lineChars rest).takeWhile (· == c)).length + 1
    let after := rest.drop (length - 1)
    let next := (lineChars after).head?
    let opens := canOpen c length r.before next
    let closes := canClose c length r.before next
    if (opens || closes) && (c != '~' || length ≤ 2) then
      (r.add (.run c length opens closes), after)
    else (r.text (List.replicate length c), after)
  else if c = '\x60' then
    let more := ((lineChars rest).takeWhile (· == c)).length
    r.code (more + 1) (rest.drop more)
  else if c = '\\' then
    match rest with
    | .char c :: rest =>
      if Text.isAsciiPunctuation c then (r.text [c], rest) else (r.text ['\\'], .char c :: rest)
    | .newline _ _ _ :: rest => (r.add (.events [.hardBreak]), rest)
    | [] => (r.text ['\\'], [])
  else if c = '<' then r.angle rest
  else if c = '!' ∧ rest.head? = some (.char '[') then
    ({ r with
        pieces := []
        brackets := { image := true, before := r.pieces, inside := rest.tail } :: r.brackets },
      rest.tail)
  else if c = '[' then
    ({ r with
        pieces := []
        brackets := { image := false, before := r.pieces, inside := rest } :: r.brackets }, rest)
  else if c = ']' then r.closeBracket definitions rest
  else if c = '&' then
    match reference? (lineChars rest) with
    | some (text, n) => (r.text text, rest.drop n)
    | none => (r.text ['&'], rest)
  else if Text.isInlineBlank c then r.blank c rest
  else
    let word := (lineChars rest).takeWhile (!isSpecial ·)
    (r.text (c :: word), rest.drop word.length)

/-- The reading after the content that comes after `skip` of its atoms. -/
def run (definitions : Definitions) : Nat → Reading → List Atom → Reading
  | _, r, [] => r
  | skip + 1, r, a :: rest => run definitions skip { r with before := a.last } rest
  | 0, r, a :: rest =>
    let (next, after) := match a with
      | .char c => r.character definitions c rest
      | .newline _ _ _ => (r.add (.events [.softBreak]), rest)
    run definitions (rest.length - after.length) { next with before := a.last } rest

/-- All parts, brackets that were not closed being text. -/
def finish (r : Reading) : List Piece :=
  (r.brackets.foldl (fun pieces b => pieces ++ b.text :: b.before) r.pieces).reverse

end Reading

/-- The events of inline content. -/
def Content.events (definitions : Definitions) (content : Content) : List Event :=
  Delimiter.resolve
    (Reading.run definitions 0 { before := content.before } content.atoms).finish

end RichChat.Markdown
