import RichChat.Markdown.Node
import RichChat.Text.Decimal
import RichChat.Text.Word

/-!
# Chat tokens

Inside its text a message has mentions, custom emoji, bare addresses and the bars around spoilers.
`Token.scan` cuts a text into these and the plain text between them. An identifier that does not fit
into 64 bits makes no token, and stays text.
-/

namespace RichChat

inductive Token
  | text (run : List Char)
  | mention (target : Reference)
  | emoji (emoji : CustomEmoji)
  | url (address : List Char)
  | spoiler
  deriving DecidableEq

namespace Token

/-- The start of a text that has a property, if it is not empty, and what is left. -/
def span? (p : Char → Bool) (cs : List Char) : Option (List Char × List Char) :=
  match cs.takeWhile p with
  | [] => none
  | run => some (run, cs.dropWhile p)

/-- Digits, an identifier in 64 bits, and the bracket that closes a mention or an emoji. -/
def identifier? (cs : List Char) : Option (UInt64 × List Char) := do
  let (digits, rest) ← span? Text.isDigit cs
  match rest with
  | '>' :: rest => return (← Text.readWord64? digits, rest)
  | _ => none

/-- The part of a mention after its opening bracket. -/
def mention? : List Char → Option (Reference × List Char)
  | '@' :: '!' :: cs => (identifier? cs).map fun (id, rest) => (.user ⟨id⟩, rest)
  | '@' :: '&' :: cs => (identifier? cs).map fun (id, rest) => (.role ⟨id⟩, rest)
  | '@' :: cs => (identifier? cs).map fun (id, rest) => (.user ⟨id⟩, rest)
  | '#' :: cs => (identifier? cs).map fun (id, rest) => (.channel ⟨id⟩, rest)
  | _ => none

/-- The name of an emoji, a colon and its identifier. -/
def emojiName? (animated : Bool) (cs : List Char) : Option (CustomEmoji × List Char) := do
  let (name, rest) ← span? Text.isWord cs
  match rest with
  | ':' :: rest =>
    let (id, rest) ← identifier? rest
    return (⟨String.ofList name, ⟨id⟩, animated⟩, rest)
  | _ => none

/-- The part of an emoji after its opening bracket. -/
def emoji? : List Char → Option (CustomEmoji × List Char)
  | 'a' :: ':' :: cs => emojiName? true cs
  | ':' :: cs => emojiName? false cs
  | _ => none

/-- What an address may go on with after its slashes. -/
def isUrlChar (c : Char) : Bool :=
  !(Text.isBlank c || ['<', '>', '[', ']', '(', ')', '|'].contains c)

/-- An address up to its slashes, and what comes after them. -/
def urlScheme? : List Char → Option (List Char × List Char)
  | 'h' :: 't' :: 't' :: 'p' :: 's' :: ':' :: '/' :: '/' :: cs => some ("https://".toList, cs)
  | 'h' :: 't' :: 't' :: 'p' :: ':' :: '/' :: '/' :: cs => some ("http://".toList, cs)
  | _ => none

def url? (cs : List Char) : Option (List Char × List Char) := do
  let (scheme, rest) ← urlScheme? cs
  let (run, rest) ← span? isUrlChar rest
  return (scheme ++ run, rest)

/-- A token other than text at the start. -/
def special? : List Char → Option (Token × List Char)
  | '<' :: cs =>
    match mention? cs with
    | some (target, rest) => some (.mention target, rest)
    | none => (emoji? cs).map fun (e, rest) => (.emoji e, rest)
  | '|' :: '|' :: cs => some (.spoiler, cs)
  | cs => (url? cs).map fun (address, rest) => (.url address, rest)

/-- A character in front of some tokens, joined to a text at their start. -/
def prepend (c : Char) : List Token → List Token
  | text run :: tokens => text (c :: run) :: tokens
  | tokens => text [c] :: tokens

/-- The tokens after the first `skip` characters. -/
def scanFrom : Nat → List Char → List Token
  | _, [] => []
  | skip + 1, _ :: cs => scanFrom skip cs
  | 0, c :: cs =>
    match special? (c :: cs) with
    | some (token, rest) => token :: scanFrom (cs.length - rest.length) cs
    | none => prepend c (scanFrom 0 cs)

/-- A text cut into its tokens. -/
def scan (cs : List Char) : List Token := scanFrom 0 cs

end Token

end RichChat
