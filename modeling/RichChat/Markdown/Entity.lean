import RichChat.Markdown.EntityNames
import RichChat.Text.Decimal
import RichChat.Text.Punctuation

/-!
# Escapes and character references

A backslash in front of ASCII punctuation stands for that punctuation. A reference stands for one
character by its number, or for one or two by a name. The numbers of no character stand for U+FFFD.
-/

namespace RichChat.Markdown

/-- The character with a number, or the one that stands in for it. -/
def charOfNumber (n : Nat) : Char :=
  if h : n.isValidChar ∧ n ≠ 0 then Char.ofNatAux n h.1 else '\uFFFD'

/-- A number of at most `most` digits with the semicolon after it, and how long both are. -/
def numberReference? (base most : Nat) (cs : List Char) : Option (Char × Nat) :=
  let digits := cs.takeWhile fun c => (Text.digitValue? base c).isSome
  match cs.drop digits.length with
  | ';' :: _ =>
    if digits.length ≤ most then
      (Text.readNat? base digits).map fun n => (charOfNumber n, digits.length + 1)
    else none
  | _ => none

/-- The text that a name stands for. -/
def namedText? (name : List Char) : Option (List Char) := do
  let named ← (entityNames (← name.head?)).find? fun named => named.1.toList = name
  return named.2.map Char.ofNat

/-- What a reference stands for, given the text after its ampersand, and how much of that is its. -/
def reference? (cs : List Char) : Option (List Char × Nat) :=
  match cs with
  | '#' :: 'x' :: cs | '#' :: 'X' :: cs => (numberReference? 16 6 cs).map fun (c, n) => ([c], n + 2)
  | '#' :: cs => (numberReference? 10 7 cs).map fun (c, n) => ([c], n + 1)
  | cs =>
    let name := cs.takeWhile Char.isAlphanum
    match cs.drop name.length with
    | ';' :: _ => (namedText? name).map fun text => (text, name.length + 1)
    | _ => none

/-- A text after its first `skip` characters with its escapes and references replaced. -/
def unescapeFrom : Nat → List Char → List Char
  | _, [] => []
  | skip + 1, _ :: cs => unescapeFrom skip cs
  | 0, '\\' :: cs =>
    match cs with
    | c :: _ =>
      if Text.isAsciiPunctuation c then c :: unescapeFrom 1 cs else '\\' :: unescapeFrom 0 cs
    | [] => ['\\']
  | 0, '&' :: cs =>
    match reference? cs with
    | some (text, n) => text ++ unescapeFrom n cs
    | none => '&' :: unescapeFrom 0 cs
  | 0, c :: cs => c :: unescapeFrom 0 cs

def unescape (cs : List Char) : List Char := unescapeFrom 0 cs

end RichChat.Markdown
