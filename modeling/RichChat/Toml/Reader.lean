import RichChat.Toml.Quoted
import RichChat.Toml.Scalar

/-!
# Reading TOML

A document is a sequence of lines: a key with its value, a header, a comment or nothing. Values in
brackets may go on over several lines. `parse?` gives the entries of a document, unless it breaks a
rule of the format or defines something twice.
-/

namespace RichChat.Toml

open RichChat.Text

/-- A comment at the start, up to the end of its line. -/
def comment? : List Char → Option (List Char)
  | '#' :: cs => some (cs.dropWhile isPrintable)
  | _ => none

/-- Spaces and a comment, and the line end after them or the end of the text. -/
def endLine? (cs : List Char) : Option (List Char) :=
  let cs := skipSpaces cs
  let cs := (comment? cs).getD cs
  if cs.isEmpty then some [] else lineEnd? cs

/-- Without spaces, comments and line ends at the start. -/
def skipLines : Nat → List Char → List Char
  | 0, cs => cs
  | fuel + 1, cs =>
    let cs := skipSpaces cs
    let cs := (comment? cs).getD cs
    match lineEnd? cs with
    | some rest => skipLines fuel rest
    | none => cs

def isBareKey (c : Char) : Bool := c.isAlphanum || c == '-' || c == '_'

/-- One part of a key, and what comes after it. -/
def keyPart? : List Char → Option (String × List Char)
  | '"' :: cs => (basic? (cs.length + 1) cs).map fun (s, rest) => (String.ofList s, rest)
  | '\'' :: cs => (literal? cs).map fun (s, rest) => (String.ofList s, rest)
  | cs =>
    let key := cs.takeWhile isBareKey
    if key.isEmpty then none else some (String.ofList key, cs.drop key.length)

/-- The parts of a key but the last one, the last one, and what comes after the key. -/
def key? : Nat → List Char → Option ((List String × String) × List Char)
  | 0, _ => none
  | fuel + 1, cs => do
    let (part, rest) ← keyPart? (skipSpaces cs)
    match skipSpaces rest with
    | '.' :: rest =>
      let ((path, last), rest) ← key? fuel rest
      some ((part :: path, last), rest)
    | rest => some (([], part), rest)

/-- What comes after a key, an equals sign and spaces. -/
def assigned? (cs : List Char) : Option ((List String × String) × List Char) := do
  let (key, rest) ← key? (cs.length + 1) cs
  match rest with
  | '=' :: rest => some (key, skipSpaces rest)
  | _ => none

mutual

/-- A value, and what comes after it. -/
def value? : Nat → List Char → Option (Value × List Char)
  | 0, _ => none
  | fuel + 1, cs =>
    match cs with
    | 't' :: 'r' :: 'u' :: 'e' :: rest => some (.boolean true, rest)
    | 'f' :: 'a' :: 'l' :: 's' :: 'e' :: rest => some (.boolean false, rest)
    | '[' :: rest =>
      match skipLines (rest.length + 1) rest with
      | ']' :: rest => some (.array [], rest)
      | rest => (items? fuel rest).map fun (items, rest) => (.array items, rest)
    | '\x7b' :: rest =>
      match skipSpaces rest with
      | '\x7d' :: rest => some (.table .closed [], rest)
      | rest => (members? fuel [] rest).map fun (entries, rest) => (.table .closed entries, rest)
    | '"' :: _ | '\'' :: _ =>
      (quoted? cs).map fun (s, rest) => (.text (String.ofList s), rest)
    | _ => scalar? cs

/-- At least one item, and the closing bracket. A comma may come before it. -/
def items? : Nat → List Char → Option (List Value × List Char)
  | 0, _ => none
  | fuel + 1, cs => do
    let (item, rest) ← value? fuel cs
    match skipLines (rest.length + 1) rest with
    | ']' :: rest => some ([item], rest)
    | ',' :: rest =>
      match skipLines (rest.length + 1) rest with
      | ']' :: rest => some ([item], rest)
      | rest => (items? fuel rest).map fun (items, rest) => (item :: items, rest)
    | _ => none

/-- At least one key with its value, and the closing brace. -/
def members? : Nat → Entries → List Char → Option (Entries × List Char)
  | 0, _, _ => none
  | fuel + 1, entries, cs => do
    let ((path, key), rest) ← assigned? cs
    let (value, rest) ← value? fuel rest
    let entries ← entries.add? path key value .header
    match skipSpaces rest with
    | '\x7d' :: rest => some (entries, rest)
    | ',' :: rest => members? fuel entries rest
    | _ => none

end

/-- What has been read of a document. -/
structure Document where
  entries : Entries := []
  /-- The path of the last header. -/
  current : List String := []

namespace Document

/-- A header, after its opening brackets. -/
def header? (d : Document) (open? : String → Entries → Option Entries) (close : List Char)
    (cs : List Char) : Option (Document × List Char) := do
  let ((path, key), rest) ← key? (cs.length + 1) cs
  if close.isPrefixOf rest then
    let entries ← d.entries.alter? false (fun _ entries => open? key entries) path .header
    let rest ← endLine? (rest.drop close.length)
    some ({ entries, current := path ++ [key] }, rest)
  else none

/-- A key with its value. -/
def assignment? (d : Document) (cs : List Char) : Option (Document × List Char) := do
  let ((path, key), rest) ← assigned? cs
  let (value, rest) ← value? (rest.length + 1) rest
  let entries ← d.entries.alter? false (fun form entries => entries.add? path key value form)
    d.current .header
  some ({ d with entries }, ← endLine? rest)

/-- The lines of a document. Each takes up text, so that `fuel` need not exceed its length. -/
def lines? : Nat → Document → List Char → Option Document
  | 0, _, _ => none
  | fuel + 1, d, cs =>
    match skipSpaces cs with
    | [] => some d
    | '[' :: '[' :: rest => do
      let (d, rest) ← d.header? Entries.openElement? [']', ']'] rest
      lines? fuel d rest
    | '[' :: rest => do
      let (d, rest) ← d.header? Entries.openTable? [']'] rest
      lines? fuel d rest
    | '#' :: rest => do lines? fuel d (← endLine? ('#' :: rest))
    | '\n' :: rest => lines? fuel d rest
    | '\x0d' :: '\n' :: rest => lines? fuel d rest
    | cs => do
      let (d, rest) ← d.assignment? cs
      lines? fuel d rest

end Document

/-- The entries of a document. -/
def parse? (text : String) : Option Entries :=
  let cs := match text.toList with
    | '\uFEFF' :: cs => cs
    | cs => cs
  (Document.lines? (cs.length + 1) {} cs).map (·.entries)

end RichChat.Toml
