import RichChat.Json.Basic
import RichChat.Text.Decimal

/-!
# Reading JSON

A text is read as one value with blanks around it. Every reader takes the characters that are left
and gives what it read with what is left after it, or nothing.

Strings are read where they stand, so that one with half of a surrogate pair is refused even in a
member that no record has. There is no limit to the size of a number or to how deep values nest.
-/

namespace RichChat.Json

open RichChat.Text

def isSpace (c : Char) : Bool := c == ' ' || c == '\n' || c == '\r' || c == '\t'

def skipSpaces (cs : List Char) : List Char := cs.dropWhile isSpace

/-- What is left after a word. -/
def afterWord? : List Char → List Char → Option (List Char)
  | [], cs => some cs
  | w :: ws, c :: cs => if w = c then afterWord? ws cs else none
  | _ :: _, [] => none

/-- Four hexadecimal digits. -/
def readUnit? : List Char → Option (Nat × List Char)
  | a :: b :: c :: d :: cs => (readNat? 16 [a, b, c, d]).map fun n => (n, cs)
  | _ => none

/-- What a letter after a backslash stands for. -/
def escaped? (c : Char) : Option Char :=
  if c = '"' || c = '\\' || c = '/' then some c
  else if c = 'b' then some '\x08'
  else if c = 'f' then some '\x0c'
  else if c = 'n' then some '\n'
  else if c = 'r' then some '\r'
  else if c = 't' then some '\t'
  else none

/-- The character after `\u`, written as one unit or as a pair of surrogates. -/
def readUnicode? (cs : List Char) : Option (Char × List Char) :=
  match readUnit? cs with
  | none => none
  | some (n, cs) =>
    if 0xD800 ≤ n && n < 0xDC00 then
      match cs with
      | '\\' :: 'u' :: cs =>
        match readUnit? cs with
        | some (m, cs) =>
          if 0xDC00 ≤ m && m < 0xE000 then
            some (Char.ofNat (0x10000 + (n - 0xD800) * 0x400 + (m - 0xDC00)), cs)
          else none
        | none => none
      | _ => none
    else if 0xDC00 ≤ n && n < 0xE000 then none
    else some (Char.ofNat n, cs)

/-- The rest of a string after its opening quote. -/
def readString? : Nat → List Char → Option (List Char × List Char)
  | 0, _ => none
  | _ + 1, [] => none
  | fuel + 1, c :: cs =>
    if c = '"' then some ([], cs)
    else if c = '\\' then
      match cs with
      | [] => none
      | 'u' :: cs =>
        (readUnicode? cs).bind fun (d, cs) =>
          (readString? fuel cs).map fun (s, cs) => (d :: s, cs)
      | e :: cs =>
        (escaped? e).bind fun d => (readString? fuel cs).map fun (s, cs) => (d :: s, cs)
    else if c.toNat < 0x20 then none
    else (readString? fuel cs).map fun (s, cs) => (c :: s, cs)

/-- The digits at the front. -/
def takeDigits (cs : List Char) : List Char × List Char := cs.span Char.isDigit

/-- The fraction and the exponent after the whole part of a number, as they are written. -/
def readTail? (cs : List Char) : Option (List Char × List Char) :=
  let fraction : Option (List Char × List Char) := match cs with
    | '.' :: r => match takeDigits r with
      | ([], _) => none
      | (ds, r) => some ('.' :: ds, r)
    | _ => some ([], cs)
  fraction.bind fun (front, cs) => match cs with
    | e :: r =>
      if e = 'e' || e = 'E' then
        let (sign, r) := match r with
          | '+' :: r => (['+'], r)
          | '-' :: r => (['-'], r)
          | _ => ([], r)
        match takeDigits r with
        | ([], _) => none
        | (ds, r) => some (front ++ e :: sign ++ ds, r)
      else some (front, cs)
    | [] => some (front, cs)

/-- A number: its whole part has no leading zero. -/
def readNumber? (cs : List Char) : Option (Json × List Char) :=
  let (negative, cs) := match cs with
    | '-' :: r => (true, r)
    | _ => (false, cs)
  let (whole, cs) := takeDigits cs
  let wellFormed := match whole with
    | [] => false
    | ['0'] => true
    | '0' :: _ => false
    | _ => true
  if wellFormed then
    (readTail? cs).map fun (tail, cs) =>
      let sign := if negative then ['-'] else []
      match tail, readNat? 10 whole with
      | [], some n =>
        if negative && n == 0 then (real "-0", cs)
        else (int (if negative then -n else n), cs)
      | _, _ => (real (String.ofList (sign ++ whole ++ tail)), cs)
  else none

mutual

/-- One value, blanks before it being skipped. -/
def readValue? : Nat → List Char → Option (Json × List Char)
  | 0, _ => none
  | fuel + 1, cs =>
    match skipSpaces cs with
    | 'n' :: r => (afterWord? "ull".toList r).map fun r => (null, r)
    | 't' :: r => (afterWord? "rue".toList r).map fun r => (bool true, r)
    | 'f' :: r => (afterWord? "alse".toList r).map fun r => (bool false, r)
    | '"' :: r => (readString? (r.length + 1) r).map fun (s, r) => (str (String.ofList s), r)
    | '[' :: r =>
      match skipSpaces r with
      | ']' :: r => some (arr [], r)
      | r => (readItems? fuel r).map fun (items, r) => (arr items, r)
    | '\x7b' :: r =>
      match skipSpaces r with
      | '\x7d' :: r => some (obj [], r)
      | r => (readMembers? fuel r).map fun (members, r) => (obj members, r)
    | r => readNumber? r

/-- At least one item, and the closing bracket. -/
def readItems? : Nat → List Char → Option (List Json × List Char)
  | 0, _ => none
  | fuel + 1, cs =>
    (readValue? fuel cs).bind fun (item, r) =>
      match skipSpaces r with
      | ',' :: r => (readItems? fuel r).map fun (items, r) => (item :: items, r)
      | ']' :: r => some ([item], r)
      | _ => none

/-- At least one member, and the closing brace. -/
def readMembers? : Nat → List Char → Option (List (String × Json) × List Char)
  | 0, _ => none
  | fuel + 1, cs =>
    match skipSpaces cs with
    | '"' :: r =>
      (readString? (r.length + 1) r).bind fun (name, r) =>
        match skipSpaces r with
        | ':' :: r =>
          (readValue? fuel r).bind fun (value, r) =>
            let member := (String.ofList name, value)
            match skipSpaces r with
            | ',' :: r => (readMembers? fuel r).map fun (members, r) => (member :: members, r)
            | '\x7d' :: r => some ([member], r)
            | _ => none
        | _ => none
    | _ => none

end

/-- The value that a text is, if it is one. -/
def parse? (text : String) : Option Json :=
  let cs := text.toList
  match readValue? (cs.length + 1) cs with
  | some (j, rest) => if (skipSpaces rest).isEmpty then some j else none
  | none => none

end RichChat.Json
