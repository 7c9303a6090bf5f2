import RichChat.Rich.Attribute
import RichChat.Text.Decimal
import RichChat.Text.Lines

/-!
# The text of attribute sets

A set is written as its names joined by ` | `, the bits without a meaning as one hexadecimal number
at the end. Reading takes names and hexadecimal numbers in any order, with any blanks around them.
-/

namespace RichChat.Attribute

open RichChat.Text

protected def toString (a : Attribute) : String :=
  let names := (named.filter fun p => a.contains p.2).map (·.1)
  let rest := if a.isKnown then [] else ["0x" ++ String.ofList (hexDigits a.unknown.bits.toNat)]
  " | ".intercalate (names ++ rest)

/-- A hexadecimal number of at most eight bits, which may have a plus sign. -/
def readHex? (cs : List Char) : Option Attribute :=
  let digits := match cs with
    | '+' :: r => r
    | _ => cs
  (readNat? 16 digits).bind fun n => if n < 256 then some ⟨BitVec.ofNat 8 n⟩ else none

/-- One name or one hexadecimal number. -/
def readFlag? (cs : List Char) : Option Attribute :=
  match cs with
  | '0' :: 'x' :: digits => readHex? digits
  | _ => (named.find? fun p => p.1.toList == cs).map (·.2)

def ofString? (text : String) : Option Attribute :=
  let cs := text.toList
  if (trim cs).isEmpty then some empty
  else (splitAt '|' cs).foldlM (fun a part => (readFlag? (trim part)).map a.union) empty

end RichChat.Attribute
