import RichChat.Text.Bytes
import RichChat.Text.Decimal

/-!
# Percent encoding

A character of a URL that would be misread is written as its UTF-8 bytes, each as a percent sign and
two hexadecimal digits. Which characters those are depends on the part of the URL: the sets grow
from the controls, over the fragment, the path and one segment of a path, to the user info.
-/

namespace RichChat.Url

open RichChat.Text

def upperHex (n : Nat) : Char := (digitChar n).toUpper

def encodeByte (b : UInt8) : List Char :=
  ['%', upperHex (b.toNat / 16), upperHex (b.toNat % 16)]

def encodeChar (reserved : Char → Bool) (c : Char) : List Char :=
  if reserved c then (String.utf8EncodeChar c).flatMap encodeByte else [c]

/-- Encodes the characters of a set. -/
def encode (reserved : Char → Bool) (cs : List Char) : List Char :=
  cs.flatMap (encodeChar reserved)

/-- Controls, and everything beyond ASCII. -/
def isControl (c : Char) : Bool := c.toNat < 0x20 || 0x7F ≤ c.toNat

def inFragmentSet (c : Char) : Bool :=
  isControl c || c == ' ' || c == '"' || c == '<' || c == '>' || c == '\x60'

def inQuerySet (c : Char) : Bool :=
  isControl c || c == ' ' || c == '"' || c == '#' || c == '<' || c == '>'

/-- The query of a special URL must not hold an apostrophe either. -/
def inSpecialQuerySet (c : Char) : Bool := inQuerySet c || c == '\''

def inPathSet (c : Char) : Bool :=
  inFragmentSet c || c == '#' || c == '?' || c == '\x7b' || c == '\x7d'

/-- What one segment of a path must not hold when it is put there from outside. -/
def inSegmentSet (c : Char) : Bool := inPathSet c || c == '/' || c == '%'

def inSpecialSegmentSet (c : Char) : Bool := inSegmentSet c || c == '\\'

def inUserInfoSet (c : Char) : Bool :=
  inPathSet c || c == '/' || c == ':' || c == ';' || c == '=' || c == '@' || c == '['
    || c == '\\' || c == ']' || c == '^' || c == '|'

/-- The bytes of a text in which every percent sign with two hexadecimal digits is one byte. -/
def decodeBytes : List Char → List UInt8
  | '%' :: a :: b :: cs =>
    match digitValue? 16 a, digitValue? 16 b with
    | some x, some y => UInt8.ofNat (x * 16 + y) :: decodeBytes cs
    | _, _ => 0x25 :: decodeBytes (a :: b :: cs)
  | c :: cs => String.utf8EncodeChar c ++ decodeBytes cs
  | [] => []

end RichChat.Url
