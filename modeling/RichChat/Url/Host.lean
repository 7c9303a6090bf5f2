import RichChat.Text.Lines
import RichChat.Url.Percent

/-!
# Hosts

The host of a special URL is a domain in lower case, or an address of four or sixteen bytes in its
normal form. The host of any other URL is opaque. Domains beyond ASCII would have to be mapped to
ASCII first, which is not done here: they are refused.
-/

namespace RichChat.Url

open RichChat.Text

/-- One number of a four-byte address, in decimal, octal after `0` or hexadecimal after `0x`. -/
def readIpv4Number? (cs : List Char) : Option Nat :=
  match cs with
  | [] => none
  | '0' :: 'x' :: ds => if ds.isEmpty then some 0 else readNat? 16 ds
  | '0' :: 'X' :: ds => if ds.isEmpty then some 0 else readNat? 16 ds
  | '0' :: d :: ds => readNat? 8 (d :: ds)
  | ds => readNat? 10 ds

/-- The labels of a domain without the empty one after a final dot. -/
def labels (domain : List Char) : List (List Char) :=
  match (splitAt '.' domain).reverse with
  | [] :: rest => rest.reverse
  | all => all.reverse

/-- Whether the last label looks like a number, so that the domain has to be an address. -/
def endsInNumber (domain : List Char) : Bool :=
  match (labels domain).getLast? with
  | some l => (l ≠ [] && l.all Char.isDigit) || (readIpv4Number? l).isSome
  | none => false

/-- The last `width` bytes of a number, the greatest first. -/
def lastBytes : Nat → Nat → List Nat
  | 0, _ => []
  | width + 1, n => lastBytes width (n / 256) ++ [n % 256]

/-- The address of four bytes that a domain is: each number but the last is one byte, and the last
fills the bytes that remain. -/
def readIpv4? (domain : List Char) : Option (List Char) := do
  let numbers ← (labels domain).mapM readIpv4Number?
  let front := numbers.dropLast
  let last ← numbers.getLast?
  let width := 4 - front.length
  if numbers.length ≤ 4 ∧ (∀ n ∈ front, n ≤ 255) ∧ last < 1 <<< (8 * width) then
    return join ['.'] ((front ++ lastBytes width last).map fun n => (toString n).toList)
  else none

/-- The groups of a sixteen-byte address before or after its gap. A last part with dots is two
groups. -/
def readGroups? (parts : List (List Char)) : Option (List Nat) := do
  let groups ← parts.zipIdx.mapM fun (p, i) =>
    if p.contains '.' ∧ i + 1 = parts.length then do
      let bytes ← (splitAt '.' p).mapM fun b =>
        if b.length ≤ 3 ∧ ¬(b.length > 1 ∧ b.head? = some '0') ∧ b.all Char.isDigit then
          (readNat? 10 b).filter (· ≤ 255)
        else none
      match bytes with
      | [a, b, c, d] => some [a * 256 + b, c * 256 + d]
      | _ => none
    else if p.length ≤ 4 then (readNat? 16 p).map fun n => [n]
    else none
  return groups.flatten

/-- The parts between single colons, none for an empty text. -/
def colonParts (cs : List Char) : List (List Char) :=
  if cs.isEmpty then [] else splitAt ':' cs

/-- What stands before and after the first double colon. -/
def splitGap : List Char → Option (List Char × List Char)
  | ':' :: ':' :: cs => some ([], cs)
  | c :: cs => (splitGap cs).map fun (a, b) => (c :: a, b)
  | [] => none

/-- The eight groups of a sixteen-byte address. -/
def readIpv6? (cs : List Char) : Option (List Nat) := do
  match splitGap cs with
  | some (before, after) =>
    let a ← readGroups? (colonParts before)
    let b ← readGroups? (colonParts after)
    if a.length + b.length < 8 ∧ ¬ before.contains '.' then
      return a ++ List.replicate (8 - a.length - b.length) 0 ++ b
    else none
  | none =>
    let groups ← readGroups? (colonParts cs)
    if groups.length = 8 then return groups else none

/-- The place and length of the longest run of at least two zero groups, the first of equals. -/
def longestZeroRun (groups : List Nat) : Option (Nat × Nat) :=
  let runs := (List.range groups.length).map fun i =>
    (i, ((groups.drop i).takeWhile (· = 0)).length)
  runs.foldl (fun best run => match best with
    | some b => if b.2 < run.2 then some run else best
    | none => if 2 ≤ run.2 then some run else none) none

/-- A sixteen-byte address with its longest run of zeros left out. -/
def ipv6Chars (groups : List Nat) : List Char :=
  let text (gs : List Nat) := join [':'] (gs.map hexDigits)
  match longestZeroRun groups with
  | some (i, n) => text (groups.take i) ++ ':' :: ':' :: text (groups.drop (i + n))
  | none => text groups

/-- Characters that no host may have. -/
def isForbiddenInHost (c : Char) : Bool :=
  c == '\x00' || "\t\n\r #/:<>?@[\\]^|".toList.contains c

/-- Characters that no domain may have. -/
def isForbiddenInDomain (c : Char) : Bool :=
  isForbiddenInHost c || c.toNat < 0x20 || c == '%' || c.toNat == 0x7F

/-- An address in brackets. -/
def readBracketed? (cs : List Char) : Option (List Char) :=
  match cs.reverse with
  | ']' :: inner => (readIpv6? inner.reverse).map fun groups => '[' :: ipv6Chars groups ++ [']']
  | _ => none

/-- The host of a special URL. -/
def readHost? (cs : List Char) : Option (List Char) :=
  match cs with
  | '[' :: inner => readBracketed? inner
  | _ =>
    let bytes := decodeBytes cs
    if bytes.all (· < 0x80) then
      let domain := bytes.map fun b => (Char.ofNat b.toNat).toLower
      if domain.isEmpty || domain.any isForbiddenInDomain then none
      else if endsInNumber domain then readIpv4? domain
      else some domain
    else none

/-- The host of any other URL. -/
def readOpaqueHost? (cs : List Char) : Option (List Char) :=
  match cs with
  | '[' :: inner => readBracketed? inner
  | _ => if cs.any isForbiddenInHost then none else some (encode isControl cs)

end RichChat.Url
