/-!
# Autolinks

An address in angle brackets is a link to itself: an absolute address with a scheme of two to 32
characters, or a mail address.
-/

namespace RichChat.Markdown.Autolink

def isSchemeChar (c : Char) : Bool := c.isAlphanum || ['.', '-', '+'].contains c

/-- An absolute address up to its closing bracket. -/
def uri? (cs : List Char) : Option (List Char) :=
  let scheme := cs.takeWhile isSchemeChar
  let uri := cs.takeWhile fun c => 0x20 < c.toNat && c != '<' && c != '>'
  if (cs.head?.any Char.isAlpha) && 2 ≤ scheme.length && scheme.length ≤ 32
      && cs[scheme.length]? == some ':' && cs[uri.length]? == some '>' then
    some uri
  else none

def isLocalChar (c : Char) : Bool :=
  c.isAlphanum || ".!#$%&'*+/=?^_\x60\x7b|\x7d~-".toList.contains c

/-- A label of a host name, and what comes after it. -/
def hostLabel? (cs : List Char) : Option (List Char × List Char) :=
  let label := cs.takeWhile fun c => c.isAlphanum || c == '-'
  if label.isEmpty || 63 < label.length || label.head? == some '-'
      || label.getLast? == some '-' then
    none
  else some (label, cs.drop label.length)

/-- A host name up to its closing bracket, of at most as many labels as `fuel` says. -/
def host? : Nat → List Char → Option (List Char)
  | 0, _ => none
  | fuel + 1, cs =>
    match hostLabel? cs with
    | some (label, '.' :: rest) => (host? fuel rest).map fun host => label ++ '.' :: host
    | some (label, '>' :: _) => some label
    | _ => none

/-- A mail address up to its closing bracket. -/
def mail? (cs : List Char) : Option (List Char) :=
  let user := cs.takeWhile isLocalChar
  match cs.drop user.length with
  | '@' :: rest =>
    if user.isEmpty then none
    else (host? (rest.length + 1) rest).map fun host => user ++ '@' :: host
  | _ => none

/-- The address up to the closing bracket, given the text after the opening one. -/
def scan? (cs : List Char) : Option (List Char) := (uri? cs).or (mail? cs)

end RichChat.Markdown.Autolink
