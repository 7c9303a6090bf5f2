import RichChat.Markdown.Content

/-!
# Tags

Messages show tags as they are written, but what is inside a tag is not read as markdown. A tag
within a line is a single element; a line that starts with one of certain tags opens a block that
goes on to its end tag or to a blank line.
-/

namespace RichChat.Markdown

namespace Tag

def isNameStart (c : Char) : Bool := c.isAlpha || c == '_' || c == ':'

def isNamePart (c : Char) : Bool := c.isAlphanum || ['_', '.', ':', '-'].contains c

/-- What an attribute value without quotes cannot have. -/
def endsBareValue (c : Char) : Bool :=
  ['\'', '"', ' ', '=', '>', '<', '\x60', '\n', '\x0d'].contains c

/-- Without blanks and line ends at the start. -/
def skipBlanks (atoms : List Atom) : List Atom :=
  atoms.dropWhile fun a => a.isNewline || a.is Text.isLineBlank

/-- What comes after a quoted value. -/
def quotedEnd? (quote : Char) : List Atom → Option (List Atom)
  | [] => none
  | a :: rest => if a = .char quote then some rest else quotedEnd? quote rest

/-- What comes after the value of an attribute. -/
def value? : List Atom → Option (List Atom)
  | .char '"' :: rest => quotedEnd? '"' rest
  | .char '\'' :: rest => quotedEnd? '\'' rest
  | .char c :: rest =>
    if endsBareValue c then none else some (rest.dropWhile (·.is (!endsBareValue ·)))
  | _ => none

/-- What comes after an attribute. Blanks after a name without a value are left. -/
def attribute? : List Atom → Option (List Atom)
  | .char c :: rest =>
    if isNameStart c then
      let named := rest.dropWhile (·.is isNamePart)
      match skipBlanks named with
      | [] => none
      | .char '=' :: rest => value? (skipBlanks rest)
      | _ => some named
    else none
  | _ => none

/-- What comes after the attributes of a tag, the last of which `fuel` is enough to reach. -/
def attributes? : Nat → List Atom → Option (List Atom)
  | 0, _ => none
  | fuel + 1, atoms =>
    let rest := skipBlanks atoms
    match rest with
    | [] => none
    | .char '/' :: _ | .char '>' :: _ => some rest
    | _ => if rest.length = atoms.length then none else (attribute? rest).bind (attributes? fuel)

/-- What comes after the name of a tag. -/
def name? : List Atom → Option (List Atom)
  | .char c :: rest =>
    if c.isAlpha then some (rest.dropWhile (·.is fun c => c.isAlphanum || c == '-')) else none
  | _ => none

def closed? : List Atom → Option (List Atom)
  | .char '>' :: rest => some rest
  | _ => none

/-- What comes after a tag, given the part after its opening bracket. -/
def plain? : List Atom → Option (List Atom)
  | .char '/' :: rest => do closed? (skipInlineBlanks (← name? rest))
  | atoms => do
    let rest ← name? atoms
    match skipInlineBlanks (← attributes? (rest.length + 1) rest) with
    | .char '/' :: rest => closed? rest
    | rest => closed? rest

/-- What comes after the first occurrence of a text. -/
def after? (s : List Char) : List Atom → Option (List Atom)
  | [] => none
  | a :: rest =>
    if (ofChars s).isPrefixOf (a :: rest) then some (rest.drop (s.length - 1)) else after? s rest

/-- What comes after a comment, given the part after its opening. -/
def comment? : List Atom → Option (List Atom)
  | .char '>' :: rest => some rest
  | .char '-' :: .char '>' :: rest => some rest
  | rest => after? "-->".toList rest

/-- What comes after a section of character data: the first closing brackets have to end it. -/
def cdata? (atoms : List Atom) : Option (List Atom) :=
  match atoms.dropWhile (!·.is (· == ']')) with
  | [] => none
  | rest => closed? (rest.dropWhile (·.is (· == ']')))

/-- What comes after a tag, a comment, an instruction, a declaration or a section of character data,
given the part after its opening bracket. -/
def inline? : List Atom → Option (List Atom)
  | .char '!' :: .char '-' :: .char '-' :: rest => comment? rest
  | .char '!' :: rest =>
    if (ofChars "[CDATA[".toList).isPrefixOf rest then cdata? (rest.drop 7)
    else match rest with
      | .char c :: rest => if c.isAlpha then after? ['>'] rest else none
      | _ => none
  | .char '?' :: rest => after? ['?', '>'] rest
  | atoms => plain? atoms

/-- Tags whose block ends at their end tag. -/
def rawNames : List String := ["pre", "style", "script", "textarea"]

/-- Tags whose block ends at a blank line. -/
def blockNames : List String :=
  ["address", "article", "aside", "base", "basefont", "blockquote", "body", "caption", "center",
    "col", "colgroup", "dd", "details", "dialog", "dir", "div", "dl", "dt", "fieldset",
    "figcaption", "figure", "footer", "form", "frame", "frameset", "h1", "h2", "h3", "h4", "h5",
    "h6", "head", "header", "hr", "html", "iframe", "legend", "li", "link", "main", "menu",
    "menuitem", "nav", "noframes", "ol", "optgroup", "option", "p", "param", "search", "section",
    "summary", "table", "tbody", "td", "tfoot", "th", "thead", "title", "tr", "track", "ul"]

/-- The text that ends the block opened by a line, given the line after its opening bracket. -/
def blockEnd? (line : List Char) : Option (List Char) :=
  let name := (line.takeWhile Char.isAlphanum).map Char.toLower
  match rawNames.find? fun n => n.toList = name with
  | some n =>
    match line.drop name.length with
    | [] => some ("</" ++ n ++ ">").toList
    | c :: _ => if Text.isLineBlank c || c == '>' then some ("</" ++ n ++ ">").toList else none
  | none =>
    if "!--".toList.isPrefixOf line then some "-->".toList
    else if ['?'].isPrefixOf line then some "?>".toList
    else if "![CDATA[".toList.isPrefixOf line then some "]]>".toList
    else match line with
      | '!' :: c :: _ => if c.isAlpha then some ['>'] else none
      | _ => none

/-- Whether a line, given after its opening bracket, opens a block that ends at a blank line and may
stand right after a paragraph. -/
def opensBlock (line : List Char) : Bool :=
  let line := match line with
    | '/' :: rest => rest
    | line => line
  let name := (line.takeWhile Char.isAlphanum).map Char.toLower
  blockNames.any (·.toList = name) && match line.drop name.length with
    | [] | ' ' :: _ | '\t' :: _ | '>' :: _ | '/' :: '>' :: _ => true
    | _ => false

/-- Whether a line is a single tag. -/
def isWholeLine (line : List Char) : Bool :=
  match plain? (ofChars line) with
  | some rest => rest.all (·.is Text.isInlineBlank)
  | none => false

end Tag

/-- Whether one text occurs in another. -/
def occursIn (s : List Char) : List Char → Bool
  | [] => s.isEmpty
  | c :: cs => s.isPrefixOf (c :: cs) || occursIn s cs

end RichChat.Markdown
