import RichChat.Text.Decimal

/-!
# Quoted text in TOML

Text stands in double quotes, where a backslash starts an escape, or in single quotes, where nothing
does. Three quotes enclose several lines; a line feed right after them is left out, and up to two
quotes may stand in front of the closing ones.
-/

namespace RichChat.Toml

open RichChat.Text

/-- Whether a character may stand in text and comments: no control but the tab. -/
def isPrintable (c : Char) : Bool := c == '\t' || (0x20 ≤ c.toNat && c.toNat != 0x7F)

/-- A line end at the start, and what comes after it. -/
def lineEnd? : List Char → Option (List Char)
  | '\n' :: cs => some cs
  | '\x0d' :: '\n' :: cs => some cs
  | _ => none

def isSpace (c : Char) : Bool := c == ' ' || c == '\t'

def skipSpaces (cs : List Char) : List Char := cs.dropWhile isSpace

/-- A character given by its number in a fixed number of hexadecimal digits. -/
def numbered? (width : Nat) (cs : List Char) : Option (Char × List Char) := do
  let digits := cs.take width
  if digits.length < width then none
  let n ← readNat? 16 digits
  if h : n.isValidChar then some (Char.ofNatAux n h, cs.drop width) else none

/-- What an escape stands for, given the text after its backslash, and what comes after it. -/
def escape? : List Char → Option (Char × List Char)
  | 'b' :: cs => some ('\x08', cs)
  | 't' :: cs => some ('\t', cs)
  | 'n' :: cs => some ('\n', cs)
  | 'f' :: cs => some ('\x0c', cs)
  | 'r' :: cs => some ('\x0d', cs)
  | '"' :: cs => some ('"', cs)
  | '\\' :: cs => some ('\\', cs)
  | 'u' :: cs => numbered? 4 cs
  | 'U' :: cs => numbered? 8 cs
  | _ => none

/-- The rest of a text in double quotes, and what comes after it. -/
def basic? : Nat → List Char → Option (List Char × List Char)
  | 0, _ => none
  | _, [] => none
  | _ + 1, '"' :: cs => some ([], cs)
  | fuel + 1, '\\' :: cs => do
    let (c, cs) ← escape? cs
    let (s, rest) ← basic? fuel cs
    return (c :: s, rest)
  | fuel + 1, c :: cs =>
    if isPrintable c then do
      let (s, rest) ← basic? fuel cs
      return (c :: s, rest)
    else none

/-- The rest of a text in single quotes, and what comes after it. -/
def literal? : List Char → Option (List Char × List Char)
  | [] => none
  | '\'' :: cs => some ([], cs)
  | c :: cs =>
    if isPrintable c then (literal? cs).map fun (s, rest) => (c :: s, rest) else none

/-- What comes after a backslash at the end of a line: blanks and line ends are skipped. -/
def continued? (cs : List Char) : Option (List Char) :=
  (lineEnd? (skipSpaces cs)).map fun rest =>
    rest.dropWhile fun c => isSpace c || c == '\n' || c == '\x0d'

/-- The closing quotes of a text of several lines: how many more quotes the text has, and what comes
after it. -/
def closing? (quote : Char) (cs : List Char) : Option (List Char × List Char) :=
  let count := (cs.takeWhile (· == quote)).length
  if 3 ≤ count then
    let extra := min (count - 3) 2
    some (List.replicate extra quote, cs.drop (extra + 3))
  else none

/-- The rest of a text of several lines, and what comes after it. -/
def multiline? (quote : Char) : Nat → List Char → Option (List Char × List Char)
  | 0, _ => none
  | _, [] => none
  | fuel + 1, c :: cs =>
    match closing? quote (c :: cs) with
    | some found => some found
    | none =>
      if c = '\\' ∧ quote = '"' then
        match continued? cs with
        | some rest => multiline? quote fuel rest
        | none => do
          let (d, cs) ← escape? cs
          let (s, rest) ← multiline? quote fuel cs
          return (d :: s, rest)
      else
        match lineEnd? (c :: cs) with
        | some next => do
          let (s, rest) ← multiline? quote fuel next
          return ('\n' :: s, rest)
        | none =>
          if isPrintable c then do
            let (s, rest) ← multiline? quote fuel cs
            return (c :: s, rest)
          else none

/-- A text of several lines after its opening quotes. -/
def lines? (quote : Char) (cs : List Char) : Option (List Char × List Char) :=
  multiline? quote (cs.length + 1) ((lineEnd? cs).getD cs)

/-- A text in quotes, and what comes after it. -/
def quoted? : List Char → Option (List Char × List Char)
  | '"' :: '"' :: '"' :: cs => lines? '"' cs
  | '\'' :: '\'' :: '\'' :: cs => lines? '\'' cs
  | '"' :: cs => basic? (cs.length + 1) cs
  | '\'' :: cs => literal? cs
  | _ => none

end RichChat.Toml
