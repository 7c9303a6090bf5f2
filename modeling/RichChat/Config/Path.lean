import RichChat.Config.Basic
import RichChat.Text.Lines

/-!
# File names

A path is cut at its slashes. Empty parts and parts that are one dot name nothing, and a path whose
last part is two dots has no file name. The extension is what follows the last dot of the file name,
unless that dot is its first character.
-/

namespace RichChat

namespace Text

/-- The parts of a path that name something. -/
def pathParts (path : List Char) : List (List Char) :=
  (splitAt '/' path).filter fun p => p ≠ [] ∧ p ≠ ['.']

/-- The last part of a path, if it is a name. -/
def fileName? (path : List Char) : Option (List Char) :=
  (pathParts path).getLast?.filter fun p => p ≠ ['.', '.']

/-- The extension of a file name. -/
def extension? (name : List Char) : Option (List Char) :=
  match name.reverse.span (· ≠ '.') with
  | (_, []) => none
  | (_, ['.']) => none
  | (ext, _ :: _) => some ext.reverse

/-- A path inside a directory, which an absolute path replaces. -/
def joinPath (directory path : String) : String :=
  if path.startsWith "/" then path
  else if directory.isEmpty || directory.endsWith "/" then directory ++ path
  else directory ++ "/" ++ path

/-- Equality up to the case of ASCII letters. -/
def eqIgnoringCase (a b : List Char) : Bool :=
  a.map Char.toLower == b.map Char.toLower

end Text

namespace Config

open RichChat.Text

/-- Whether a file's extension is one of those that are shown as images. -/
def isImageFile (config : Config) (filename : String) : Bool :=
  match (fileName? filename.toList).bind extension? with
  | some ext => config.imageExtensions.any fun known => eqIgnoringCase known.toList ext
  | none => false

/-- Where the configuration is looked for: in the directory that `xdg` names if that is absolute,
else in the one for configurations under `home`. -/
def defaultPath (home : String) (xdg : Option String) : String :=
  let directory := match xdg with
    | some d => if d.startsWith "/" then d else joinPath home ".config"
    | none => joinPath home ".config"
  joinPath (joinPath directory "tincan") "config.toml"

end Config

end RichChat
