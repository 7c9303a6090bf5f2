import RichChat.Model.Id
import RichChat.Text.Decimal

/-!
# Arguments

The program takes one command with a file and options. Options that hold for every command may stand
before it or after it, where the ones after it count; each may be given once on either side. After
two hyphens nothing is an option any more.
-/

namespace RichChat.CommandLine

inductive Command
  | markdown | message | activity
  deriving DecidableEq, Inhabited

def Command.ofName? : String → Option Command
  | "markdown" => some .markdown
  | "message" => some .message
  | "activity" => some .activity
  | _ => none

/-- What has been given on one side of the command. -/
structure Given where
  config : Option String := none
  store : Option String := none
  pretty : Bool := false
  guild : Option GuildId := none
  file : Option String := none
  deriving DecidableEq, Inhabited

/-- What is to be done. -/
structure Invocation where
  command : Command
  /-- The file to read instead of the standard input. -/
  file : Option String := none
  config : Option String := none
  store : Option String := none
  pretty : Bool := false
  guild : Option GuildId := none
  deriving DecidableEq, Inhabited

/-- Why nothing is rendered. -/
inductive Stop
  /-- The arguments make no sense. -/
  | usage
  | help
  | version
  deriving DecidableEq, Inhabited

/-- Whether an argument is an option, which can be no value of another one. -/
def isOption (arg : String) : Bool := arg.startsWith "-" && arg ≠ "-"

/-- The name and the value of an option that starts with two hyphens. -/
def splitOption (arg : String) : String × Option String :=
  let cs := arg.toList.drop 2
  let name := cs.takeWhile (· != '=')
  (String.ofList name, if name.length < cs.length then
    some (String.ofList (cs.drop (name.length + 1))) else none)

/-- A number of 64 bits, which may have a plus sign. -/
def guild? (value : String) : Option GuildId :=
  let digits := match value.toList with
    | '+' :: cs => cs
    | cs => cs
  (Text.readWord64? digits).map fun n => ⟨n⟩

namespace Given

/-- A value for a path that has none yet. -/
def path (old : Option String) (value : String) : Except Stop (Option String) :=
  if old.isSome || value.isEmpty then .error .usage else .ok (some value)

/-- Sets an option with a value. -/
def set (g : Given) (command : Option Command) (name value : String) : Except Stop Given :=
  if name = "config" then (path g.config value).map fun config => { g with config }
  else if name = "store" then (path g.store value).map fun store => { g with store }
  else if name = "guild" ∧ command = some .markdown ∧ g.guild = none then
    match guild? value with
    | some guild => .ok { g with guild := some guild }
    | none => .error .usage
  else .error .usage

/-- The only file. There is none in front of a command. -/
def setFile (g : Given) (command : Option Command) (file : String) : Except Stop Given :=
  if command.isSome then (path g.file file).map fun file => { g with file } else .error .usage

/-- Whether an option has a value. -/
def takesValue (command : Option Command) (name : String) : Bool :=
  name == "config" || name == "store" || (name == "guild" && command == some .markdown)

/-- Reads options that have no value. -/
def setFlag (g : Given) (command : Option Command) (name : String) : Except Stop Given :=
  if name = "pretty" then if g.pretty then .error .usage else .ok { g with pretty := true }
  else if name = "help" then .error .help
  else if name = "version" ∧ command = none then .error .version
  else .error .usage

end Given

/-- What the command that explains the others comes to: it takes the name of one at most. -/
def explain : List String → Stop
  | [] => .help
  | [name] => if name = "help" || (Command.ofName? name).isSome then .help else .usage
  | _ => .usage

/-- Reads the arguments up to a command, if none has been found yet. What was given is the result,
with the command and the arguments after it. -/
def scan (command : Option Command) (g : Given) :
    List String → Except Stop (Given × Option (Command × List String))
  | [] => .ok (g, none)
  | arg :: rest =>
    if arg = "--" then do
      return (← rest.foldlM (fun (g : Given) file => g.setFile command file) g, none)
    else if arg.startsWith "--" then
      let (name, value?) := splitOption arg
      if Given.takesValue command name then
        match value?, rest with
        | some value, rest => do scan command (← g.set command name value) rest
        | none, value :: rest =>
          if isOption value then .error .usage
          else do scan command (← g.set command name value) rest
        | none, [] => .error .usage
      else if value?.isSome then .error .usage
      else do scan command (← g.setFlag command name) rest
    else if isOption arg then
      if arg.startsWith "-h" then .error .help
      else if arg.startsWith "-V" && command.isNone then .error .version
      else .error .usage
    else
      match command with
      | some _ => do scan command (← g.setFile command arg) rest
      | none =>
        match Command.ofName? arg with
        | some found => .ok (g, some (found, rest))
        | none => .error (if arg = "help" then explain rest else .usage)

/-- What the arguments ask for. -/
def parse (args : List String) : Except Stop Invocation := do
  match ← scan none {} args with
  | (_, none) => .error .usage
  | (outer, some (command, rest)) =>
    let (inner, _) ← scan (some command) {} rest
    return {
      command
      file := inner.file
      config := inner.config.or outer.config
      store := inner.store.or outer.store
      pretty := inner.pretty || outer.pretty
      guild := inner.guild }

end RichChat.CommandLine
