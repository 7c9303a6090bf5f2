import RichChat.CommandLine.Arguments
import RichChat.Config.File
import RichChat.Config.Path
import RichChat.Json.Reader
import RichChat.Json.Writer
import RichChat.Model.Codec
import RichChat.Render.Presence
import RichChat.Rich.Codec

/-!
# The program

`run` does what the arguments ask for. It loads the configuration and the snapshot of the chat,
reads the input, renders it, and writes the result as JSON. The first of these that goes wrong is
named, and then nothing is written.
-/

namespace RichChat.CommandLine

/-- A file as the program finds it. -/
inductive File
  | missing
  /-- Something is there that cannot be read as text. -/
  | unreadable
  | text (content : String)
  deriving DecidableEq, Inhabited

def File.content? : File → Option String
  | text content => some content
  | _ => none

/-- What the program can see. -/
structure World where
  file : String → File
  /-- The standard input, if it is text. -/
  stdin : Option String
  home : Option String
  /-- The directory for configurations, if one is named. -/
  xdg : Option String := none

/-- What a run of the program comes to. -/
structure Outcome where
  exit : UInt8
  stdout : String
  /-- What went wrong. -/
  failure : Option String := none
  deriving DecidableEq, Inhabited

/-- What can go wrong after the arguments have been understood. -/
inductive Failure
  | config (path : String)
  | readStore (path : String)
  | parseStore
  | readFile (path : String)
  | readStdin
  | parseMessage
  | parseActivity
  deriving DecidableEq

def Failure.message : Failure → String
  | config path => "Failed to load config from " ++ path
  | readStore path => "Failed to read store snapshot " ++ path
  | parseStore => "Failed to parse store snapshot"
  | readFile path => "Failed to read " ++ path
  | readStdin => "Failed to read stdin"
  | parseMessage => "Failed to parse message JSON"
  | parseActivity => "Failed to parse activity JSON"

def World.defaultConfig? (w : World) : Option String :=
  w.home.map fun home => Config.defaultPath home w.xdg

/-- The configuration: a named one has to be there, and the usual one may be missing. -/
def World.config (w : World) (path : Option String) : Except Failure Config :=
  let failing (path : String) (r : Except ConfigError Config) : Except Failure Config :=
    r.mapError fun _ => .config path
  match path, w.defaultConfig? with
  | some path, _ => failing path (Config.load (w.file path).content?)
  | none, some path =>
    match w.file path with
    | .missing => .ok {}
    | file => failing path (Config.load file.content?)
  | none, none => .ok {}

/-- The snapshot of the chat, or an empty store. -/
def World.store (w : World) (path : Option String) : Except Failure Store :=
  match path with
  | none => .ok {}
  | some path =>
    match (w.file path).content? with
    | none => .error (.readStore path)
    | some text =>
      match (Json.parse? text).map Store.ofJson with
      | some (.ok store) => .ok store
      | _ => .error .parseStore

def World.input (w : World) (path : Option String) : Except Failure String :=
  match path with
  | some path =>
    match (w.file path).content? with
    | some text => .ok text
    | none => .error (.readFile path)
  | none =>
    match w.stdin with
    | some text => .ok text
    | none => .error .readStdin

/-- The message that markdown without one is taken to be in. -/
def scope (guild : Option GuildId) (content : String) : Message :=
  { id := ⟨0⟩, channel := ⟨0⟩, guild, author := { id := ⟨0⟩, username := "" }, content }

/-- Renders the input of a command. -/
def renderInput (i : Invocation) (config : Config) (store : Store) (input : String) :
    Except Failure Rendered :=
  match i.command with
  | .markdown =>
    let scene : Scene := { config, message := some (scope i.guild input), store := some store }
    .ok (scene.renderSource input)
  | .message =>
    match (Json.parse? input).map Message.ofJson with
    | some (.ok message) => .ok (message.render config (some store))
    | _ => .error .parseMessage
  | .activity =>
    match (Json.parse? input).map Activity.ofJson with
    | some (.ok activity) => .ok (activity.render config)
    | _ => .error .parseActivity

/-- The result as it is written. Requests are listed only if there are any. -/
def outputJson (r : Rendered) : Json :=
  .obj (r.text.fields ++
    if r.requests.isEmpty then []
    else [("requests", .arr (r.requests.map FetchRequest.toJson))])

def render (w : World) (i : Invocation) : Except Failure Rendered := do
  let config ← w.config i.config
  let store ← w.store i.store
  let input ← w.input i.file
  renderInput i config store input

def invoke (w : World) (i : Invocation) : Outcome :=
  match render w i with
  | .ok r =>
    let json := outputJson r
    { exit := 0, stdout := (if i.pretty then json.pretty else json.compact) ++ "\n" }
  | .error failure => { exit := 1, stdout := "", failure := some failure.message }

def versionText : String := "tincan 0.1.0\n"

def helpText : String :=
  "Render chat markdown into rich text segments\n\n" ++
  "Usage: tincan [OPTIONS] <COMMAND>\n\n" ++
  "Commands:\n" ++
  "  markdown  Render markdown source (reads stdin when no file is given)\n" ++
  "  message   Render a message JSON document with its embeds and attachments\n" ++
  "  activity  Render a presence activity JSON document\n" ++
  "  help      Print this message or the help of the given subcommand(s)\n\n" ++
  "Options:\n" ++
  "      --config <PATH>  Path to configuration file " ++
  "(defaults to <config dir>/tincan/config.toml)\n" ++
  "      --store <PATH>   JSON snapshot of users, members, roles and channels " ++
  "used to resolve mentions\n" ++
  "      --pretty         Pretty-print the JSON output\n" ++
  "  -h, --help           Print help\n" ++
  "  -V, --version        Print version\n"

def run (w : World) (args : List String) : Outcome :=
  match parse args with
  | .ok i => invoke w i
  | .error .usage => { exit := 2, stdout := "" }
  | .error .help => { exit := 0, stdout := helpText }
  | .error .version => { exit := 0, stdout := versionText }

/-- The files that a run with these arguments looks at. -/
def filesOf (home xdg : Option String) (args : List String) : List String :=
  match parse args with
  | .ok i =>
    (i.config.or (home.map fun home => Config.defaultPath home xdg)).toList
      ++ i.store.toList ++ i.file.toList
  | .error _ => []

end RichChat.CommandLine
