import RichChat.CommandLine.Program

/-!
# Running the program

The files that the arguments name are read, then `CommandLine.run` decides what is written.
-/

namespace RichChat.CommandLine

/-- A file of the system. -/
def readFile (path : String) : IO File := do
  try
    match String.fromUTF8? (← IO.FS.readBinFile path) with
    | some content => return .text content
    | none => return .unreadable
  catch
    | .noFileOrDirectory .. => return .missing
    | _ => return .unreadable

/-- The standard input, unless a file is read instead. -/
def readStdin (args : List String) : IO (Option String) := do
  match parse args with
  | .ok { file := none, .. } =>
    try return String.fromUTF8? (← (← IO.getStdin).readBinToEnd)
    catch _ => return none
  | _ => return some ""

end RichChat.CommandLine

open RichChat CommandLine in
def main (args : List String) : IO UInt32 := do
  let home ← IO.getEnv "HOME"
  let xdg ← IO.getEnv "XDG_CONFIG_HOME"
  let files ← (filesOf home xdg args).mapM fun path => return (path, ← readFile path)
  let world : World := {
    file := fun path => ((files.find? fun f => f.1 = path).map (·.2)).getD .missing
    stdin := ← readStdin args
    home, xdg }
  let outcome := run world args
  (← IO.getStdout).putStr outcome.stdout
  match outcome.failure with
  | some message => (← IO.getStderr).putStrLn ("Error: " ++ message)
  | none => pure ()
  return outcome.exit.toUInt32
