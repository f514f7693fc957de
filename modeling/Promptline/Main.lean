/-
This file is the command line program. It reads its settings and its standard input and prints what
the session prints.
-/

import Promptline.Program.Launch
import Promptline.Session.Invocation

namespace Promptline.CommandLine

/-- The bytes of a file that can be read. -/
def readBytes? (path : String) : IO (Option ByteArray) := do
  try return some (← IO.FS.readBinFile path)
  catch _ => return none

/-- The path of the settings of the user. -/
def userPath? : IO (Option Text) := do
  match ← IO.getEnv "XDG_CONFIG_HOME", ← IO.getEnv "HOME" with
  | some base, _ => return some (Text.of (base ++ "/oxline/oxline.toml"))
  | none, some home => return some (Text.of (home ++ "/.config/oxline/oxline.toml"))
  | none, none => return none

/-- The contents of the files that the settings may come from. -/
def readFiles (paths : List Text) : IO Invocation.Files := do
  let contents ← paths.mapM fun path => do
    return (path, ← readBytes? (String.ofList path))
  return fun path => ((contents.find? fun entry => entry.1 = path).map Prod.snd).join

end Promptline.CommandLine

open Promptline in
/-- The program runs its standard input line by line. -/
def main (arguments : List String) : IO UInt32 := do
  let words := arguments.map Text.of
  let given :=
    match Invocation.parse words with
    | .run (some path) _ => if path = Invocation.inputPath then [] else [path]
    | _ => []
  let user? ← CommandLine.userPath?
  let files ← CommandLine.readFiles (given ++ Invocation.settingsName :: user?.toList)
  let directory := Text.of (← IO.currentDir).toString
  let input ← (← IO.getStdin).readBinToEnd
  let report := Invocation.report Launch.programs files user? directory words input.toList
  IO.print (String.ofList report.output)
  return report.code.toUInt32
