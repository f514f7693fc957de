/-
This file reads the arguments of the program and runs it over an input that is no terminal.
-/

import Promptline.Program.FileTree
import Promptline.Session.Plain
import Promptline.Settings.File

namespace Promptline

/-- What the arguments ask for. -/
inductive Invocation where
  | run (settings? directory? : Option Text)
  | version
  | help
  | refused
  deriving DecidableEq, Repr

namespace Invocation

/-- The version that the program reports. -/
def versionText : Text := Text.of "oxline 0.0.1\n"

def helpText : Text :=
  Text.join ['\n'] [
    Text.of "Interactive line editor with completion and history search",
    [],
    Text.of "Usage: oxline [OPTIONS]",
    [],
    Text.of "Options:",
    Text.of "      --config <CONFIG>  Optional configuration file path " ++
      Text.of "(overrides discovery of \x60oxline.toml\x60)",
    Text.of "      --cwd <CWD>        Directory recorded with each history entry " ++
      Text.of "(defaults to the process cwd)",
    Text.of "  -h, --help             Print help",
    Text.of "  -V, --version          Print version",
    []]

/-- The options that take a value. -/
inductive ValueOption where
  | config
  | directory
  deriving DecidableEq, Repr

def ValueOption.name : ValueOption → Text
  | config => Text.of "--config"
  | directory => Text.of "--cwd"

/-- The option that an argument names, with the value behind an equals sign if there is one. -/
def valueOption? (argument : Text) : Option (ValueOption × Option Text) :=
  let (name, value?) :=
    match Text.splitAt? '=' argument with
    | some (name, value) => (name, some value)
    | none => (argument, none)
  ([ValueOption.config, .directory].find? fun option => option.name = name).map
    fun option => (option, value?)

/-- A dash alone is a value, and any other word with a dash in front is not. -/
def isValue (word : Text) : Bool := word = ['-'] || word.head? ≠ some '-'

/-- The options that are read so far. -/
structure Options where
  config? : Option Text
  directory? : Option Text
  deriving DecidableEq, Repr

/-- No option is given twice, and a path is not empty. -/
def Options.set? (options : Options) (option : ValueOption) (value : Text) : Option Options :=
  match option with
  | .config =>
      if options.config?.isSome || value.isEmpty then none
      else some { options with config? := some value }
  | .directory =>
      if options.directory?.isSome then none else some { options with directory? := some value }

/-- The first argument that is out of place, or asks for a text, decides. -/
def parseFrom (options : Options) : List Text → Invocation
  | [] => .run options.config? options.directory?
  | argument :: rest =>
      if argument = Text.of "--version" ∨ (Text.of "-V").isPrefixOf argument then .version
      else if argument = Text.of "--help" ∨ (Text.of "-h").isPrefixOf argument then .help
      else if argument = Text.of "--" then
        if rest = [] then .run options.config? options.directory? else .refused
      else match valueOption? argument, rest with
        | some (option, some value), rest =>
            match options.set? option value with
            | some options => parseFrom options rest
            | none => .refused
        | some (option, none), value :: rest =>
            if isValue value then
              match options.set? option value with
              | some options => parseFrom options rest
              | none => .refused
            else .refused
        | _, _ => .refused

def parse (arguments : List Text) : Invocation := parseFrom ⟨none, none⟩ arguments

/-- The name of a settings file where none is given. -/
def settingsName : Text := Text.of "oxline.toml"

/-- The files that the program may read, by their paths. -/
abbrev Files := Text → Option ByteArray

/-- The files of a tree, as they are seen from a directory. -/
def Files.ofTree (tree : FileTree) (directory : Place) : Files := fun path =>
  match tree.read directory path.bytewise with
  | .ok content => some ⟨content.bytes.toArray⟩
  | .error _ => none

def Files.file? (files : Files) (path : Text) : Option SettingsFile :=
  (files path).map fun bytes => ⟨path, bytes⟩

/-- A given path alone counts, and otherwise the places for settings are searched. -/
def settings (files : Files) (userPath? : Option Text) (given? : Option Text) : Settings :=
  (match given? with
    | some path => LoadedSettings.load (files.file? path)
    | none =>
        LoadedSettings.discover (files.file? settingsName) (userPath?.bind files.file?)).settings

/-- Settings that are read from the input leave nothing of it to run. -/
def inputPath : Text := Text.of "/dev/stdin"

/-- The report of a whole run over an input. Refused arguments print nothing here. -/
def report (programs : Programs) (files : Files) (userPath? : Option Text) (workingDirectory : Text)
    (arguments : List Text) (input : List UInt8) : Plain.Report :=
  match parse arguments with
  | .version => ⟨versionText, 0⟩
  | .help => ⟨helpText, 0⟩
  | .refused => ⟨[], 2⟩
  | .run given? directory? =>
      let fromInput := given? = some inputPath
      let files : Files := fun path =>
        if path = inputPath then some ⟨input.toArray⟩ else files path
      let session := Session.ofSettings programs (settings files userPath? given?).completion
      Plain.run (directory?.getD workingDirectory) session []
        (if fromInput then [] else Plain.lines input)

end Invocation

end Promptline
