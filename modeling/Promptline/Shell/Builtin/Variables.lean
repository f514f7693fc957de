/-
This file defines the builtins that change variables, arguments and settings.
-/

import Promptline.Shell.Builtin.Options
import Promptline.Shell.Expansion

namespace Promptline.Shell.Builtin

open Run

/-- The name and the value of an argument that may assign. -/
def named (argument : Text) : Text × Option Text :=
  match Text.splitAt? '=' argument with
  | some (name, value) => (name, some value)
  | none => (argument, none)

def checkName (argument name : Text) : Run Unit :=
  if Word.isName name then return else fail (argument ++ Text.of ": bad variable name")

/-- The variables in the order of their names. -/
def sorted (bindings : List (Text × Variable)) : List (Text × Variable) :=
  bindings.mergeSort fun first second => Text.le first.1 second.1

/-- The listing of some variables, each behind a word. -/
def listing (word : Text) (bindings : List (Text × Variable)) : Text :=
  (sorted bindings).flatMap fun (name, variable_) =>
    word ++ name ++ (match variable_.value? with
      | some value => '=' :: singleQuoted value
      | none => []) ++ ['\n']

/-- Variables get a mark, and perhaps a value. -/
def mark (word : String) (has : Variable → Bool) (add : Variable → Variable) : Builtin :=
  fun arguments => do
    let (options, names) ← options ⟨['p'], []⟩ arguments
    if names = [] ∨ options ≠ [] then
      put (listing (Text.of word ++ [' ']) ((← session).bindings.filter fun entry => has entry.2))
    else do
      for argument in names do
        let (name, value?) := named argument
        checkName argument name
        match value? with
        | some value => assign name value
        | none => pure ()
        update fun session =>
          session.set name (add ((session.bindings.lookup name).getD ⟨none, false, false⟩))
      return 0

def export_ : Builtin :=
  mark "export" Variable.exported fun variable_ => { variable_ with exported := true }

def readonly_ : Builtin :=
  mark "readonly" Variable.readOnly fun variable_ => { variable_ with readOnly := true }

/-- Variables or functions are removed. -/
def unset : Builtin := fun arguments => do
  let (options, names) ← options ⟨['f', 'v'], []⟩ arguments
  if (options.map Prod.fst).getLast? = some 'f' then
    update fun session => { session with
      functions := session.functions.filter fun entry => !names.contains entry.1 }
    return 0
  for name in names do
    checkName name name
    if (((← session).bindings.lookup name).map Variable.readOnly).getD false then
      fail (name ++ Text.of ": is read only")
    update fun session => session.remove name
  return 0

/-- The variables of an open function get their present values back when it ends. -/
def local_ : Builtin := fun arguments => do
  let names ← operands arguments
  if (← session).locals = [] then fail (Text.of "not in a function")
  for argument in names do
    let (name, value?) := named argument
    checkName argument name
    update fun session =>
      match session.locals with
      | frame :: frames =>
          { session with locals := ((name, session.bindings.lookup name) :: frame) :: frames }
      | [] => session
    match value? with
    | some value => assign name value
    | none => pure ()
  return 0

/-- The settings by their letters and names, in the order in which they are listed. -/
def settingNames : List (Char × String) :=
  [('e', "errexit"), ('f', "noglob"), ('I', "ignoreeof"), ('i', "interactive"), ('m', "monitor"),
    ('n', "noexec"), ('s', "stdin"), ('x', "xtrace"), ('v', "verbose"), ('V', "vi"),
    ('E', "emacs"), ('C', "noclobber"), ('a', "allexport"), ('b', "notify"), ('u', "nounset"),
    ('p', "privileged"), ('l', "nolog"), ('d', "debug")]

/-- A setting is put on or off. -/
def change (letter : Char) (on : Bool) : Run Unit := do
  if letter = 'l' ∨ letter = 'd' ∨ (settingNames.lookup letter).isNone then
    fail (Text.of "Illegal option -" ++ [letter])
  update fun session =>
    let others := session.settings.filter (· ≠ letter)
    { session with settings := if on then letter :: others else others }

def listSettings (on : Bool) : Run Unit := do
  let session ← session
  let lines := settingNames.map fun (letter, name) =>
    let isOn := session.isOn letter
    if on then
      Text.of name ++ List.replicate (16 - name.length) ' ' ++
        Text.of (if isOn then "on" else "off")
    else Text.of (if isOn then "set -o " else "set +o ") ++ Text.of name
  let head := if on then [Text.of "Current option settings"] else []
  discard (put ((head ++ lines).flatMap fun line => line ++ ['\n']))

def changeNamed (name : Text) (on : Bool) : Run Unit := do
  match settingNames.find? fun (_, other) => Text.of other = name with
  | some (letter, _) =>
      update fun session =>
        let others := session.settings.filter (· ≠ letter)
        { session with settings := if on then letter :: others else others }
  | none => fail (Text.of "Illegal option -o " ++ name)

/-- The settings in front are changed. The arguments behind them are left, unless there are none. -/
def changeSettings : List Text → Run (Option (List Text))
  | [] => return none
  | word :: rest =>
      match word with
      | ['-'] => do
          update fun session => { session with
            settings := session.settings.filter fun c => c ≠ 'x' && c ≠ 'v' }
          return if rest = [] then none else some rest
      | ['-', '-'] => return some rest
      | '-' :: letters => group true letters rest
      | '+' :: letters => group false letters rest
      | word => return some (word :: rest)
where
  group (on : Bool) : Text → List Text → Run (Option (List Text))
    | [], rest => changeSettings rest
    | 'o' :: letters, name :: rest => do
        changeNamed name on
        group on letters rest
    | 'o' :: letters, [] => do
        listSettings on
        group on letters []
    | letter :: letters, rest => do
        change letter on
        group on letters rest

def set : Builtin := fun arguments => do
  if arguments = [] then
    let bindings := (← session).bindings.filter fun entry => entry.2.value?.isSome
    put (listing [] bindings)
  else do
    match ← changeSettings arguments with
    | some arguments => update fun session => { session with arguments, optionOffset := 0 }
    | none => pure ()
    return 0

def shift : Builtin := fun arguments => do
  let count ← match arguments with
    | [] => pure 1
    | text :: _ => number text
  let session ← session
  if session.arguments.length < count then fail (Text.of "can't shift that many")
  update fun session => { session with
    arguments := session.arguments.drop count, optionOffset := 0 }
  return 0

/-- A line of the input, in which a backslash takes the meaning from the next character, and whether
it has been ended. The characters that were escaped are marked. -/
def lineOf (raw : Bool) : Text → List Glyph × Nat × Bool
  | [] => ([], 0, false)
  | '\n' :: _ => ([], 1, true)
  | '\\' :: c :: rest =>
      let (glyphs, count, ended) := lineOf raw (if raw then c :: rest else rest)
      if raw then (.char '\\' false :: glyphs, count + 1, ended)
      else if c = '\n' then (glyphs, count + 2, ended)
      else (.char c true :: glyphs, count + 2, ended)
  | '\\' :: [] => if raw then ([.char '\\' false], 1, false) else ([], 1, false)
  | '\x00' :: rest =>
      let (glyphs, count, ended) := lineOf raw rest
      (glyphs, count + 1, ended)
  | c :: rest =>
      let (glyphs, count, ended) := lineOf raw rest
      (.char c false :: glyphs, count + 1, ended)
termination_by text => text.length
decreasing_by
  · split
    all_goals simp only [List.length_cons]
    all_goals omega
  · exact Nat.lt_succ_self _
  · exact Nat.lt_succ_self _

/-- The line without the blanks at its end that separate fields. -/
def trimEnd (separators : Text) (glyphs : List Glyph) : List Glyph :=
  (glyphs.reverse.dropWhile fun
    | .char c false => separators.contains c && Segment.isBlank c
    | _ => false).reverse

/-- The line is shared out: the last name gets all that is left. -/
def shareOut (separators : Text) : Nat → List Glyph → List Text
  | 0, _ => []
  | count + 1, glyphs =>
      let isBlank : Glyph → Bool := fun
        | .char c false => separators.contains c && Segment.isBlank c
        | _ => false
      let isSeparator : Glyph → Bool := fun
        | .char c false => separators.contains c
        | _ => false
      let glyphs := glyphs.dropWhile isBlank
      let first := glyphs.takeWhile fun glyph => !isSeparator glyph
      let rest := glyphs.dropWhile fun glyph => !isSeparator glyph
      let behindBlanks := rest.dropWhile isBlank
      let behind :=
        match behindBlanks with
        | glyph :: others => if isSeparator glyph then others.dropWhile isBlank else behindBlanks
        | [] => []
      if count = 0 then
        [Glyph.toText (if behind = [] then first else trimEnd separators glyphs)]
      else Glyph.toText first :: shareOut separators count behind

/-- A line is read into variables. -/
def read : Builtin := fun arguments => do
  let (options, names) ← options ⟨['r'], ['p']⟩ arguments
  let raw := options.any fun option => option.1 = 'r'
  if names = [] then fail (Text.of "arg count")
  let text? ← work (Work.take 0 fun content =>
    let (_, count, ended) := lineOf raw content
    (count, !ended))
  let (glyphs, _, ended) := lineOf raw (text?.getD [])
  let parts := shareOut (← session).separators names.length glyphs
  for (name, index) in names.zipIdx do
    checkName name name
    assign name (parts.getD index [])
  return if ended then 0 else 1

/-- What a step through the options of arguments has found. -/
structure FoundOption where
  letter : Char
  value? : Option Text
  message : Text
  /-- How many arguments have been looked at, and how many characters of the last one. -/
  seen : Nat
  offset : Nat
  atEnd : Bool

/-- What stands behind a letter in a list of letters. -/
def behindLetter? (c : Char) : Text → Option Text
  | [] => none
  | letter :: ':' :: rest => if letter = c then some (':' :: rest) else behindLetter? c rest
  | letter :: rest => if letter = c then some rest else behindLetter? c rest

/-- The option that starts with a letter of the last argument that has been looked at. -/
def optionAt (letters : Text) (arguments : List Text) (seen offset : Nat) (c : Char)
    (more : Text) : FoundOption :=
  let quiet := letters.head? = some ':'
  let report (letter : Char) (reason : Text) : FoundOption :=
    if quiet then ⟨letter, some [c], [], seen, offset + 1, false⟩
    else ⟨'?', none, reason, seen, offset + 1, false⟩
  match behindLetter? c letters with
  | none => report '?' (Text.of "Illegal option -" ++ [c])
  | some (':' :: _) =>
      if more ≠ [] then ⟨c, some more, [], seen, 0, false⟩
      else match arguments[seen]? with
        | some value => ⟨c, some value, [], seen + 1, 0, false⟩
        | none => report ':' (Text.of "No arg for -" ++ [c] ++ Text.of " option")
  | some _ => ⟨c, some [], [], seen, offset + 1, false⟩

/-- The next option of the arguments. -/
def nextOption (letters : Text) (arguments : List Text) (seen offset : Nat) : FoundOption :=
  let current := if seen = 0 ∨ offset = 0 then [] else (arguments.getD (seen - 1) []).drop offset
  match current with
  | c :: more => optionAt letters arguments seen offset c more
  | [] =>
      let done (seen : Nat) : FoundOption := ⟨'?', none, [], seen, 0, true⟩
      match arguments[seen]? with
      | some ('-' :: c :: more) =>
          if c = '-' ∧ more = [] then done (seen + 1)
          else optionAt letters arguments (seen + 1) 1 c more
      | _ => done seen

/-- One option after the other is put into a variable. -/
def getopts : Builtin := fun arguments => do
  match ← operands arguments with
  | letters :: name :: given => do
      let session ← session
      let arguments := if given = [] then session.arguments else given
      let index := ((Integer.ofText? (some 10)
        ((session.value? (Text.of "OPTIND")).getD [])).getD 1).toNat
      let found := nextOption letters arguments (index - 1) session.optionOffset
      if found.message ≠ [] then discard (work (Work.write? 2 (found.message ++ ['\n'])))
      if !found.atEnd then
        match found.value? with
        | some value => assign (Text.of "OPTARG") value
        | none => update fun session => session.remove (Text.of "OPTARG")
      assign (Text.of "OPTIND") (Text.ofNat (found.seen + 1))
      checkName name name
      assign name [found.letter]
      update fun session => { session with optionOffset := found.offset }
      return if found.atEnd then 1 else 0
  | _ => fail (Text.of "Usage: getopts optstring var [arg...]")

end Promptline.Shell.Builtin
