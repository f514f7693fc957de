/-
This file prints arguments by a format. A format consists of text with escapes and of directives
that take arguments, and it is used again as long as arguments are left.
-/

import Promptline.Program.Real

namespace Promptline.Format

/-- How a converted argument is laid out. -/
structure Layout where
  left : Bool
  plus : Bool
  space : Bool
  alternate : Bool
  zeros : Bool
  width : Nat
  precision? : Option Nat
  deriving DecidableEq, Repr

/-- A width or a precision that a directive names, or takes from an argument. -/
inductive Measure where
  | none
  | number (n : Nat)
  | argument
  deriving DecidableEq, Repr

structure Directive where
  flags : Text
  width : Measure
  precision : Measure
  letter : Char
  deriving DecidableEq, Repr

inductive Part where
  | text (text : Text)
  | directive (directive : Directive)
  /-- The output ends here. -/
  | stop
  /-- Something that is no directive. -/
  | fault
  deriving DecidableEq, Repr

/-- The two programs that print by a format differ in what they accept. -/
structure Rules where
  escapes : EscapeRules
  argumentEscapes : EscapeRules
  precision : Real.Precision
  /-- A code behind a quote is a whole character, and not a byte. -/
  wideCodes : Bool
  /-- Flags have to go with their directive, and sizes of numbers are skipped. -/
  strict : Bool
  deriving DecidableEq, Repr

/-- The rules of the command of the shell. -/
def Rules.ofShell : Rules :=
  ⟨⟨false, false, false, false⟩, ⟨true, false, false, true⟩, Real.double, false, false⟩

/-- The rules of the program. -/
def Rules.ofProgram : Rules :=
  ⟨⟨false, true, true, true⟩, ⟨true, true, true, true⟩, Real.extended, true, true⟩

namespace Directive

def isFlag (c : Char) : Bool := ['#', '-', '+', ' ', '0'].contains c

def measure (text : Text) : Measure × Text :=
  match text with
  | '*' :: rest => (.argument, rest)
  | text =>
      let (digits, rest) := Integer.digits 10 text
      (if digits = [] then Measure.none else .number (Integer.natural 10 digits), rest)

/-- The directive behind a percent sign, unless the text ends first. -/
def read? (rules : Rules) (text : Text) : Option (Directive × Text) := do
  let isFlag (c : Char) : Bool := isFlag c || (rules.strict && (c = '\'' || c = 'I'))
  let flags := text.takeWhile isFlag
  let (width, rest) := measure (text.dropWhile isFlag)
  let (precision, rest) :=
    match rest with
    | '.' :: rest =>
        let (precision, rest) := measure rest
        (if precision = Measure.none then Measure.number 0 else precision, rest)
    | rest => (.none, rest)
  let rest := if rules.strict then rest.dropWhile "lLhjtz".toList.contains else rest
  match rest with
  | [] => none
  | letter :: rest => return (⟨flags, width, precision, letter⟩, rest)

/-- The letters that do not go with a flag. -/
def refused (flag : Char) : List Char :=
  match flag with
  | '\'' | 'I' => "aAceEosxX".toList
  | '#' => "cdisu".toList
  | '0' => "cs".toList
  | _ => []

def isKnown (rules : Rules) (directive : Directive) : Bool :=
  if rules.strict then
    "acdefgiosuxAEFGX".toList.contains directive.letter &&
      directive.flags.all (fun flag => !(refused flag).contains directive.letter) &&
      (directive.letter ≠ 'c' || directive.precision = .none)
  else "bcsdiouxXaAeEfFgG".toList.contains directive.letter

end Directive

/-- The parts of a format. A fault and a stop end it. -/
def parts (rules : Rules) (text : Text) : List Part :=
  match text with
  | [] => []
  | '\\' :: rest =>
      match rules.escapes.meaning rest with
      | .text written count => .text written :: parts rules (rest.drop count)
      | .stop => [.stop]
      | .fault => [.fault]
  | '%' :: '%' :: rest => .text ['%'] :: parts rules rest
  | '%' :: rest =>
      let letter := rest.headD ' '
      if rules.strict ∧ (letter = 'b' ∨ letter = 'q') then
        .directive ⟨[], .none, .none, letter⟩ :: parts rules (rest.drop 1)
      else match Directive.read? rules rest with
        | none => [.fault]
        | some (directive, behind) =>
            if directive.isKnown rules then
              .directive directive :: parts rules (rest.drop (rest.length - behind.length))
            else [.fault]
  | c :: rest => .text [c] :: parts rules rest
termination_by text.length
decreasing_by
  all_goals simp only [List.length_cons, List.length_drop]
  all_goals omega

def pad (layout : Layout) (text : Text) : Text :=
  let blanks := List.replicate (layout.width - text.length) ' '
  if layout.left then text ++ blanks else blanks ++ text

/-- Zeros go between the sign and the digits. -/
def padNumber (layout : Layout) (zeros : Bool) (sign digits : Text) : Text :=
  if zeros ∧ layout.zeros ∧ !layout.left then
    sign ++ List.replicate (layout.width - sign.length - digits.length) '0' ++ digits
  else pad layout (sign ++ digits)

def sign (layout : Layout) (negative : Bool) : Text :=
  if negative then ['-'] else if layout.plus then ['+'] else if layout.space then [' '] else []

/-- The digits of a whole number, at least as many as the precision says. Zero has no digits with
the precision zero. -/
def wholeDigits (layout : Layout) (base n : Nat) : Text :=
  let digits := if n = 0 ∧ layout.precision? = some 0 then [] else Integer.inBase base n
  List.replicate (layout.precision?.getD 0 - digits.length) '0' ++ digits

def whole (layout : Layout) (n : Int) : Text :=
  padNumber layout layout.precision?.isNone (sign layout (n < 0)) (wholeDigits layout 10 n.natAbs)

def unsigned (layout : Layout) (letter : Char) (n : Nat) : Text :=
  let zeros := layout.precision?.isNone
  match letter with
  | 'o' =>
      let digits := wholeDigits layout 8 n
      let digits := if layout.alternate ∧ digits.head? ≠ some '0' then '0' :: digits else digits
      padNumber layout zeros [] digits
  | 'x' =>
      padNumber layout zeros (if layout.alternate ∧ n ≠ 0 then ['0', 'x'] else [])
        (wholeDigits layout 16 n)
  | 'X' =>
      padNumber layout zeros (if layout.alternate ∧ n ≠ 0 then ['0', 'X'] else [])
        ((wholeDigits layout 16 n).map Char.toUpper)
  | _ => padNumber layout zeros [] (wholeDigits layout 10 n)

def real (layout : Layout) (letter : Char) (value : Real) : Text :=
  padNumber layout value.isFinite (sign layout value.isNegative)
    (value.unsignedText layout.alternate letter (layout.precision?.getD 6))

/-- The value of an argument, and whether all of it is a number that can be held. -/
structure Value (A : Type) where
  value : A
  complete : Bool
  deriving Repr

/-- The code of the character behind a quote. -/
def code? (rules : Rules) (argument : Text) : Option Nat :=
  match argument with
  | quote :: rest =>
      if quote = '"' ∨ quote = '\'' then
        match rest with
        | [] => if rules.strict then none else some 0
        | c :: _ =>
            let wide? := ([1, 2, 3, 4].findSome? fun length =>
              Text.ofBytewise? (rest.take length)).bind List.head?
            some (if rules.wideCodes then (wide?.getD c).toNat else c.toNat)
      else none
  | [] => none

def valueOf {A : Type} (rules : Rules) (argument : Text) (ofCode : Nat → A)
    (ofNumber : Integer.Reading → A × Bool) : Value A :=
  match code? rules argument with
  | some code => ⟨ofCode code, true⟩
  | none =>
      match Integer.read? none argument with
      | none => ⟨ofCode 0, argument = []⟩
      | some reading =>
          let (value, fits) := ofNumber reading
          ⟨value, fits && reading.rest = []⟩

def wholeValue (rules : Rules) (argument : Text) : Value Int :=
  valueOf rules argument (fun code => (code : Int)) fun reading => (reading.clamped, reading.fits)

def unsignedValue (rules : Rules) (argument : Text) : Value Nat :=
  valueOf rules argument id fun reading => (reading.unsigned, reading.fitsUnsigned)

def realValue (rules : Rules) (argument : Text) : Value Real :=
  match code? rules argument, Real.read? argument with
  | some code, _ => ⟨.finite false code 1, true⟩
  | none, none => ⟨.finite false 0 1, argument = []⟩
  | none, some reading => ⟨reading.real.round rules.precision, reading.rest = []⟩

/-- The printed text so far, the arguments that are left, and how the format has fared. -/
structure Progress where
  output : Text
  arguments : List Text
  complete : Bool
  stopped : Bool
  faulty : Bool
  deriving DecidableEq, Repr

namespace Progress

def write (progress : Progress) (text : Text) : Progress :=
  { progress with output := progress.output ++ text }

/-- A missing argument is empty. -/
def next (progress : Progress) : Text × Progress :=
  (progress.arguments.headD [], { progress with arguments := progress.arguments.drop 1 })

/-- The size of a measure. A negative one is told apart. -/
def measure (progress : Progress) (rules : Rules) : Measure → Option Int × Progress
  | .none => (none, progress)
  | .number n => (some n, progress)
  | .argument =>
      let (argument, progress) := progress.next
      let value := wholeValue rules argument
      (some value.value, { progress with complete := progress.complete && value.complete })

/-- No field is wider than this. -/
def widest : Nat := 100000

def convert (progress : Progress) (rules : Rules) (directive : Directive) : Progress :=
  let (width?, progress) := progress.measure rules directive.width
  let (precision?, progress) := progress.measure rules directive.precision
  let has (flag : Char) : Bool := directive.flags.contains flag
  let width := width?.getD 0
  let layout : Layout := {
    left := has '-' || width < 0
    plus := has '+'
    space := has ' '
    alternate := has '#'
    zeros := has '0'
    width := min widest width.natAbs
    precision? := (precision?.filter (0 ≤ ·)).map fun precision => min widest precision.toNat }
  let noteAnd (progress : Progress) (complete : Bool) (text : Text) : Progress :=
    { progress.write text with complete := progress.complete && complete }
  let cut (text : Text) : Text :=
    match layout.precision? with
    | some precision => text.take precision
    | none => text
  let hasArgument := progress.arguments ≠ []
  let (argument, progress) := progress.next
  match directive.letter with
  | 's' => progress.write (pad layout (cut argument))
  | 'b' =>
      let unescaped := rules.argumentEscapes.decode argument
      let progress := progress.write (pad layout (cut unescaped.text))
      { progress with stopped := unescaped.stopped, faulty := unescaped.faulty }
  | 'c' => progress.write (pad layout [argument.headD '\x00'])
  | 'd' | 'i' =>
      let value := wholeValue rules argument
      noteAnd progress value.complete (whole layout value.value)
  | 'o' | 'u' | 'x' | 'X' =>
      let value := unsignedValue rules argument
      noteAnd progress value.complete (unsigned layout directive.letter value.value)
  | 'q' => if hasArgument then progress.write argument else progress
  | letter =>
      let value := realValue rules argument
      noteAnd progress value.complete (real layout letter value.value)

def run (progress : Progress) (rules : Rules) : List Part → Progress
  | [] => progress
  | part :: rest =>
      let progress :=
        match part with
        | .text text => progress.write text
        | .directive directive => progress.convert rules directive
        | .stop => { progress with stopped := true }
        | .fault => { progress with faulty := true }
      if progress.stopped ∨ progress.faulty then progress else progress.run rules rest

/-- Every further use of the format takes an argument, so their number bounds the uses. -/
def repeatWithin (rules : Rules) (parts : List Part) : Nat → Progress → Progress
  | 0, progress => progress
  | fuel + 1, progress =>
      let next := progress.run rules parts
      if next.stopped ∨ next.faulty ∨ next.arguments = [] ∨
          next.arguments.length = progress.arguments.length then next
      else repeatWithin rules parts fuel next

end Progress

/-- The result of printing arguments by a format. -/
def print (rules : Rules) (format : Text) (arguments : List Text) : Progress :=
  Progress.repeatWithin rules (parts rules format) (arguments.length + 1)
    ⟨[], arguments, true, false, false⟩

end Promptline.Format
