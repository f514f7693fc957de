/-
This file defines signals: their names and what they do to a program that does not catch them.
-/

import Promptline.Text.Basic

namespace Promptline.Signal

/-- The names of the signals from the first one on. -/
def names : List String :=
  ["HUP", "INT", "QUIT", "ILL", "TRAP", "ABRT", "BUS", "FPE", "KILL", "USR1", "SEGV", "USR2",
    "PIPE", "ALRM", "TERM", "STKFLT", "CHLD", "CONT", "STOP", "TSTP", "TTIN", "TTOU", "URG",
    "XCPU", "XFSZ", "VTALRM", "PROF", "WINCH", "IO", "PWR", "SYS"]

def name? (number : Nat) : Option Text :=
  if number = 0 then none else names[number - 1]?.map Text.of

/-- The signals that end a program at once, or one of its calculations. -/
def kill : Nat := 9
def segmentation : Nat := 11
def terminate : Nat := 15

/-- The last signal that there is. -/
def last : Nat := 64

/-- The lowest and the highest of the signals that have no names of their own. -/
def lowest : Nat := 34

/-- The name that scripts use for a signal. -/
def scriptName (number : Nat) : Text :=
  match name? number with
  | some name => name
  | none =>
      if number = 0 then Text.of "EXIT"
      else if number < lowest then Text.ofNat number
      else if number = lowest then Text.of "RTMIN"
      else if number = last then Text.of "RTMAX"
      else if number ≤ 49 then Text.of "RTMIN+" ++ Text.ofNat (number - lowest)
      else Text.of "RTMAX-" ++ Text.ofNat (last - number)

def upper (text : Text) : Text := text.map Char.toUpper

/-- The signal of a number or of a name, in which the case of letters has no meaning. -/
def ofWord? (least : Nat) (word : Text) : Option Nat :=
  if word ≠ [] ∧ word.all Char.isDigit then
    let number := (String.ofList word).toNat?.getD 0
    if number ≤ last then some number else none
  else
    ((List.range (last + 1)).drop least).find? fun number => scriptName number = upper word

/-- These signals do nothing unless they are caught. -/
def isIgnored (number : Nat) : Bool := [17, 18, 23, 28].contains number

/-- These signals stop a program for good. -/
def isStop (number : Nat) : Bool := [19, 20, 21, 22].contains number

end Promptline.Signal
