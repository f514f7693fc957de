/-
This file runs a session over an input that is no terminal. Every line is executed as it comes, and
a line that is no UTF-8 ends the run with a fault.
-/

import Promptline.Session.Basic

namespace Promptline.Plain

/-- A line of bytes in reverse, without the carriage return of its end. -/
def lineOf (held : List UInt8) : List UInt8 :=
  match held with
  | 13 :: rest => rest.reverse
  | held => held.reverse

/-- The lines of the input behind the held bytes of the open line. The last line may lack an end. -/
def linesFrom (held : List UInt8) : List UInt8 → List (List UInt8)
  | [] => if held = [] then [] else [held.reverse]
  | byte :: rest =>
      if byte = 10 then lineOf held :: linesFrom [] rest else linesFrom (byte :: held) rest

def lines (input : List UInt8) : List (List UInt8) := linesFrom [] input

/-- What a run prints and its exit code. -/
structure Report where
  output : Text
  code : Nat
  deriving DecidableEq, Repr

/-- Every line is remembered after it has run. -/
def run (directory : Text) (session : Session) (history : List HistoryItem) :
    List (List UInt8) → Report
  | [] => ⟨[], 0⟩
  | bytes :: rest =>
      match Text.ofUtf8? bytes with
      | none => ⟨[], 1⟩
      | some line =>
          match session.execute line history with
          | (_, .exit) => ⟨[], 0⟩
          | (session, .output text) =>
              let history :=
                if Session.remembers line then ⟨line, directory⟩ :: history else history
              let report := run directory session history rest
              ⟨text ++ report.output, report.code⟩

end Promptline.Plain
