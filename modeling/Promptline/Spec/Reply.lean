/-
This file reads the candidates out of what a completer has written. A whole output in JSON is read
as such, and any other line by line.
-/

import Promptline.Completion.Candidate
import Promptline.Json
import Promptline.Text.Blank

namespace Promptline.Reply

/-- The value of a field that has two names, of which only one may occur. -/
def field? (members : List (Text × Json)) (first second : Text) : Option (Option Json) :=
  match members.filter fun member => member.1 = first || member.1 = second with
  | [] => some none
  | [member] => some (some member.2)
  | _ => none

/-- A text may be missing or null. -/
def optionalText? (members : List (Text × Json)) (first second : Text) : Option (Option Text) := do
  match ← field? members first second with
  | none | some .null => some none
  | some value => return some (← value.string?)

/-- An object is a candidate if it has a value and its other known fields are texts. -/
def ofObject? (json : Json) : Option Candidate := do
  let members ← json.members?
  let value ← (← field? members (Text.of "Value") (Text.of "value")).bind Json.string?
  let display? ← optionalText? members (Text.of "Display") (Text.of "display")
  let description? ← optionalText? members (Text.of "Description") (Text.of "description")
  let suffix? ← optionalText? members (Text.of "Suffix") (Text.of "suffix")
  return { value, display? := display?.bind Candidate.presence,
           description? := description?.bind Candidate.presence,
           suffix? := suffix?.bind Candidate.presence }

/-- An array of strings. -/
def ofStrings? (text : Text) : Option (List Candidate) := do
  let items ← (← Json.parse? text).items?
  items.mapM fun item => item.string?.map Candidate.ofValue

/-- An array of objects. -/
def ofObjects? (text : Text) : Option (List Candidate) := do
  (← (← Json.parse? text).items?).mapM ofObject?

/-- A single object. -/
def ofSingle? (text : Text) : Option (List Candidate) := do
  return [← ofObject? (← Json.parse? text)]

/-- A whole output is an array of strings or of objects. -/
def ofWhole? (text : Text) : Option (List Candidate) := (ofStrings? text).or (ofObjects? text)

/-- The value stands before the separator and the description behind it. -/
def ofPair? (separator : Char) (line : Text) : Option Candidate :=
  (line.splitAt? separator).map fun (value, description) =>
    (Candidate.ofValue value.trim).withDescription description.trim

/-- A line is JSON, a pair or a value, and what is not JSON after all is a value. -/
def ofLine (line : Text) : List Candidate :=
  let line := line.trim
  let plain := [Candidate.ofValue line]
  if line.startsWith ['\x7b'] || line.startsWith ['['] then
    ((ofSingle? line).or ((ofObjects? line).or (ofStrings? line))).getD plain
  else (((ofPair? '\t' line).or (ofPair? ':' line)).map fun candidate => [candidate]).getD plain

/-- Blank lines and empty values give no candidates. -/
def ofOutput (output : Text) : List Candidate :=
  let output := output.trim
  let candidates :=
    if output = [] then []
    else (ofWhole? output).getD
      ((output.lines.filter fun line => !line.trim.isEmpty).flatMap ofLine)
  candidates.filter fun candidate => !candidate.value.isEmpty

end Promptline.Reply
