/-
This file defines the words of the shell. A word is put together from text, parameters, the output
of scripts and numbers, and each part knows whether it stands in quotes.
-/

import Promptline.Text.Bytes

namespace Promptline.Shell

/-- What happens when a parameter is not set, or when it is. -/
inductive Fallback where
  | use
  | assign
  | complain
  /-- The word takes the place of a parameter that is set. -/
  | replace
  deriving DecidableEq, Repr

inductive Part where
  | text (quoted : Bool) (text : Text)
  /-- Quotes open or close here. -/
  | quote
  | value (quoted : Bool) (name : Text)
  | length (quoted : Bool) (name : Text)
  | fallback (quoted : Bool) (name : Text) (kind : Fallback) (emptyToo : Bool) (word : List Part)
  | trim (quoted : Bool) (name : Text) (atEnd longest : Bool) (pattern : List Part)
  | invalid
  | output (quoted : Bool) (script : Text)
  | number (quoted : Bool) (expression : List Part)
  deriving Repr

abbrev Word := List Part

/-- Why a text is no script. -/
inductive SyntaxFault where
  | unexpected (found : Text) (expected? : Option Text)
  | openQuote
  | openBrace
  | openParentheses
  | openBackquote
  | loopVariable
  | functionName
  | descriptor
  deriving DecidableEq, Repr

namespace SyntaxFault

def message : SyntaxFault → Text
  | unexpected found none => Text.of "Syntax error: " ++ found ++ Text.of " unexpected"
  | unexpected found (some expected) =>
      Text.of "Syntax error: " ++ found ++ Text.of " unexpected (expecting " ++ expected ++ [')']
  | openQuote => Text.of "Syntax error: Unterminated quoted string"
  | openBrace => Text.of "Syntax error: Missing '\x7d'"
  | openParentheses => Text.of "Syntax error: Missing '))'"
  | openBackquote => Text.of "Syntax error: EOF in backquote substitution"
  | loopVariable => Text.of "Syntax error: Bad for loop variable"
  | functionName => Text.of "Syntax error: Bad function name"
  | descriptor => Text.of "Syntax error: Bad fd number"

end SyntaxFault

namespace Word

def isNameStart (c : Char) : Bool := c.isAlpha || c = '_'

def isNamePart (c : Char) : Bool := c.isAlphanum || c = '_'

def isName : Text → Bool
  | [] => false
  | c :: rest => isNameStart c && rest.all isNamePart

/-- The parameters that are no variables, apart from numbers. -/
def isSpecial (c : Char) : Bool := "@*#?-$!".toList.contains c || c.isDigit

/-- The text in front goes together with a first part of its kind. -/
def addText (quoted : Bool) (text : Text) : Word → Word
  | .text same more :: rest =>
      if same = quoted then .text quoted (text ++ more) :: rest
      else .text quoted text :: .text same more :: rest
  | word => .text quoted text :: word

/-- The text of a word without quotes and anything to expand. -/
def plain? : Word → Option Text
  | [] => some []
  | [.text false text] => some text
  | _ => none

/-- The name and the value of a word that assigns. -/
def assignment? : Word → Option (Text × Word)
  | .text false text :: rest =>
      let name := text.takeWhile isNamePart
      match text.dropWhile isNamePart with
      | '=' :: value =>
          if isName name then
            some (name, if value = [] then rest else .text false value :: rest)
          else none
      | _ => none
  | _ => none

end Word

end Promptline.Shell
