/-
This file reads the commands of a script. A script is read up to the end of a line at a time,
because a line is run before the next one is read.
-/

import Promptline.Shell.Token

namespace Promptline.Shell

/-- The script that is left, with its first token if that has been looked at. -/
structure Source where
  rest : Text
  ahead? : Option Token
  /-- The names that stand for texts. -/
  aliases : List (Text × Text)
  /-- The aliases that have given their texts, with the size of the script behind each of them. -/
  replaced : List (Text × Nat)
  /-- Behind an alias that ends with a blank the next word may be one, too. -/
  goesOnAt? : Option Nat

/-- A script of which nothing has been read. -/
def Source.ofScript (aliases : List (Text × Text)) (script : Text) : Source :=
  ⟨script, none, aliases, [], none⟩

/-- More steps than these are not taken, as each of them reads a character or replaces a name. -/
def Source.size (source : Source) : Nat :=
  (source.rest.length + 2) * (1 + source.aliases.foldr (fun entry size => entry.2.length + size) 0)

abbrev Parser := StateT Source (Except SyntaxFault)

/-- Where a list of commands ends. -/
inductive ListKind where
  /-- At the end of a line. -/
  | line
  /-- Where it has to end, after at least one command. -/
  | block
  /-- Where it has to end, perhaps without a command. -/
  | optional
  deriving DecidableEq, Repr

/-- The readers that readers of larger commands are put together from. -/
structure Grammar where
  list : ListKind → Parser (Option Command)
  command : Parser Command

namespace Grammar

/-- The token that ended a list, and the text behind it. -/
def ended (source : Source) : Token × Text := (source.ahead?.getD .finish, source.rest)

/-- Scripts inside of words are lists of commands. -/
def scripts (grammar : Grammar) : NestedScripts where
  behind text := do
    let (_, source) ← (grammar.list .optional).run (.ofScript [] text)
    match ended source with
    | (.operator [')'], rest) => return rest
    | (token, _) => throw (.unexpected token.name (some (Token.quoted [')'])))
  check text := do
    let (_, source) ← (grammar.list .optional).run (.ofScript [] text)
    match ended source with
    | (.finish, _) => return ()
    | (token, _) => throw (.unexpected token.name none)

variable (grammar : Grammar)

/-- The first token, which stays where it is. -/
def peek : Parser Token := do
  let source ← get
  match source.ahead? with
  | some token => return token
  | none =>
      let (token, rest) ← Token.read grammar.scripts (source.rest.length + 1) source.rest
      set { source with rest, ahead? := some token }
      return token

def next : Parser Token := do
  let token ← grammar.peek
  modify fun source => { source with ahead? := none }
  return token

def skipLineEnds : Nat → Parser Unit
  | 0 => pure ()
  | fuel + 1 => do
      match ← grammar.peek with
      | .lineEnd =>
          discard grammar.next
          skipLineEnds fuel
      | _ => pure ()

/-- All line ends are passed over. -/
def skipEmptyLines : Parser Unit := do grammar.skipLineEnds (← get).size

def unexpected {A : Type} (token : Token) (expected? : Option Text := none) : Parser A :=
  throw (.unexpected token.name expected?)

def expectKeyword (keyword : String) : Parser Unit := do
  let token ← grammar.next
  if token.keyword? = some keyword then return
  unexpected token (some (Token.quoted (Text.of keyword)))

def expectOperator (text : Text) : Parser Unit := do
  match ← grammar.next with
  | .operator found =>
      if found = text then return
      unexpected (.operator found) (some (Token.quoted text))
  | token => unexpected token (some (Token.quoted text))

/-- The token is the operator. -/
def isOperator (text : String) : Token → Bool
  | .operator found => found = Text.of text
  | _ => false

/-- A list that has to hold a command. -/
def block : Parser Command := do return Command.run (← grammar.list .block)

/-- The word behind the sign of a redirection. -/
def redirectionWord : Parser Word := do
  match ← grammar.next with
  | .word word => return word
  | token => unexpected token

/-- A document is expanded unless its delimiter has quotes. -/
def document (descriptor : Nat) (dropsTabs : Bool) : Parser Redirection := do
  let source ← get
  let (ending, isQuoted, rest) := delimiter none (source.rest.dropWhile (· = ' '))
  let (text, rest) := takeDocument ending dropsTabs rest
  set { source with rest, ahead? := none }
  if isQuoted then return ⟨descriptor, .document, [.text true text]⟩
  let (word, _) ← Word.read grammar.scripts .document text
  return ⟨descriptor, .document, word⟩

def redirections : Nat → Parser (List Redirection)
  | 0 => return []
  | fuel + 1 => do
      match ← grammar.peek with
      | .redirection descriptor kind =>
          discard grammar.next
          let target ← grammar.redirectionWord
          return ⟨descriptor, kind, target⟩ :: (← redirections fuel)
      | .document descriptor dropsTabs =>
          discard grammar.next
          let found ← grammar.document descriptor dropsTabs
          return found :: (← redirections fuel)
      | _ => return []

/-- The builtins that no function can hide. -/
def specialBuiltins : List String :=
  [".", ":", "break", "continue", "eval", "exec", "exit", "export", "local", "readonly", "return",
    "set", "shift", "times", "trap", "unset"]

/-- The rest of a function, whose name stands before parentheses. -/
def functionBody (name : Word) : Parser Command := do
  discard grammar.next
  grammar.expectOperator [')']
  match name.plain? with
  | some name =>
      if !Word.isName name || specialBuiltins.contains (String.ofList name) then
        throw .functionName
      grammar.skipEmptyLines
      return .function name (← grammar.command)
  | none => throw .functionName

/-- A name gives way to the text that it stands for, which may start with such a name again. No name
gives way in its own text. -/
def replaceNames : Nat → Parser Unit
  | 0 => pure ()
  | fuel + 1 => do
      let token ← grammar.peek
      let source ← get
      match token with
      | .word [.text false name] =>
          let isOpen := source.replaced.any fun (other, left) =>
            other = name && left ≤ source.rest.length
          match if token.keyword?.isSome ∨ isOpen then none else source.aliases.lookup name with
          | some value => do
              let left := source.rest.length
              let isBlank := value.getLast?.any fun c => c = ' ' || c = '\t'
              set { source with
                rest := value ++ source.rest, ahead? := none
                replaced := (name, left) :: source.replaced
                goesOnAt? := if isBlank then some left else source.goesOnAt? }
              replaceNames fuel
          | none => pure ()
      | _ => pure ()

/-- The word behind a name that ends with a blank is looked at once. -/
def replaceNext : Parser Unit := do
  discard grammar.peek
  let source ← get
  match source.goesOnAt? with
  | some left =>
      if source.rest.length < left then
        set { source with goesOnAt? := none }
        grammar.replaceNames (source.aliases.length + 1)
  | none => pure ()

/-- Names at the start of a command give way to texts. -/
def replaceFirst : Parser Unit := do grammar.replaceNames ((← get).aliases.length + 1)

/-- The words, assignments and redirections of a simple command, with what has been read of them in
reverse. -/
def simpleWithin (assignments : List (Text × Word)) (words : List Word)
    (redirections : List Redirection) : Nat → Parser Command
  | 0 => return .simple assignments.reverse words.reverse redirections.reverse
  | fuel + 1 => do
      if words = [] then grammar.replaceFirst else grammar.replaceNext
      match ← grammar.peek with
      | .word word =>
          discard grammar.next
          match (if words = [] then word.assignment? else none) with
          | some assignment => simpleWithin (assignment :: assignments) words redirections fuel
          | none => simpleWithin assignments (word :: words) redirections fuel
      | .redirection descriptor kind =>
          discard grammar.next
          let target ← grammar.redirectionWord
          simpleWithin assignments words (⟨descriptor, kind, target⟩ :: redirections) fuel
      | .document descriptor dropsTabs =>
          discard grammar.next
          let found ← grammar.document descriptor dropsTabs
          simpleWithin assignments words (found :: redirections) fuel
      | token =>
          match words, assignments, redirections with
          | [name], [], [] =>
              if isOperator "(" token then grammar.functionBody name
              else return .simple [] [name] []
          | _, _, _ => return .simple assignments.reverse words.reverse redirections.reverse

/-- The branches behind the first condition of a choice. -/
def alternatives : Nat → Parser (Option Command)
  | 0 => return none
  | fuel + 1 => do
      match (← grammar.peek).keyword? with
      | some "elif" =>
          discard grammar.next
          let condition ← grammar.block
          grammar.expectKeyword "then"
          let yes ← grammar.block
          return some (.choice condition yes (← alternatives fuel))
      | some "else" =>
          discard grammar.next
          return some (← grammar.block)
      | _ => return none

def choice : Parser Command := do
  let condition ← grammar.block
  grammar.expectKeyword "then"
  let yes ← grammar.block
  let no? ← grammar.alternatives (← get).size
  grammar.expectKeyword "fi"
  return .choice condition yes no?

def loop (untilTrue : Bool) : Parser Command := do
  let condition ← grammar.block
  grammar.expectKeyword "do"
  let body ← grammar.block
  grammar.expectKeyword "done"
  return .loop untilTrue condition body

def wordsWithin : Nat → Parser (List Word)
  | 0 => return []
  | fuel + 1 => do
      match ← grammar.peek with
      | .word word =>
          discard grammar.next
          return word :: (← wordsWithin fuel)
      | _ => return []

def each : Parser Command := do
  let name ← match ← grammar.next with
    | .word word =>
        match word.plain? with
        | some name => if Word.isName name then pure name else throw .loopVariable
        | none => throw .loopVariable
    | _ => throw .loopVariable
  grammar.skipEmptyLines
  let token ← grammar.peek
  let words? ←
    if token.keyword? = some "in" then do
      discard grammar.next
      let words ← grammar.wordsWithin (← get).size
      match ← grammar.next with
      | .lineEnd | .operator [';'] => pure (some words)
      | token => unexpected token
    else do
      if isOperator ";" token then discard grammar.next
      pure none
  grammar.skipEmptyLines
  grammar.expectKeyword "do"
  let body ← grammar.block
  grammar.expectKeyword "done"
  return .each name words? body

/-- The patterns of a branch, which stand between bars. -/
def patterns : Nat → Parser (List Word)
  | 0 => return []
  | fuel + 1 => do
      match ← grammar.next with
      | .word word =>
          if isOperator "|" (← grammar.peek) then
            discard grammar.next
            return word :: (← patterns fuel)
          else return [word]
      | token => unexpected token (some (Text.of "word"))

def branchesWithin : Nat → Parser (List (List Word × Option Command))
  | 0 => return []
  | fuel + 1 => do
      grammar.skipEmptyLines
      if (← grammar.peek).keyword? = some "esac" then return []
      if isOperator "(" (← grammar.peek) then discard grammar.next
      let patterns ← grammar.patterns (← get).size
      grammar.expectOperator [')']
      let body? ← grammar.list .optional
      grammar.skipEmptyLines
      if (← grammar.peek).keyword? = some "esac" then return [(patterns, body?)]
      let token ← grammar.next
      if !isOperator ";;" token then unexpected token (some (Token.quoted [';', ';']))
      return (patterns, body?) :: (← branchesWithin fuel)

def branches : Parser Command := do
  let subject ← match ← grammar.next with
    | .word word => pure word
    | token => unexpected token (some (Text.of "word"))
  grammar.skipEmptyLines
  grammar.expectKeyword "in"
  let branches ← grammar.branchesWithin (← get).size
  grammar.expectKeyword "esac"
  return .branches subject branches

/-- A command that a keyword or a parenthesis opens may have redirections behind it. -/
def compound (command : Command) : Parser Command := do
  match ← grammar.redirections (← get).size with
  | [] => return command
  | redirections =>
      match command with
      | .subshell body _ => return .subshell body redirections
      | command => return .redirected command redirections

def anyCommand : Parser Command := do
  grammar.replaceFirst
  let token ← grammar.peek
  let open_ (read : Parser Command) : Parser Command := do
    discard grammar.next
    grammar.compound (← read)
  match token, token.keyword? with
  | _, some "if" => open_ grammar.choice
  | _, some "while" => open_ (grammar.loop false)
  | _, some "until" => open_ (grammar.loop true)
  | _, some "for" => open_ grammar.each
  | _, some "case" => open_ grammar.branches
  | _, some "\x7b" => open_ do
      let body ← grammar.block
      grammar.expectKeyword "\x7d"
      return body
  | token, some _ => unexpected token
  | .operator ['('], _ => open_ do
      let body ← grammar.block
      grammar.expectOperator [')']
      return .subshell body []
  | .operator text, _ => unexpected (.operator text)
  | .finish, _ => unexpected .finish
  | .lineEnd, _ => unexpected .lineEnd
  | _, _ => grammar.simpleWithin [] [] [] (← get).size

def stages : Nat → Parser (List Command)
  | 0 => return []
  | fuel + 1 => do
      if isOperator "|" (← grammar.peek) then
        discard grammar.next
        grammar.skipEmptyLines
        let command ← grammar.anyCommand
        return command :: (← stages fuel)
      else return []

def pipeline : Parser Command := do
  let negated := (← grammar.peek).keyword? = some "!"
  if negated then discard grammar.next
  let first ← grammar.anyCommand
  let command ← match ← grammar.stages (← get).size with
    | [] => pure first
    | others => pure (.pipeline (first :: others))
  return if negated then .negation command else command

def moreConditions (soFar : Command) : Nat → Parser Command
  | 0 => return soFar
  | fuel + 1 => do
      let token ← grammar.peek
      let extend (join : Command → Command → Command) : Parser Command := do
        discard grammar.next
        grammar.skipEmptyLines
        moreConditions (join soFar (← grammar.pipeline)) fuel
      if isOperator "&&" token then extend .both
      else if isOperator "||" token then extend .either
      else return soFar

def conditions : Parser Command := do
  let first ← grammar.pipeline
  grammar.moreConditions first (← get).size

def listWithin (kind : ListKind) (soFar? : Option Command) : Nat → Parser (Option Command)
  | 0 => return soFar?
  | fuel + 1 => do
      if kind ≠ .line then grammar.skipEmptyLines
      let token ← grammar.peek
      match token with
      | .lineEnd =>
          discard grammar.next
          return soFar?
      | .finish => return soFar?
      | token =>
          if kind ≠ .line ∧ (kind = .optional ∨ soFar?.isSome) ∧ token.endsList then return soFar?
          let command ← grammar.conditions
          let token ← grammar.peek
          let isBackground := isOperator "&" token
          let all := Command.andThen soFar? (if isBackground then .background command else command)
          match token with
          | .lineEnd | .finish => listWithin kind (some all) fuel
          | token =>
              if isBackground ∨ isOperator ";" token then
                discard grammar.next
                listWithin kind (some all) fuel
              else if kind = .line then unexpected token
              else return some all

end Grammar

/-- The readers for commands up to a depth. -/
def grammar : Nat → Grammar
  | 0 => ⟨fun _ => throw .openBrace, throw .openBrace⟩
  | depth + 1 =>
      let inner := grammar depth
      { list := fun kind => do inner.listWithin kind none (← get).size
        command := inner.anyCommand }

/-- The commands of the first line, if there are any, and the script behind them. There is nothing
at the end of a script. -/
def nextLine? (aliases : List (Text × Text)) (script : Text) :
    Except SyntaxFault (Option (Option Command × Text)) := do
  if script = [] then return none
  let source := Source.ofScript aliases script
  let (command?, source) ← ((grammar source.size).list .line).run source
  match source.ahead? with
  | some .finish => return some (command?, [])
  | _ => return some (command?, source.rest)

end Promptline.Shell
