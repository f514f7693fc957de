/-
This file evaluates a specification in a context. What programs and functions answer comes from the
host, and a program that fails gives no candidates.
-/

import Promptline.Spec.Basic
import Promptline.Spec.Context
import Promptline.Spec.Reply

namespace Promptline

/-- The host runs completer programs and, where it can, completion functions. -/
structure CompletionHost where
  program? : Text → Context → Option Text
  function? : Option (Text → Context → List Text)

/-- Replies of a function count as they are, or only those that start with the word. -/
inductive ReplyFilter where
  | raw
  | currentWord
  deriving DecidableEq, Repr

namespace Spec

/-- The words of a list that start with the completed word, in order. -/
def matchingWords (list word : Text) : List Text :=
  list.words.filter fun candidate => candidate.startsWith word

def evaluate (spec : Spec) (host : CompletionHost) (context : Context) (filter : ReplyFilter) :
    List Candidate :=
  match spec.kind with
  | .wordList => (matchingWords spec.value context.word).map Candidate.ofValue
  | .function =>
      match host.function? with
      | none => []
      | some replies =>
          ((replies spec.value context).filter fun reply =>
            filter = .raw || reply.startsWith context.word).map Candidate.ofValue
  | .program => ((host.program? spec.value context).map Reply.ofOutput).getD []

end Spec

namespace Registry

/-- The source completes commands by name and the words behind them by their specification. -/
def source (registry : Registry) (host : CompletionHost) (sigils : List Text) : Source where
  candidates line cursor :=
    let context := Context.ofLine line cursor
    if context.inCommand then (registry.commandsFrom context.word).map Candidate.ofValue
    else match registry.find? context.command with
      | none => []
      | some spec => spec.evaluate host context .raw
  help line cursor :=
    ((registry.find? (Context.ofLine line cursor).command).map Spec.summary).getD []
  sigils

end Registry

end Promptline
