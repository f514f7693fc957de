/-
This file defines the programs that tell about the user and the machine.
-/

import Promptline.Program.Tool.Options

namespace Promptline.Tool

def userName : Text := Text.of "root"

/-- A line that takes no operands. -/
def fixedLine (program : String) (line : Text) : Tool :=
  withOptions program ⟨[], [], []⟩ 1 fun given =>
    match given.operands with
    | [] => Work.put (line ++ ['\n'])
    | extra :: _ => extraOperand program extra 1

def whoami : Tool := fixedLine "whoami" userName

def arch : Tool := fixedLine "arch" (Text.of "x86_64")

/-- The numbers and names of the user and the groups. -/
def identify : Tool :=
  withOptions "id" ⟨"aGgnruz".toList, [],
    [("group", 'g'), ("groups", 'G'), ("name", 'n'), ("real", 'r'), ("user", 'u'), ("zero", 'z')]⟩
    1 fun given => do
      let wanted := ['u', 'g', 'G'].filter given.has
      let names := given.has 'n' || given.has 'r' || given.has 'z'
      if 1 < wanted.length ∨ (wanted = [] ∧ names) then return 1
      let known := given.operands.filter fun name => name = userName || name = ['0']
      let users := if given.operands = [] then [userName] else known
      let end_ := if given.has 'z' then '\x00' else '\n'
      let line :=
        if wanted = [] then Text.of "uid=0(root) gid=0(root) groups=0(root)"
        else if given.has 'n' then userName else ['0']
      discard (Work.put (users.flatMap fun _ => line ++ [end_]))
      for name in given.operands do
        if !known.contains name then
          discard (fail "id" (quoted name ++ Text.of ": no such user") 1)
      return if known.length = given.operands.length then 0 else 1

/-- The groups of users. -/
def groups : Tool := withOptions "groups" ⟨[], [], []⟩ 1 fun given => do
  if given.operands = [] then Work.put (userName ++ ['\n'])
  else
    let known := given.operands.filter (· = userName)
    discard (Work.put (known.flatMap fun name => name ++ Text.of " : " ++ userName ++ ['\n']))
    return if known.length = given.operands.length then 0 else 1

/-- The names of the machine by their letters. -/
def machineNames : List (Char × String) :=
  [('s', "Linux"), ('m', "x86_64"), ('o', "GNU/Linux")]

def uname : Tool :=
  withOptions "uname" ⟨"asnrvmpio".toList, [],
    [("kernel-name", 's'), ("machine", 'm'), ("operating-system", 'o')]⟩ 1 fun given => do
      match given.operands with
      | extra :: _ => return ← extraOperand "uname" extra 1
      | [] => pure ()
      let letters := if given.options = [] then ['s'] else given.options.map Prod.fst
      let found := machineNames.filter fun (letter, _) => letters.contains letter
      Work.put (Text.join [' '] (found.map fun (_, name) => Text.of name) ++ ['\n'])

/-- The input is no terminal. -/
def tty : Tool := withOptions "tty" ⟨['s'], [], [("silent", 's'), ("quiet", 's')]⟩ 2 fun given => do
  match given.operands with
  | extra :: _ => return ← extraOperand "tty" extra 2
  | [] => pure ()
  if !given.has 's' then discard (Work.put (Text.of "not a tty\n"))
  return 1

end Promptline.Tool
