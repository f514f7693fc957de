/-
This file finds the programs that do their work without starting others.
-/

import Promptline.Program.Tool.Characters
import Promptline.Program.Tool.Editing
import Promptline.Program.Tool.Encoding
import Promptline.Program.Tool.Expression
import Promptline.Program.Tool.Fields
import Promptline.Program.Tool.Files
import Promptline.Program.Tool.Identity
import Promptline.Program.Tool.Lines
import Promptline.Program.Tool.Numbers
import Promptline.Program.Tool.Output
import Promptline.Program.Tool.Paths
import Promptline.Program.Tool.Search
import Promptline.Program.Tool.Sorting

namespace Promptline.Tool

/-- The code with which a program refuses arguments that it cannot use. -/
def refusalCode (name : String) : Nat :=
  match name with
  | "awk" | "cmp" | "diff" | "mawk" | "nawk" | "numfmt" | "perl" | "pgrep" | "pkill" | "tar" => 2
  | "hostname" => 255
  | _ => 1

/-- The program of a name. One that is not known in detail refuses its arguments. -/
def find (name : Text) : Tool :=
  match String.ofList name with
  | "echo" => echo
  | "printf" => printf
  | "test" => test
  | "[" => bracket
  | "true" => fun _ => return 0
  | "false" => fun _ => return 1
  | "sleep" => sleep
  | "yes" => yes
  | "printenv" => printenv
  | "cat" => cat
  | "tac" => tac
  | "rev" => rev
  | "head" => head
  | "tail" => tail
  | "wc" => wc
  | "nl" => nl
  | "tee" => tee
  | "paste" => paste
  | "fold" => fold
  | "cut" => cut
  | "uniq" => uniq
  | "comm" => comm
  | "sort" => sort
  | "tr" => tr
  | "grep" => grep 'G'
  | "egrep" => grep 'E'
  | "fgrep" => grep 'F'
  | "sed" => sed
  | "seq" => seq
  | "factor" => factor
  | "expr" => expr
  | "basename" => basename
  | "dirname" => dirname
  | "realpath" => realpath
  | "readlink" => readlink
  | "pathchk" => pathchk
  | "pwd" => pwd
  | "ls" | "dir" | "vdir" => ls
  | "mkdir" => mkdir
  | "rmdir" => rmdir
  | "rm" => rm
  | "unlink" => unlink
  | "touch" => touch
  | "cp" => cp
  | "mv" => mv
  | "ln" => ln
  | "mkfifo" => mkfifo
  | "chmod" => chmod
  | "whoami" => whoami
  | "id" => identify
  | "groups" => groups
  | "uname" => uname
  | "arch" => arch
  | "tty" => tty
  | "base64" => encoded .base64 "base64"
  | "base32" => encoded .base32 "base32"
  | "od" => od
  | other => fun _ => return refusalCode other

end Promptline.Tool
