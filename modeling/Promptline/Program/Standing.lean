/-
This file defines the files that stand on the machine before any program is run.
-/

import Promptline.Program.Machine

namespace Promptline.Standing

/-- The programs by their names. -/
def programs : List String :=
  ["[", "arch", "awk", "b2sum", "base32", "base64", "basename", "basenc", "bash", "cat", "chcon",
    "chgrp", "chmod", "chown", "cksum", "cmp", "comm", "cp", "csplit", "cut", "dash", "date", "dd",
    "df", "diff", "dir", "dircolors", "dirname", "du", "echo", "egrep", "env", "expand", "expr",
    "factor", "false", "fgrep", "find", "flock", "fmt", "fold", "free", "getopt", "grep", "groups",
    "gunzip", "gzip", "head", "hostid", "hostname", "iconv", "id", "install", "join", "kill",
    "link", "ln", "logname", "ls", "mawk", "md5sum", "mkdir", "mkfifo", "mknod", "mktemp", "more",
    "mv", "nawk", "nice", "nl", "nohup", "nproc", "numfmt", "od", "paste", "pathchk", "perl",
    "pgrep", "pinky", "pkill", "pr", "printenv", "printf", "ps", "ptx", "pwd", "readlink",
    "realpath", "rev", "rm", "rmdir", "rbash", "sed", "seq", "setsid", "sh", "sha1sum", "sha224sum",
    "sha256sum", "sha384sum", "sha512sum", "shred", "shuf", "sleep", "sort", "split", "stat",
    "stdbuf", "stty", "su", "sum", "sync", "tac", "tail", "tar", "tee", "tempfile", "test",
    "timeout", "touch", "tr", "true", "truncate", "tsort", "tty", "uname", "unexpand", "uniq",
    "unlink", "uptime", "users", "vdir", "wc", "which", "who", "whoami", "xargs", "yes"]

def directories : List String :=
  ["boot", "dev", "etc", "home", "media", "mnt", "opt", "proc", "root", "run", "srv", "sys", "tmp",
    "usr", "usr/bin", "usr/include", "usr/lib", "usr/local", "usr/local/bin", "usr/local/sbin",
    "usr/sbin", "usr/share", "var", "var/lib", "var/log", "var/tmp", "work"]

/-- These directories stand for others. -/
def links : List (String × String) :=
  [("bin", "usr/bin"), ("lib", "usr/lib"), ("lib64", "usr/lib64"), ("sbin", "usr/sbin")]

def devices : List String := ["full", "null", "random", "tty", "urandom", "zero"]

def files : List (String × String) :=
  [("etc/group", "root:x:0:\n"), ("etc/hostname", "localhost\n"),
    ("etc/hosts", "127.0.0.1\tlocalhost\n"),
    ("etc/passwd", "root:x:0:0:root:/root:/bin/bash\n"),
    ("etc/shadow", "root:*:19000:0:99999:7:::\n")]

def placeOf (path : String) : Place := Place.names (Text.of path)

/-- What stands at a place. -/
def node? (place : Place) : Option Node :=
  let name := String.ofList (Text.join ['/'] place)
  match place with
  | [['u', 's', 'r'], ['b', 'i', 'n'], program] =>
      if programs.contains (String.ofList program) then some .program else none
  | [['d', 'e', 'v'], device] =>
      if devices.contains (String.ofList device) then some (.device device) else none
  | _ =>
      if directories.contains name then some .directory
      else match links.lookup name, files.lookup name with
        | some target, _ => some (.link (placeOf target))
        | none, some content => some (.file (Text.of content))
        | none, none => none

/-- The names in a directory. -/
def names (place : Place) : List Text :=
  let all := directories ++ links.map Prod.fst ++ files.map Prod.fst ++
    programs.map ("usr/bin/" ++ ·) ++ devices.map ("dev/" ++ ·)
  (all.filterMap fun path =>
    let names := placeOf path
    if names.dropLast = place then names.getLast? else none)

def tree : FileTree := ⟨node?, names, []⟩

/-- The directory in which programs start. -/
def workingDirectory : Place := [Text.of "work"]

/-- The directories that are searched for programs. -/
def searchPath : Text :=
  Text.of "/usr/local/sbin:/usr/local/bin:/usr/sbin:/usr/bin:/sbin:/bin"

/-- The variables that every program gets. -/
def environment : List (Text × Text) :=
  [(Text.of "PATH", searchPath), (Text.of "HOME", Text.of "/root"),
    (Text.of "LANG", Text.of "C.UTF-8")]

/-- A run is taken to be endless after so many steps. -/
def patience : Nat := 300000

/-- The number of the first process. -/
def firstProcess : Nat := 4242

/-- A machine on which nothing has been done. -/
def machine : Machine := ⟨tree, #[], #[], 0, patience, firstProcess⟩

end Promptline.Standing
