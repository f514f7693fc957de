/-
This file defines TOML values and the rules by which keys and headers build up tables.
-/

import Promptline.Text.Basic

namespace Promptline

/-- How a table came to be decides what may be added to it. -/
inductive Toml.TableOrigin where
  /-- A header below it implies the table. -/
  | implied
  | dotted
  | header
  | inline
  deriving DecidableEq, Repr

/-- A document is a table. An integer has no value if its digits make up none, and a float keeps
only whether a double can hold it. -/
inductive Toml where
  | string (value : Text)
  | integer (value? : Option Int)
  | float (representable : Bool)
  | bool (value : Bool)
  | moment
  | array (items : List Toml)
  /-- Each header in double brackets adds a table. -/
  | tables (last : List (Text × Toml)) (earlier : List Toml)
  | table (origin : Toml.TableOrigin) (entries : List (Text × Toml))

namespace Toml

abbrev Entries := List (Text × Toml)

namespace Entries

def find? (entries : Entries) (key : Text) : Option Toml :=
  (List.find? (fun entry => entry.1 = key) entries).map Prod.snd

/-- The value of a key that is there already is exchanged. -/
def put (entries : Entries) (key : Text) (value : Toml) : Entries :=
  match entries with
  | [] => [(key, value)]
  | entry :: rest => if entry.1 = key then (key, value) :: rest else entry :: put rest key value

/-- The change is made in the table behind a dotted key, which dotted keys must have made. -/
def alongDots (key : Text) (change : Entries → Option Entries) (last : Bool) (entries : Entries) :
    Option Entries :=
  match entries.find? key with
  | none => do return entries.put key (.table .dotted (← change []))
  | some (.table .dotted inner) => do return entries.put key (.table .dotted (← change inner))
  | some (.table .implied inner) =>
      if last then none else do return entries.put key (.table .implied (← change inner))
  | some (.tables inner earlier) =>
      if last then none else do return entries.put key (.tables (← change inner) earlier)
  | some _ => none

/-- No key is defined twice. -/
def insert? (value : Toml) : List Text → Entries → Option Entries
  | [], _ => none
  | [key], entries =>
      match entries.find? key with
      | none => some (entries ++ [(key, value)])
      | some _ => none
  | key :: path, entries => alongDots key (insert? value path) (path.length = 1) entries

/-- The change is made in the table behind a key of a header. -/
def alongHeader (key : Text) (change : Entries → Option Entries) (entries : Entries) :
    Option Entries :=
  match entries.find? key with
  | none => do return entries.put key (.table .implied (← change []))
  | some (.table .inline _) => none
  | some (.table origin inner) => do return entries.put key (.table origin (← change inner))
  | some (.tables inner earlier) => do return entries.put key (.tables (← change inner) earlier)
  | some _ => none

/-- The change is made in the table that a header names. -/
def within? (change : Entries → Option Entries) : List Text → Entries → Option Entries
  | [], entries => change entries
  | key :: path, entries => alongHeader key (within? change path) entries

/-- A header defines a table that is new or at most implied. -/
def define? : List Text → Entries → Option Entries
  | [], _ => none
  | [key], entries =>
      match entries.find? key with
      | none => some (entries.put key (.table .header []))
      | some (.table .implied inner) => some (entries.put key (.table .header inner))
      | some _ => none
  | key :: path, entries => alongHeader key (define? path) entries

/-- A header in double brackets adds an empty table at the end. -/
def append? : List Text → Entries → Option Entries
  | [], _ => none
  | [key], entries =>
      match entries.find? key with
      | none => some (entries.put key (.tables [] []))
      | some (.tables last earlier) =>
          some (entries.put key (.tables [] (earlier ++ [.table .header last])))
      | some _ => none
  | key :: path, entries => alongHeader key (append? path) entries

end Entries

/-- The items of an array of either kind. -/
def items? : Toml → Option (List Toml)
  | array items => some items
  | tables last earlier => some (earlier ++ [.table .header last])
  | _ => none

end Toml

end Promptline
