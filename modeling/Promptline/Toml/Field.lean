/-
This file reads the fields of records out of TOML values. A record is a table with the fields by
name, or an array with the fields by place.
-/

import Promptline.Toml.Table

namespace Promptline.Toml

/-- Integers of this size fit into 128 bits with or without a sign. -/
def isStorable (n : Int) : Bool := -(Nat.pow 2 127 : Int) ≤ n && n < (Nat.pow 2 128 : Int)

mutual

/-- Every number within the value makes sense and can be stored. -/
def isSound : Toml → Bool
  | integer value? => value?.any isStorable
  | float representable => representable
  | array items => areSound items
  | tables last earlier => areSound earlier && entriesAreSound last
  | table _ entries => entriesAreSound entries
  | string _ | bool _ | moment => true

def areSound : List Toml → Bool
  | [] => true
  | item :: rest => item.isSound && areSound rest

def entriesAreSound : List (Text × Toml) → Bool
  | [] => true
  | (_, value) :: rest => value.isSound && entriesAreSound rest

end

/-- The fields that a record gives. A table may have other sound entries, an array may be longer
than the record, and a date or time has no fields. -/
def fields? (names : List Text) : Toml → Option Entries
  | table _ entries =>
      if entriesAreSound (entries.filter fun entry => !names.contains entry.1) then some entries
      else none
  | moment => some []
  | value => value.items?.map names.zip

/-- A field that is missing has its standard value. -/
def Entries.read? {A : Type} (entries : Entries) (name : Text) (read? : Toml → Option A)
    (standard : A) : Option A :=
  match entries.find? name with
  | none => some standard
  | some value => read? value

def string? : Toml → Option Text
  | string value => some value
  | _ => none

def bool? : Toml → Option Bool
  | bool value => some value
  | _ => none

/-- A whole number below the bound. -/
def below? (bound : Nat) : Toml → Option Nat
  | integer (some value) => if 0 ≤ value ∧ value < bound then some value.toNat else none
  | _ => none

def strings? (value : Toml) : Option (List Text) := do (← value.items?).mapM string?

def isEmptyContainer : Toml → Bool
  | array [] | table _ [] => true
  | _ => false

/-- A choice is the name of an alternative, on its own or as the key of an empty container. -/
def choice? : Toml → Option Text
  | string name => some name
  | table _ [(name, inner)] => if inner.isEmptyContainer then some name else none
  | _ => none

end Promptline.Toml
