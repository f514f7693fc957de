/-
This file defines the programs that write bytes in other forms.
-/

import Promptline.Program.Integer
import Promptline.Program.Tool.Options

namespace Promptline.Tool

/-- A form with a number of bits for each letter, where letters come in groups. -/
structure Encoding where
  alphabet : Text
  bits : Nat
  groupBytes : Nat
  groupLetters : Nat

namespace Encoding

def base64 : Encoding :=
  ⟨"ABCDEFGHIJKLMNOPQRSTUVWXYZabcdefghijklmnopqrstuvwxyz0123456789+/".toList, 6, 3, 4⟩

def base32 : Encoding := ⟨"ABCDEFGHIJKLMNOPQRSTUVWXYZ234567".toList, 5, 5, 8⟩

/-- The groups of a list with a number of members each. -/
def groups {A : Type} (size : Nat) : Nat → List A → List (List A)
  | 0, _ => []
  | _ + 1, [] => []
  | fuel + 1, members => members.take size :: groups size fuel (members.drop size)

/-- The letters for a group of bytes, with padding for those that are missing. -/
def encodeGroup (encoding : Encoding) (bytes : Text) : Text :=
  let value := bytes.foldl (fun value c => value * 256 + c.toNat) 0 *
    Nat.pow 256 (encoding.groupBytes - bytes.length)
  let count := (bytes.length * 8 + encoding.bits - 1) / encoding.bits
  (List.range encoding.groupLetters).map fun index =>
    if index < count then
      encoding.alphabet.getD
        (value / Nat.pow 2 (encoding.bits * (encoding.groupLetters - 1 - index)) %
          Nat.pow 2 encoding.bits) '='
    else '='

def encode (encoding : Encoding) (bytes : Text) : Text :=
  (groups encoding.groupBytes bytes.length bytes).flatMap encoding.encodeGroup

/-- The bytes for a group of letters, unless it is faulty. -/
def decodeGroup? (encoding : Encoding) (letters : Text) : Option Text := do
  let padding := (letters.reverse.takeWhile (· = '=')).length
  let plain := letters.take (letters.length - padding)
  let digits ← plain.mapM encoding.alphabet.idxOf?
  if letters.length ≠ encoding.groupLetters then none
  let count := plain.length * encoding.bits / 8
  if plain.length ≠ (count * 8 + encoding.bits - 1) / encoding.bits ∨ count = 0 then none
  let value := digits.foldl (fun value digit => value * Nat.pow 2 encoding.bits + digit) 0 *
    Nat.pow 2 (encoding.bits * padding)
  return (List.range count).map fun index =>
    Text.ofByte (value / Nat.pow 256 (encoding.groupBytes - 1 - index)).toUInt8

/-- The bytes for the sound letters at the start of a faulty group. -/
def decodeStart (encoding : Encoding) (letters : Text) : Text :=
  let digits := (letters.takeWhile encoding.alphabet.contains).filterMap encoding.alphabet.idxOf?
  let value := digits.foldl (fun value digit => value * Nat.pow 2 encoding.bits + digit) 0 *
    Nat.pow 2 (encoding.bits * (encoding.groupLetters - digits.length))
  (List.range (digits.length * encoding.bits / 8)).map fun index =>
    Text.ofByte (value / Nat.pow 256 (encoding.groupBytes - 1 - index)).toUInt8

/-- The bytes up to the first fault, and whether there is none. -/
def decodeGroups (encoding : Encoding) : List Text → Text × Bool
  | [] => ([], true)
  | letters :: rest =>
      match encoding.decodeGroup? letters with
      | some bytes =>
          let (others, sound) := encoding.decodeGroups rest
          (bytes ++ others, sound)
      | none => (encoding.decodeStart letters, false)

def decode (encoding : Encoding) (letters : Text) : Text × Bool :=
  encoding.decodeGroups (groups encoding.groupLetters letters.length letters)

end Encoding

/-- A file is written with the letters of an encoding, or read from them. -/
def encoded (encoding : Encoding) (program : String) : Tool :=
  withOptions program
    ⟨['d', 'i'], ['w'], [("decode", 'd'), ("ignore-garbage", 'i'), ("wrap", 'w')]⟩ 1
    fun given => do
      match given.operands with
      | _ :: extra :: _ => return ← extraOperand program extra 1
      | _ => pure ()
      let (found, complete) ← contents program given.operands
      let text := found.flatMap Prod.snd
      match size? ((given.value? 'w').getD (Text.of "76")) with
      | none => return 1
      | some width => do
          if !complete then return 1
          if given.has 'd' then
            let letters := text.filter fun c =>
              if given.has 'i' then encoding.alphabet.contains c || c = '=' else c ≠ '\n'
            let (bytes, sound) := encoding.decode letters
            let status ← Work.put bytes
            if !sound then return ← fail program (Text.of "invalid input") 1
            return status
          let letters := encoding.encode text
          if width = 0 then Work.put letters
          else Work.put ((Encoding.groups width letters.length letters).flatMap fun line =>
            line ++ ['\n'])

/-- How the numbers of a dump are written. -/
structure DumpFormat where
  letter : Char
  size : Nat
  deriving DecidableEq, Repr

namespace DumpFormat

/-- The width of a number, without the blank in front of it. -/
def width (format : DumpFormat) : Nat :=
  match format.letter with
  | 'o' => (format.size * 8 + 2) / 3
  | 'x' => format.size * 2
  | 'u' => (Nat.toDigits 10 (Nat.pow 256 format.size - 1)).length
  | 'd' => (Nat.toDigits 10 (Nat.pow 256 format.size / 2)).length + 1
  | _ => 3

/-- The letters of a type, each with a size if one is given. -/
def ofType? : Nat → Text → Option (List DumpFormat)
  | 0, _ => none
  | _ + 1, [] => some []
  | fuel + 1, letter :: rest =>
      if letter = 'a' ∨ letter = 'c' then (ofType? fuel rest).map (⟨letter, 1⟩ :: ·)
      else if ['d', 'o', 'u', 'x'].contains letter then
        let (digits, behind) := Integer.digits 10 rest
        let (size, behind) : Nat × Text :=
          match digits, rest with
          | [], 'C' :: rest => (1, rest)
          | [], 'S' :: rest => (2, rest)
          | [], 'I' :: rest => (4, rest)
          | [], 'L' :: rest => (8, rest)
          | [], rest => (4, rest)
          | digits, _ => (Integer.natural 10 digits, behind)
        if [1, 2, 4, 8].contains size then (ofType? fuel behind).map (⟨letter, size⟩ :: ·)
        else none
      else none

/-- The names of the control characters and of the blank. -/
def controlNames : List String :=
  ["nul", "soh", "stx", "etx", "eot", "enq", "ack", "bel", "bs", "ht", "nl", "vt", "ff", "cr", "so",
    "si", "dle", "dc1", "dc2", "dc3", "dc4", "nak", "syn", "etb", "can", "em", "sub", "esc", "fs",
    "gs", "rs", "us", "sp"]

def padZeros (width : Nat) (digits : Text) : Text :=
  List.replicate (width - digits.length) '0' ++ digits

/-- A character or the escape for it. -/
def charText (c : Char) : Text :=
  match c with
  | '\x00' => ['\\', '0']
  | '\x07' => ['\\', 'a']
  | '\x08' => ['\\', 'b']
  | '\x0c' => ['\\', 'f']
  | '\n' => ['\\', 'n']
  | '\r' => ['\\', 'r']
  | '\t' => ['\\', 't']
  | '\x0b' => ['\\', 'v']
  | c => if ' ' ≤ c ∧ c ≤ '~' then [c] else padZeros 3 (Nat.toDigits 8 c.toNat)

/-- A number of bytes, where the lowest byte comes first. Missing bytes are zero. -/
def number (format : DumpFormat) (bytes : Text) : Text :=
  let value := bytes.foldr (fun c value => value * 256 + c.toNat) 0
  match format.letter with
  | 'o' => padZeros format.width (Nat.toDigits 8 value)
  | 'x' => padZeros format.width (Nat.toDigits 16 value)
  | 'u' => Text.ofNat value
  | 'd' =>
      let bound := Nat.pow 256 format.size
      Integer.text (if 2 * value < bound then value else value - bound)
  | 'a' =>
      let code := value % 128
      if code = 127 then Text.of "del"
      else ((controlNames[code]?).map Text.of).getD [Char.ofNat code]
  | _ => (bytes.map charText).flatten

end DumpFormat

/-- The numbers of a line, which take the same room for all formats. -/
def dumpLine (room perLine : Nat) (format : DumpFormat) (bytes : Text) : Text :=
  let fields := perLine / format.size
  let pad := room - fields * (format.width + 1)
  let pieces := Encoding.groups format.size bytes.length bytes
  pieces.zipIdx.flatMap fun (piece, index) =>
    let left := fields - index
    let extra := pad * left / fields - pad * (left - 1) / fields
    Text.padLeft (format.width + 1 + extra) (format.number piece)

/-- The address of a line. -/
def dumpAddress (radix : Char) (address : Nat) : Text :=
  match radix with
  | 'd' => DumpFormat.padZeros 7 (Nat.toDigits 10 address)
  | 'x' => DumpFormat.padZeros 6 (Nat.toDigits 16 address)
  | 'n' => []
  | _ => DumpFormat.padZeros 7 (Nat.toDigits 8 address)

/-- The lines of a dump. Lines that are the same as the one before are left out. -/
def dumpLines (given : Given) (formats : List DumpFormat) (radix : Char) (perLine start : Nat)
    (bytes : Text) : Text :=
  let room := (formats.map fun format => perLine / format.size * (format.width + 1)).foldl max 0
  let lines := Encoding.groups perLine bytes.length bytes
  let indent (address : Text) : Text := List.replicate address.length ' '
  let shown := lines.zipIdx.flatMap fun (line, index) =>
    let isSame (other : Nat) : Bool :=
      !given.has 'v' && line.length = perLine && lines[other]? = some line
    if 0 < index ∧ isSame (index - 1) then
      (if 1 < index ∧ isSame (index - 2) ∧ lines[index - 2]? = lines[index - 1]? then []
        else ['*', '\n'])
    else
      let address := dumpAddress radix (start + index * perLine)
      (formats.zipIdx.flatMap fun (format, row) =>
        (if row = 0 then address else indent address) ++ dumpLine room perLine format line ++
          ['\n'])
  shown ++ (if radix = 'n' then [] else dumpAddress radix (start + bytes.length) ++ ['\n'])

/-- The formats of the letters that stand for one. -/
def dumpFormats? (given : Given) : Option (List DumpFormat) := do
  let found ← (given.options.reverse.reverse.filterMap fun (letter, value) =>
    match letter with
    | 't' => some (DumpFormat.ofType? (value.length + 1) value)
    | 'a' => some (some [⟨'a', 1⟩])
    | 'b' => some (some [⟨'o', 1⟩])
    | 'c' => some (some [⟨'c', 1⟩])
    | 'd' => some (some [⟨'u', 2⟩])
    | 'i' => some (some [⟨'d', 4⟩])
    | 'l' => some (some [⟨'d', 8⟩])
    | 'o' => some (some [⟨'o', 2⟩])
    | 's' => some (some [⟨'d', 2⟩])
    | 'x' => some (some [⟨'x', 2⟩])
    | _ => none).mapM (·)
  return if found.flatten = [] then [⟨'o', 2⟩] else found.flatten

/-- The bytes of files as numbers. -/
def od : Tool :=
  withOptions "od" ⟨"abcdilosxv".toList, "AtNjw".toList,
    [("address-radix", 'A'), ("format", 't'), ("read-bytes", 'N'), ("skip-bytes", 'j'),
      ("output-duplicates", 'v'), ("width", 'w')]⟩ 1 fun given => do
      let size (letter : Char) : Option Nat := (given.value? letter).bind size?
      let radix := ((given.value? 'A').getD ['o']).headD 'o'
      match dumpFormats? given with
      | none => return 1
      | some formats => do
          if !(['d', 'o', 'x', 'n'].contains radix) then return 1
          let (found, complete) ← sources "od" given.operands
          let limit? := size 'N'
          if limit?.isNone ∧ found.any fun (_, source) => source.endless then throw .never
          let skipped := (size 'j').getD 0
          let all := found.flatMap fun (_, source) => source.text
          let behind := all.drop skipped
          let bytes := match limit? with
            | some limit => behind.take limit
            | none => behind
          let status ← Work.put
            (dumpLines given formats radix ((size 'w').getD 16) skipped bytes)
          return max status (codeOf complete)

end Promptline.Tool
