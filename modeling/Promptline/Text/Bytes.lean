/-
This file defines the bytewise form of a text, which has one character for each byte of the UTF-8
form. Programs work on it, because they may cut a text between any two bytes.
-/

import Promptline.Text.Basic

namespace Promptline.Text

/-- The bytes of the text in UTF-8. -/
def utf8 (text : Text) : List UInt8 := text.flatMap String.utf8EncodeChar

/-- The text that the bytes are the UTF-8 form of. -/
def ofUtf8? (bytes : List UInt8) : Option Text :=
  (String.fromUTF8? ⟨bytes.toArray⟩).map String.toList

/-- The UTF-8 form of a text is read back. -/
theorem ofUtf8?_utf8 (text : Text) : ofUtf8? text.utf8 = some text := by
  have same : (⟨text.utf8.toArray⟩ : ByteArray) = text.utf8Encode :=
    ByteArray.ext List.data_toByteArray.symm
  have valid : text.utf8Encode.IsValidUTF8 := .intro text rfl
  have read : String.fromUTF8? text.utf8Encode = some (String.ofList text) := dif_pos valid
  rw [ofUtf8?, same, read, Option.map_some, String.toList_ofList]

/-- The character that stands for a byte. -/
def ofByte (byte : UInt8) : Char := Char.ofNat byte.toNat

/-- The byte that a character stands for. -/
def toByte (c : Char) : UInt8 := c.toNat.toUInt8

/-- The bytewise form of a text. -/
def bytewise (text : Text) : Text := text.utf8.map ofByte

/-- The bytes that a text in bytewise form stands for. -/
def bytes (text : Text) : List UInt8 := text.map toByte

/-- The text with this bytewise form. -/
def ofBytewise? (text : Text) : Option Text := ofUtf8? text.bytes

/-- The characters of a text in bytewise form, or its bytes if they do not form characters. -/
def characters (text : Text) : Text := (ofBytewise? text).getD text

end Promptline.Text
