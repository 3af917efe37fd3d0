import DeskCalculator.Token.Scan
import Mathlib.Tactic.Use

/-!
# Bytes of a text

Offsets into a text count its bytes.  Characters have the number of bytes that their text
has (`byteLength_toList`), and a text whose bytes begin with those of another text begins
with its characters (`exists_eq_append_of_extract`), since no encoding of a character is the
beginning of another one.  The byte of a line feed occurs in the encoding of no other character
(`eq_lineFeed_of_mem_utf8EncodeChar`).
-/

namespace DeskCalculator.Token

@[simp]
theorem byteLength_nil :
  byteLength [] = 0
  := rfl

@[simp]
theorem byteLength_cons (c : Char) (text : List Char) :
  byteLength (c :: text) = c.utf8Size + byteLength text
  := rfl

@[simp]
theorem byteLength_append (before after : List Char) :
  byteLength (before ++ after) = byteLength before + byteLength after
  := by
  induction before with
  | nil => simp
  | cons c rest ih => rw [List.cons_append, byteLength_cons, byteLength_cons, ih, Nat.add_assoc]

/-- The characters of a text have as many bytes as the text. -/
@[simp]
theorem byteLength_toList (text : String) :
  byteLength text.toList = text.utf8ByteSize
  := by
  have hlength : ∀ chars : List Char, byteLength chars = (String.ofList chars).utf8ByteSize := by
    intro chars
    induction chars with
    | nil => rfl
    | cons c rest ih =>
      rw [byteLength_cons, ih, ← List.singleton_append, String.ofList_append,
        String.utf8ByteSize_append, ← String.singleton_eq_ofList, String.utf8ByteSize_singleton]
  rw [hlength, String.ofList_toList]

end DeskCalculator.Token

namespace DeskCalculator.Text

/-- The first bytes of a text that begins with `start` are those of `start`. -/
theorem extract_toByteArray_append (start after : String) :
  (start ++ after).toByteArray.extract 0 start.utf8ByteSize = start.toByteArray
  := by
  rw [String.toByteArray_append]
  apply ByteArray.extract_append_eq_left String.size_toByteArray.symm

/-- A text whose first bytes are those of `start` begins with `start`. -/
theorem exists_eq_append_of_extract {text start : String}
    (h : text.toByteArray.extract 0 start.utf8ByteSize = start.toByteArray) :
  ∃ after, text = start ++ after
  := by
  have hbytes : start.toByteArray
      ++ text.toByteArray.extract start.utf8ByteSize text.toByteArray.size = text.toByteArray := by
    rw [← h, ByteArray.extract_append_extract, Nat.min_eq_left (Nat.zero_le _),
      ByteArray.extract_zero_max_size]
  rw [← String.utf8Encode_toList, ← @String.utf8Encode_toList text] at hbytes
  obtain ⟨after, hafter⟩ := List.isPrefix_of_utf8Encode_append_eq_utf8Encode _ hbytes
  use String.ofList after
  rw [← String.ofList_toList (s := text), ← hafter, String.ofList_append, String.ofList_toList]

/-- The bytes that encode a text. -/
def bytes (text : String) : List UInt8 :=
  text.toByteArray.data.toList

/-- The bytes that encode a text are decoded to it. -/
theorem fromUTF8?_bytes (text : String) :
  String.fromUTF8? (bytes text).toByteArray = some text
  := by
  have hbytes : (bytes text).toByteArray = text.toByteArray := by
    apply ByteArray.ext
    rw [List.data_toByteArray, bytes, Array.toArray_toList]
  rw [hbytes, String.fromUTF8?, dif_pos text.isValidUTF8]
  rfl

theorem bytes_ofList (chars : List Char) :
  bytes (String.ofList chars) = chars.flatMap String.utf8EncodeChar
  := by
  rw [bytes, String.toByteArray_ofList, List.utf8Encode, List.data_toByteArray]

/-- Bytes that are decoded to a text are those that encode it. -/
theorem bytes_of_fromUTF8? {content : List UInt8} {text : String}
    (h : String.fromUTF8? content.toByteArray = some text) :
  bytes text = content
  := by
  rw [String.fromUTF8?] at h
  split at h
  · cases h
    rw [bytes, String.fromUTF8, List.data_toByteArray]
  · cases h

/-- The byte of a line feed encodes no other character, and is part of no encoding. -/
theorem eq_lineFeed_of_mem_utf8EncodeChar {c : Char} (h : 10 ∈ String.utf8EncodeChar c) :
  c = '\n'
  := by
  obtain ⟨i, hi, hbyte⟩ := List.getElem_of_mem h
  have hfirst : UInt8.IsUTF8FirstByte (String.utf8EncodeChar c)[i] := by
    rw [hbyte]
    decide
  obtain rfl := UInt8.isUTF8FirstByte_getElem_utf8EncodeChar.mp hfirst
  obtain ⟨first, rest, hcons⟩ := List.exists_cons_of_ne_nil (@String.utf8EncodeChar_ne_nil c)
  simp only [hcons, List.getElem_cons_zero] at hbyte
  subst hbyte
  have hbytes : ['\n'].utf8Encode ++ rest.toByteArray = [c].utf8Encode := by
    rw [List.utf8Encode_singleton, List.utf8Encode_singleton, hcons, ← List.toByteArray_append]
    rfl
  obtain ⟨others, hothers⟩ := List.isPrefix_of_utf8Encode_append_eq_utf8Encode _ hbytes
  exact (List.cons.inj hothers).1.symm

end DeskCalculator.Text
