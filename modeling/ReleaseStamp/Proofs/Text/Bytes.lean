import Mathlib.Data.List.Basic
import ReleaseStamp.Proofs.Path

/-!
# Texts as paths

The bytes of a text in UTF-8. A character of ASCII is one byte, and that byte is in no other
character.
-/
namespace ReleaseStamp

namespace Text

/-- The bytes of a text, and no others, are read as the text. -/
theorem fromUTF8?_iff {bytes : ByteArray} {text : String} :
    String.fromUTF8? bytes = some text ↔ bytes = text.toUTF8 := by
  rw [String.toUTF8_eq_toByteArray]
  constructor
  · intro h
    unfold String.fromUTF8? at h
    split at h
    · cases h
      rfl
    · cases h
  · rintro rfl
    exact dif_pos text.isValidUTF8

theorem mem_utf8EncodeChar {byte : UInt8} (hbyte : byte.toNat < 0x80) (c : Char) :
    byte ∈ String.utf8EncodeChar c ↔ c.toNat = byte.toNat := by
  have hvalue : c.toNat = c.val.toNat := rfl
  rw [hvalue]
  unfold String.utf8EncodeChar
  generalize c.val.toNat = v
  simp only []
  split_ifs
  all_goals
    simp only [List.mem_cons, List.not_mem_nil, or_false, ← UInt8.toNat_inj, UInt8.toNat_ofNat']
    omega

end Text

namespace Path

variable {text : String}

theorem bytes_ofString (text : String) :
    (ofString text).bytes = text.toList.flatMap String.utf8EncodeChar := by
  have hencode : text.toUTF8 = (text.toList.flatMap String.utf8EncodeChar).toByteArray :=
    String.utf8Encode_toList.symm
  rw [ofString, hencode, List.toList_data_toByteArray]

/-- A character of ASCII is in a text exactly if its byte is. -/
theorem mem_bytes_ofString {byte : UInt8} {c : Char} (hbyte : byte.toNat < 0x80)
    (hc : c.toNat = byte.toNat) : byte ∈ (ofString text).bytes ↔ c ∈ text.toList := by
  simp only [bytes_ofString, List.mem_flatMap, Text.mem_utf8EncodeChar hbyte, ← hc, Char.toNat_inj,
    exists_eq_right]

/-- A text that begins with a point has a point for its first byte. -/
theorem head?_bytes_ofString (h : text.toList.head? = some '.') :
    (ofString text).bytes.head? = some point := by
  obtain ⟨rest, htext⟩ := List.head?_eq_some_iff.mp h
  rw [bytes_ofString, htext]
  rfl

theorem text?_eq_some {path : Path} : path.text? = some text ↔ path = text := by
  rw [text?, Text.fromUTF8?_iff]
  constructor
  · intro hbytes
    rw [Path.ext_iff, ofString, ← hbytes]
  · rintro rfl
    rfl

theorem isName_ofString (hne : text ≠ "") (hslash : '/' ∉ text.toList) (hpoint : text ≠ ".")
    (hpoints : text ≠ "..") : IsName text := by
  have hbyte : slash ∉ (ofString text).bytes := by
    rwa [mem_bytes_ofString (c := '/') (by decide) (by decide)]
  simp only [IsName, Ne, ofString_inj]
  exact ⟨hne, hbyte, hpoint, hpoints⟩

end Path

end ReleaseStamp
