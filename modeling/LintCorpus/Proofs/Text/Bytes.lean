import Mathlib.Tactic.SplitIfs
import LintCorpus.Text.Basic

/-!
The bytes of a text tell the text, and a byte below 128 stands only for the ASCII character it is.
-/

namespace LintCorpus.Text

theorem bytesOf_inj {first second : List Char} :
    bytesOf first = bytesOf second ↔ first = second := by
  rw [← String.ofList_inj, ← String.toByteArray_inj, String.toByteArray_ofList,
    String.toByteArray_ofList]
  simp [List.utf8Encode, bytesOf]

/-- The bytes of a string as the list of them. -/
theorem toByteArray_eq (text : String) : text.toByteArray = ⟨(bytesOf text.toList).toArray⟩ := by
  have hencode : text.toByteArray = text.toList.utf8Encode := by
    rw [← String.toByteArray_ofList, String.ofList_toList]
  apply ByteArray.ext
  rw [hencode, List.utf8Encode, List.data_toByteArray]
  rfl

/-- The bytes of a longer character carry marks of their own, so a byte without one is a character
by itself. -/
theorem toNat_eq_of_mem_utf8EncodeChar {c : Char} {byte : UInt8}
    (hbyte : byte ∈ String.utf8EncodeChar c) (hascii : byte.toNat < 128) :
    c.toNat = byte.toNat := by
  change c.val.toNat = byte.toNat
  unfold String.utf8EncodeChar at hbyte
  simp only at hbyte
  split_ifs at hbyte <;>
    simp only [List.mem_cons, List.not_mem_nil, or_false, ← UInt8.toNat_inj,
      UInt8.toNat_ofNat'] at hbyte <;>
    omega

/-- A text without an ASCII character has no byte that is this character. -/
theorem not_mem_bytesOf {mark : Char} {cs : List Char} (hascii : mark.toNat < 128)
    (hcs : mark ∉ cs) : mark.toNat.toUInt8 ∉ bytesOf cs := by
  intro hbyte
  obtain ⟨c, hc, hbyte⟩ := List.mem_flatMap.mp hbyte
  have hvalue : mark.toNat.toUInt8.toNat = mark.toNat := by
    rw [Nat.toUInt8_eq, UInt8.toNat_ofNat']
    omega
  have hsame : c.toNat = mark.toNat.toUInt8.toNat :=
    toNat_eq_of_mem_utf8EncodeChar hbyte (by omega)
  exact hcs (Char.toNat_inj.mp (hsame.trans hvalue) ▸ hc)

theorem zero_not_mem_bytesOf {cs : List Char} (hcs : Char.ofNat 0 ∉ cs) : 0 ∉ bytesOf cs :=
  not_mem_bytesOf (by decide) hcs

theorem feed_not_mem_bytesOf {cs : List Char} (hcs : '\n' ∉ cs) : 10 ∉ bytesOf cs :=
  not_mem_bytesOf (by decide) hcs

theorem bytesOf_append (front rest : List Char) :
    bytesOf (front ++ rest) = bytesOf front ++ bytesOf rest :=
  List.flatMap_append

/-- A character has a byte at least. -/
theorem length_le_length_bytesOf (cs : List Char) : cs.length ≤ (bytesOf cs).length := by
  induction cs with
  | nil => exact Nat.le_refl 0
  | cons c cs ih =>
      have hpos := c.utf8Size_pos
      rw [bytesOf] at ih ⊢
      rw [List.flatMap_cons, List.length_append, String.length_utf8EncodeChar, List.length_cons]
      omega

end LintCorpus.Text
