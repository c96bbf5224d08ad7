import Mathlib.Data.List.Basic
import Polybuild.Text.Octets

/-!
# Texts and their octets

The octets of a text are those of its characters, one after the other. A character of ASCII is its
own octet, and all octets of any other character lie behind those of ASCII (`charOctets_of_ascii`,
`le_of_mem_charOctets`).
-/

namespace Polybuild

namespace Text

variable {c : Char} {cs : List Char} {s t : String}

/-! ## Bytes -/

theorem toList_eq_data (bytes : ByteArray) : bytes.toList = bytes.data.toList := by
  have hloop : ∀ i acc,
      ByteArray.toList.loop bytes i acc = acc.reverse ++ bytes.data.toList.drop i := by
    intro i acc
    fun_induction ByteArray.toList.loop bytes i acc with
    | case1 i acc hlt ih =>
        have hi : i < bytes.data.toList.length := by simpa using hlt
        rw [ih, List.drop_eq_getElem_cons hi]
        simp [ByteArray.get!, getElem!_pos bytes.data i hlt]
    | case2 i acc hend =>
        rw [List.drop_eq_nil_of_le (by simpa using hend)]
        simp
  rw [ByteArray.toList, hloop, List.reverse_nil, List.drop_zero, List.nil_append]

theorem toList_toUTF8 (s : String) : s.toUTF8.toList = s.toList.flatMap String.utf8EncodeChar := by
  rw [toList_eq_data, String.toUTF8_eq_toByteArray, ← String.utf8Encode_toList, List.utf8Encode,
    List.data_toByteArray]

theorem toNat_octet (b : UInt8) : (Char.ofNat b.toNat).toNat = b.toNat := by
  have hvalid : b.toNat.isValidChar := Or.inl (by have := b.toNat_lt; omega)
  rw [Char.ofNat, dif_pos hvalid]
  rfl

/-- The byte of an octet. -/
theorem ofNat_toNat_octet (b : UInt8) : UInt8.ofNat (Char.ofNat b.toNat).toNat = b := by
  rw [toNat_octet, UInt8.ofNat_toNat]

/-! ## Octets -/

theorem octets_eq_flatMap (s : String) : octets s = s.toList.flatMap charOctets := by
  rw [octets, toList_toUTF8, octetsOf, List.map_flatMap]
  rfl

theorem octets_append (s t : String) : octets (s ++ t) = octets s ++ octets t := by
  simp [octets_eq_flatMap]

theorem octets_ofList (cs : List Char) : octets (String.ofList cs) = cs.flatMap charOctets := by
  simp [octets_eq_flatMap]

theorem utf8EncodeChar_of_ascii (h : c.toNat < 128) :
    String.utf8EncodeChar c = [UInt8.ofNat c.toNat] := by
  have hval : c.val.toNat ≤ 127 := Nat.le_of_lt_succ h
  rw [String.utf8EncodeChar.eq_1, if_pos hval]
  rfl

theorem charOctets_of_ascii (h : c.toNat < 128) : charOctets c = [c] := by
  have hbyte : (UInt8.ofNat c.toNat).toNat = c.toNat := by
    rw [UInt8.toNat_ofNat']
    omega
  rw [charOctets, utf8EncodeChar_of_ascii h, octetsOf, List.map_singleton, hbyte,
    Char.ofNat_toNat]

/-- The octets of a character behind ASCII lie there, too. -/
theorem le_of_mem_charOctets (h : 128 ≤ c.toNat) : ∀ o ∈ charOctets c, 128 ≤ o.toNat := by
  have hbytes : ∀ b ∈ String.utf8EncodeChar c, 128 ≤ b.toNat := by
    have hval : ¬c.val.toNat ≤ 127 := Nat.not_le.2 h
    rw [String.utf8EncodeChar.eq_1, if_neg hval]
    intro b hb
    split at hb
    · simp only [List.mem_cons, List.not_mem_nil, or_false] at hb
      rcases hb with rfl | rfl <;> simp <;> omega
    · split at hb
      · simp only [List.mem_cons, List.not_mem_nil, or_false] at hb
        rcases hb with rfl | rfl | rfl <;> simp <;> omega
      · simp only [List.mem_cons, List.not_mem_nil, or_false] at hb
        rcases hb with rfl | rfl | rfl | rfl <;> simp <;> omega
  intro o ho
  obtain ⟨b, hb, rfl⟩ := List.mem_map.1 ho
  rw [toNat_octet]
  exact hbytes b hb

theorem flatMap_charOctets_of_ascii (h : cs.all (fun c => c.toNat < 128) = true) :
    cs.flatMap charOctets = cs := by
  have hascii : ∀ c ∈ cs, c.toNat < 128 := by simpa using h
  calc cs.flatMap charOctets = cs.flatMap fun c => [c] :=
        List.flatMap_congr fun c hc => charOctets_of_ascii (hascii c hc)
    _ = cs := List.flatMap_singleton' _

/-- A text of ASCII is its own octets. -/
theorem octets_of_ascii (h : s.toList.all (fun c => c.toNat < 128) = true) :
    octets s = s.toList := by
  rw [octets_eq_flatMap, flatMap_charOctets_of_ascii h]

theorem fromUTF8?_toUTF8 (s : String) : String.fromUTF8? s.toUTF8 = some s := by
  rw [String.fromUTF8?, String.toUTF8, dif_pos s.isValidUTF8]
  rfl

end Text

end Polybuild
