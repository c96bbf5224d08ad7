import Mathlib.Data.List.TakeDrop
import Mathlib.Data.List.TakeWhile
import Polybuild.Json.Printer
import Polybuild.Proofs.Json.Chunks
import Polybuild.Proofs.Text.Octets

/-!
# Literals of the strict form

The digits of a natural number are read as this number, and what is printed between the quotes of a
text is read as the text: `units?_written` says what the printed form of one character is read as,
and the units of a text follow one after the other.
-/

namespace Polybuild

namespace Json

namespace Strict

open Text (charOctets octetsOf)

variable {c : Char} {cs rest : List Char} {n : Nat}

/-! ## Numbers -/

theorem decimalDigit?_of_isDigit (h : c.isDigit = true) :
    Text.decimalDigit? c = some (c.toNat - '0'.toNat) := by
  have hrange : '0' ≤ c ∧ c ≤ '9' := by
    simpa [Char.isDigit, Char.le_def, UInt32.le_iff_toNat_le] using h
  rw [Text.decimalDigit?, if_pos hrange]

theorem number?_of_isDigit (h : ∀ c ∈ cs, c.isDigit = true) (n : Nat) :
    cs.foldlM (fun n c => (Text.decimalDigit? c).map fun d => n * 10 + d) n =
      some (Nat.ofDigitChars 10 cs n) := by
  induction cs generalizing n with
  | nil => rfl
  | cons c cs ih =>
      rw [List.forall_mem_cons] at h
      rw [List.foldlM_cons, decimalDigit?_of_isDigit h.1]
      simp only [Option.map_some, Option.bind_eq_bind, Option.bind_some]
      rw [ih h.2, Nat.ofDigitChars_cons]
      simp [Nat.mul_comm]

theorem digits_of_isDigit (h : ∀ c ∈ cs, c.isDigit = true) : digits cs = (cs, []) := by
  have hall : ∀ c ∈ cs, (Text.decimalDigit? c).isSome = true := by
    intro c hc
    rw [decimalDigit?_of_isDigit (h c hc)]
    rfl
  rw [digits, List.span_eq_takeWhile_dropWhile, List.takeWhile_eq_self_iff.2 hall,
    List.dropWhile_eq_nil_iff.2 hall]

theorem isDigit_of_mem_toDigits (n : Nat) : ∀ c ∈ Nat.toDigits 10 n, c.isDigit = true :=
  fun _ hc => Nat.isDigit_of_mem_toDigits (by decide) (by decide) hc

/-- The digits of a number start with a zero for zero only. -/
theorem head?_toDigits (h : 0 < n) : (Nat.toDigits 10 n).head? ≠ some '0' := by
  induction n using Nat.strongRecOn with
  | _ n ih =>
      rw [Nat.toDigits_eq_if (by decide)]
      split
      · have hdigit : ∀ d < 10, 0 < d → d.digitChar ≠ '0' := by decide
        simpa using hdigit n ‹_› h
      · have hless := ih (n / 10) (by omega) (by omega)
        rwa [List.head?_append_of_ne_nil _ Nat.toDigits_ne_nil]

theorem magnitude?_toDigits (n : Nat) :
    magnitude? (Nat.toDigits 10 n) = some (.decimal n none none) := by
  have hdigits := isDigit_of_mem_toDigits n
  have hempty : (Nat.toDigits 10 n).isEmpty = false := by
    simp [Nat.toDigits_ne_nil]
  have hzero :
      ((Nat.toDigits 10 n).length > 1 && (Nat.toDigits 10 n).head? == some '0') = false := by
    rcases Nat.eq_zero_or_pos n with rfl | hpos
    · simp [Nat.toDigits_zero]
    · simp [head?_toDigits hpos]
  have hvalue : Text.decimal? (Nat.toDigits 10 n) = some n := by
    rw [Text.decimal?, hempty, Text.number?, number?_of_isDigit hdigits,
      Nat.ofDigitChars_ten_toDigits]
    rfl
  rw [magnitude?, digits_of_isDigit hdigits]
  simp [hempty, hzero, exponent?, hvalue]

/-- The digits of a natural number say this number. -/
theorem word?_toDigits (n : Nat) : word? (Nat.toDigits 10 n) = some (.nat n) := by
  have hdigits := isDigit_of_mem_toDigits n
  have hno : ∀ c, c.isDigit = false → ∀ rest, Nat.toDigits 10 n ≠ c :: rest := by
    intro c hc rest heq
    simp [hdigits c (by simp [heq])] at hc
  have hnull : Nat.toDigits 10 n ≠ "null".toList := hno 'n' rfl _
  have htrue : Nat.toDigits 10 n ≠ "true".toList := hno 't' rfl _
  have hfalse : Nat.toDigits 10 n ≠ "false".toList := hno 'f' rfl _
  rw [word?, if_neg hnull, if_neg htrue, if_neg hfalse, magnitude?_toDigits]
  · rfl
  · exact fun rest heq => hno '-' rfl rest heq

/-! ## Texts -/

/-- The octets of a character as it stands between quotes. -/
def written (c : Char) : List Char :=
  (escapeChar c).flatMap charOctets

/-- The parts that a character between quotes is read as. -/
def unitsOf (c : Char) : List Unit16 :=
  match escapeChar c with
  | '\\' :: 'u' :: _ => [.unit c.toNat]
  | _ => (String.utf8EncodeChar c).map .byte

/-- The three ways in which a character stands between quotes. -/
inductive Escaped : Char → Prop
  | letter {c letter : Char} (hwritten : written c = ['\\', letter])
      (hunits : unitsOf c = (String.utf8EncodeChar c).map .byte) (hletter : letter ≠ 'u')
      (hcode : escape? letter = some c.toNat) (hc : c.toNat < 128) : Escaped c
  | number {c : Char} (hwritten : written c =
        ['\\', 'u', '0', '0', Text.hexDigit (c.toNat / 16), Text.hexDigit (c.toNat % 16)])
      (hunits : unitsOf c = [.unit c.toNat]) (hc : c.toNat < 0x20) : Escaped c
  | itself {c : Char} (hwritten : written c = charOctets c)
      (hunits : unitsOf c = (String.utf8EncodeChar c).map .byte) (hquote : c ≠ '"')
      (hslash : c ≠ '\\') (hc : 0x20 ≤ c.toNat) : Escaped c

theorem written_of_ascii (h : (escapeChar c).all (fun o => o.toNat < 128) = true) :
    written c = escapeChar c :=
  Text.flatMap_charOctets_of_ascii h

theorem toNat_hexDigit_lt : ∀ n < 16, (Text.hexDigit n).toNat < 128 := by
  decide

theorem escaped (c : Char) : Escaped c := by
  fun_cases escapeChar c with
  | case1 | case2 | case3 | case4 | case5 | case6 | case7 =>
      exact .letter (written_of_ascii rfl) rfl (by decide) rfl (by decide)
  | case8 c hquote hslash hback hfeed hline hreturn htab hcontrol =>
      have hchar : escapeChar c = ['\\', 'u', '0', '0', Text.hexDigit (c.toNat / 16),
          Text.hexDigit (c.toNat % 16)] := by
        rw [escapeChar, if_pos hcontrol] <;> assumption
      refine .number ?_ (by rw [unitsOf, hchar]; rfl) hcontrol
      rw [written_of_ascii, hchar]
      have hhigh := toNat_hexDigit_lt (c.toNat / 16) (by omega)
      have hlow := toNat_hexDigit_lt (c.toNat % 16) (by omega)
      simp [hchar, hhigh, hlow]
  | case9 c hquote hslash hback hfeed hline hreturn htab hplain =>
      have hchar : escapeChar c = [c] := by
        rw [escapeChar, if_neg hplain] <;> assumption
      have hunits : unitsOf c = (String.utf8EncodeChar c).map .byte := by
        rw [unitsOf, hchar]
        split
        · rename_i heq
          exact absurd heq (by simp)
        · rfl
      refine .itself ?_ hunits hquote hslash (Nat.le_of_not_lt hplain)
      rw [written, hchar, List.flatMap_singleton]

/-- The octets of a character that stands for itself lie behind the controls, and are no quotes or
backslashes. -/
theorem charOctets_of_itself {o : Char} (hquote : c ≠ '"') (hslash : c ≠ '\\')
    (hc : 0x20 ≤ c.toNat) (ho : o ∈ charOctets c) : o ≠ '"' ∧ o ≠ '\\' ∧ 0x20 ≤ o.toNat := by
  by_cases hascii : c.toNat < 128
  · rw [Text.charOctets_of_ascii hascii, List.mem_singleton] at ho
    exact ho ▸ ⟨hquote, hslash, hc⟩
  · have hlarge := Text.le_of_mem_charOctets (Nat.not_lt.1 hascii) o ho
    refine ⟨?_, ?_, by omega⟩ <;> rintro rfl <;> revert hlarge <;> decide

theorem quotable_written (c : Char) : Quotable '"' (written c) := by
  have hplain : ∀ cs : List Char, (∀ o ∈ cs, o ≠ '"' ∧ o ≠ '\\') → Quotable '"' cs := by
    intro cs h
    induction cs with
    | nil => exact .nil
    | cons o cs ih =>
        rw [List.forall_mem_cons] at h
        exact .plain h.1.1 h.1.2 (ih h.2)
  cases escaped c with
  | letter hwritten => exact hwritten ▸ .escaped .nil
  | number hwritten hunits hc =>
      have hdigit : ∀ n < 16, Text.hexDigit n ≠ '"' ∧ Text.hexDigit n ≠ '\\' := by decide
      rw [hwritten]
      refine .escaped (hplain _ ?_)
      simp [hdigit (c.toNat / 16) (by omega), hdigit (c.toNat % 16) (by omega)]
  | itself hwritten hunits hquote hslash hc =>
      rw [hwritten]
      exact hplain _ fun o ho => (charOctets_of_itself hquote hslash hc ho).imp_right And.left

/-! ### What is read -/

theorem units?_letter {letter : Char} (h : letter ≠ 'u') (rest : List Char) :
    units? ('\\' :: letter :: rest) =
      (escape? letter).bind fun n => (units? rest).map (.byte (UInt8.ofNat n) :: ·) := by
  rw [units?]
  rintro a b c d rest rfl
  exact absurd rfl h

theorem units?_itself {o : Char} (hslash : o ≠ '\\') (ho : 0x20 ≤ o.toNat) (rest : List Char) :
    units? (o :: rest) = (units? rest).map (.byte (UInt8.ofNat o.toNat) :: ·) := by
  rw [units?, if_neg]
  · rintro (heq | hlt)
    · exact hslash heq
    · omega
  · rintro - - - - - heq
    exact absurd heq hslash
  · rintro - - heq
    exact absurd heq hslash

theorem units?_octets {bytes : List UInt8}
    (h : ∀ b ∈ bytes, Char.ofNat b.toNat ≠ '\\' ∧ 0x20 ≤ b.toNat) (rest : List Char) :
    units? (octetsOf bytes ++ rest) = (units? rest).map (bytes.map .byte ++ ·) := by
  induction bytes with
  | nil => simp [octetsOf]
  | cons b bytes ih =>
      rw [List.forall_mem_cons] at h
      have hb : 0x20 ≤ (Char.ofNat b.toNat).toNat := by
        rw [Text.toNat_octet]
        exact h.1.2
      have hcons : octetsOf (b :: bytes) ++ rest =
          Char.ofNat b.toNat :: (octetsOf bytes ++ rest) := rfl
      rw [hcons, units?_itself h.1.1 hb, ih h.2, Text.ofNat_toNat_octet]
      simp [Function.comp_def]

theorem hexadecimal?_hexDigit :
    ∀ n < 0x20, Text.hexadecimal? ['0', '0', Text.hexDigit (n / 16), Text.hexDigit (n % 16)] =
      some n := by
  decide

/-- A character between quotes is read as its parts, whatever follows. -/
theorem units?_written (c : Char) (rest : List Char) :
    units? (written c ++ rest) = (units? rest).map (unitsOf c ++ ·) := by
  cases escaped c with
  | letter hwritten hunits hletter hcode hc =>
      rw [hwritten, hunits, Text.utf8EncodeChar_of_ascii hc]
      simp [units?_letter hletter, hcode]
  | number hwritten hunits hc =>
      rw [hwritten, hunits]
      simp only [List.cons_append, List.nil_append]
      rw [units?, hexadecimal?_hexDigit c.toNat hc, Option.bind_some]
  | itself hwritten hunits hquote hslash hc =>
      rw [hwritten, hunits]
      refine units?_octets (fun b hb => ?_) rest
      have hoctet := charOctets_of_itself hquote hslash hc
        (List.mem_map.2 ⟨b, hb, rfl⟩ : Char.ofNat b.toNat ∈ charOctets c)
      rw [Text.toNat_octet] at hoctet
      exact hoctet.2

theorem bytes?_unit (hc : c.toNat < 0x20) (rest : List Unit16) :
    bytes? (.unit c.toNat :: rest) = (bytes? rest).map (String.utf8EncodeChar c ++ ·) := by
  have hvalid : c.toNat.isValidChar := c.valid
  have hchar : Text.char? c.toNat = some c := by
    rw [Text.char?, if_pos hvalid, Char.ofNat_toNat]
  have hbytes : c.toString.toUTF8.toList = String.utf8EncodeChar c := by
    rw [Text.toList_toUTF8]
    simp
  have hunit : bytes? (.unit c.toNat :: rest) = (Text.char? c.toNat).bind fun c =>
      (bytes? rest).map (c.toString.toUTF8.toList ++ ·) := by
    cases rest with
    | nil => rfl
    | cons u rest =>
        cases u with
        | byte b => rfl
        | unit v =>
            -- a control is no half of a pair
            rw [bytes?, if_neg (by omega)]
  rw [hunit, hchar, Option.bind_some, hbytes]

/-- The bytes of a character, whatever follows. -/
theorem bytes?_unitsOf (c : Char) (rest : List Unit16) :
    bytes? (unitsOf c ++ rest) = (bytes? rest).map (String.utf8EncodeChar c ++ ·) := by
  have hbytes : ∀ bytes : List UInt8,
      bytes? (bytes.map .byte ++ rest) = (bytes? rest).map (bytes ++ ·) := by
    intro bytes
    induction bytes with
    | nil => simp
    | cons b bytes ih => simp [bytes?, ih, Function.comp_def]
  cases escaped c with
  | letter hwritten hunits => exact hunits ▸ hbytes _
  | number hwritten hunits hc => exact hunits ▸ bytes?_unit hc rest
  | itself hwritten hunits => exact hunits ▸ hbytes _

theorem text?_units (s : String) : text? (s.toList.flatMap unitsOf) = some s := by
  have hbytes : bytes? (s.toList.flatMap unitsOf) = some s.toUTF8.toList := by
    rw [Text.toList_toUTF8]
    induction s.toList with
    | nil => rfl
    | cons c cs ih => rw [List.flatMap_cons, bytes?_unitsOf, ih, List.flatMap_cons, Option.map_some]
  have hdata : (⟨s.toUTF8.toList.toArray⟩ : ByteArray) = s.toUTF8 := by
    rw [Text.toList_eq_data]
  rw [text?, hbytes, Option.bind_some, hdata, Text.fromUTF8?_toUTF8]

/-- A text between quotes is read as this text. -/
theorem token?_quoted (s : String) :
    token? (.quoted (s.toList.flatMap written)) =
      some (.literal (some (.string s)) (some (some s))) := by
  have hunits : units? (s.toList.flatMap written) = some (s.toList.flatMap unitsOf) := by
    induction s.toList with
    | nil => rfl
    | cons c cs ih =>
        rw [List.flatMap_cons, units?_written, ih, List.flatMap_cons, Option.map_some]
  rw [token?, hunits, Option.map_some, text?_units]

theorem octets_quote (s : String) :
    Text.octets (quote s) = '"' :: (s.toList.flatMap written ++ ['"']) := by
  have hmark : Text.octets "\"" = ['"'] := Text.octets_of_ascii rfl
  rw [quote, Text.octets_append, Text.octets_append, hmark, Text.octets_ofList,
    List.flatMap_assoc]
  rfl

end Strict

end Json

end Polybuild
