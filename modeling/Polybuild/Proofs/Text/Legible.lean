import Polybuild.Proofs.Path.Components
import Polybuild.Proofs.Text.Octets

/-!
# Octets shown as a text

Octets of a text show that text (`legible_inOctets`). Others show some text, too, but never one of
ASCII, because no character of ASCII comes of more than one octet (`legible_eq_iff_of_ascii`).
Slashes stay where they are, so a path is shown piece by piece (`split_legible`). All this is read
off the machine that takes one octet at a time; `Begun.Sound` is what it keeps.
-/

namespace Polybuild

namespace Text

variable {c : Char} {cs rest : List Char} {s t : String} {b : Begun} {begun : Option Begun}

/-! ## Octets of a text -/

theorem toNat_octet_of_lt {n : Nat} (h : n < 256) :
    (Char.ofNat (UInt8.ofNat n).toNat).toNat = n := by
  rw [toNat_octet, UInt8.toNat_ofNat', Nat.mod_eq_of_lt (by simpa using h)]

theorem beginWith_of_ascii (h : c.toNat < 0x80) : beginWith c = ([c], none) := if_pos h

theorem legibleFrom_cons (octet : Char) :
    legibleFrom begun (octet :: rest) =
      (readOctet begun octet).1 ++ legibleFrom (readOctet begun octet).2 rest := rfl

/-- An octet that begins a character shows nothing yet. -/
theorem legibleFrom_begun {octet : Char} (hoctet : 0x80 ≤ octet.toNat)
    (h : begun? octet.toNat = some b) :
    legibleFrom none (octet :: rest) = legibleFrom (some b) rest := by
  simp [legibleFrom_cons, readOctet, beginWith, Nat.not_lt.2 hoctet, h]

/-- An octet that is not the last one of its character shows nothing yet. -/
theorem legibleFrom_more {octet : Char} (hbounds : b.low ≤ octet.toNat ∧ octet.toNat ≤ b.high)
    (hmore : b.more ≠ 1) :
    legibleFrom (some b) (octet :: rest) =
      legibleFrom (some ⟨b.bits * 64 + octet.toNat % 64, b.more - 1, 0x80, 0xBF⟩) rest := by
  simp [legibleFrom_cons, readOctet, hbounds, hmore]

/-- The last octet of a character shows it. -/
theorem legibleFrom_last {octet : Char} (hbounds : b.low ≤ octet.toNat ∧ octet.toNat ≤ b.high)
    (hmore : b.more = 1) :
    legibleFrom (some b) (octet :: rest) =
      Char.ofNat (b.bits * 64 + octet.toNat % 64) :: legibleFrom none rest := by
  simp [legibleFrom_cons, readOctet, hbounds, hmore]

theorem begun?_two {o : Nat} (h : 0xC2 ≤ o) (h' : o ≤ 0xDF) :
    begun? o = some ⟨o - 0xC0, 1, 0x80, 0xBF⟩ := by
  rw [begun?, if_neg (by omega), if_pos h']

theorem begun?_three {o : Nat} (h : 0xE0 ≤ o) (h' : o ≤ 0xEF) :
    begun? o = some ⟨o - 0xE0, 2, if o = 0xE0 then 0xA0 else 0x80,
      if o = 0xED then 0x9F else 0xBF⟩ := by
  rw [begun?, if_neg (by omega), if_neg (by omega), if_pos h']

theorem begun?_four {o : Nat} (h : 0xF0 ≤ o) (h' : o ≤ 0xF4) :
    begun? o = some ⟨o - 0xF0, 3, if o = 0xF0 then 0x90 else 0x80,
      if o = 0xF4 then 0x8F else 0xBF⟩ := by
  rw [begun?, if_neg (by omega), if_neg (by omega), if_neg (by omega)]

/-- A character in two octets. -/
theorem legibleFrom_two {o₁ o₂ : Char} (h₁ : o₁.toNat = c.toNat / 64 + 0xC0)
    (h₂ : o₂.toNat = c.toNat % 64 + 0x80) (h : 0x80 ≤ c.toNat ∧ c.toNat ≤ 0x7FF) :
    legibleFrom none (o₁ :: o₂ :: rest) = c :: legibleFrom none rest := by
  have hbits : (o₁.toNat - 0xC0) * 64 + o₂.toNat % 64 = c.toNat := by omega
  rw [legibleFrom_begun (by omega) (begun?_two (by omega) (by omega)),
    legibleFrom_last ⟨by dsimp only; omega, by dsimp only; omega⟩ rfl, hbits, Char.ofNat_toNat]

/-- A character in three octets. -/
theorem legibleFrom_three {o₁ o₂ o₃ : Char} (h₁ : o₁.toNat = c.toNat / 4096 + 0xE0)
    (h₂ : o₂.toNat = c.toNat / 64 % 64 + 0x80) (h₃ : o₃.toNat = c.toNat % 64 + 0x80)
    (h : 0x800 ≤ c.toNat ∧ c.toNat ≤ 0xFFFF)
    (hvalid : c.toNat < 0xD800 ∨ 0xDFFF < c.toNat) :
    legibleFrom none (o₁ :: o₂ :: o₃ :: rest) = c :: legibleFrom none rest := by
  have hbits : ((o₁.toNat - 0xE0) * 64 + o₂.toNat % 64) * 64 + o₃.toNat % 64 = c.toNat := by omega
  have hlow : (if o₁.toNat = 0xE0 then 0xA0 else 0x80) ≤ o₂.toNat := by split <;> omega
  have hhigh : o₂.toNat ≤ if o₁.toNat = 0xED then 0x9F else 0xBF := by split <;> omega
  rw [legibleFrom_begun (by omega) (begun?_three (by omega) (by omega)),
    legibleFrom_more ⟨hlow, hhigh⟩ (by simp), legibleFrom_last ⟨by dsimp only; omega,
      by dsimp only; omega⟩ rfl, hbits, Char.ofNat_toNat]

/-- A character in four octets. -/
theorem legibleFrom_four {o₁ o₂ o₃ o₄ : Char} (h₁ : o₁.toNat = c.toNat / 262144 + 0xF0)
    (h₂ : o₂.toNat = c.toNat / 4096 % 64 + 0x80) (h₃ : o₃.toNat = c.toNat / 64 % 64 + 0x80)
    (h₄ : o₄.toNat = c.toNat % 64 + 0x80) (h : 0x10000 ≤ c.toNat ∧ c.toNat < 0x110000) :
    legibleFrom none (o₁ :: o₂ :: o₃ :: o₄ :: rest) = c :: legibleFrom none rest := by
  have hbits : (((o₁.toNat - 0xF0) * 64 + o₂.toNat % 64) * 64 + o₃.toNat % 64) * 64 +
      o₄.toNat % 64 = c.toNat := by
    omega
  have hlow : (if o₁.toNat = 0xF0 then 0x90 else 0x80) ≤ o₂.toNat := by split <;> omega
  have hhigh : o₂.toNat ≤ if o₁.toNat = 0xF4 then 0x8F else 0xBF := by split <;> omega
  rw [legibleFrom_begun (by omega) (begun?_four (by omega) (by omega)),
    legibleFrom_more ⟨hlow, hhigh⟩ (by simp),
    legibleFrom_more ⟨by dsimp only; omega, by dsimp only; omega⟩ (by simp),
    legibleFrom_last ⟨by dsimp only; omega, by dsimp only; omega⟩ rfl, hbits, Char.ofNat_toNat]

/-- The octets of a character by its number. -/
theorem charOctets_eq (c : Char) :
    charOctets c = (
      if c.toNat ≤ 0x7F then [c.toNat]
      else if c.toNat ≤ 0x7FF then [c.toNat / 64 % 32 + 0xC0, c.toNat % 64 + 0x80]
      else if c.toNat ≤ 0xFFFF then
        [c.toNat / 4096 % 16 + 0xE0, c.toNat / 64 % 64 + 0x80, c.toNat % 64 + 0x80]
      else
        [c.toNat / 262144 % 8 + 0xF0, c.toNat / 4096 % 64 + 0x80, c.toNat / 64 % 64 + 0x80,
          c.toNat % 64 + 0x80]).map fun n => Char.ofNat (UInt8.ofNat n).toNat := by
  have hval : c.val.toNat = c.toNat := rfl
  rw [charOctets, octetsOf, String.utf8EncodeChar.eq_1, hval]
  split
  · rfl
  · split
    · rfl
    · split <;> rfl

/-- The octets of a character show it, whatever follows. -/
theorem legibleFrom_charOctets (c : Char) (rest : List Char) :
    legibleFrom none (charOctets c ++ rest) = c :: legibleFrom none rest := by
  have hvalid : c.toNat < 0xD800 ∨ 0xDFFF < c.toNat ∧ c.toNat < 0x110000 := c.valid
  have hoctet : ∀ {n k : Nat}, n = k → k < 256 → (Char.ofNat (UInt8.ofNat n).toNat).toNat = k := by
    rintro n k rfl hn
    exact toNat_octet_of_lt hn
  by_cases hone : c.toNat ≤ 0x7F
  · have hascii : c.toNat < 128 := by omega
    rw [charOctets_of_ascii hascii, List.singleton_append, legibleFrom_cons, readOctet,
      beginWith_of_ascii hascii]
    rfl
  · rw [charOctets_eq, if_neg hone]
    by_cases htwo : c.toNat ≤ 0x7FF
    · rw [if_pos htwo]
      apply legibleFrom_two
      · exact hoctet (by omega) (by omega)
      · exact hoctet rfl (by omega)
      · omega
    · rw [if_neg htwo]
      by_cases hthree : c.toNat ≤ 0xFFFF
      · rw [if_pos hthree]
        apply legibleFrom_three
        · exact hoctet (by omega) (by omega)
        · exact hoctet rfl (by omega)
        · exact hoctet rfl (by omega)
        · omega
        · omega
      · rw [if_neg hthree]
        apply legibleFrom_four
        · exact hoctet (by omega) (by omega)
        · exact hoctet rfl (by omega)
        · exact hoctet rfl (by omega)
        · exact hoctet rfl (by omega)
        · omega

/-- The octets of a text show it. -/
theorem legible_inOctets (s : String) : legible (inOctets s) = s := by
  have hchars : ∀ cs : List Char, legibleFrom none (cs.flatMap charOctets) = cs := by
    intro cs
    induction cs with
    | nil => rfl
    | cons c cs ih => rw [List.flatMap_cons, legibleFrom_charOctets, ih]
  rw [legible, inOctets, String.toList_ofList, octets_eq_flatMap, hchars, String.ofList_toList]

/-! ## Slashes -/

theorem ne_slash_of_le {o : Char} (h : 128 ≤ o.toNat) : o ≠ '/' := by
  rintro rfl
  revert h
  decide

theorem slash_notMem_charOctets (h : c ≠ '/') : '/' ∉ charOctets c := by
  by_cases hascii : c.toNat < 128
  · rw [charOctets_of_ascii hascii, List.mem_singleton]
    exact Ne.symm h
  · intro hmem
    exact ne_slash_of_le (le_of_mem_charOctets (Nat.not_lt.1 hascii) _ hmem) rfl

/-- Characters that are no separators go to the first piece. -/
theorem pieces_append_of_notMem {sep : Char} {front : List Char} (h : sep ∉ front)
    (cs : List Char) :
    pieces sep (front ++ cs) =
      (front ++ (pieces sep cs).head (pieces_ne_nil sep cs)) :: (pieces sep cs).tail := by
  induction front with
  | nil => rw [List.nil_append, List.nil_append, List.cons_head_tail]
  | cons c front ih =>
      rw [List.mem_cons, not_or] at h
      rw [List.cons_append, pieces, if_neg (Ne.symm h.1), ih h.2]
      rfl

/-- A text is written in octets piece by piece. -/
theorem split_inOctets (s : String) : split '/' (inOctets s) = (split '/' s).map inOctets := by
  have hchars : ∀ cs : List Char, pieces '/' (cs.flatMap charOctets) =
      (pieces '/' cs).map fun piece => piece.flatMap charOctets := by
    intro cs
    induction cs with
    | nil => rfl
    | cons c cs ih =>
        rw [List.flatMap_cons]
        by_cases hslash : c = '/'
        · subst hslash
          rw [charOctets_of_ascii (by decide), List.singleton_append, pieces, if_pos rfl, pieces,
            if_pos rfl, ih]
          rfl
        · have hpieces := pieces_append_of_notMem (show '/' ∉ [c] by simpa using Ne.symm hslash) cs
          rw [List.singleton_append] at hpieces
          rw [pieces_append_of_notMem (slash_notMem_charOctets hslash), hpieces]
          simp only [ih]
          simp [List.head_map]
  rw [split, inOctets, String.toList_ofList, octets_eq_flatMap, hchars, split, List.map_map,
    List.map_map]
  exact List.map_congr_left fun piece _ => by simp [inOctets, octets_ofList]

/-! ## Characters that have begun -/

/-- Whatever `more` octets follow, the first of them between the bounds, they make a character
outside ASCII. -/
def Completes : Nat → Nat → Nat → Nat → Prop
  | 0, _, _, bits => 0x80 ≤ bits ∧ bits.isValidChar
  | more + 1, low, high, bits =>
      ∀ octet, low ≤ octet → octet ≤ high → Completes more 0x80 0xBF (bits * 64 + octet % 64)

/-- A character that has begun is none of ASCII, and neither are the octets that it takes. -/
structure Begun.Sound (b : Begun) : Prop where
  low : 0x80 ≤ b.low
  more : b.more ≠ 0
  completes : Completes b.more b.low b.high b.bits

theorem begun?_sound {octet : Nat} (h : begun? octet = some b) : b.Sound := by
  unfold begun? at h
  split at h
  · simp at h
  · split at h
    · obtain rfl := Option.some.inj h
      refine ⟨by simp, by simp, fun o hlow hhigh => ?_⟩
      dsimp only at hlow hhigh ⊢
      simp only [Completes, Nat.isValidChar]
      omega
    · split at h
      · obtain rfl := Option.some.inj h
        refine ⟨by dsimp only; split <;> omega, by simp, fun o hlow hhigh o' hlow' hhigh' => ?_⟩
        dsimp only at hlow hhigh ⊢
        simp only [Completes, Nat.isValidChar]
        -- halves of surrogate pairs start in 0xED
        split at hlow <;> split at hhigh <;> omega
      · obtain rfl := Option.some.inj h
        refine ⟨by dsimp only; split <;> omega, by simp,
          fun o hlow hhigh o' hlow' hhigh' o'' hlow'' hhigh'' => ?_⟩
        dsimp only at hlow hhigh ⊢
        simp only [Completes, Nat.isValidChar]
        split at hlow <;> split at hhigh <;> omega

theorem beginWith_sound (octet : Char) : ∀ b ∈ (beginWith octet).2, b.Sound := by
  intro b hb
  unfold beginWith at hb
  split at hb
  · simp at hb
  · split at hb
    · rename_i b' hbegun
      obtain rfl := Option.some.inj hb
      exact begun?_sound hbegun
    · simp at hb

/-- Another octet keeps what has begun sound. -/
theorem readOctet_sound (h : ∀ b ∈ begun, b.Sound) (octet : Char) :
    ∀ b ∈ (readOctet begun octet).2, b.Sound := by
  cases begun with
  | none => exact beginWith_sound octet
  | some b =>
      have hb := h b rfl
      simp only [readOctet]
      split
      · rename_i hbounds
        split
        · simp
        · rename_i hmore
          rintro next hnext
          obtain rfl := Option.some.inj hnext
          have hcompletes := hb.completes
          obtain ⟨more, hsucc⟩ := Nat.exists_eq_succ_of_ne_zero hb.more
          rw [hsucc] at hcompletes hmore
          refine ⟨Nat.le_refl _, by dsimp only; omega, ?_⟩
          simpa [hsucc] using hcompletes octet.toNat hbounds.1 hbounds.2
      · exact beginWith_sound octet

/-- The last octet of a character shows one outside ASCII. -/
theorem Begun.Sound.le_toNat_ofNat (h : b.Sound) (hmore : b.more = 1) {octet : Nat}
    (hlow : b.low ≤ octet) (hhigh : octet ≤ b.high) :
    0x80 ≤ (Char.ofNat (b.bits * 64 + octet % 64)).toNat := by
  have hcompletes := h.completes
  rw [hmore] at hcompletes
  obtain ⟨hle, hvalid⟩ := hcompletes octet hlow hhigh
  rw [Char.ofNat, dif_pos hvalid]
  exact hle

/-! ## Texts of ASCII -/

/-- What has begun shows something outside ASCII, however it goes on. -/
theorem exists_mem_legibleFrom_begun (h : b.Sound) (cs : List Char) :
    ∃ c ∈ legibleFrom (some b) cs, 0x80 ≤ c.toNat := by
  induction cs generalizing b with
  | nil => exact ⟨illegible, List.mem_singleton_self _, by decide⟩
  | cons octet rest ih =>
      by_cases hbounds : b.low ≤ octet.toNat ∧ octet.toNat ≤ b.high
      · by_cases hmore : b.more = 1
        · rw [legibleFrom_last hbounds hmore]
          exact ⟨_, List.mem_cons_self, h.le_toNat_ofNat hmore hbounds.1 hbounds.2⟩
        · have hbegun : ∀ b' ∈ some b, b'.Sound := by simpa using h
          have hnext := readOctet_sound hbegun octet
          simp only [readOctet, hbounds, hmore, and_self, ↓reduceIte] at hnext
          rw [legibleFrom_more hbounds hmore]
          exact ih (hnext _ rfl)
      · refine ⟨illegible, ?_, by decide⟩
        simp [legibleFrom_cons, readOctet, hbounds]

/-- Octets that show ASCII alone are what they show. -/
theorem legibleFrom_eq_of_ascii (h : ∀ c ∈ legibleFrom none cs, c.toNat < 0x80) :
    legibleFrom none cs = cs := by
  induction cs with
  | nil => rfl
  | cons octet rest ih =>
      by_cases hascii : octet.toNat < 0x80
      · rw [legibleFrom_cons, readOctet, beginWith_of_ascii hascii, List.singleton_append] at h ⊢
        rw [ih fun c hc => h c (List.mem_cons_of_mem _ hc)]
      · cases hbegun : begun? octet.toNat with
        | none =>
            have hmark : illegible ∈ legibleFrom none (octet :: rest) := by
              simp [legibleFrom_cons, readOctet, beginWith, hascii, hbegun]
            exact absurd (h _ hmark) (by decide)
        | some b =>
            rw [legibleFrom_begun (Nat.not_lt.1 hascii) hbegun] at h
            obtain ⟨c, hc, hle⟩ := exists_mem_legibleFrom_begun (begun?_sound hbegun) rest
            exact absurd (h c hc) (Nat.not_lt.2 hle)

/-- Only a text of ASCII is shown as one. -/
theorem legible_eq_iff_of_ascii (h : t.toList.all (fun c => c.toNat < 128) = true) :
    legible s = t ↔ s = t := by
  constructor
  · rintro rfl
    rw [legible, String.toList_ofList] at h
    apply String.toList_inj.1
    rw [legible, String.toList_ofList, legibleFrom_eq_of_ascii (by simpa using h)]
  · rintro rfl
    have hoctets : inOctets s = s := by rw [inOctets, octets_of_ascii h, String.ofList_toList]
    rw [← hoctets, legible_inOctets, hoctets]

/-! ## Slashes among octets -/

/-- Nothing but a slash shows one. -/
theorem slash_notMem_readOctet (h : ∀ b ∈ begun, b.Sound) (hslash : c ≠ '/') :
    '/' ∉ (readOctet begun c).1 := by
  have hbegin : '/' ∉ (beginWith c).1 := by
    unfold beginWith
    split
    · simpa using Ne.symm hslash
    · split <;> simp [illegible]
  cases begun with
  | none => exact hbegin
  | some b =>
      simp only [readOctet]
      split
      · rename_i hbounds
        split
        · rename_i hmore
          rw [List.mem_singleton]
          exact (ne_slash_of_le ((h b rfl).le_toNat_ofNat hmore hbounds.1 hbounds.2)).symm
        · simp
      · simpa [illegible] using hbegin

theorem slash_notMem_legibleFrom_nil : '/' ∉ legibleFrom begun [] := by
  rw [legibleFrom]
  split <;> simp [illegible]

/-- A slash is shown as it stands. What has begun before it is cut short. -/
theorem legibleFrom_slash (h : ∀ b ∈ begun, b.Sound) (rest : List Char) :
    legibleFrom begun ('/' :: rest) = legibleFrom begun [] ++ '/' :: legibleFrom none rest := by
  have hbegin : beginWith '/' = (['/'], none) := beginWith_of_ascii (by decide)
  cases begun with
  | none =>
      rw [legibleFrom_cons, readOctet, hbegin]
      rfl
  | some b =>
      have hout : ¬(b.low ≤ ('/' : Char).toNat ∧ ('/' : Char).toNat ≤ b.high) := by
        have hlow := (h b rfl).low
        have hchar : ('/' : Char).toNat = 47 := rfl
        omega
      simp only [legibleFrom_cons, readOctet, hout, ↓reduceIte, hbegin]
      rfl

/-- The pieces between slashes are shown one by one, from what has begun before the first. -/
theorem pieces_legibleFrom (h : ∀ b ∈ begun, b.Sound) (cs : List Char) :
    pieces '/' (legibleFrom begun cs) =
      legibleFrom begun ((pieces '/' cs).head (pieces_ne_nil '/' cs)) ::
        (pieces '/' cs).tail.map (legibleFrom none) := by
  induction cs generalizing begun with
  | nil =>
      simpa using pieces_of_not_mem slash_notMem_legibleFrom_nil
  | cons c rest ih =>
      by_cases hslash : c = '/'
      · subst hslash
        have hnone : ∀ b ∈ (none : Option Begun), b.Sound := by simp
        have hrest := ih hnone
        simp only [legibleFrom_slash h, pieces_append_sep,
          pieces_of_not_mem slash_notMem_legibleFrom_nil, hrest, pieces, ↓reduceIte,
          List.head_cons, List.tail_cons]
        rw [List.singleton_append, ← List.map_cons, List.cons_head_tail]
      · have hpieces := pieces_append_of_notMem (show '/' ∉ [c] by simpa using Ne.symm hslash) rest
        rw [List.singleton_append] at hpieces
        simp only [hpieces, legibleFrom_cons, List.head_cons, List.tail_cons,
          List.singleton_append]
        rw [pieces_append_of_notMem (slash_notMem_readOctet h hslash)]
        simp only [ih (readOctet_sound h c), List.head_cons, List.tail_cons]

/-- Octets are shown piece by piece. -/
theorem split_legible (s : String) : split '/' (legible s) = (split '/' s).map legible := by
  have hnone : ∀ b ∈ (none : Option Begun), b.Sound := by simp
  have hpieces := pieces_legibleFrom hnone s.toList
  rw [← List.map_cons, List.cons_head_tail] at hpieces
  rw [split, legible, String.toList_ofList, hpieces, split, List.map_map, List.map_map]
  exact List.map_congr_left fun piece _ => by simp [legible]

end Text

end Polybuild
