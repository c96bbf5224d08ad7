import Polybuild.Proofs.Json.Literals
import Polybuild.Proofs.Json.Tokens

/-!
# What is printed is read again

A value that is printed in the strict form, in any layout, is read as the value: a printed part is
read as its tokens, whatever follows, and the tokens of a value say the value. All this is about
values with natural numbers for their numerals and without unreadable parts, which is what
`Printable` asks.
-/

namespace Polybuild

namespace Json

open Strict (spelling token?)
open Text (octets)

variable {cs rest : List Char} {layout : Layout}

/-- Whether a value has natural numbers for its numerals and nothing unreadable in it. -/
def Value.Printable (v : Value) : Prop :=
  v.readable (fun n => n.natural?.isSome) = true

/-- The tokens of a text. -/
def tokensOf (cs : List Char) : Option (List Token) :=
  (chunksFrom spelling .between cs).bind fun chunks => chunks.mapM token?

theorem tokensOf_of_chunk {chunk : Chunk} {t : Token}
    (h : chunksFrom spelling .between cs =
      (chunksFrom spelling .between rest).map (chunk :: ·)) (ht : token? chunk = some t) :
    tokensOf cs = (tokensOf rest).map (t :: ·) := by
  rw [tokensOf, tokensOf, h]
  cases chunksFrom spelling .between rest with
  | none => rfl
  | some chunks =>
      simp only [Option.map_some, Option.bind_some, List.mapM_cons, ht]
      cases chunks.mapM token? <;> rfl

/-! ## Blanks and marks -/

theorem tokensOf_blank {c : Char} (h : spelling.isBlank c = true) (rest : List Char) :
    tokensOf (c :: rest) = tokensOf rest := by
  rw [tokensOf, tokensOf, chunksFrom_blank h]

theorem tokensOf_blanks (h : ∀ c ∈ cs, spelling.isBlank c = true) (rest : List Char) :
    tokensOf (cs ++ rest) = tokensOf rest := by
  induction cs with
  | nil => rfl
  | cons c cs ih =>
      rw [List.forall_mem_cons] at h
      rw [List.cons_append, tokensOf_blank h.1, ih h.2]

theorem octets_newLine (level : Nat) :
    octets (newLine level) = '\n' :: List.replicate (2 * level) ' ' := by
  rw [newLine, Text.octets_ofList]
  refine Text.flatMap_charOctets_of_ascii ?_
  rw [List.all_cons, Bool.and_eq_true]
  exact ⟨rfl, by simp⟩

theorem tokensOf_lineEnd (layout : Layout) (rest : List Char) :
    tokensOf (octets layout.lineEnd ++ rest) = tokensOf rest := by
  cases layout with
  | none =>
      rw [Layout.lineEnd, Text.octets_of_ascii rfl]
      rfl
  | some level =>
      rw [Layout.lineEnd, octets_newLine]
      refine tokensOf_blanks (fun c hc => ?_) rest
      rcases List.mem_cons.1 hc with rfl | hc
      · rfl
      · rw [List.eq_of_mem_replicate hc]
        rfl

/-- What the token of a mark says of the mark. -/
theorem isMark_of_ofMark? {c : Char} {t : Token} (h : Token.ofMark? c = some t) :
    isMark c = true ∧ spelling.isBlank c = false := by
  unfold Token.ofMark? at h
  split_ifs at h <;> subst_vars <;> decide

theorem tokensOf_mark {c : Char} {t : Token} (h : Token.ofMark? c = some t) (rest : List Char) :
    tokensOf (c :: rest) = (tokensOf rest).map (t :: ·) := by
  obtain ⟨hmark, hblank⟩ := isMark_of_ofMark? h
  exact tokensOf_of_chunk (chunksFrom_mark hblank hmark rest) h

theorem tokensOf_colon (layout : Layout) (rest : List Char) :
    tokensOf (octets layout.colon ++ rest) = (tokensOf rest).map (.colon :: ·) := by
  have hmark : ∀ rest, tokensOf (':' :: rest) = (tokensOf rest).map (.colon :: ·) :=
    tokensOf_mark rfl
  cases layout with
  | none =>
      have htext : octets (Layout.colon none) = [':'] := Text.octets_of_ascii rfl
      exact htext ▸ hmark rest
  | some level =>
      have htext : octets (Layout.colon (some level)) = [':', ' '] :=
        Text.octets_of_ascii (s := ": ") rfl
      rw [htext, ← tokensOf_blank (c := ' ') rfl rest]
      exact hmark (' ' :: rest)

/-! ## Literals -/

theorem tokensOf_quote (s : String) (rest : List Char) :
    tokensOf (octets (quote s) ++ rest) =
      (tokensOf rest).map (.literal (some (.string s)) (some (some s)) :: ·) := by
  have hquotable : Quotable '"' (s.toList.flatMap Strict.written) := by
    induction s.toList with
    | nil => exact .nil
    | cons c cs ih => exact (Strict.quotable_written c).append ih
  refine tokensOf_of_chunk ?_ (Strict.token?_quoted s)
  rw [Strict.octets_quote, List.cons_append, List.append_assoc, List.singleton_append]
  exact chunksFrom_quoted rfl rfl rfl (by decide) hquotable rest

/-- A word or a numeral is read as its value. -/
theorem tokensOf_run {written : List Char} {v : Value} (hne : written ≠ [])
    (hrun : written.all (Reading.continuesRun spelling) = true)
    (hvalue : Strict.word? written = some v) (hrest : Open spelling rest) :
    tokensOf (written ++ rest) = (tokensOf rest).map (.literal (some v) none :: ·) := by
  refine tokensOf_of_chunk (chunksFrom_run hne (List.all_eq_true.1 hrun) hrest) ?_
  rw [token?, hvalue]
  rfl

theorem eq_ofNat_of_natural? {n : Numeral} {m : Nat} (h : n.natural? = some m) :
    n = .ofNat m := by
  unfold Numeral.natural? at h
  split at h
  · rw [Option.some.inj h]
    rfl
  · simp at h

theorem continuesRun_of_isDigit {c : Char} (h : c.isDigit = true) :
    Reading.continuesRun spelling c = true := by
  by_contra hends
  simp only [Reading.continuesRun, spelling, isMark, Bool.not_eq_true, Bool.not_eq_false',
    Bool.or_eq_true, beq_iff_eq, Bool.false_and, Bool.or_false] at hends
  rcases hends with
    ((((rfl | rfl) | rfl) | rfl) | (((((rfl | rfl) | rfl) | rfl) | rfl) | rfl)) | rfl
  all_goals exact absurd h (by decide)

theorem tokensOf_number (n : Nat) (hrest : Open spelling rest) :
    tokensOf (octets (Numeral.ofNat n).text ++ rest) =
      (tokensOf rest).map (.literal (some (.nat n)) none :: ·) := by
  have hdigit := Strict.isDigit_of_mem_toDigits n
  have htext : (Numeral.ofNat n).text.toList = Nat.toDigits 10 n := by
    simp [Numeral.ofNat, Numeral.text]
  have hoctets : octets (Numeral.ofNat n).text = Nat.toDigits 10 n := by
    have hascii : ∀ c ∈ Nat.toDigits 10 n, c.toNat < 128 := by
      intro c hc
      have hrange : 48 ≤ c.toNat ∧ c.toNat ≤ 57 := by
        simpa [Char.isDigit, UInt32.le_iff_toNat_le] using hdigit c hc
      omega
    rw [Text.octets_of_ascii, htext]
    rw [htext]
    simpa using hascii
  have hrun : (Nat.toDigits 10 n).all (Reading.continuesRun spelling) = true :=
    List.all_eq_true.2 fun c hc => continuesRun_of_isDigit (hdigit c hc)
  rw [hoctets]
  exact tokensOf_run Nat.toDigits_ne_nil hrun (Strict.word?_toDigits n) hrest

/-! ## Values -/

/-- Marks are their own octets. -/
theorem octets_marks :
    octets "[" = ['['] ∧ octets "]" = [']'] ∧ octets "\x7b" = ['\x7b'] ∧
      octets "\x7d" = ['\x7d'] ∧ octets "," = [','] := by
  refine ⟨?_, ?_, ?_, ?_, ?_⟩ <;> exact Text.octets_of_ascii rfl

theorem octets_print_array (v : Value) (items : List Value) (rest : List Char) :
    octets (Value.print layout (.array (v :: items))) ++ rest =
      '[' :: (octets layout.inner.lineEnd ++ (octets (v.print layout.inner) ++
        (octets (Value.printItems layout.inner items) ++
          (octets layout.lineEnd ++ ']' :: rest)))) := by
  simp only [Value.print, Text.octets_append, octets_marks, List.append_assoc,
    List.cons_append, List.nil_append]

theorem octets_printItems_cons (v : Value) (items : List Value) (rest : List Char) :
    octets (Value.printItems layout (v :: items)) ++ rest =
      ',' :: (octets layout.lineEnd ++ (octets (v.print layout) ++
        (octets (Value.printItems layout items) ++ rest))) := by
  simp only [Value.printItems, Text.octets_append, octets_marks, List.append_assoc,
    List.cons_append, List.nil_append]

theorem octets_print_object (name : String) (v : Value) (fields : List (String × Value))
    (rest : List Char) :
    octets (Value.print layout (.object ((name, v) :: fields))) ++ rest =
      '\x7b' :: (octets layout.inner.lineEnd ++ (octets (quote name) ++ (octets layout.colon ++
        (octets (v.print layout.inner) ++ (octets (Value.printFields layout.inner fields) ++
          (octets layout.lineEnd ++ '\x7d' :: rest)))))) := by
  simp only [Value.print, Text.octets_append, octets_marks, List.append_assoc,
    List.cons_append, List.nil_append]

theorem octets_printFields_cons (name : String) (v : Value) (fields : List (String × Value))
    (rest : List Char) :
    octets (Value.printFields layout ((name, v) :: fields)) ++ rest =
      ',' :: (octets layout.lineEnd ++ (octets (quote name) ++ (octets layout.colon ++
        (octets (v.print layout) ++ (octets (Value.printFields layout fields) ++ rest))))) := by
  simp only [Value.printFields, Text.octets_append, octets_marks, List.append_assoc,
    List.cons_append, List.nil_append]

theorem open_mark {c : Char} (h : isMark c = true) (rest : List Char) :
    Open spelling (c :: rest) := by
  simp [Open, Reading.continuesRun, h]

theorem open_lineEnd (h : Open spelling rest) (layout : Layout) :
    Open spelling (octets layout.lineEnd ++ rest) := by
  cases layout with
  | none =>
      rw [Layout.lineEnd, Text.octets_of_ascii rfl]
      exact h
  | some level =>
      rw [Layout.lineEnd, octets_newLine]
      rfl

theorem open_printItems (h : Open spelling rest) (layout : Layout) (items : List Value) :
    Open spelling (octets (Value.printItems layout items) ++ rest) := by
  cases items with
  | nil =>
      rw [Value.printItems, Text.octets_of_ascii rfl]
      exact h
  | cons v items =>
      rw [octets_printItems_cons]
      exact open_mark rfl _

theorem open_printFields (h : Open spelling rest) (layout : Layout)
    (fields : List (String × Value)) :
    Open spelling (octets (Value.printFields layout fields) ++ rest) := by
  cases fields with
  | nil =>
      rw [Value.printFields, Text.octets_of_ascii rfl]
      exact h
  | cons field fields =>
      rw [octets_printFields_cons]
      exact open_mark rfl _

mutual

/-- A printed value is read as its tokens, whatever follows. -/
theorem tokensOf_print (v : Value) (hv : v.Printable) (layout : Layout) {rest : List Char}
    (hrest : Open spelling rest) :
    tokensOf (octets (v.print layout) ++ rest) = (tokensOf rest).map (v.tokens ++ ·) := by
  cases v with
  | null =>
      rw [Value.print, Text.octets_of_ascii rfl]
      exact tokensOf_run (by decide) rfl rfl hrest
  | bool b =>
      cases b <;> rw [Value.print, Text.octets_of_ascii rfl] <;>
        exact tokensOf_run (by decide) rfl rfl hrest
  | number n =>
      obtain ⟨m, hm⟩ := Option.isSome_iff_exists.1 hv
      obtain rfl := eq_ofNat_of_natural? hm
      exact tokensOf_number m hrest
  | string s => exact tokensOf_quote s rest
  | unreadable => simp [Value.Printable, Value.readable] at hv
  | array items =>
      cases items with
      | nil =>
          have htext : octets "[]" = ['[', ']'] := Text.octets_of_ascii rfl
          rw [Value.print, htext, List.cons_append, List.cons_append, tokensOf_mark rfl,
            List.nil_append, tokensOf_mark rfl]
          simp [Value.tokens, Function.comp_def]
      | cons v items =>
          obtain ⟨hfirst, hitems⟩ : v.Printable ∧
              Value.readableItems (fun n => n.natural?.isSome) items = true := by
            simpa [Value.Printable, Value.readable, Value.readableItems] using hv
          have hclosed := open_lineEnd (open_mark (c := ']') rfl rest) layout
          rw [octets_print_array, tokensOf_mark rfl, tokensOf_lineEnd,
            tokensOf_print v hfirst _ (open_printItems hclosed _ items),
            tokensOf_printItems items hitems _ hclosed, tokensOf_lineEnd, tokensOf_mark rfl]
          simp [Value.tokens, Function.comp_def]
  | object fields =>
      cases fields with
      | nil =>
          have htext : octets "\x7b\x7d" = ['\x7b', '\x7d'] := Text.octets_of_ascii rfl
          rw [Value.print, htext, List.cons_append, List.cons_append, tokensOf_mark rfl,
            List.nil_append, tokensOf_mark rfl]
          simp [Value.tokens, Function.comp_def]
      | cons field fields =>
          obtain ⟨name, v⟩ := field
          obtain ⟨hfirst, hfields⟩ : v.Printable ∧
              Value.readableFields (fun n => n.natural?.isSome) fields = true := by
            simpa [Value.Printable, Value.readable, Value.readableFields] using hv
          have hclosed := open_lineEnd (open_mark (c := '\x7d') rfl rest) layout
          rw [octets_print_object, tokensOf_mark rfl, tokensOf_lineEnd, tokensOf_quote,
            tokensOf_colon, tokensOf_print v hfirst _ (open_printFields hclosed _ fields),
            tokensOf_printFields fields hfields _ hclosed, tokensOf_lineEnd, tokensOf_mark rfl]
          simp [Value.tokens, Function.comp_def]

theorem tokensOf_printItems (items : List Value)
    (hitems : Value.readableItems (fun n => n.natural?.isSome) items = true) (layout : Layout)
    {rest : List Char} (hrest : Open spelling rest) :
    tokensOf (octets (Value.printItems layout items) ++ rest) =
      (tokensOf rest).map (Value.itemTokens items ++ ·) := by
  cases items with
  | nil =>
      rw [Value.printItems, Text.octets_of_ascii rfl]
      simp [Value.itemTokens]
  | cons v items =>
      obtain ⟨hfirst, hrestItems⟩ : v.Printable ∧
          Value.readableItems (fun n => n.natural?.isSome) items = true := by
        simpa [Value.Printable, Value.readableItems] using hitems
      rw [octets_printItems_cons, tokensOf_mark rfl, tokensOf_lineEnd,
        tokensOf_print v hfirst _ (open_printItems hrest _ items),
        tokensOf_printItems items hrestItems _ hrest]
      simp [Value.itemTokens, Function.comp_def]

theorem tokensOf_printFields (fields : List (String × Value))
    (hfields : Value.readableFields (fun n => n.natural?.isSome) fields = true) (layout : Layout)
    {rest : List Char} (hrest : Open spelling rest) :
    tokensOf (octets (Value.printFields layout fields) ++ rest) =
      (tokensOf rest).map (Value.fieldTokens fields ++ ·) := by
  cases fields with
  | nil =>
      rw [Value.printFields, Text.octets_of_ascii rfl]
      simp [Value.fieldTokens]
  | cons field fields =>
      obtain ⟨name, v⟩ := field
      obtain ⟨hfirst, hrestFields⟩ : v.Printable ∧
          Value.readableFields (fun n => n.natural?.isSome) fields = true := by
        simpa [Value.Printable, Value.readableFields] using hfields
      rw [octets_printFields_cons, tokensOf_mark rfl, tokensOf_lineEnd, tokensOf_quote,
        tokensOf_colon, tokensOf_print v hfirst _ (open_printFields hrest _ fields),
        tokensOf_printFields fields hrestFields _ hrest]
      simp [Value.fieldTokens, Function.comp_def]

end

theorem ofBytes?_toUTF8 (s : String) :
    Value.ofBytes? s.toUTF8 = (tokensOf (octets s)).bind (Value.ofTokens? false) := by
  have hchunks : Value.ofBytes? s.toUTF8 = (chunks? spelling (octets s)).bind fun chunks =>
      (chunks.mapM token?).bind (Value.ofTokens? false) := rfl
  rw [hchunks, chunks?_eq, tokensOf, Option.bind_assoc]

/-- A printed value is read as this value. -/
theorem ofBytes?_print {v : Value} (hv : v.Printable) (layout : Layout) :
    Value.ofBytes? (v.print layout).toUTF8 = some v := by
  have hend : Open spelling [] := trivial
  have htokens := tokensOf_print v hv layout hend
  have hempty : tokensOf [] = some [] := rfl
  rw [List.append_nil, hempty, Option.map_some, List.append_nil] at htokens
  rw [ofBytes?_toUTF8, htokens]
  exact ofTokens?_tokens v

end Json

end Polybuild
