import Polybuild.Json.Strict

/-!
# Chunks of the strict form

`chunksFrom` says what `chunks?` finds by recursion on the characters: what the next character
completes, and then what is found behind it. From here there is one lemma for each kind of chunk at
the start of a text. A run ends where the text goes on with a character of another kind, so what
follows a run has to be `Open`.
-/

namespace Polybuild

namespace Json

variable {spelling : Spelling} {r : Reading} {c : Char} {cs written rest : List Char}

/-- The chunks that are completed from a reading on. -/
def chunksFrom (spelling : Spelling) : Reading → List Char → Option (List Chunk)
  | r, [] => r.finish?
  | r, c :: cs =>
      (r.next? spelling c).bind fun (chunks, r) =>
        (chunksFrom spelling r cs).map (chunks ++ ·)

/-- The chunks so far, in reverse, and the reading behind one more character. -/
def advance (spelling : Spelling) (state : List Chunk × Reading) (c : Char) :
    Option (List Chunk × Reading) :=
  (state.2.next? spelling c).map fun found => (found.1.reverse ++ state.1, found.2)

theorem chunks?_eq_foldlM (spelling : Spelling) (cs : List Char) :
    chunks? spelling cs = (cs.foldlM (advance spelling) ([], .between)).bind fun state =>
      state.2.finish?.map (state.1.reverse ++ ·) := by
  have hadvance : (fun ((done, reading) : List Chunk × Reading) c => do
      let (chunks, reading) ← Reading.next? spelling reading c
      pure (chunks.reverse ++ done, reading)) = advance spelling := by
    funext ⟨done, r⟩ c
    cases hnext : r.next? spelling c <;> simp [advance, hnext]
  unfold chunks?
  rw [hadvance]
  cases cs.foldlM (advance spelling) ([], .between) with
  | none => rfl
  | some state => cases hfinish : state.2.finish? <;> simp [hfinish]

theorem foldlM_advance (done : List Chunk) (r : Reading) (cs : List Char) :
    ((cs.foldlM (advance spelling) (done, r)).bind fun state =>
      state.2.finish?.map (state.1.reverse ++ ·)) =
      (chunksFrom spelling r cs).map (done.reverse ++ ·) := by
  induction cs generalizing done r with
  | nil => simp [chunksFrom]
  | cons c cs ih =>
      rw [List.foldlM_cons, chunksFrom, advance]
      cases r.next? spelling c with
      | none => rfl
      | some found =>
          obtain ⟨chunks, reading⟩ := found
          simp only [Option.map_some, Option.bind_eq_bind, Option.bind_some]
          rw [ih, Option.map_map]
          congr 1
          funext chunks'
          simp

theorem chunks?_eq (spelling : Spelling) (cs : List Char) :
    chunks? spelling cs = chunksFrom spelling .between cs := by
  rw [chunks?_eq_foldlM, foldlM_advance]
  simp

/-- What follows a run: nothing, or a character that does not go on with it. -/
def Open (spelling : Spelling) : List Char → Prop
  | [] => True
  | c :: _ => Reading.continuesRun spelling c = false

theorem chunksFrom_blank (h : spelling.isBlank c = true) (rest : List Char) :
    chunksFrom spelling .between (c :: rest) = chunksFrom spelling .between rest := by
  rw [chunksFrom, Reading.next?, Reading.enter, if_pos h]
  simp

theorem chunksFrom_mark (hblank : spelling.isBlank c = false) (h : isMark c = true)
    (rest : List Char) :
    chunksFrom spelling .between (c :: rest) =
      (chunksFrom spelling .between rest).map (.mark c :: ·) := by
  rw [chunksFrom, Reading.next?, Reading.enter, if_neg (by simp [hblank]), if_pos h]
  simp

theorem chunksFrom_inRun (h : ∀ c ∈ written, Reading.continuesRun spelling c = true)
    (hrest : Open spelling rest) (sofar : List Char) :
    chunksFrom spelling (.inRun sofar) (written ++ rest) =
      (chunksFrom spelling .between rest).map (.run (sofar.reverse ++ written) :: ·) := by
  induction written generalizing sofar with
  | nil =>
      cases rest with
      | nil => simp [chunksFrom, Reading.finish?]
      | cons c cs =>
          have hc : Reading.continuesRun spelling c = false := hrest
          rw [List.nil_append, chunksFrom, Reading.next?, if_neg (by simp [hc]), chunksFrom,
            Reading.next?]
          simp [Function.comp_def]
  | cons c written ih =>
      rw [List.forall_mem_cons] at h
      rw [List.cons_append, chunksFrom, Reading.next?, if_pos h.1]
      simp [ih h.2, Function.comp_def]

theorem chunksFrom_run (hne : written ≠ [])
    (h : ∀ c ∈ written, Reading.continuesRun spelling c = true) (hrest : Open spelling rest) :
    chunksFrom spelling .between (written ++ rest) =
      (chunksFrom spelling .between rest).map (.run written :: ·) := by
  obtain ⟨first, others, rfl⟩ := List.exists_cons_of_ne_nil hne
  rw [List.forall_mem_cons] at h
  have hfirst : ((spelling.isBlank first = false ∧ isMark first = false) ∧
      spelling.isQuote first = false) ∧ (spelling.comments && first == '/') = false := by
    simpa only [Reading.continuesRun, Bool.not_eq_true', Bool.or_eq_false_iff] using h.1
  rw [List.cons_append, chunksFrom, Reading.next?, Reading.enter]
  simp only [hfirst, Bool.false_eq_true, ↓reduceIte, Option.bind_some]
  rw [chunksFrom_inRun h.2 hrest]
  simp [Function.comp_def]

/-- What may stand between quotes: no quote, but behind a backslash any character. -/
inductive Quotable (quote : Char) : List Char → Prop
  | nil : Quotable quote []
  | plain {c : Char} {rest : List Char} (hquote : c ≠ quote) (hslash : c ≠ '\\')
      (h : Quotable quote rest) : Quotable quote (c :: rest)
  | escaped {c : Char} {rest : List Char} (h : Quotable quote rest) :
      Quotable quote ('\\' :: c :: rest)

theorem Quotable.append {quote : Char} (h : Quotable quote written) (h' : Quotable quote cs) :
    Quotable quote (written ++ cs) := by
  induction h with
  | nil => exact h'
  | plain hquote hslash _ ih => exact .plain hquote hslash ih
  | escaped _ ih => exact .escaped ih

theorem chunksFrom_inQuotes {quote : Char} (h : Quotable quote written) (hquote : quote ≠ '\\')
    (sofar rest : List Char) :
    chunksFrom spelling (.inQuotes quote sofar false) (written ++ quote :: rest) =
      (chunksFrom spelling .between rest).map (.quoted (sofar.reverse ++ written) :: ·) := by
  induction h generalizing sofar with
  | nil =>
      rw [List.nil_append, chunksFrom, Reading.next?]
      simp
  | @plain c written hne hslash h ih =>
      rw [List.cons_append, chunksFrom, Reading.next?, beq_eq_false_iff_ne.2 hslash]
      simp [hne, ih, Function.comp_def]
  | @escaped c written h ih =>
      rw [List.cons_append, List.cons_append, chunksFrom, Reading.next?]
      simp only [Bool.false_eq_true, ↓reduceIte, hquote.symm, beq_self_eq_true, Option.bind_some]
      rw [chunksFrom, Reading.next?]
      simp [ih, Function.comp_def]

theorem chunksFrom_quoted {quote : Char} (hblank : spelling.isBlank quote = false)
    (hmark : isMark quote = false) (hquote : spelling.isQuote quote = true) (hne : quote ≠ '\\')
    (h : Quotable quote written) (rest : List Char) :
    chunksFrom spelling .between (quote :: (written ++ quote :: rest)) =
      (chunksFrom spelling .between rest).map (.quoted written :: ·) := by
  rw [chunksFrom, Reading.next?, Reading.enter]
  simp only [hblank, hmark, hquote, Bool.false_eq_true, ↓reduceIte, Option.bind_some]
  rw [chunksFrom_inQuotes h hne]
  simp [Function.comp_def]

end Json

end Polybuild
