import Mathlib.Data.List.Induction
import Polybuild.Proofs.Text.Ends
import Polybuild.SourceFilter

/-!
# What a filter decides

A filter keeps the patterns that can be used, and its decision is told here from the patterns as they
are written, whatever reads them. `written?` is the glob that an allow pattern writes, whether or not
it forbids, and `hits` and `rejects` say whether a pattern of each kind has a say on a path. The last
allow pattern that hits decides (`allows_filter_iff`), any exclude pattern that rejects does. So
patterns that cannot be used may stand anywhere, and of the exclude patterns only the set counts.
-/

namespace Polybuild

namespace AllowRule

/-- The text of the glob that an allow pattern writes: the pattern without the blanks at its ends,
without one `!` at its front and without the blanks behind that. -/
def globText (raw : String) : String :=
  Text.trim ((Text.afterStart? "!" (Text.trim raw)).getD (Text.trim raw))

/-- Whether an allow pattern forbids what it matches. -/
def forbids (raw : String) : Bool :=
  (Text.afterStart? "!" (Text.trim raw)).isSome

theorem globText_of_blank {raw : String} (h : Text.blank raw = true) : globText raw = "" := by
  have hempty : Text.trim raw = "" := Text.trim_eq_empty_iff.2 h
  have hnone : Text.afterStart? "!" "" = none := by decide
  rw [globText, hempty, hnone]
  decide

end AllowRule

namespace PatternReading

open AllowRule (globText forbids)

variable {γ ρ : Type} {k : PatternReading γ ρ} {allow exclude : List String} {raw name path : String}

/-- The glob that an allow pattern writes, if it can be used. -/
def written? (k : PatternReading γ ρ) (raw : String) : Option γ :=
  if globText raw = "" then none else k.glob? (globText raw)

/-- Whether an allow pattern has a say on a file name. -/
def hits (k : PatternReading γ ρ) (raw name : String) : Bool :=
  (k.written? raw).any fun pattern => k.covers pattern name

/-- Whether an exclude pattern has a say on a path. -/
def rejects (k : PatternReading γ ρ) (raw path : String) : Bool :=
  !Text.blank raw && (k.expr? raw).any fun e => k.finds e path

/-- The rule of an allow pattern is its glob, with whether it forbids. -/
theorem allowRule?_eq (k : PatternReading γ ρ) (raw : String) :
    k.allowRule? raw = (k.written? raw).map fun pattern => ⟨pattern, forbids raw⟩ := by
  have hrule : k.allowRule? raw = if globText raw = "" then none
      else (k.glob? (globText raw)).map fun pattern => ⟨pattern, forbids raw⟩ := by
    cases hbang : Text.afterStart? "!" (Text.trim raw) with
    | none => simp [allowRule?, globText, forbids, hbang, Text.trim_trim]
    | some rest => simp [allowRule?, globText, forbids, hbang]
  rw [hrule, written?]
  split <;> rfl

theorem written?_of_blank (k : PatternReading γ ρ) (h : Text.blank raw = true) :
    k.written? raw = none := by
  rw [written?, if_pos (AllowRule.globText_of_blank h)]

/-! ## Exclude patterns -/

theorem rejects_eq (k : PatternReading γ ρ) (raw path : String) :
    k.rejects raw path = (k.excludeRule? raw).any fun e => k.finds e path := by
  cases hblank : Text.blank raw <;> simp [rejects, excludeRule?, hblank]

theorem excludes_filter (k : PatternReading γ ρ) (allow exclude : List String) (path : String) :
    k.excludes (k.filter allow exclude) path =
      (path ≠ "" && exclude.any fun raw => k.rejects raw path) := by
  rw [excludes, filter]
  congr 1
  induction exclude with
  | nil => rfl
  | cons raw rest ih =>
      rw [List.any_cons, ← ih, rejects_eq]
      cases hrule : k.excludeRule? raw <;> simp [hrule]

/-! ## Allow patterns -/

theorem hasAllowList_filter (k : PatternReading γ ρ) (allow exclude : List String) :
    (k.filter allow exclude).hasAllowList = allow.any fun raw => (k.written? raw).isSome := by
  induction allow with
  | nil => rfl
  | cons raw rest ih =>
      rw [List.any_cons, ← ih]
      cases hglob : k.written? raw <;>
        simp [PatternFilter.hasAllowList, filter, allowRule?_eq, hglob]

/-- An allow pattern behind others decides when it hits. -/
theorem allows_filter_concat (k : PatternReading γ ρ) (allow exclude : List String)
    (raw name : String) :
    k.allows (k.filter (allow ++ [raw]) exclude) name =
      if k.hits raw name then !forbids raw else k.allows (k.filter allow exclude) name := by
  cases hglob : k.written? raw <;>
    simp [allows, filter, allowRule?_eq, hits, hglob, List.foldl_append]

/-- The last allow pattern that hits a name decides on it. -/
theorem allows_filter (k : PatternReading γ ρ) (allow exclude : List String) (name : String) :
    k.allows (k.filter allow exclude) name =
      (allow.reverse.find? fun raw => k.hits raw name).any fun raw => !forbids raw := by
  induction allow using List.reverseRecOn with
  | nil => rfl
  | append_singleton allow last ih =>
      rw [allows_filter_concat, List.reverse_concat, List.find?_cons]
      by_cases hlast : k.hits last name = true
      · simp [hlast]
      · simp [hlast, ih]

theorem allows_filter_iff :
    k.allows (k.filter allow exclude) name = true ↔
      ∃ before raw after, allow = before ++ raw :: after ∧ k.hits raw name = true ∧
        forbids raw = false ∧ ∀ later ∈ after, k.hits later name = false := by
  rw [allows_filter, Option.any_eq_true]
  constructor
  · rintro ⟨raw, hfind, hpositive⟩
    obtain ⟨hhits, after, before, hsplit, hafter⟩ := List.find?_eq_some_iff_append.1 hfind
    refine ⟨before.reverse, raw, after.reverse, ?_, hhits, by simpa using hpositive, ?_⟩
    · simpa using congrArg List.reverse hsplit
    · simpa using hafter
  · rintro ⟨before, raw, after, rfl, hhits, hpositive, hafter⟩
    refine ⟨raw, List.find?_eq_some_iff_append.2 ⟨hhits, after.reverse, before.reverse, ?_, ?_⟩, ?_⟩
    · simp
    · simpa using hafter
    · simp [hpositive]

/-! ## The decision -/

theorem accepts_filter_iff :
    k.accepts (k.filter allow exclude) path = true ↔
      (path = "" ∨ ∀ raw ∈ exclude, k.rejects raw path = false) ∧
      ((∀ raw ∈ allow, k.written? raw = none) ∨
        k.allows (k.filter allow exclude) (Text.lastPiece '/' path) = true) := by
  have hkept : k.excludes (k.filter allow exclude) path = false ↔
      path = "" ∨ ∀ raw ∈ exclude, k.rejects raw path = false := by
    rw [excludes_filter]
    by_cases hpath : path = "" <;> simp [hpath]
  have hnone : (k.filter allow exclude).hasAllowList = false ↔
      ∀ raw ∈ allow, k.written? raw = none := by
    rw [hasAllowList_filter]
    simp
  rw [accepts, Bool.and_eq_true, Bool.or_eq_true, Bool.not_eq_true', Bool.not_eq_true', hkept, hnone]

theorem filterMap_insert {α β : Type} {f : α → Option β} {idle : List α}
    (h : ∀ a ∈ idle, f a = none) (front back : List α) :
    (front ++ idle ++ back).filterMap f = (front ++ back).filterMap f := by
  have hnone : idle.filterMap f = [] := List.filterMap_eq_nil_iff.2 h
  simp [List.filterMap_append, hnone]

/-- With more exclude patterns, no more is accepted. -/
theorem accepts_of_subset {more : List String} (h : exclude ⊆ more)
    (haccepts : k.accepts (k.filter allow more) path = true) :
    k.accepts (k.filter allow exclude) path = true := by
  rw [accepts_filter_iff] at haccepts ⊢
  obtain ⟨hkept, hallowed⟩ := haccepts
  -- the allow patterns decide without looking at the exclude patterns
  exact ⟨hkept.imp_right fun hall raw hraw => hall raw (h hraw), hallowed⟩

/-- Whatever reads the patterns, a path is accepted when no exclude pattern that can be used matches
it, unless it is empty, and when either no allow pattern can be used or one of them matches its last
piece, and the last one that does so is not negative. Patterns that are blank or cannot be read may
stand anywhere, exclude patterns may change places and come twice, and with more of them no more is
accepted. -/
theorem accepts_iff_last_match (k : PatternReading γ ρ) (allow exclude : List String)
    (path : String) :
    (k.accepts (k.filter allow exclude) path = true ↔
      (path = "" ∨ ∀ raw ∈ exclude, k.rejects raw path = false) ∧
      ((∀ raw ∈ allow, k.written? raw = none) ∨
        ∃ name before raw after, (Text.split '/' path).getLast? = some name ∧
          allow = before ++ raw :: after ∧ k.hits raw name = true ∧ forbids raw = false ∧
          ∀ later ∈ after, k.hits later name = false)) ∧
    (∀ front back idle, allow = front ++ back →
      (∀ raw ∈ idle, Text.blank raw = true ∨ k.written? raw = none) →
      k.filter (front ++ idle ++ back) exclude = k.filter allow exclude) ∧
    (∀ front back idle, exclude = front ++ back →
      (∀ raw ∈ idle, Text.blank raw = true ∨ k.expr? raw = none) →
      k.filter allow (front ++ idle ++ back) = k.filter allow exclude) ∧
    (∀ other, (∀ raw, raw ∈ other ↔ raw ∈ exclude) →
      k.accepts (k.filter allow other) path = k.accepts (k.filter allow exclude) path) ∧
    ∀ more, exclude ⊆ more → k.accepts (k.filter allow more) path = true →
      k.accepts (k.filter allow exclude) path = true := by
  refine ⟨?_, ?_, ?_, ?_, fun more => accepts_of_subset⟩
  · rw [accepts_filter_iff, allows_filter_iff, Text.getLast?_split]
    simp
  · rintro front back idle rfl hidle
    have hrules : ∀ raw ∈ idle, k.allowRule? raw = none := by
      intro raw hraw
      have hglob := (hidle raw hraw).elim k.written?_of_blank id
      rw [allowRule?_eq, hglob, Option.map_none]
    rw [filter, filter, filterMap_insert hrules]
  · rintro front back idle rfl hidle
    have hrules : ∀ raw ∈ idle, k.excludeRule? raw = none := by
      intro raw hraw
      rcases hidle raw hraw with hblank | hnone
      · rw [excludeRule?, if_pos hblank]
      · rw [excludeRule?, hnone, ite_self]
    rw [filter, filter, filterMap_insert hrules]
  · intro other hsame
    rw [Bool.eq_iff_iff]
    exact ⟨accepts_of_subset fun raw hraw => (hsame raw).2 hraw,
      accepts_of_subset fun raw hraw => (hsame raw).1 hraw⟩

end PatternReading

/-! ## A pattern that allows again -/

namespace Kept

open SourceFilter (ofPatterns)

/-- All sources in the dialect, but no tests, but one of them. -/
def allow : List String := ["*.bay", " ! test_*.bay", "test_keep.bay"]

/-- No drafts and nothing old. -/
def exclude : List String := ["Draft", "old$"]

/-- The test that is allowed again is accepted, another one is not. A class that is not closed and a
group that is not change nothing, nor does the order of the exclude patterns, and without one of
them the test is still accepted. -/
theorem accepts_test :
    (ofPatterns allow exclude).accepts "/pkg/test_keep.bay" = true ∧
      (ofPatterns allow exclude).accepts "/pkg/test_drop.bay" = false ∧
      ofPatterns (["*.bay"] ++ ["[", "! "] ++ [" ! test_*.bay", "test_keep.bay"]) exclude =
        ofPatterns allow exclude ∧
      ofPatterns allow (["Draft"] ++ ["(", " "] ++ ["old$"]) = ofPatterns allow exclude ∧
      (ofPatterns allow ["old$", "Draft", "old$"]).accepts "/pkg/test_keep.bay" = true ∧
      (ofPatterns allow ["Draft"]).accepts "/pkg/test_keep.bay" = true := by
  obtain ⟨hiff, hallow, hexclude, hset, -⟩ :=
    PatternReading.accepts_iff_last_match .standard allow exclude "/pkg/test_keep.bay"
  have haccepts : (ofPatterns allow exclude).accepts "/pkg/test_keep.bay" = true := by
    refine hiff.2 ⟨Or.inr (by decide +kernel), Or.inr ⟨"test_keep.bay",
      ["*.bay", " ! test_*.bay"], "test_keep.bay", [], ?_⟩⟩
    decide +kernel
  have hsame : ∀ raw, raw ∈ ["old$", "Draft", "old$"] ↔ raw ∈ exclude := by
    simp [exclude]
  obtain ⟨-, -, -, -, hfewer⟩ :=
    PatternReading.accepts_iff_last_match .standard allow ["Draft"] "/pkg/test_keep.bay"
  refine ⟨haccepts, by decide +kernel, ?_, ?_, ?_, hfewer exclude (by simp [exclude]) haccepts⟩
  · exact hallow ["*.bay"] _ ["[", "! "] rfl (by decide +kernel)
  · exact hexclude ["Draft"] ["old$"] ["(", " "] rfl (by decide +kernel)
  · exact (hset _ hsame).trans haccepts

end Kept

end Polybuild
