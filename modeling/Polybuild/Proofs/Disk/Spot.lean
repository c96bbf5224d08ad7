import Mathlib.Data.List.TakeWhile
import Polybuild.Proofs.Disk.Target

/-!
# The last name of a path

A path is made of the way to a directory, a last piece, and slashes behind it. `Ends` says that
the last piece is a name and that the way leads to a directory; this is what `spot` tells of a
path at whose end an entry may be made. `spot_of_locate` gives what it tells of a path that leads
somewhere already.
-/

namespace Polybuild

namespace Disk

open Polybuild.Path (IsName)

variable {d d' : Disk} {l m : Location} {piece : String} {p : Path}

/-- Empty pieces, which stand for slashes at the end of a path, stay in a directory. -/
theorem follow_blanks {blanks : List String} (hblank : ∀ s ∈ blanks, s = "")
    (hdir : d.isDirectoryAt l = true) : d.follow l blanks = .ok l := by
  induction blanks with
  | nil => rfl
  | cons piece rest ih =>
      obtain rfl := hblank piece List.mem_cons_self
      exact follow_cons_eq_ok_iff.2
        ⟨l, step_blank hdir, ih fun s hs => hblank s (List.mem_cons_of_mem _ hs)⟩

theorem foldl_further_blanks {blanks : List String} (hblank : ∀ s ∈ blanks, s = "")
    (l : Location) : blanks.foldl Location.further l = l := by
  induction blanks with
  | nil => rfl
  | cons piece rest ih =>
      obtain rfl := hblank piece List.mem_cons_self
      simpa [Location.further] using ih fun s hs => hblank s (List.mem_cons_of_mem _ hs)

/-- Some pieces are all empty, or there is a last one that is not. -/
theorem forall_blank_or_exists_last (pieces : List String) :
    (∀ s ∈ pieces, s = "") ∨ ∃ before last blanks,
      pieces = before ++ last :: blanks ∧ last ≠ "" ∧ ∀ s ∈ blanks, s = "" := by
  induction pieces with
  | nil => simp
  | cons piece rest ih =>
      rcases ih with hblank | ⟨before, last, blanks, rfl, hlast, hblank⟩
      · by_cases hpiece : piece = ""
        · left
          simpa [hpiece] using hblank
        · exact Or.inr ⟨[], piece, rest, rfl, hpiece, hblank⟩
      · exact Or.inr ⟨piece :: before, last, blanks, rfl, hlast, hblank⟩

theorem spot_of_blank (hu : unusable? p = none)
    (hblank : ∀ s ∈ Text.split '/' p.text, s = "") : d.spot p = .ok .standing := by
  have hdrop : (Text.split '/' p.text).reverse.dropWhile (· == "") = [] := by
    rw [List.dropWhile_eq_nil_iff]
    simpa using hblank
  simp only [spot, hu, hdrop]

/-- What stands at the end of a path is told from the directory before its last piece. -/
theorem spot_of_last {before blanks : List String} {last : String} (hu : unusable? p = none)
    (hpieces : Text.split '/' p.text = before ++ last :: blanks) (hlast : last ≠ "")
    (hblank : ∀ s ∈ blanks, s = "") :
    d.spot p = (d.follow (d.start p) before).bind fun dir =>
      if d.isDirectoryAt dir then
        if last = "." ∨ last = ".." then .ok .standing
        else if longestName < last.utf8ByteSize then .error .nameTooLong
        else .ok (.entry dir last (!blanks.isEmpty))
      else if (d.entryAt? dir).isSome then .error .notADirectory
      else .error .notFound := by
  have hdrop : (before ++ last :: blanks).reverse.dropWhile (· == "") = last :: before.reverse := by
    rw [List.reverse_append, List.reverse_cons, List.append_assoc,
      List.dropWhile_append_of_pos (by simpa using hblank)]
    simp [hlast]
  have hclosed : ((before ++ last :: blanks).getLast? == some "") = !blanks.isEmpty := by
    rw [List.getLast?_append]
    cases hend : blanks.getLast? with
    | none => simp [List.getLast?_eq_none_iff.1 hend, hlast]
    | some s =>
        obtain rfl := hblank s (List.mem_of_getLast? hend)
        have hne : blanks ≠ [] := by
          rintro rfl
          simp at hend
        simp [List.getLast?_cons, hend, hne]
  simp only [spot, hu, hpieces, hdrop, hclosed, List.reverse_reverse]

/-- The name at the end of a path that is told by `spot`, and the way to its directory. -/
structure Ends (d : Disk) (p : Path) (dir : Location) (name : String) (blanks : List String) :
    Prop where
  usable : unusable? p = none
  isName : IsName name
  short : name.utf8ByteSize ≤ longestName
  isDirectoryAt : d.isDirectoryAt dir = true
  blank : ∀ s ∈ blanks, s = ""
  pieces : ∃ before, Text.split '/' p.text = before ++ name :: blanks ∧
    d.follow (d.start p) before = .ok dir

theorem exists_ends_of_spot {dir : Location} {name : String} {closed : Bool}
    (h : d.spot p = .ok (.entry dir name closed)) :
    ∃ blanks, Ends d p dir name blanks ∧ closed = !blanks.isEmpty := by
  cases hu : unusable? p with
  | some fault => simp [spot, hu] at h
  | none =>
      rcases forall_blank_or_exists_last (Text.split '/' p.text) with
        hblank | ⟨before, last, blanks, hpieces, hlast, hblank⟩
      · simp [spot_of_blank hu hblank] at h
      · rw [spot_of_last hu hpieces hlast hblank] at h
        obtain ⟨dir', hfollow, hrest⟩ := bind_eq_ok_iff.1 h
        by_cases hdir : d.isDirectoryAt dir' = true
        · by_cases hdots : last = "." ∨ last = ".."
          · simp [hdir, hdots] at hrest
          · by_cases hlong : longestName < last.utf8ByteSize
            · simp [hdir, hdots, hlong] at hrest
            · obtain ⟨rfl, rfl, rfl⟩ : dir' = dir ∧ last = name ∧ (!blanks.isEmpty) = closed := by
                simpa [hdir, hdots, hlong] using hrest
              refine ⟨blanks, ⟨hu, ?_, Nat.not_lt.1 hlong, hdir, hblank, before, hpieces, hfollow⟩,
                rfl⟩
              exact ⟨hlast, fun h => hdots (.inl h), fun h => hdots (.inr h)⟩
        · by_cases hthere : (d.entryAt? dir').isSome = true <;> simp [hdir, hthere] at hrest

section Ends

variable {dir : Location} {name : String} {blanks : List String}

theorem Ends.target_eq (h : Ends d p dir name blanks) : d.target p = name :: dir := by
  obtain ⟨before, hpieces, hfollow⟩ := h.pieces
  rw [target, hpieces, List.foldl_append, List.foldl_cons, ← eq_foldl_of_follow hfollow,
    further_of_isName h.isName, foldl_further_blanks h.blank]

/-- A path leads to the name at its end when an entry of that name stands there. It must be a
directory if slashes follow. -/
theorem Ends.locate (h : Ends d p dir name blanks) (hext : Extends d d')
    (hthere : (d'.entryAt? (name :: dir)).isSome = true)
    (hclosed : blanks = [] ∨ d'.isDirectoryAt (name :: dir) = true) :
    d'.locate p = .ok (name :: dir) := by
  obtain ⟨before, hpieces, hfollow⟩ := h.pieces
  rw [locate_eq_ok_iff, hpieces, start_congr hext.workDir, follow_append, hext.follow hfollow]
  refine ⟨h.usable, follow_cons_eq_ok_iff.2 ⟨name :: dir, ?_, ?_⟩⟩
  · refine step_eq_ok_iff.2 ⟨hext.directories dir h.isDirectoryAt, ?_, fun _ => ⟨h.short, hthere⟩⟩
    exact further_of_isName h.isName
  · rcases hclosed with rfl | hdir
    · rfl
    · exact follow_blanks h.blank hdir

end Ends

theorem isDirectoryAt_tail (h : d.isDirectoryAt l = true) : d.isDirectoryAt l.tail = true := by
  cases l with
  | nil => exact h
  | cons name dir => exact isDirectoryAt_of_isSome_cons (isSome_entryAt?_iff.2 (Or.inl h))

/-- A step that is no name leads to a directory. -/
theorem isDirectoryAt_of_step (hstep : d.step l piece = .ok m) (hno : ¬IsName piece) :
    d.isDirectoryAt m = true := by
  obtain ⟨hdir, rfl, -⟩ := step_eq_ok_iff.1 hstep
  unfold Location.further
  split
  · exact hdir
  · split
    · exact isDirectoryAt_tail hdir
    · simp_all [IsName]

theorem eq_of_follow_blanks {blanks : List String} (hblank : ∀ s ∈ blanks, s = "")
    (hfollow : d.follow l blanks = .ok m) :
    m = l ∧ (blanks ≠ [] → d.isDirectoryAt l = true) := by
  refine ⟨by rw [eq_foldl_of_follow hfollow, foldl_further_blanks hblank], fun hne => ?_⟩
  obtain ⟨piece, rest, rfl⟩ := List.exists_cons_of_ne_nil hne
  obtain ⟨next, hstep, -⟩ := follow_cons_eq_ok_iff.1 hfollow
  exact (step_eq_ok_iff.1 hstep).1

/-- What stands at the end of a path that leads somewhere: a directory at hand, or an entry that
is there. -/
theorem spot_of_locate (h : d.locate p = .ok l) :
    (d.spot p = .ok .standing ∧ d.isDirectoryAt l = true) ∨
      ∃ dir name closed, d.spot p = .ok (.entry dir name closed) ∧ l = name :: dir ∧
        (closed = true → d.isDirectoryAt l = true) ∧ d.isDirectoryAt dir = true ∧
        (d.entryAt? l).isSome = true := by
  obtain ⟨hu, hfollow⟩ := locate_eq_ok_iff.1 h
  rcases forall_blank_or_exists_last (Text.split '/' p.text) with
    hblank | ⟨before, last, blanks, hpieces, hlast, hblank⟩
  · have hne : Text.split '/' p.text ≠ [] := by simp [Text.split, Text.pieces_ne_nil]
    obtain ⟨rfl, hdir⟩ := eq_of_follow_blanks hblank hfollow
    exact Or.inl ⟨spot_of_blank hu hblank, hdir hne⟩
  · rw [hpieces, follow_append] at hfollow
    obtain ⟨dir, hbefore, hrest⟩ := bind_eq_ok_iff.1 hfollow
    obtain ⟨next, hstep, hblanks⟩ := follow_cons_eq_ok_iff.1 hrest
    obtain ⟨hdir, hfurther, hname⟩ := step_eq_ok_iff.1 hstep
    obtain ⟨rfl, hclosed⟩ := eq_of_follow_blanks hblank hblanks
    rw [spot_of_last hu hpieces hlast hblank, hbefore]
    by_cases hdots : last = "." ∨ last = ".."
    · left
      refine ⟨by simp [Except.bind, hdir, hdots], isDirectoryAt_of_step hstep ?_⟩
      exact fun h => hdots.elim h.2.1 h.2.2
    · right
      have hisName : IsName last := ⟨hlast, fun h => hdots (.inl h), fun h => hdots (.inr h)⟩
      obtain ⟨hshort, hthere⟩ := hname hisName
      rw [further_of_isName hisName] at hfurther
      subst hfurther
      refine ⟨dir, last, !blanks.isEmpty, ?_, rfl, ?_, hdir, hthere⟩
      · simp [Except.bind, hdir, hdots, Nat.not_lt.2 hshort]
      · exact fun h => hclosed (by simpa using h)

end Disk

end Polybuild
