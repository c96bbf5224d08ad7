import Polybuild.Proofs.Disk.Spelling
import Polybuild.Proofs.Disk.Way

/-!
# Relative paths

A relative path is followed from the working directory. `Moored` says that this directory is there
and has an absolute path. Then a normal path, relative or absolute, leads to its target whenever a
directory stands there that an absolute path could lead to, and it does not matter how it was
spelled before (`directory?_normalize_eq_some_iff`). There is one exception. What is left of `.` or
of `a/..` is the empty path, and that leads nowhere.
-/

namespace Polybuild

namespace Disk

open Polybuild.Path (IsName Normal arranged ofComponents)

variable {d : Disk} {p q : Path} {l : Location} {names : List String} {text : String}

/-- The working directory is there and has an absolute path. -/
def Moored (d : Disk) : Prop :=
  d.directory? d.workDir.path = some d.workDir

instance (d : Disk) : Decidable d.Moored :=
  inferInstanceAs (Decidable (d.directory? d.workDir.path = some d.workDir))

namespace Moored

theorem isDirectoryAt (h : d.Moored) : d.isDirectoryAt d.workDir = true :=
  (directory?_eq_some_iff.1 h).2

theorem followable_start (h : d.Moored) (p : Path) : Followable (d.start p) := by
  unfold start
  split
  · simp [Followable]
  · refine followable_of_locate (directory?_eq_some_iff.1 h).1 ?_
    simp [start_of_isAbsolute (isAbsolute_path _), Followable]

theorem followable (h : d.Moored) (hp : d.directory? p = some l) : Followable l :=
  followable_of_locate (directory?_eq_some_iff.1 hp).1 (h.followable_start p)

end Moored

/-! ## Where a normal path leads -/

theorem foldl_through_arranged (root : Bool) (ups : Nat) (names : List String) (l : Location) :
    (arranged root ups names).foldl Location.through l =
      names.reverse ++ (if root then [] else l).drop ups := by
  have hups : ∀ base : Location,
      (List.replicate ups Component.up).foldl Location.through base = base.drop ups := by
    intro base
    induction ups generalizing base with
    | zero => rfl
    | succ ups ih => rw [List.replicate_succ, List.foldl_cons, ih, ← List.drop_tail]; rfl
  have hnames : ∀ base : Location,
      (names.map Component.name).foldl Location.through base = names.reverse ++ base := by
    intro base
    induction names generalizing base with
    | nil => rfl
    | cons name names ih => simp [ih, Location.through]
  rw [arranged, List.foldl_append, List.foldl_append, hups, hnames]
  cases root <;> rfl

/-- Two dots and then names lead to a directory whose names can be followed. -/
theorem follow_ups_names {base : Location} {ups : Nat} (hbase : d.isDirectoryAt base = true)
    (hl : l = names.reverse ++ base.drop ups) (hfollow : Followable l)
    (hdir : d.isDirectoryAt l = true) :
    d.follow base (List.replicate ups ".." ++ names) = .ok l := by
  subst hl
  rw [follow_replicate_up hbase]
  simpa using follow_of_followable hfollow (isSome_entryAt?_iff.2 (Or.inl hdir))

theorem way_arranged (hwork : d.isDirectoryAt d.workDir = true) {root : Bool} {ups : Nat}
    (hl : l = names.reverse ++ (if root then [] else d.workDir).drop ups)
    (hfollow : Followable l) (hdir : d.isDirectoryAt l = true) :
    d.way (arranged root ups names) = .ok l := by
  have hpieces : (arranged root ups names).map Component.piece =
      (if root then [""] else []) ++ (List.replicate ups ".." ++ names) := by
    cases root <;> simp [arranged, Component.piece, Component.text, Function.comp_def]
  have hroot : .root ∈ arranged root ups names ↔ root = true := by
    cases root <;> simp [arranged, List.mem_replicate]
  simp only [way, hpieces, hroot]
  cases root with
  | false => exact follow_ups_names hwork hl hfollow hdir
  | true =>
      have hblank : d.step [] "" = .ok [] := step_blank rfl
      simp only [↓reduceIte, List.singleton_append, follow, hblank]
      exact follow_ups_names rfl hl hfollow hdir

/-- A normal path that is not empty leads to its target, if a directory stands there whose names
can be followed. -/
theorem directory?_ofComponents (hwork : d.isDirectoryAt d.workDir = true) {root : Bool} {ups : Nat}
    (h : Normal (arranged root ups names)) (hne : arranged root ups names ≠ [])
    (hl : l = names.reverse ++ (if root then [] else d.workDir).drop ups)
    (hfollow : Followable l) (hdir : d.isDirectoryAt l = true) :
    d.directory? (ofComponents (arranged root ups names)) = some l := by
  have hnul : '\x00' ∉ (ofComponents (arranged root ups names)).text.toList := by
    rw [nul_mem_ofComponents_iff h]
    rintro ⟨c, hc, hmem⟩
    cases c with
    | name s =>
        have hname : s ∈ names := by
          cases root <;> simpa [arranged, List.mem_replicate] using hc
        exact (hfollow s (by simp [hl, hname])).2.1 hmem
    | _ => exact absurd hmem (by decide)
  have hu : unusable? (ofComponents (arranged root ups names)) = none :=
    unusable?_eq_none_iff.2 ⟨hnul, Path.text_ofComponents_ne_empty h hne⟩
  exact directory?_eq_some_iff.2
    ⟨(locate_ofComponents h hne hu).trans (way_arranged hwork hl hfollow hdir), hdir⟩

/-- A normal path that is not empty leads to the directory that stands at its target, however the
path is spelled. -/
theorem directory?_normalize_eq_some_iff (h : d.Moored) :
    d.directory? p.normalize = some l ↔
      p.normalize.text ≠ "" ∧ l = d.target p ∧ Followable l ∧ d.isDirectoryAt l = true := by
  constructor
  · intro hp
    obtain ⟨hlocate, hdir⟩ := directory?_eq_some_iff.1 hp
    refine ⟨(unusable?_eq_none_iff.1 (locate_eq_ok_iff.1 hlocate).1).2, ?_, h.followable hp, hdir⟩
    rw [← target_normalize]
    exact eq_target_of_locate hlocate
  · rintro ⟨hne, hl, hfollow, hdir⟩
    obtain ⟨⟨root, ups, names, hshape⟩, hproper⟩ := Path.normal_normalComponents p
    have hpath : p.normalize = ofComponents (arranged root ups names) := by
      rw [Path.normalize, hshape]
    rw [hpath] at hne ⊢
    refine directory?_ofComponents h.isDirectoryAt ⟨⟨root, ups, names, rfl⟩, hshape ▸ hproper⟩
      ?_ ?_ hfollow hdir
    · rintro hempty
      exact hne (by rw [hempty]; rfl)
    · rw [hl, ← target_normalize, target_eq_foldl, Path.components_normalize, hshape,
        foldl_through_arranged]

theorem directory?_normalize (h : d.Moored) (hp : d.directory? p = some l)
    (hne : p.normalize.text ≠ "") : d.directory? p.normalize = some l := by
  obtain ⟨hlocate, hdir⟩ := directory?_eq_some_iff.1 hp
  exact (directory?_normalize_eq_some_iff h).2
    ⟨hne, eq_target_of_locate hlocate, h.followable hp, hdir⟩

/-- Normal paths with one target lead to one place, if none of them is empty. -/
theorem Moored.directory?_normalize_congr (h : d.Moored) (hp : p.normalize.text ≠ "")
    (hq : q.normalize.text ≠ "") (htarget : d.target p = d.target q) :
    d.directory? p.normalize = d.directory? q.normalize := by
  apply Option.ext
  intro l
  rw [directory?_normalize_eq_some_iff h, directory?_normalize_eq_some_iff h, htarget]
  simp [hp, hq]

/-- A path that nothing is left of has led to the working directory. -/
theorem target_of_normalize_empty (h : p.normalize.text = "") : d.target p = d.workDir := by
  rw [← target_normalize, target_of_empty h]

theorem directory?_of_empty (h : p.text = "") : d.directory? p = none := by
  simp [directory?, locate, unusable?, h]

/-- Where something is found by joining a name to a path, a directory stands. -/
theorem directory?_of_locate_join (hp : p.text ≠ "") (hslash : '/' ∉ text.toList)
    (h : d.locate (p.join text) = .ok l) : d.directory? p = some (d.target p) := by
  have hhead : text.toList.head? ≠ some '/' := fun h => hslash (List.mem_of_head? h)
  have htext : (⟨text⟩ : Path).isAbsolute = false := by simpa [Path.isAbsolute] using hhead
  obtain ⟨hu, hfollow⟩ := locate_eq_ok_iff.1 h
  obtain ⟨front, hjoin, hfront⟩ := Path.exists_front_of_join hp htext
  rw [start_join hp htext, hjoin, Text.split_of_not_mem hslash, follow_append] at hfollow
  obtain ⟨dir, hdir, hlast⟩ := bind_eq_ok_iff.1 hfollow
  obtain ⟨next, hstep, -⟩ := follow_cons_eq_ok_iff.1 hlast
  have hthere := (step_eq_ok_iff.1 hstep).1
  have hto : d.follow (d.start p) (Text.split '/' p.text) = .ok dir := by
    rcases hfront with hfront | hfront
    · rw [hfront, hdir]
    · rw [hfront, follow_append, hdir]
      simp [Except.bind, follow, step_blank hthere]
  have hused : unusable? p = none := by
    refine unusable?_eq_none_iff.2 ⟨fun hnul => (unusable?_eq_none_iff.1 hu).1 ?_, hp⟩
    simp only [Path.join, htext, hp, Bool.false_or, beq_iff_eq, ↓reduceIte]
    split <;> simp [hnul]
  have hlocate := locate_eq_ok_iff.2 ⟨hused, hto⟩
  exact directory?_eq_some_iff.2 ⟨eq_target_of_locate hlocate ▸ hlocate,
    eq_target_of_locate hlocate ▸ hthere⟩

/-- What is joined to the path of a directory is followed from there, and what is joined to the
empty path is followed from the working directory. -/
theorem locate_join_eq_follow (hp : p.text = "" ∨ d.directory? p = some (d.target p))
    (htext : (⟨text⟩ : Path).isAbsolute = false) (hne : text ≠ "") :
    d.locate (p.join text) =
      if '\x00' ∈ text.toList then .error .nulInName
      else d.follow (d.target p) (Text.split '/' text) := by
  rcases hp with hempty | hp
  · have hjoin : p.join text = ⟨text⟩ := by simp [Path.join, hempty]
    rw [hjoin, target_of_empty hempty]
    by_cases hnul : '\x00' ∈ text.toList <;>
      simp [locate, unusable?, start, hnul, hne, htext]
  · exact locate_join hp htext

end Disk

end Polybuild
