import Mathlib.Data.List.Chain
import Mathlib.Data.List.Infix
import Polybuild.Proofs.Disk.Relative

/-!
# The directories above an absolute path

`above` takes the components of a path off from its end, and none is folded away before. So it does
not lead straight up from a path with two dots: where two dots are taken off, it goes back down to
the directory that they left. What can be said of it is that every path on the way leads to a
directory (`directory?_of_mem_above`), that it takes a single step at a time and that it ends at the
root (`isChain_target_above`). A walk of single steps passes over no directory above its start
(`suffix_of_isChain`).
-/

namespace Polybuild

open Polybuild.Path (Normal ofComponents)

/-! ## Walks of single steps -/

namespace Location

variable {cs : List Component} {l m n next : Location} {before after : List Location}

/-- A location is one of some components away from the next one. -/
def Adjoins (cs : List Component) (l next : Location) : Prop :=
  ∃ c ∈ cs, c ≠ .root ∧ l = next.through c

theorem Adjoins.mono {cs' : List Component} (h : l.Adjoins cs next) (hsub : cs ⊆ cs') :
    l.Adjoins cs' next := by
  obtain ⟨c, hc, hroot, hl⟩ := h
  exact ⟨c, hsub hc, hroot, hl⟩

/-- A step up leaves no directory above but the one that it starts from. -/
theorem Adjoins.suffix (h : l.Adjoins cs next) (hn : n <:+ l) (hne : n ≠ l) : n <:+ next := by
  obtain ⟨c, -, hroot, rfl⟩ := h
  cases c with
  | root => exact absurd rfl hroot
  | here => exact hn
  | up => exact hn.trans (List.tail_suffix next)
  | name s => exact (List.suffix_cons_iff.1 hn).resolve_left hne

/-- Names lead straight up. -/
theorem Adjoins.suffix_of_not_up (h : l.Adjoins cs next) (hup : .up ∉ cs) : next <:+ l := by
  obtain ⟨c, hc, hroot, rfl⟩ := h
  cases c with
  | root => exact absurd rfl hroot
  | here => exact List.suffix_refl next
  | up => exact absurd hc hup
  | name s => exact List.suffix_cons s next

/-- A walk stays below a directory until it meets it. -/
theorem suffix_of_isChain (h : (before ++ m :: after).IsChain (Adjoins cs))
    (hstart : ∀ first ∈ (before ++ m :: after).head?, n <:+ first) (hmiss : n ∉ before) :
    n <:+ m := by
  induction before with
  | nil => exact hstart m rfl
  | cons first before ih =>
      rw [List.mem_cons, not_or] at hmiss
      rw [List.cons_append, List.isChain_cons] at h
      refine ih h.2 (fun next hnext => ?_) hmiss.2
      exact (h.1 next hnext).suffix (hstart first rfl) hmiss.1

theorem suffix_of_isChain_of_not_up (h : (l :: after).IsChain (Adjoins cs)) (hup : .up ∉ cs) :
    ∀ m ∈ after, m <:+ l := by
  induction after generalizing l with
  | nil => simp
  | cons next after ih =>
      rw [List.isChain_cons_cons] at h
      have hnext := h.1.suffix_of_not_up hup
      rw [List.forall_mem_cons]
      exact ⟨hnext, fun m hm => (ih h.2 m hm).trans hnext⟩

end Location

/-! ## The parts of an absolute path -/

namespace Path

variable {p : Path} {pieces : List String} {s : String} {c : Component}

/-- The parts of the path that has some pieces behind the root. -/
def rootedParts (pieces : List String) : List (String × Option Component) :=
  ("", some .root) :: pieces.map fun s => (s, Component.ofPiece? s)

theorem rootedParts_concat (pieces : List String) (s : String) :
    (rootedParts (pieces ++ [s])).reverse =
      (s, Component.ofPiece? s) :: (rootedParts pieces).reverse := by
  simp [rootedParts]

/-- The path up to some pieces behind the root, without blanks and dots at its end. -/
def upTo (pieces : List String) : Path :=
  ofReversedParts ((rootedParts pieces).reverse.dropWhile fun part => part.2.isNone)

/-- The directories above the path that has some pieces behind the root. -/
def aboveRooted (pieces : List String) : List Path :=
  aboveParts (rootedParts pieces).reverse

theorem upTo_concat_of_none (h : Component.ofPiece? s = none) :
    upTo (pieces ++ [s]) = upTo pieces := by
  rw [upTo, rootedParts_concat, h, List.dropWhile_cons_of_pos rfl, ← upTo]

theorem upTo_concat_of_some (h : Component.ofPiece? s = some c) :
    upTo (pieces ++ [s]) = ⟨Text.join "/" ("" :: (pieces ++ [s]))⟩ := by
  rw [upTo, rootedParts_concat, h, List.dropWhile_cons_of_neg (by simp)]
  unfold ofReversedParts
  split
  · rename_i heq
    simp [rootedParts] at heq
  · simp [rootedParts, Function.comp_def]

@[simp] theorem aboveRooted_nil : aboveRooted [] = [] := rfl

theorem aboveRooted_concat_of_none (h : Component.ofPiece? s = none) :
    aboveRooted (pieces ++ [s]) = aboveRooted pieces := by
  rw [aboveRooted, rootedParts_concat, h, aboveParts, ← aboveRooted]

/-- A component is taken off with all that stands behind it. -/
theorem aboveRooted_concat_of_some (h : Component.ofPiece? s = some c) :
    aboveRooted (pieces ++ [s]) = upTo pieces :: aboveRooted pieces := by
  rw [aboveRooted, rootedParts_concat, h]
  rcases ofPiece?_eq_some h with rfl | ⟨rfl, -⟩ <;> rfl

theorem exists_rootedParts (h : p.isAbsolute = true) :
    ∃ pieces, Text.split '/' p.text = "" :: pieces ∧ p.above = aboveRooted pieces ∧
      p.components = .root :: pieces.filterMap Component.ofPiece? := by
  obtain ⟨piece, pieces, hsplit⟩ := List.exists_cons_of_ne_nil (split_ne_nil p.text)
  obtain ⟨rfl, hne⟩ := (Disk.isAbsolute_iff hsplit).1 h
  refine ⟨pieces, hsplit, ?_, components_of_split_empty hsplit hne⟩
  have hrest : pieces.isEmpty = false := by simpa using hne
  simp [above, aboveRooted, rootedParts, parts, hsplit, hrest]

end Path

/-! ## Where they lead -/

namespace Disk

open Polybuild.Path (upTo aboveRooted)

variable {d : Disk} {p q : Path} {pieces : List String} {l : Location} {cs : List Component}

/-- Pieces that can stand between the slashes of a path that can be used. -/
def Usable (pieces : List String) : Prop :=
  ∀ s ∈ pieces, '/' ∉ s.toList ∧ '\x00' ∉ s.toList

theorem Usable.of_concat {s : String} (h : Usable (pieces ++ [s])) : Usable pieces :=
  fun t ht => h t (List.mem_append_left _ ht)

/-- The last piece is a step from the directory that the others lead to. -/
theorem exists_follow_of_concat {base : Location} {s : String}
    (h : d.follow base (pieces ++ [s]) = .ok l) :
    ∃ dir, d.follow base pieces = .ok dir ∧ d.isDirectoryAt dir = true ∧
      l = (Component.ofPiece? s).elim dir dir.through := by
  rw [follow_append, bind_eq_ok_iff] at h
  obtain ⟨dir, hdir, hlast⟩ := h
  obtain ⟨next, hstep, hnext⟩ := follow_cons_eq_ok_iff.1 hlast
  obtain rfl : next = l := Except.ok.inj hnext
  obtain ⟨hthere, hfurther, -⟩ := step_eq_ok_iff.1 hstep
  exact ⟨dir, hdir, hthere, by rw [← further_eq, hfurther]⟩

/-- The path up to some pieces leads where they lead from the root. -/
theorem directory?_upTo (husable : Usable pieces) (h : d.follow [] pieces = .ok l)
    (hl : d.isDirectoryAt l = true) : d.directory? (upTo pieces) = some l := by
  have hblank : d.step [] "" = .ok [] := step_blank rfl
  induction pieces using List.reverseRecOn with
  | nil =>
      obtain rfl : [] = l := Except.ok.inj h
      have hfollow : d.follow [] ["", ""] = .ok [] := by simp [follow, hblank, Except.bind]
      have hslash : d.locate ⟨"/"⟩ = .ok [] := locate_eq_ok_iff.2 ⟨by decide, hfollow⟩
      exact directory?_eq_some_iff.2 ⟨hslash, rfl⟩
  | append_singleton pieces s ih =>
      cases hpiece : Component.ofPiece? s with
      | none =>
          obtain ⟨dir, hdir, hthere, hlast⟩ := exists_follow_of_concat h
          obtain rfl : l = dir := by rw [hlast, hpiece]; rfl
          rw [Path.upTo_concat_of_none hpiece]
          exact ih husable.of_concat hdir
      | some c =>
          have hsplit : Text.split '/' (upTo (pieces ++ [s])).text = "" :: (pieces ++ [s]) := by
            rw [Path.upTo_concat_of_some hpiece]
            exact Text.split_join (by simp) (by simpa using fun t ht => (husable t ht).1)
          have habs : (upTo (pieces ++ [s])).isAbsolute = true :=
            (isAbsolute_iff hsplit).2 ⟨rfl, by simp⟩
          have hu : unusable? (upTo (pieces ++ [s])) = none := by
            refine unusable?_eq_none_iff.2 ⟨?_, Path.ne_empty_of_isAbsolute habs⟩
            rw [Path.upTo_concat_of_some hpiece, Text.toList_join, Text.mem_joinWith (by decide)]
            simpa [or_imp, forall_and] using fun t ht => (husable t ht).2
          refine directory?_eq_some_iff.2 ⟨locate_eq_ok_iff.2 ⟨hu, ?_⟩, hl⟩
          rw [start_of_isAbsolute habs, hsplit, follow, hblank]
          exact h

/-- On the way up from a directory, all paths lead to directories, one step from each other, and
the last one is the root. -/
theorem isChain_aboveRooted (husable : Usable pieces) (h : d.follow [] pieces = .ok l)
    (hl : d.isDirectoryAt l = true) :
    (∀ q ∈ aboveRooted pieces, d.directory? q = some (d.target q)) ∧
      (l :: (aboveRooted pieces).map d.target).IsChain
        (Location.Adjoins (pieces.filterMap Component.ofPiece?)) ∧
      (l :: (aboveRooted pieces).map d.target).getLast? = some [] := by
  induction pieces using List.reverseRecOn generalizing l with
  | nil =>
      obtain rfl : [] = l := Except.ok.inj h
      simp
  | append_singleton pieces s ih =>
      obtain ⟨dir, hdir, hthere, hlast⟩ := exists_follow_of_concat h
      obtain ⟨hdirectory, hchain, hroot⟩ := ih husable.of_concat hdir hthere
      cases hpiece : Component.ofPiece? s with
      | none =>
          obtain rfl : l = dir := by rw [hlast, hpiece]; rfl
          rw [Path.aboveRooted_concat_of_none hpiece]
          simpa [hpiece] using ⟨hdirectory, hchain, hroot⟩
      | some c =>
          have hq := directory?_upTo husable.of_concat hdir hthere
          have htarget : d.target (upTo pieces) = dir :=
            (eq_target_of_locate (directory?_eq_some_iff.1 hq).1).symm
          have hstep : l.Adjoins ((pieces ++ [s]).filterMap Component.ofPiece?) dir := by
            refine ⟨c, by simp [hpiece], ?_, by rw [hlast, hpiece]; rfl⟩
            rcases Path.ofPiece?_eq_some hpiece with rfl | ⟨rfl, -⟩ <;> simp
          rw [Path.aboveRooted_concat_of_some hpiece, List.map_cons, htarget]
          refine ⟨List.forall_mem_cons.2 ⟨by rw [htarget, hq], hdirectory⟩, ?_, hroot⟩
          refine List.isChain_cons_cons.2 ⟨hstep, hchain.imp fun m next hm => ?_⟩
          exact hm.mono (by simp)

/-- On the way up from an absolute path of a directory, all paths lead to directories, one step
from each other, and the last one is the root. -/
theorem isChain_target_above (habs : p.isAbsolute = true) (hp : d.directory? p = some l) :
    (∀ q ∈ p :: p.above, d.directory? q = some (d.target q)) ∧
      ((p :: p.above).map d.target).IsChain (Location.Adjoins p.components) ∧
      ((p :: p.above).map d.target).getLast? = some [] := by
  obtain ⟨pieces, hsplit, habove, hcomponents⟩ := Path.exists_rootedParts habs
  obtain ⟨hlocate, hl⟩ := directory?_eq_some_iff.1 hp
  obtain ⟨hu, hfollow⟩ := locate_eq_ok_iff.1 hlocate
  have hblank : d.step [] "" = .ok [] := step_blank rfl
  rw [start_of_isAbsolute habs, hsplit, follow, hblank] at hfollow
  have husable : Usable pieces := by
    intro s hs
    have hmem : s ∈ Text.split '/' p.text := by simp [hsplit, hs]
    exact ⟨Path.not_mem_of_mem_split hmem, not_nul_of_mem_split hu hmem⟩
  obtain ⟨hdirectory, hchain, hroot⟩ := isChain_aboveRooted husable hfollow hl
  obtain rfl := eq_target_of_locate hlocate
  rw [habove, List.map_cons, hcomponents]
  refine ⟨List.forall_mem_cons.2 ⟨hp, hdirectory⟩, hchain.imp fun m next hm => ?_, hroot⟩
  exact hm.mono (by simp)

/-- Two dots in a normal absolute path stand behind the root, or behind other ones there. -/
theorem target_of_concat_up (h : Normal (cs ++ [.up])) (hroot : .root ∈ cs) :
    d.target (ofComponents cs) = [] := by
  have hnames : ∀ c ∈ cs, ∀ s, c ≠ .name s := by
    rintro c hc s rfl
    obtain ⟨t, ht⟩ := ((List.pairwise_append.1 h.pairwise).2.2 _ hc .up (by simp)).2 ⟨s, rfl⟩
    simp at ht
  have hstay : ∀ rest : List Component, (∀ c ∈ rest, ∀ s, c ≠ .name s) →
      rest.foldl Location.through [] = [] := by
    intro rest
    induction rest with
    | nil => exact fun _ => rfl
    | cons c rest ih =>
        intro hrest
        rw [List.forall_mem_cons] at hrest
        cases c with
        | name s => exact absurd rfl (hrest.1 s)
        | _ => exact ih hrest.2
  obtain ⟨rest, rfl | rfl, hrest⟩ := h.of_concat.root_or
  · rw [target_eq_foldl, Path.components_ofComponents h.of_concat]
    exact hstay rest fun c hc => hnames c (List.mem_cons_of_mem _ hc)
  · exact absurd rfl (hrest _ hroot).2.1

/-- What stands above a normal absolute path are the directories above its target. -/
theorem suffix_of_mem_above (h : Normal cs) (hroot : .root ∈ cs) :
    ∀ q ∈ (ofComponents cs).above, d.target q <:+ d.target (ofComponents cs) := by
  induction cs using List.reverseRecOn with
  | nil => simp at hroot
  | append_singleton cs c ih =>
      by_cases hc : c = .root
      · subst hc
        obtain rfl : cs = [] := by
          by_contra hne
          exact h.ne_root_of_append hne .root (by simp) rfl
        have hnone : (ofComponents [.root]).above = [] := by decide
        simp [hnone]
      · have hfront : .root ∈ cs := by simpa [Ne.symm hc] using hroot
        have hstep : d.target (ofComponents (cs ++ [c])) =
            (d.target (ofComponents cs)).through c := by
          rw [target_eq_foldl, target_eq_foldl, Path.components_ofComponents h,
            Path.components_ofComponents h.of_concat, List.foldl_append]
          rfl
        have hup : d.target (ofComponents cs) <:+ d.target (ofComponents (cs ++ [c])) := by
          rw [hstep]
          cases c with
          | root => exact absurd rfl hc
          | here => exact List.suffix_refl _
          | name s => exact List.suffix_cons s _
          | up =>
              rw [target_of_concat_up h hfront]
              exact List.nil_suffix
        rw [Path.above_ofComponents_concat h hc, List.forall_mem_cons]
        exact ⟨hup, fun q hq => (ih h.of_concat hfront q hq).trans hup⟩

end Disk

end Polybuild
