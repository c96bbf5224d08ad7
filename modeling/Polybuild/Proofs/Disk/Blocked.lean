import Mathlib.Data.List.Induction
import Polybuild.Proofs.Disk.Way

/-!
# Faults that stay

On a disk that extends another one there is more to be found, so a fault stays unless it says that
something is missing. When a file cannot be placed at a normal path, the last fault is of the
lasting kind: what was missing above the path has been made, up to where a file or a name stands in
the way. So the file can never be placed there, and trying it again changes nothing.
-/

namespace Polybuild

namespace Disk

open Polybuild.Path (Normal ofComponents)

variable {d d' e : Disk} {l : Location} {piece name : String} {p : Path} {fault : Fault}
  {cs : List Component}

/-! ## What is found, and what is in the way -/

theorem Extends.isDirectoryAt_eq (h : Extends d d') (hthere : (d.entryAt? l).isSome = true) :
    d'.isDirectoryAt l = d.isDirectoryAt l := by
  rcases isSome_entryAt?_iff.1 hthere with hdir | hfile
  · rw [hdir, h.directories l hdir]
  · rw [isDirectoryAt_eq_false hfile, isDirectoryAt_eq_false (h.files l hfile)]

/-- A step has the same result later, unless something was missing. -/
theorem Extends.step_eq (h : Extends d d') (hfound : d.step l piece ≠ .error .notFound) :
    d'.step l piece = d.step l piece := by
  by_cases hthere : (d.entryAt? l).isSome = true
  · have hdir := h.isDirectoryAt_eq hthere
    have hthere' := h.isSome_entryAt? hthere
    by_cases hnext : (d.entryAt? (piece :: l)).isSome = true
    · simp only [Disk.step, hdir, hthere, hthere', hnext, h.isSome_entryAt? hnext]
    · simp only [Disk.step, hdir, hthere, hthere', hnext] at hfound ⊢
      grind
  · have hnone : d.isDirectoryAt l = false := by
      rw [← Bool.not_eq_true]
      exact fun hdir => hthere (isSome_entryAt?_iff.2 (Or.inl hdir))
    exact absurd (by simp [Disk.step, hnone, hthere]) hfound

theorem Extends.follow_eq {pieces : List String} (h : Extends d d')
    (hfound : d.follow l pieces ≠ .error .notFound) : d'.follow l pieces = d.follow l pieces := by
  induction pieces generalizing l with
  | nil => rfl
  | cons piece rest ih =>
      have hstep : d.step l piece ≠ .error .notFound := by
        intro hstep
        exact hfound (by simp [Disk.follow, hstep, Except.bind])
      rw [Disk.follow, Disk.follow, h.step_eq hstep]
      cases hnext : d.step l piece with
      | error fault => rfl
      | ok next =>
          apply ih
          simpa [Disk.follow, hnext, Except.bind] using hfound

/-- What stands at the end of a path is told in the same way later, unless something was missing. -/
theorem Extends.spot_eq (h : Extends d d') (hfound : d.spot p ≠ .error .notFound) :
    d'.spot p = d.spot p := by
  cases hu : unusable? p with
  | some fault => simp only [Disk.spot, hu]
  | none =>
      rcases forall_blank_or_exists_last (Text.split '/' p.text) with
        hblank | ⟨before, last, blanks, hpieces, hlast, hblank⟩
      · rw [spot_of_blank hu hblank, spot_of_blank hu hblank]
      · rw [spot_of_last hu hpieces hlast hblank] at hfound ⊢
        rw [spot_of_last hu hpieces hlast hblank, start_congr h.workDir]
        have hfollow : d.follow (d.start p) before ≠ .error .notFound := by
          intro hfollow
          exact hfound (by simp [hfollow, Except.bind])
        rw [h.follow_eq hfollow]
        cases hway : d.follow (d.start p) before with
        | error fault => rfl
        | ok dir =>
            simp only [hway, Except.bind] at hfound ⊢
            by_cases hthere : (d.entryAt? dir).isSome = true
            · simp only [h.isDirectoryAt_eq hthere, hthere, h.isSome_entryAt? hthere]
            · have hnone : d.isDirectoryAt dir = false := by
                rw [← Bool.not_eq_true]
                exact fun hdir => hthere (isSome_entryAt?_iff.2 (Or.inl hdir))
              exact absurd (by simp [hnone, hthere]) hfound

/-- A file that cannot be written cannot be written later, unless something was missing. -/
theorem Extends.write_eq_error {content : ByteArray} (h : Extends d d')
    (hwrite : d.write p content = .error fault) (hfault : fault ≠ .notFound) :
    d'.write p content = .error fault := by
  rcases bind_eq_error_iff.1 hwrite with hspot | ⟨spot, hspot, hwritten⟩
  · have hfound : d.spot p ≠ .error .notFound := by simpa [hspot] using hfault
    simp only [Disk.write, h.spot_eq hfound, hspot, Except.bind]
  · have hfound : d.spot p ≠ .error .notFound := by simp [hspot]
    simp only [Disk.write, h.spot_eq hfound, hspot, Except.bind]
    cases spot with
    | standing => exact hwritten
    | entry dir name closed =>
        cases closed with
        | true => exact hwritten
        | false =>
            obtain ⟨blanks, hends, -⟩ := exists_ends_of_spot hspot
            simp only [Bool.false_eq_true, ↓reduceIte] at hwritten ⊢
            split at hwritten
            · rename_i hdir
              have hlater := h.directories _ (isDirectoryAt_iff.2 hdir)
              rw [isDirectoryAt_iff.1 hlater]
              exact hwritten
            · simp at hwritten
            · rename_i hnone
              simp [createAt?, isDirectoryAt_iff.1 hends.isDirectoryAt, hnone] at hwritten

theorem write_eq_notFound {content : ByteArray} (h : d.write p content = .error .notFound) :
    d.spot p = .error .notFound := by
  rcases bind_eq_error_iff.1 h with hspot | ⟨spot, -, hwritten⟩
  · exact hspot
  · cases spot with
    | standing => simp at hwritten
    | entry dir name closed => grind

/-! ## Directories that cannot be made -/

/-- Something lasting is in the way of a directory: above it, or a file in its place. -/
inductive Blocked (d : Disk) (p : Path) : Fault → Prop where
  | above {fault : Fault} (spot : d.spot p = .error fault) (lasting : fault ≠ .notFound) :
      Blocked d p fault
  | taken (file : d.isFile p = true) : Blocked d p .alreadyExists

theorem Blocked.extend (h : Blocked d p fault) (hext : Extends d d') : Blocked d' p fault := by
  cases h with
  | above spot lasting =>
      have hfound : d.spot p ≠ .error .notFound := by simpa [spot] using lasting
      exact .above ((hext.spot_eq hfound).trans spot) lasting
  | taken file => exact .taken (hext.isFile file)

/-- A path that is blocked is no directory and cannot be made one. -/
theorem Blocked.makeFirst_eq {above : List Path} (h : Blocked d p fault) :
    d.makeFirst (p :: above) = (some fault, d) := by
  have hmake : d.makeDirectory p = .error fault ∧ fault ≠ .notFound ∧ d.isDirectory p = false := by
    cases h with
    | above spot lasting =>
        refine ⟨by simp [makeDirectory, spot, Except.bind], lasting, ?_⟩
        rw [← Bool.not_eq_true]
        intro hdir
        obtain ⟨l, hlocate, -⟩ := isDirectory_iff.1 hdir
        rcases spot_of_locate hlocate with ⟨hspot, -⟩ | ⟨_, _, _, hspot, -⟩ <;>
          simp [hspot] at spot
    | taken file =>
        obtain ⟨l, hlocate, hfile⟩ := isFile_iff.1 file
        have hno : d.isDirectoryAt l = false := isDirectoryAt_eq_false hfile
        refine ⟨?_, by simp, ?_⟩
        · rcases spot_of_locate hlocate with ⟨-, hdir⟩ | ⟨dir, name, closed, hspot, rfl, -, -, hthere⟩
          · simp [hno] at hdir
          · simp [makeDirectory, hspot, Except.bind, createAt?_eq_none hthere]
        · rw [← Bool.not_eq_true]
          intro hdir
          obtain ⟨m, hlocate', hdir⟩ := isDirectory_iff.1 hdir
          obtain rfl := Except.ok.inj (hlocate.symm.trans hlocate')
          simp [hno] at hdir
  obtain ⟨hmake, hlasting, hdir⟩ := hmake
  have hne : p.text ≠ "" := by
    intro hempty
    have hfault : d.makeDirectory p = .error .notFound := by
      simp [makeDirectory, spot, unusable?, hempty, Except.bind]
    rw [hfault] at hmake
    exact hlasting (Except.error.inj hmake).symm
  rw [makeFirst, if_neg hne, hmake]
  cases fault <;> simp_all

/-! ## The directories above a normal path -/

theorem makeDirectory_eq_notFound (h : d.makeDirectory p = .error .notFound) :
    d.spot p = .error .notFound := by
  rcases bind_eq_error_iff.1 h with hspot | ⟨spot, -, hmade⟩
  · exact hspot
  · cases spot with
    | standing => simp at hmade
    | entry dir name closed =>
        cases hcreate : d.createAt? dir name .directory <;> simp [hcreate] at hmade

/-- What is found in the way of a directory is lasting. -/
theorem blocked_of_makeDirectory (h : Normal (cs ++ [.name name]))
    (hmake : d.makeDirectory (ofComponents (cs ++ [.name name])) = .error fault)
    (hdir : d.isDirectory (ofComponents (cs ++ [.name name])) = false)
    (hlasting : fault ≠ .notFound) : d.Blocked (ofComponents (cs ++ [.name name])) fault := by
  rcases bind_eq_error_iff.1 hmake with hspot | ⟨spot, hspot, hmade⟩
  · exact .above hspot hlasting
  · have hu := unusable?_eq_none (d := d) (Path.text_ofComponents_ne_empty h (by simp))
      (by simp [hspot])
    have htold := hspot
    rw [spot_ofComponents_concat h hu] at htold
    obtain ⟨dir, -, hentry⟩ := bind_eq_ok_iff.1 htold
    obtain rfl : spot = .entry dir name false := by grind
    obtain ⟨blanks, hends, hblanks⟩ := exists_ends_of_spot hspot
    obtain rfl : blanks = [] := by simpa using hblanks
    cases hthere : d.entryAt? (name :: dir) with
    | none =>
        simp [createAt?, isDirectoryAt_iff.1 hends.isDirectoryAt, hthere] at hmade
    | some e =>
        have hsome : (d.entryAt? (name :: dir)).isSome = true := by simp [hthere]
        have hlocate := hends.locate (.refl d) hsome (Or.inl rfl)
        have hfault : fault = .alreadyExists := by
          simpa [createAt?_eq_none hsome, eq_comm] using hmade
        rw [hfault]
        refine .taken (isFile_iff.2 ⟨_, hlocate, ?_⟩)
        refine (isSome_entryAt?_iff.1 hsome).resolve_left fun hat => ?_
        rw [isDirectory_iff.2 ⟨_, hlocate, hat⟩] at hdir
        exact absurd hdir (by simp)

/-- Directories above a normal path that cannot all be made are blocked for good: every one that was
missing is there now, up to the one with something in its way. -/
theorem blocked_of_makeFirst (h : Normal cs) (hwork : d.isDirectoryAt d.workDir = true)
    (hmake : d.makeFirst (ofComponents cs :: (ofComponents cs).above) = (some fault, d')) :
    d'.Blocked (ofComponents cs) fault ∧ ∃ front name, cs = front ++ [.name name] := by
  induction cs using List.reverseRecOn generalizing d' fault with
  | nil => simp [makeFirst, ofComponents] at hmake
  | append_singleton front c ih =>
      by_cases hc : ∃ s, c = .name s
      · obtain ⟨name, rfl⟩ := hc
        refine ⟨?_, front, name, rfl⟩
        have hfront := h.of_concat
        have hne := Path.text_ofComponents_ne_empty h (by simp)
        rw [Path.above_ofComponents_concat h (by simp), makeFirst, if_neg hne] at hmake
        split at hmake
        · simp at hmake
        · rename_i hmissing
          have hspot := makeDirectory_eq_notFound hmissing
          have hu := unusable?_eq_none (d := d) hne (by simp [hspot])
          rw [if_neg (by simp)] at hmake
          split at hmake
          · rename_i found below habove
            obtain ⟨hfault, rfl⟩ := Prod.mk.inj hmake
            obtain rfl := Option.some.inj hfault
            obtain ⟨hblocked, before, last, rfl⟩ := ih hfront habove
            have hopened := (makeFirst_eq habove).1
            cases hblocked with
            | above hway hlasting => exact .above (spot_eq_error_of_above h hu hway hlasting) hlasting
            | taken hfile =>
                -- the file was there at the start, and then nothing would have been missing
                obtain ⟨l, hlocate, hl⟩ := isFile_iff.1 hfile
                rw [hopened.files] at hl
                have hplain := (Path.isNormal_ofComponents hfront).plain
                have hfound := hopened.extension.locate_of_plain hplain hwork hlocate
                  (isSome_entryAt?_iff.2 (Or.inr hl))
                have hfile := isFile_iff.2 ⟨l, hfound, hl⟩
                exact absurd hspot (spot_ne_notFound_of_isFile h hfile hu)
          · rename_i below habove
            obtain ⟨hopened, hthere⟩ := makeFirst_eq habove
            have hwork' := hopened.extension.isDirectoryAt_workDir hwork
            have hparent := hthere rfl _ rfl
            split at hmake
            · simp at hmake
            · rename_i found hmade
              obtain ⟨hfault, rfl⟩ := Prod.mk.inj hmake
              obtain ⟨hdir, rfl⟩ : below.isDirectory (ofComponents (front ++ [.name name])) = false ∧
                  found = fault := by simpa using hfault
              refine blocked_of_makeDirectory h hmade hdir ?_
              rintro rfl
              exact spot_ne_notFound_of_isDirectory h hwork' hparent hu
                (makeDirectory_eq_notFound hmade)
        · rename_i found hlasting hmade
          obtain ⟨hfault, rfl⟩ := Prod.mk.inj hmake
          obtain ⟨hdir, rfl⟩ : d.isDirectory (ofComponents (front ++ [.name name])) = false ∧
              found = fault := by simpa using hfault
          exact blocked_of_makeDirectory h hmade hdir hlasting
      · have hdir := isDirectory_ofComponents h hwork fun s hs => hc ⟨s, hs⟩
        simp [makeFirst_of_isDirectory (Or.inr hdir)] at hmake

/-! ## Files that cannot be placed -/

theorem needed_ofComponents (h : Normal (cs ++ [.name name])) :
    needed (ofComponents (cs ++ [.name name])) = ofComponents cs :: (ofComponents cs).above := by
  simp [needed, Path.parent?, Path.above_ofComponents_concat h]

/-- A file that could not be placed cannot be placed on a later disk either, and the later disk
stays as it is. -/
theorem Extends.place_again {text : String} (hext : Extends d' e) (hp : p.IsNormal)
    (hname : p.fileName?.isSome = true) (hwork : d.isDirectoryAt d.workDir = true)
    (hplace : d.place p text = (some fault, d')) : e.place p text = (some fault, e) := by
  have h := hp.normal
  obtain ⟨name, hlast⟩ := Path.exists_getLast?_of_fileName? hname
  obtain ⟨cs, hcs⟩ := List.getLast?_eq_some_iff.1 hlast
  rw [hcs] at h
  rw [hp.eq_ofComponents, hcs] at hplace ⊢
  rw [place_eq_makeFirst, needed_ofComponents h] at hplace ⊢
  split at hplace
  · rename_i found below hmake
    obtain ⟨hfault, rfl⟩ := Prod.mk.inj hplace
    obtain rfl := Option.some.inj hfault
    obtain ⟨hblocked, -⟩ := blocked_of_makeFirst h.of_concat hwork hmake
    rw [(hblocked.extend hext).makeFirst_eq]
  · rename_i below hmake
    obtain ⟨hopened, hthere⟩ := makeFirst_eq hmake
    have hwork' := hopened.extension.isDirectoryAt_workDir hwork
    have hparent := hthere rfl _ rfl
    split at hplace
    · simp at hplace
    · rename_i found hwrite
      obtain ⟨hfault, rfl⟩ := Prod.mk.inj hplace
      obtain rfl := Option.some.inj hfault
      rw [makeFirst_of_isDirectory (hparent.imp_right hext.isDirectory)]
      have hlasting : found ≠ .notFound := by
        rintro rfl
        have hspot := write_eq_notFound hwrite
        have hne := Path.text_ofComponents_ne_empty h (by simp)
        have hu := unusable?_eq_none (d := below) hne (by simp [hspot])
        exact spot_ne_notFound_of_isDirectory h hwork' hparent hu hspot
      simp only [writeText, hext.write_eq_error hwrite hlasting]

end Disk

end Polybuild
