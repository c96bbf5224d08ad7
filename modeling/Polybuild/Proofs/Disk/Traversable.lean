import Polybuild.Proofs.Disk.Chain
import Polybuild.Proofs.Disk.Spelling

/-!
# Disks that can be walked through

On a disk that is `Traversable`, every entry has names that a path can be followed through: they are
names, not too long, and without slashes and NUL characters. A disk lists its entries without
following any path to them, and this is what it takes for a path to lead to each of them.

No entry with other names can be made, because a path is followed to the directory that it is made
in. So what a run places on a disk keeps it traversable.
-/

namespace Polybuild

namespace Disk

variable {d d' : Disk} {p : Path} {dir : Location} {name : String} {blanks : List String}
  {content : ByteArray} {allowed : Disk → Path → Prop}

/-- Every entry has names that a path can be followed through. -/
def Traversable (d : Disk) : Prop :=
  ∀ l, (d.entryAt? l).isSome = true → Followable l

/-- A name that an entry can be made with, in a directory that is there. -/
theorem Ends.followable (h : Ends d p dir name blanks) (hd : d.Traversable) :
    Followable (name :: dir) := by
  obtain ⟨before, hpieces, -⟩ := h.pieces
  have hname : name ∈ Text.split '/' p.text := by simp [hpieces]
  refine List.forall_mem_cons.2 ⟨⟨⟨h.isName, Path.not_mem_of_mem_split hname⟩,
    not_nul_of_mem_split h.usable hname, h.short⟩, ?_⟩
  exact hd dir (isSome_entryAt?_iff.2 (Or.inl h.isDirectoryAt))

theorem Traversable.makeDirectory (hd : d.Traversable) (h : d.makeDirectory p = .ok d') :
    d'.Traversable := by
  obtain ⟨hopened, -⟩ := makeDirectory_eq_ok h
  obtain ⟨spot, hspot, hmade⟩ := bind_eq_ok_iff.1 h
  cases spot with
  | standing => simp at hmade
  | entry dir name closed =>
      obtain ⟨blanks, hends, -⟩ := exists_ends_of_spot hspot
      intro l hl
      rcases isSome_entryAt?_iff.1 hl with hdir | hfile
      · rcases hopened.new l hdir with hold | ⟨q, hq, rfl⟩
        · exact hd l (isSome_entryAt?_iff.2 (Or.inl hold))
        · rw [List.mem_singleton.1 hq, hends.target_eq]
          exact hends.followable hd
      · rw [hopened.files] at hfile
        exact hd l (isSome_entryAt?_iff.2 (Or.inr hfile))

theorem Traversable.write (hd : d.Traversable) (h : d.write p content = .ok d') :
    d'.Traversable := by
  have hwrote := write_eq_ok h
  obtain ⟨spot, hspot, hwritten⟩ := bind_eq_ok_iff.1 h
  cases spot with
  | standing => simp at hwritten
  | entry dir name closed =>
      obtain ⟨blanks, hends, -⟩ := exists_ends_of_spot hspot
      intro l hl
      by_cases htarget : l = d.target p
      · rw [htarget, hends.target_eq]
        exact hends.followable hd
      · rw [isSome_entryAt?_iff, hwrote.directories, hwrote.fileAt?, if_neg htarget,
          ← isSome_entryAt?_iff] at hl
        exact hd l hl

/-! ## Runs -/

theorem Traversable.makeFirst {ps : List Path} {fault : Option Fault} (hd : d.Traversable)
    (h : d.makeFirst ps = (fault, d')) : d'.Traversable := by
  induction ps generalizing fault d' with
  | nil =>
      obtain ⟨-, rfl⟩ := Prod.mk.inj h
      exact hd
  | cons p above ih =>
      obtain ⟨below, hfirst, hlast⟩ := makeFirst_cons_eq h
      have hbelow : below.Traversable := by
        rcases hfirst with rfl | ⟨fault, habove⟩
        · exact hd
        · exact ih habove
      rcases hlast with hmade | ⟨rfl, -⟩
      · exact hbelow.makeDirectory hmade
      · exact hbelow

theorem Traversable.place {text : String} {fault : Option Fault} (hd : d.Traversable)
    (h : d.place p text = (fault, d')) : d'.Traversable := by
  rw [place_eq_makeFirst] at h
  split at h
  · rename_i hneeded
    obtain ⟨-, rfl⟩ := Prod.mk.inj h
    exact hd.makeFirst hneeded
  · rename_i below hneeded
    have hbelow := hd.makeFirst hneeded
    split at h
    · rename_i written hwrite
      obtain ⟨-, rfl⟩ := Prod.mk.inj h
      exact hbelow.write hwrite
    · obtain ⟨-, rfl⟩ := Prod.mk.inj h
      exact hbelow

end Disk

end Polybuild
