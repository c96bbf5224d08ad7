import Polybuild.Proofs.Disk.Inside

/-!
# Absolute paths

A normal absolute path goes up from the root, which leads nowhere else, and then down by names:
`rooted` spells it. What is joined to an absolute path or made normal is absolute again, and what a
relative text is joined to decides whether the joined path is.
-/

namespace Polybuild

namespace Text

variable {sep c : Char}

theorem mem_joinWith (hc : c ≠ sep) (ps : List (List Char)) :
    c ∈ joinWith sep ps ↔ ∃ p ∈ ps, c ∈ p := by
  induction ps with
  | nil => simp [joinWith]
  | cons p ps ih =>
      cases ps with
      | nil => simp [joinWith]
      | cons q qs =>
          rw [joinWith, List.mem_append, List.mem_cons, ih]
          simp [hc]

end Text

namespace Path

variable {p : Path} {c : Component} {cs stack : List Component} {names : List String} {ups : Nat}
  {text : String}

/-- The path that goes up from the root, which leads nowhere else, and then down by names. -/
def rooted (ups : Nat) (names : List String) : Path :=
  ⟨"/" ++ Text.join "/" (List.replicate ups ".." ++ names)⟩

theorem isAbsolute_iff_components :
    p.isAbsolute = true ↔ ∃ cs, p.components = .root :: cs := by
  obtain ⟨piece, pieces, hpieces⟩ := List.exists_cons_of_ne_nil (split_ne_nil p.text)
  rw [Disk.isAbsolute_iff hpieces]
  constructor
  · rintro ⟨rfl, hne⟩
    exact ⟨_, components_of_split_empty hpieces hne⟩
  · rintro ⟨cs, hcs⟩
    by_cases hempty : piece = ""
    · subst hempty
      refine ⟨rfl, ?_⟩
      rintro rfl
      simp [components, parts, hpieces] at hcs
    · -- the first piece would have to stand for the root, and the others cannot
      exfalso
      rw [components_of_split hpieces hempty] at hcs
      have hroot : Component.root ∈ (if piece = "." then some .here
          else Component.ofPiece? piece).toList ++ pieces.filterMap Component.ofPiece? := by
        simp [hcs]
      have hpiece : ∀ s, Component.ofPiece? s ≠ some .root := by
        intro s hs
        rcases ofPiece?_eq_some hs with h | ⟨h, -⟩ <;> simp at h
      rcases List.mem_append.1 hroot with hmem | hmem
      · split at hmem
        · simp at hmem
        · exact hpiece piece (Option.mem_toList.1 hmem)
      · obtain ⟨s, -, hs⟩ := List.mem_filterMap.1 hmem
        exact hpiece s hs

theorem root_mem_foldl_pushNormal (h : .root ∈ stack) : .root ∈ cs.foldl pushNormal stack := by
  induction cs generalizing stack with
  | nil => exact h
  | cons c cs ih =>
      refine ih ?_
      unfold pushNormal
      split
      · exact h
      · split
        · simpa using h
        · exact List.mem_cons_of_mem _ h
      · exact List.mem_cons_of_mem _ h

theorem ofComponents_arranged (ups : Nat) (names : List String) :
    ofComponents (arranged true ups names) = rooted ups names := by
  simp [arranged, ofComponents, rooted, Component.text, Function.comp_def]

/-- A normal absolute path goes up from the root and then down by names. -/
theorem exists_rooted_of_isAbsolute (h : p.isAbsolute = true) :
    ∃ ups names, p.normalize = rooted ups names ∧ ∀ s ∈ names, IsName s ∧ '/' ∉ s.toList := by
  obtain ⟨⟨root, ups, names, hshape⟩, hproper⟩ := normal_normalComponents p
  have hnames : ∀ s ∈ names, IsName s ∧ '/' ∉ s.toList := by
    intro s hs
    have hc : Proper (.name s) := hproper _ (by simp [hshape, arranged, hs])
    exact hc
  obtain ⟨cs, hcs⟩ := isAbsolute_iff_components.1 h
  have hroot : .root ∈ arranged root ups names := by
    have hstart : Component.root ∈ pushNormal [] .root := List.mem_singleton.2 rfl
    rw [← hshape, hcs, normalComponents, List.mem_reverse, List.foldl_cons]
    exact root_mem_foldl_pushNormal hstart
  cases root with
  | false => simp [arranged, List.mem_replicate] at hroot
  | true => exact ⟨ups, names, by rw [normalize, hshape, ofComponents_arranged], hnames⟩

theorem isAbsolute_normalize (h : p.isAbsolute = true) : p.normalize.isAbsolute = true := by
  obtain ⟨ups, names, hrooted, -⟩ := exists_rooted_of_isAbsolute h
  simp [hrooted, rooted, isAbsolute]

theorem isAbsolute_join (h : p.isAbsolute = true) (text : String) :
    (p.join text).isAbsolute = true := by
  have hne := ne_empty_of_isAbsolute h
  have hhead : p.text.toList.head? = some '/' := by simpa [isAbsolute] using h
  unfold join
  split
  · rename_i habs
    simpa [hne] using habs
  · split <;> simp [isAbsolute, List.head?_append, hhead]

/-- What a relative text is joined to decides whether the path is absolute. -/
theorem isAbsolute_join_eq (hp : p.text ≠ "") (htext : (⟨text⟩ : Path).isAbsolute = false) :
    (p.join text).isAbsolute = p.isAbsolute := by
  obtain ⟨c, cs, hchars⟩ := List.exists_cons_of_ne_nil (mt String.toList_eq_nil_iff.1 hp)
  simp only [join, htext, hp, Bool.false_or, beq_iff_eq, ↓reduceIte]
  split <;> simp [isAbsolute, hchars]

end Path

end Polybuild
