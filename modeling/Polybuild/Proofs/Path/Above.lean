import Polybuild.Proofs.Path.Components

/-!
# The pieces of a normal path and the directories above it

A normal path is cut into its components (`split_ofComponents`), so all its names stand behind its
blanks and dots. The directories above it are read off the components, too: they are spelled by all
of them but the last one, by all but the last two, and so on, up to the root or to the empty path
(`above_ofComponents_concat`).
-/

namespace Polybuild

/-- How a component is written between slashes: nothing stands before the first slash of an absolute
path. -/
def Component.piece (c : Component) : String :=
  if c = .root then "" else c.text

namespace Path

variable {cs : List Component} {c : Component}

theorem piece_of_ne_root (h : c ≠ .root) : c.piece = c.text :=
  if_neg h

theorem map_piece_of_ne_root (h : ∀ c ∈ cs, c ≠ .root) :
    cs.map Component.piece = cs.map Component.text :=
  List.map_congr_left fun c hc => piece_of_ne_root (h c hc)

theorem not_mem_piece (h : Proper c) : '/' ∉ c.piece.toList := by
  by_cases hroot : c = .root
  · simp [Component.piece, hroot]
  · rw [piece_of_ne_root hroot]
    exact not_mem_text h hroot

/-- A normal path has the root at its front, or nowhere. -/
theorem Normal.root_or (h : Normal cs) :
    ∃ rest, (cs = .root :: rest ∨ cs = rest) ∧ ∀ c ∈ rest, Proper c ∧ c ≠ .root ∧ c ≠ .here := by
  have hhere := h.ne_here
  cases cs with
  | nil => exact ⟨[], Or.inr rfl, by simp⟩
  | cons first rest =>
      have hrest : ∀ c ∈ rest, Proper c ∧ c ≠ .root ∧ c ≠ .here := fun c hc =>
        ⟨h.proper c (List.mem_cons_of_mem _ hc),
          ((List.pairwise_cons.1 h.pairwise).1 c hc).1, hhere c (List.mem_cons_of_mem _ hc)⟩
      by_cases hroot : first = .root
      · exact ⟨rest, Or.inl (by rw [hroot]), hrest⟩
      · exact ⟨first :: rest, Or.inr rfl, List.forall_mem_cons.2
          ⟨⟨h.proper first List.mem_cons_self, hroot, hhere first List.mem_cons_self⟩, hrest⟩⟩

/-- A path without the root is spelled by the texts of its components. -/
theorem ofComponents_of_ne_root (h : ∀ c ∈ cs, c ≠ .root) :
    ofComponents cs = ⟨Text.join "/" (cs.map Component.text)⟩ := by
  cases cs with
  | nil => rfl
  | cons c cs =>
      cases c with
      | root => exact absurd rfl (h _ List.mem_cons_self)
      | _ => rfl

/-- The only normal path without a text is that of no components. -/
theorem text_ofComponents_ne_empty (h : Normal cs) (hne : cs ≠ []) :
    (ofComponents cs).text ≠ "" := by
  intro hempty
  have hpath : ofComponents cs = ⟨""⟩ := congrArg Path.mk hempty
  have hcomponents := components_ofComponents h
  rw [hpath] at hcomponents
  exact hne (hcomponents.symm.trans (by decide))

/-- The pieces of a normal path are its components, but for the empty path and the root. -/
theorem split_ofComponents (h : Normal cs) (hne : cs ≠ []) (hroot : cs ≠ [.root]) :
    Text.split '/' (ofComponents cs).text = cs.map Component.piece := by
  obtain ⟨rest, hcs, hrest⟩ := h.root_or
  have htexts := map_piece_of_ne_root fun c hc => (hrest c hc).2.1
  rcases hcs with rfl | rfl
  · have hsome : rest ≠ [] := by
      rintro rfl
      exact hroot rfl
    rw [ofComponents, Text.split_slash_append, split_join_text hsome hrest, List.map_cons, htexts]
    rfl
  · rw [ofComponents_of_ne_root fun c hc => (hrest c hc).2.1, split_join_text hne hrest, htexts]

/-- A normal path is spelled plainly. -/
theorem plain_ofComponents (h : Normal cs) : Plain (ofComponents cs) := by
  by_cases hroot : cs = [.root]
  · rw [hroot]
    exact ⟨["", ""], [], by decide, by simp [IsName], by simp⟩
  by_cases hne : cs = []
  · rw [hne]
    exact ⟨[""], [], by decide, by simp [IsName], by simp⟩
  have hsplit := split_ofComponents h hne hroot
  obtain ⟨⟨root, ups, names, rfl⟩, hproper⟩ := h
  refine ⟨(arranged root ups []).map Component.piece, names, ?_, fun s hs => ?_, fun s hs => ?_⟩
  · have hnames : names.map (Component.piece ∘ Component.name) = names := by
      simp [Component.piece, Component.text, Function.comp_def]
    rw [hsplit]
    simp [arranged, hnames]
  · obtain ⟨c, hc, rfl⟩ := List.mem_map.1 hs
    have hdots : c = .root ∨ c = .up := by
      rw [arranged, List.map_nil, List.append_nil] at hc
      rcases List.mem_append.1 hc with hc | hc
      · left
        cases root with
        | true => simpa using hc
        | false => simp at hc
      · exact Or.inr (List.eq_of_mem_replicate hc)
    rcases hdots with rfl | rfl <;> simp [Component.piece, Component.text, IsName]
  · have hc : Proper (.name s) := hproper _ (by simp [arranged, hs])
    exact hc.1

/-! ## Parts -/

/-- The parts of a path that is spelled by components. -/
def partsOf (cs : List Component) : List (String × Option Component) :=
  cs.map fun c => (c.piece, some c)

theorem partsOf_concat (cs : List Component) (c : Component) :
    (partsOf (cs ++ [c])).reverse = (c.piece, some c) :: (partsOf cs).reverse := by
  simp [partsOf]

theorem map_ofPiece?_piece (h : ∀ c ∈ cs, Proper c ∧ c ≠ .root ∧ c ≠ .here) :
    (cs.map Component.piece).map (fun s => (s, Component.ofPiece? s)) = partsOf cs := by
  rw [partsOf, List.map_map]
  refine List.map_congr_left fun c hc => ?_
  obtain ⟨hproper, hroot, hhere⟩ := h c hc
  simp [piece_of_ne_root hroot, ofPiece?_text hproper hroot hhere]

theorem parts_ofComponents (h : Normal cs) (hne : cs ≠ []) (hroot : cs ≠ [.root]) :
    (ofComponents cs).parts = partsOf cs := by
  have hsplit := split_ofComponents h hne hroot
  obtain ⟨rest, hcs, hrest⟩ := h.root_or
  have hparts := map_ofPiece?_piece hrest
  rcases hcs with rfl | rfl
  · have hsome : rest ≠ [] := by
      rintro rfl
      exact hroot rfl
    simp only [parts, hsplit, List.map_cons, hparts]
    simp [Component.piece, partsOf, hsome]
  · obtain ⟨first, others, rfl⟩ := List.exists_cons_of_ne_nil hne
    obtain ⟨hproper, hfirst, hhere⟩ := hrest first List.mem_cons_self
    have hpiece := piece_of_ne_root hfirst
    have hempty : first.piece ≠ "" := hpiece ▸ text_ne_empty hproper
    have hdot : first.piece ≠ "." := hpiece ▸ text_ne_dot hproper hhere
    rw [List.map_cons] at hsplit hparts
    simp only [parts, hsplit, hempty, hdot, ↓reduceIte]
    exact hparts

/-- Parts of components spell the normal path again. -/
theorem ofReversedParts_partsOf (h : Normal cs) :
    ofReversedParts (partsOf cs).reverse = ofComponents cs := by
  by_cases hroot : cs = [.root]
  · rw [hroot]
    rfl
  by_cases hne : cs = []
  · rw [hne]
    rfl
  have hjoin : ofReversedParts (partsOf cs).reverse =
      ⟨Text.join "/" (cs.map Component.piece)⟩ := by
    unfold ofReversedParts
    split
    · rename_i text heq
      have honly := congrArg (List.map (·.2)) (List.reverse_eq_iff.1 heq)
      have hcs : cs.map some = [some .root] := by simpa [partsOf] using honly
      obtain ⟨c, rfl, hc⟩ := List.map_eq_singleton_iff.1 hcs
      exact absurd (by rw [Option.some.inj hc]) hroot
    · simp [partsOf, Function.comp_def]
  have hpieces : ∀ s ∈ cs.map Component.piece, '/' ∉ s.toList := by
    intro s hs
    obtain ⟨c, hc, rfl⟩ := List.mem_map.1 hs
    exact not_mem_piece (h.proper c hc)
  rw [hjoin, Path.mk.injEq]
  apply Text.split_inj
  rw [Text.split_join (by simpa using hne) hpieces, split_ofComponents h hne hroot]

/-! ## Directories -/

theorem above_ofComponents (h : Normal cs) :
    (ofComponents cs).above = aboveParts (partsOf cs).reverse := by
  by_cases hroot : cs = [.root]
  · rw [hroot]
    decide
  by_cases hne : cs = []
  · rw [hne]
    decide
  rw [above, parts_ofComponents h hne hroot]

/-- The last component of a normal path can be taken off. -/
theorem Normal.of_concat (h : Normal (cs ++ [c])) : Normal cs where
  shape := by
    obtain ⟨root, ups, names, hshape⟩ := h.shape
    rcases List.eq_nil_or_concat' names with rfl | ⟨names, s, rfl⟩
    · cases ups with
      | zero =>
          cases root with
          | false => simp [arranged] at hshape
          | true =>
              refine ⟨false, 0, [], ?_⟩
              simpa [arranged] using congrArg List.dropLast hshape
      | succ ups =>
          refine ⟨root, ups, [], ?_⟩
          simpa [arranged, List.replicate_succ', ← List.append_assoc] using
            congrArg List.dropLast hshape
    · refine ⟨root, ups, names, ?_⟩
      simpa [arranged, ← List.append_assoc] using congrArg List.dropLast hshape
  proper := fun c hc => h.proper c (List.mem_append_left _ hc)

/-- The directory above a normal path is spelled by all components but the last one. -/
theorem above_ofComponents_concat (h : Normal (cs ++ [c])) (hc : c ≠ .root) :
    (ofComponents (cs ++ [c])).above = ofComponents cs :: (ofComponents cs).above := by
  have hfront : Normal cs := h.of_concat
  have hstay : (partsOf cs).reverse.dropWhile (fun part => part.2.isNone) =
      (partsOf cs).reverse := by
    cases List.eq_nil_or_concat' cs with
    | inl hnil => simp [hnil, partsOf]
    | inr hlast =>
        obtain ⟨front, last, rfl⟩ := hlast
        simp [partsOf_concat]
  have hparts : aboveParts ((c.piece, some c) :: (partsOf cs).reverse) =
      ofReversedParts (partsOf cs).reverse :: aboveParts (partsOf cs).reverse := by
    cases c with
    | root => exact absurd rfl hc
    | _ => simp only [aboveParts, hstay]
  rw [above_ofComponents h, partsOf_concat, hparts, ofReversedParts_partsOf hfront,
    above_ofComponents hfront]

end Path

end Polybuild
