import Polybuild.Proofs.Path.Above

/-!
# What a relative path leads to

`beneath?_eq_some_iff` says what a relative path leads to below a normal directory, in terms of
components: those of the directory, with the pieces of the relative path read behind them. `Inside`
says that a path goes down from a directory by names alone; this is what holds of a path below a
directory whose own path ends in a name, whatever dots the relative path had. It holds of no other
directory (`forall_strictlyInside_iff`): two dots find nothing there that they could take back, so
they stay.
-/

namespace Polybuild

namespace Path

variable {root p : Path} {cs : List Component} {relative : String}

/-- A path leads down from a directory, by one name or more. -/
def Inside (root p : Path) : Prop :=
  ∃ names : List String, names ≠ [] ∧ (∀ s ∈ names, IsName s ∧ '/' ∉ s.toList) ∧
    p.components = root.components ++ names.map .name

/-- A path goes on from a directory, by one component or more and without two dots. -/
def StrictlyInside (root p : Path) : Prop :=
  ∃ cs, cs ≠ [] ∧ .up ∉ cs ∧ p.components = root.components ++ cs

theorem Inside.strictlyInside (h : root.Inside p) : root.StrictlyInside p := by
  obtain ⟨names, hne, -, hnames⟩ := h
  exact ⟨names.map .name, by simpa using hne, by simp, hnames⟩

/-- A path with one spelling. -/
def IsNormal (p : Path) : Prop :=
  ∃ q : Path, p = q.normalize

theorem IsNormal.normal (h : p.IsNormal) : Normal p.components := by
  obtain ⟨q, rfl⟩ := h
  exact normal_components_normalize q

theorem IsNormal.normalize_eq (h : p.IsNormal) : p.normalize = p := by
  obtain ⟨q, rfl⟩ := h
  exact normalize_normalize q

theorem IsNormal.eq_ofComponents (h : p.IsNormal) : p = ofComponents p.components := by
  obtain ⟨q, rfl⟩ := h
  exact normalize_eq_ofComponents q

theorem IsNormal.plain (h : p.IsNormal) : Plain p := by
  rw [h.eq_ofComponents]
  exact plain_ofComponents h.normal

theorem IsNormal.stack_eq (h : p.IsNormal) : p.stack = p.components.reverse :=
  foldl_pushNormal_of_normal h.normal

theorem isNormal_ofComponents (h : Normal cs) : (ofComponents cs).IsNormal := by
  refine ⟨ofComponents cs, ?_⟩
  rw [normalize, components_ofComponents h, normalComponents_of_normal h]

theorem contains_iff : root.contains p = true ↔ ∃ cs, p.components = root.components ++ cs := by
  rw [contains, List.isPrefixOf_iff_prefix]
  exact ⟨fun ⟨cs, h⟩ => ⟨cs, h.symm⟩, fun ⟨cs, h⟩ => ⟨cs, h.symm⟩⟩

theorem below?_eq_some_iff : root.below? p = some cs ↔ p.components = root.components ++ cs := by
  unfold below?
  constructor
  · intro h
    split at h
    · rename_i hprefix
      obtain ⟨rest, hrest⟩ := List.isPrefixOf_iff_prefix.1 hprefix
      obtain rfl : rest = cs := by simpa [← hrest] using h
      exact hrest.symm
    · simp at h
  · intro h
    have hprefix : root.components.isPrefixOf p.components = true :=
      List.isPrefixOf_iff_prefix.2 ⟨cs, h.symm⟩
    rw [if_pos hprefix, h, List.drop_left]

/-! ## What a relative path leads to -/

/-- The pieces of a relative path that count. -/
def segments (relative : String) : List String :=
  (Text.split '/' relative).filter (· ≠ "")

theorem ne_root_of_mem_segments {c : Component}
    (h : c ∈ (segments relative).filterMap Component.ofPiece?) : c ≠ .root := by
  obtain ⟨s, -, hpiece⟩ := List.mem_filterMap.1 h
  rcases ofPiece?_eq_some hpiece with rfl | ⟨rfl, -⟩ <;> simp

/-- What the pieces of a relative path make of a path that they are read behind. -/
theorem components_foldl_join (hroot : root.IsNormal) (relative : String) :
    ((segments relative).foldl join root).normalize.components =
      (((segments relative).filterMap Component.ofPiece?).foldl pushNormal
        root.components.reverse).reverse := by
  have hsegments : ∀ s ∈ segments relative, s ≠ "" ∧ '/' ∉ s.toList := by
    intro s hs
    obtain ⟨hmem, hne⟩ := List.mem_filter.1 hs
    exact ⟨by simpa using hne, not_mem_of_mem_split hmem⟩
  have hstack := stack_foldl_join hsegments root
  rw [hroot.stack_eq] at hstack
  rw [components_normalize, normalComponents, ← hstack, stack]

/-- A path stands below a directory when it goes on from there. -/
theorem contains_and_not_same_iff :
    (root.contains p && !p.same root) = true ↔
      ∃ cs, cs ≠ [] ∧ p.components = root.components ++ cs := by
  rw [Bool.and_eq_true, contains_iff]
  constructor
  · rintro ⟨⟨cs, hcs⟩, hother⟩
    refine ⟨cs, ?_, hcs⟩
    rintro rfl
    simp [same, hcs] at hother
  · rintro ⟨cs, hne, hcs⟩
    exact ⟨⟨cs, hcs⟩, by simpa [same, hcs] using hne⟩

theorem beneath?_eq_some_iff (hroot : root.IsNormal) :
    root.beneath? relative = some p ↔ p.IsNormal ∧ ∃ cs, cs ≠ [] ∧
      p.components = root.components ++ cs ∧
      (((segments relative).filterMap Component.ofPiece?).foldl pushNormal
        root.components.reverse).reverse = root.components ++ cs := by
  have hcomponents := components_foldl_join hroot relative
  have hnormal : ((segments relative).foldl join root).normalize.IsNormal := ⟨_, rfl⟩
  have hbeneath : root.beneath? relative =
      if root.contains ((segments relative).foldl join root).normalize &&
          !((segments relative).foldl join root).normalize.same root then
        some ((segments relative).foldl join root).normalize
      else none := rfl
  rw [hbeneath, Option.ite_none_right_eq_some, contains_and_not_same_iff, ← hcomponents]
  generalize ((segments relative).foldl join root).normalize = path at hnormal
  constructor
  · rintro ⟨⟨cs, hne, hcs⟩, hpath⟩
    obtain rfl := Option.some.inj hpath
    exact ⟨hnormal, cs, hne, hcs, hcs⟩
  · rintro ⟨hp, cs, hne, hpath, hcs⟩
    have hsame : path = p := by
      rw [hnormal.eq_ofComponents, hp.eq_ofComponents, hcs, hpath]
    exact ⟨⟨cs, hne, hcs⟩, congrArg some hsame⟩

theorem isNormal_of_beneath? (h : root.beneath? relative = some p) : p.IsNormal := by
  simp only [beneath?, Option.ite_none_right_eq_some, Option.some.injEq] at h
  exact ⟨_, h.2.symm⟩

theorem plain_of_beneath? (h : root.beneath? relative = some p) : Plain p :=
  (isNormal_of_beneath? h).plain

/-- The components behind a directory hold no root, so they can be read again. -/
theorem exists_components_of_beneath? (hroot : root.IsNormal)
    (h : root.beneath? relative = some p) :
    ∃ cs, cs ≠ [] ∧ p.components = root.components ++ cs ∧ ∀ c ∈ cs, c ≠ .root := by
  obtain ⟨hp, cs, hne, hpath, hcs⟩ := (beneath?_eq_some_iff hroot).1 h
  refine ⟨cs, hne, hpath, ?_⟩
  by_cases hempty : root.components = []
  · -- nothing stands before the pieces, and none of them is the root
    rw [hempty, List.reverse_nil, List.nil_append] at hcs
    intro c hc
    rw [← hcs, List.mem_reverse] at hc
    rcases mem_of_mem_foldl_pushNormal hc with hc | hc
    · simp at hc
    · exact ne_root_of_mem_segments hc
  · have hnormal : Normal (root.components ++ cs) := hpath ▸ hp.normal
    exact hnormal.ne_root_of_append hempty

/-- What stands behind the directory was read from the relative path. -/
theorem mem_segments_of_beneath? (hroot : root.IsNormal) (h : root.beneath? relative = some p)
    (hcs : p.components = root.components ++ cs) :
    ∀ c ∈ cs, c ∈ (segments relative).filterMap Component.ofPiece? := by
  obtain ⟨-, cs', -, hcs', hfold⟩ := (beneath?_eq_some_iff hroot).1 h
  rw [← hcs', hcs] at hfold
  obtain ⟨pushed, kept, hstack, hpushed, hkept⟩ :=
    exists_foldl_pushNormal ((segments relative).filterMap Component.ofPiece?)
      root.components.reverse
  rw [hstack, List.reverse_append] at hfold
  -- no more is kept than the directory, so all behind it was pushed
  have hlength : kept.length ≤ root.components.length := by simpa using hkept.length_le
  have htotal := congrArg List.length hfold
  simp only [List.length_append, List.length_reverse] at htotal
  have hbehind : cs <:+ kept.reverse ++ pushed.reverse := hfold ▸ List.suffix_append _ cs
  have hsuffix : cs <:+ pushed.reverse := by
    apply List.suffix_of_suffix_length_le hbehind (List.suffix_append _ _)
    rw [List.length_reverse]
    omega
  exact fun c hc => hpushed c (List.mem_reverse.1 (hsuffix.subset hc))

theorem Normal.append_names {names : List String} (h : Normal cs)
    (hnames : ∀ s ∈ names, IsName s ∧ '/' ∉ s.toList) : Normal (cs ++ names.map .name) where
  shape := by
    obtain ⟨up, ups, front, rfl⟩ := h.shape
    exact ⟨up, ups, front ++ names, by simp [arranged]⟩
  proper := by
    intro c hc
    rcases List.mem_append.1 hc with hc | hc
    · exact h.proper c hc
    · obtain ⟨s, hs, rfl⟩ := List.mem_map.1 hc
      exact hnames s hs

/-- Names behind a normal directory lead down from it. -/
theorem beneath?_of_segments {names : List String} (hroot : root.IsNormal) (hne : names ≠ [])
    (hnames : ∀ s ∈ names, IsName s ∧ '/' ∉ s.toList) (h : segments relative = names) :
    root.beneath? relative = some (ofComponents (root.components ++ names.map .name)) := by
  have hnormal := hroot.normal.append_names hnames
  have hpieces : names.filterMap Component.ofPiece? = names.map .name := by
    rw [← List.filterMap_eq_map]
    apply List.filterMap_congr
    intro s hs
    obtain ⟨⟨hempty, hdot, hup⟩, -⟩ := hnames s hs
    simp [Component.ofPiece?, hempty, hdot, hup]
  rw [beneath?_eq_some_iff hroot]
  refine ⟨isNormal_ofComponents hnormal, names.map .name, by simpa using hne,
    components_ofComponents hnormal, ?_⟩
  rw [h, hpieces, foldl_pushNormal_names]
  simp

theorem exists_getLast?_of_fileName? (h : p.fileName?.isSome = true) :
    ∃ s, p.components.getLast? = some (.name s) := by
  unfold fileName? at h
  split at h
  · rename_i s hs
    exact ⟨s, hs⟩
  · simp at h

theorem text_ne_empty_of_fileName? (h : p.fileName?.isSome = true) : p.text ≠ "" := by
  intro hempty
  obtain rfl : p = ⟨""⟩ := congrArg Path.mk hempty
  revert h
  decide

/-- Below a directory whose path ends in a name, only names follow. -/
theorem inside_of_beneath? (hroot : root.IsNormal) (hname : root.fileName?.isSome = true)
    (h : root.beneath? relative = some p) : root.Inside p := by
  obtain ⟨cs, hne, hpath, -⟩ := exists_components_of_beneath? hroot h
  have hnormal : Normal (root.components ++ cs) := hpath ▸ (isNormal_of_beneath? h).normal
  obtain ⟨s, hlast⟩ := exists_getLast?_of_fileName? hname
  obtain ⟨names, rfl, hnames⟩ := hnormal.exists_names hlast
  exact ⟨names, by simpa using hne, hnames, hpath⟩

/-- Two dots behind a directory whose path does not end in a name lead out of it. -/
theorem exists_beneath?_up (hroot : root.IsNormal) (hname : root.fileName?.isSome = false) :
    ∃ p, root.beneath? "/../x" = some p ∧ ¬root.StrictlyInside p := by
  have hup : pushNormal root.components.reverse .up = .up :: root.components.reverse := by
    cases htop : root.components.reverse with
    | nil => rfl
    | cons c rest =>
        cases c with
        | name s =>
            have hlast : root.components.getLast? = some (.name s) := by
              rw [List.getLast?_eq_head?_reverse, htop]
              rfl
            simp [fileName?, hlast] at hname
        | _ => rfl
  have hnormal : Normal (root.components ++ [.up, .name "x"]) := by
    have hdots : Normal (pushNormal root.components.reverse .up).reverse :=
      Normal.push (by simpa using hroot.normal) trivial (by simp)
    have hx : Normal (pushNormal (pushNormal root.components.reverse .up) (.name "x")).reverse :=
      hdots.push ⟨⟨by decide, by decide, by decide⟩, by decide⟩ (by simp)
    rw [hup] at hx
    simpa [pushNormal] using hx
  have hsegments : (segments "/../x").filterMap Component.ofPiece? = [.up, .name "x"] := by
    decide +kernel
  have hcomponents := components_ofComponents hnormal
  refine ⟨_, (beneath?_eq_some_iff hroot).2
    ⟨isNormal_ofComponents hnormal, _, List.cons_ne_nil _ _, hcomponents, ?_⟩, ?_⟩
  · rw [hsegments, List.foldl_cons, hup]
    simp [pushNormal]
  · rintro ⟨cs, -, hups, hcs⟩
    rw [hcomponents, List.append_cancel_left_eq] at hcs
    simp [← hcs] at hups

/-- Relative paths stay inside a directory just when its own path ends in a name. -/
theorem forall_strictlyInside_iff (hroot : root.IsNormal) :
    (∀ relative p, root.beneath? relative = some p → root.StrictlyInside p) ↔
      root.fileName?.isSome = true := by
  constructor
  · intro h
    by_contra hname
    obtain ⟨p, hp, hout⟩ := exists_beneath?_up hroot (by simpa using hname)
    exact hout (h _ p hp)
  · intro hname relative p hp
    exact (inside_of_beneath? hroot hname hp).strictlyInside

end Path

end Polybuild
