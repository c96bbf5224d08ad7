import Mathlib.Data.List.Induction
import Polybuild.Proofs.Path.Normal

/-!
# The components of normal and of joined paths

A normal path is spelled by its components, so they are found again in its text, and a normal path
is the only one with its components. A relative text that is joined to a path only adds its pieces.
`stack` is what `normalize` keeps while it reads a path, with the last component on top; joining a
piece to a path pushes the component of the piece on it.

In a normal path all that stands behind a name are names, and the root stands at the front only.
This is what keeps a path that starts like a directory from leaving it again.
-/

namespace Polybuild

namespace Text

variable {sep : Char}

theorem pieces_append_sep (cs rest : List Char) :
    pieces sep (cs ++ sep :: rest) = pieces sep cs ++ pieces sep rest := by
  induction cs with
  | nil => simp [pieces]
  | cons c cs ih =>
      rw [List.cons_append, pieces, pieces, ih]
      by_cases hc : c = sep
      · simp [hc]
      · obtain ⟨p, ps, hps⟩ := List.exists_cons_of_ne_nil (pieces_ne_nil sep cs)
        simp [hc, hps]

theorem split_append_slash (s t : String) :
    split '/' (s ++ "/" ++ t) = split '/' s ++ split '/' t := by
  have hslash : (s ++ "/" ++ t).toList = s.toList ++ '/' :: t.toList := by simp
  rw [split, hslash, pieces_append_sep, List.map_append]
  rfl

theorem split_of_not_mem {s : String} (h : '/' ∉ s.toList) : split '/' s = [s] := by
  rw [split, pieces_of_not_mem h]
  simp

/-- A text is told by its pieces. -/
theorem split_inj {sep : Char} {s t : String} (h : split sep s = split sep t) : s = t := by
  have hpieces : pieces sep s.toList = pieces sep t.toList := by
    have hmap := congrArg (List.map String.toList) h
    simpa [split, Function.comp_def] using hmap
  apply String.toList_inj.1
  rw [← joinWith_pieces sep s.toList, hpieces, joinWith_pieces]

theorem split_eq_singleton_empty {s : String} (h : split '/' s = [""]) : s = "" :=
  split_inj (h.trans (split_of_not_mem (by simp)).symm)

end Text

namespace Path

variable {p q : Path} {cs front back : List Component} {s text : String}

/-! ## What a text means -/

theorem ofPiece?_text {c : Component} (hc : Proper c) (hroot : c ≠ .root) (hhere : c ≠ .here) :
    Component.ofPiece? c.text = some c := by
  cases c with
  | root => exact absurd rfl hroot
  | here => exact absurd rfl hhere
  | up => rfl
  | name s =>
      obtain ⟨⟨hempty, hdot, hup⟩, -⟩ := hc
      simp [Component.ofPiece?, Component.text, hempty, hdot, hup]

theorem text_ne_empty {c : Component} (hc : Proper c) : c.text ≠ "" := by
  cases c with
  | name s => exact hc.1.1
  | _ => decide

theorem text_ne_dot {c : Component} (hc : Proper c) (hhere : c ≠ .here) : c.text ≠ "." := by
  cases c with
  | name s => exact hc.1.2.1
  | here => exact absurd rfl hhere
  | _ => decide

theorem not_mem_text {c : Component} (hc : Proper c) (hroot : c ≠ .root) : '/' ∉ c.text.toList := by
  cases c with
  | root => exact absurd rfl hroot
  | here => decide
  | up => decide
  | name s => exact hc.2

theorem filterMap_ofPiece?_text (h : ∀ c ∈ cs, Proper c ∧ c ≠ .root ∧ c ≠ .here) :
    (cs.map Component.text).filterMap Component.ofPiece? = cs := by
  induction cs with
  | nil => rfl
  | cons c cs ih =>
      rw [List.forall_mem_cons] at h
      obtain ⟨⟨hproper, hroot, hhere⟩, hrest⟩ := h
      rw [List.map_cons, List.filterMap_cons, ofPiece?_text hproper hroot hhere, ih hrest]

/-- In a relative path, a dot counts as the first piece only. -/
theorem components_of_split {piece : String} {pieces : List String}
    (h : Text.split '/' p.text = piece :: pieces) (hempty : piece ≠ "") :
    p.components =
      (if piece = "." then some .here else Component.ofPiece? piece).toList ++
        pieces.filterMap Component.ofPiece? := by
  simp only [components, parts, h, hempty, ↓reduceIte]
  rw [List.filterMap_cons, List.filterMap_map]
  cases (if piece = "." then some Component.here else Component.ofPiece? piece) <;> rfl

/-- A path with a slash at its front is absolute. -/
theorem components_of_split_empty {pieces : List String}
    (h : Text.split '/' p.text = "" :: pieces) (hne : pieces ≠ []) :
    p.components = .root :: pieces.filterMap Component.ofPiece? := by
  have hrest : pieces.isEmpty = false := by simpa using hne
  simp only [components, parts, h, hrest, ↓reduceIte, Bool.false_eq_true]
  rw [List.filterMap_cons, List.filterMap_map]
  rfl

theorem ofPiece?_eq_name_iff {piece : String} :
    Component.ofPiece? piece = some (.name s) ↔ piece = s ∧ IsName s := by
  constructor
  · intro h
    rcases ofPiece?_eq_some h with hup | ⟨hname, hpiece⟩
    · simp at hup
    · obtain rfl := Component.name.inj hname
      exact ⟨rfl, hpiece⟩
  · rintro ⟨rfl, hempty, hdot, hup⟩
    simp [Component.ofPiece?, hempty, hdot, hup]

theorem name_mem_filterMap_iff {pieces : List String} :
    .name s ∈ pieces.filterMap Component.ofPiece? ↔ s ∈ pieces ∧ IsName s := by
  simp only [List.mem_filterMap, ofPiece?_eq_name_iff]
  constructor
  · rintro ⟨piece, hpiece, rfl, hname⟩
    exact ⟨hpiece, hname⟩
  · rintro ⟨hs, hname⟩
    exact ⟨s, hs, rfl, hname⟩

theorem split_join_text (hne : cs ≠ []) (h : ∀ c ∈ cs, Proper c ∧ c ≠ .root ∧ c ≠ .here) :
    Text.split '/' (Text.join "/" (cs.map Component.text)) = cs.map Component.text := by
  apply Text.split_join (by simpa using hne)
  intro s hs
  obtain ⟨c, hc, rfl⟩ := List.mem_map.1 hs
  exact not_mem_text (h c hc).1 (h c hc).2.1

theorem components_join_text (hne : cs ≠ []) (h : ∀ c ∈ cs, Proper c ∧ c ≠ .root ∧ c ≠ .here) :
    (⟨Text.join "/" (cs.map Component.text)⟩ : Path).components = cs := by
  obtain ⟨first, rest, rfl⟩ := List.exists_cons_of_ne_nil hne
  have hsplit := split_join_text hne h
  have hmeant := filterMap_ofPiece?_text h
  obtain ⟨hproper, hroot, hhere⟩ := h first List.mem_cons_self
  have hpiece := ofPiece?_text hproper hroot hhere
  rw [List.map_cons, List.filterMap_cons, hpiece] at hmeant
  rw [components_of_split hsplit (text_ne_empty hproper), if_neg (text_ne_dot hproper hhere), hpiece]
  exact hmeant

theorem components_slash_join_text (hne : cs ≠ [])
    (h : ∀ c ∈ cs, Proper c ∧ c ≠ .root ∧ c ≠ .here) :
    (⟨"/" ++ Text.join "/" (cs.map Component.text)⟩ : Path).components = .root :: cs := by
  have hsplit : Text.split '/' ("/" ++ Text.join "/" (cs.map Component.text)) =
      "" :: cs.map Component.text := by
    rw [Text.split_slash_append, split_join_text hne h]
  rw [components_of_split_empty hsplit (by simpa using hne), filterMap_ofPiece?_text h]

/-- The components of a normal path are found in its spelling. -/
theorem components_ofComponents (h : Normal cs) : (ofComponents cs).components = cs := by
  obtain ⟨⟨root, ups, names, rfl⟩, hproper⟩ := h
  have hrest : ∀ c ∈ arranged false ups names, Proper c ∧ c ≠ .root ∧ c ≠ .here := by
    intro c hc
    refine ⟨hproper c ?_, ?_⟩
    · cases root
      · exact hc
      · exact List.mem_cons_of_mem _ hc
    · simp only [arranged, Bool.false_eq_true, ↓reduceIte, List.nil_append, List.mem_append,
        List.mem_map, List.mem_replicate] at hc
      rcases hc with ⟨-, rfl⟩ | ⟨s, -, rfl⟩ <;> simp
  have hroot : arranged true ups names = .root :: arranged false ups names := rfl
  by_cases hempty : arranged false ups names = []
  · cases root
    · rw [hempty]
      decide
    · rw [hroot, hempty]
      decide
  · cases root
    · have hspelled : ofComponents (arranged false ups names) =
          ⟨Text.join "/" ((arranged false ups names).map Component.text)⟩ := by
        cases ups <;> cases names <;> rfl
      rw [hspelled, components_join_text hempty hrest]
    · have hspelled : ofComponents (arranged true ups names) =
          ⟨"/" ++ Text.join "/" ((arranged false ups names).map Component.text)⟩ := rfl
      rw [hspelled, components_slash_join_text hempty hrest, hroot]

theorem components_normalize (p : Path) : p.normalize.components = normalComponents p.components :=
  components_ofComponents (normal_normalComponents p)

theorem normal_components_normalize (p : Path) : Normal p.normalize.components := by
  rw [components_normalize]
  exact normal_normalComponents p

/-! ## The shape of a normal path -/

/-- Behind a name there are names, and the root is behind nothing. -/
theorem Normal.pairwise (h : Normal cs) :
    cs.Pairwise fun a b => b ≠ .root ∧ ((∃ s, a = .name s) → ∃ s, b = .name s) := by
  obtain ⟨⟨root, ups, names, rfl⟩, -⟩ := h
  have hnames : ∀ c ∈ names.map Component.name, ∃ s, c = .name s := by
    intro c hc
    obtain ⟨s, -, rfl⟩ := List.mem_map.1 hc
    exact ⟨s, rfl⟩
  have hups : ∀ c ∈ List.replicate ups Component.up, c = .up := fun c hc =>
    List.eq_of_mem_replicate hc
  rw [arranged, List.append_assoc, List.pairwise_append, List.pairwise_append]
  refine ⟨by cases root <;> simp, ⟨?_, ?_, ?_⟩, ?_⟩
  · refine List.pairwise_replicate.2 (Or.inr ⟨by simp, by simp⟩)
  · refine List.pairwise_of_forall_mem_list fun _ _ b hb => ?_
    obtain ⟨s, rfl⟩ := hnames b hb
    exact ⟨by simp, fun _ => ⟨s, rfl⟩⟩
  · intro a _ b hb
    obtain ⟨s, rfl⟩ := hnames b hb
    exact ⟨by simp, fun _ => ⟨s, rfl⟩⟩
  · intro a ha b hb
    obtain rfl : a = .root := by
      cases root <;> simp at ha
      exact ha
    rcases List.mem_append.1 hb with hb | hb
    · rw [hups b hb]
      simp
    · obtain ⟨s, rfl⟩ := hnames b hb
      simp

theorem Normal.ne_root_of_append (h : Normal (front ++ back)) (hne : front ≠ []) :
    ∀ c ∈ back, c ≠ .root := by
  obtain ⟨first, rest, rfl⟩ := List.exists_cons_of_ne_nil hne
  intro c hc
  have hfirst := (List.pairwise_cons.1 h.pairwise).1 c (List.mem_append_right rest hc)
  exact hfirst.1

theorem Normal.ne_here (h : Normal cs) : ∀ c ∈ cs, c ≠ .here := by
  obtain ⟨⟨root, ups, names, rfl⟩, -⟩ := h
  intro c hc
  rw [arranged, List.append_assoc] at hc
  rcases List.mem_append.1 hc with hc | hc
  · cases root <;> simp_all
  · rcases List.mem_append.1 hc with hc | hc
    · simp [List.eq_of_mem_replicate hc]
    · obtain ⟨s, -, rfl⟩ := List.mem_map.1 hc
      simp

theorem exists_names_of_forall (hnames : ∀ c ∈ cs, ∃ s, c = .name s)
    (hproper : ∀ c ∈ cs, Proper c) :
    ∃ names : List String, cs = names.map .name ∧ ∀ s ∈ names, IsName s ∧ '/' ∉ s.toList := by
  induction cs with
  | nil => exact ⟨[], rfl, by simp⟩
  | cons c cs ih =>
      rw [List.forall_mem_cons] at hnames hproper
      obtain ⟨names, rfl, hrest⟩ := ih hnames.2 hproper.2
      obtain ⟨s, rfl⟩ := hnames.1
      exact ⟨s :: names, rfl, List.forall_mem_cons.2 ⟨hproper.1, hrest⟩⟩

/-- What stands behind a normal path that ends in a name are names. -/
theorem Normal.exists_names (h : Normal (front ++ back))
    (hlast : front.getLast? = some (.name s)) :
    ∃ names : List String, back = names.map .name ∧ ∀ t ∈ names, IsName t ∧ '/' ∉ t.toList := by
  obtain ⟨before, rfl⟩ := List.getLast?_eq_some_iff.1 hlast
  have hpairs := h.pairwise
  rw [List.append_assoc, List.pairwise_append] at hpairs
  have hback : ∀ c ∈ back, ∃ t, c = .name t := fun c hc =>
    ((List.pairwise_cons.1 hpairs.2.1).1 c hc).2 ⟨s, rfl⟩
  exact exists_names_of_forall hback fun c hc => h.proper c (List.mem_append_right _ hc)

theorem foldl_pushNormal_names (names : List String) (stack : List Component) :
    (names.map Component.name).foldl pushNormal stack =
      (names.map Component.name).reverse ++ stack := by
  induction names generalizing stack with
  | nil => rfl
  | cons name names ih =>
      rw [List.map_cons, List.foldl_cons, ih]
      simp [pushNormal]

theorem foldl_pushNormal_ups {stack : List Component} (ups : Nat)
    (h : ∀ s, stack.head? ≠ some (.name s)) :
    (List.replicate ups .up).foldl pushNormal stack = List.replicate ups .up ++ stack := by
  induction ups generalizing stack with
  | zero => rfl
  | succ ups ih =>
      have hpush : pushNormal stack .up = .up :: stack := by
        cases stack with
        | nil => rfl
        | cons c stack =>
            cases c with
            | name s => exact absurd rfl (h s)
            | _ => rfl
      rw [List.replicate_succ, List.foldl_cons, hpush, ih (by simp), ← List.singleton_append,
        ← List.append_assoc, ← List.replicate_succ', List.replicate_succ]

/-- A component is put on top of the stack, or something is taken off. -/
theorem pushNormal_eq_or (stack : List Component) (c : Component) :
    pushNormal stack c = c :: stack ∨ pushNormal stack c <:+ stack := by
  cases c with
  | here => exact Or.inr (List.suffix_refl stack)
  | up =>
      cases stack with
      | nil => exact Or.inl rfl
      | cons top rest =>
          cases top with
          | name s => exact Or.inr (List.suffix_cons _ rest)
          | _ => exact Or.inl rfl
  | _ => exact Or.inl rfl

/-- What stays of the stack stays at its bottom, and what stands above was read. -/
theorem exists_foldl_pushNormal (cs stack : List Component) :
    ∃ pushed kept, cs.foldl pushNormal stack = pushed ++ kept ∧ (∀ c ∈ pushed, c ∈ cs) ∧
      kept <:+ stack := by
  induction cs generalizing stack with
  | nil => exact ⟨[], stack, rfl, by simp, List.suffix_refl stack⟩
  | cons c cs ih =>
      obtain ⟨pushed, kept, hfold, hpushed, hkept⟩ := ih (pushNormal stack c)
      have hread : ∀ a ∈ pushed, a ∈ c :: cs := fun a ha => List.mem_cons_of_mem c (hpushed a ha)
      rw [List.foldl_cons]
      rcases pushNormal_eq_or stack c with htop | hoff
      · rcases List.suffix_cons_iff.1 (htop ▸ hkept) with rfl | hbelow
        · refine ⟨pushed ++ [c], stack, by simpa using hfold, ?_, List.suffix_refl stack⟩
          simpa [or_imp, forall_and] using fun a ha => Or.inr (hpushed a ha)
        · exact ⟨pushed, kept, hfold, hread, hbelow⟩
      · exact ⟨pushed, kept, hfold, hread, hkept.trans hoff⟩

theorem mem_of_mem_foldl_pushNormal {c : Component} {stack : List Component}
    (h : c ∈ cs.foldl pushNormal stack) : c ∈ stack ∨ c ∈ cs := by
  obtain ⟨pushed, kept, hfold, hpushed, hkept⟩ := exists_foldl_pushNormal cs stack
  rw [hfold, List.mem_append] at h
  exact h.symm.imp (fun hc => hkept.subset hc) (hpushed c)

/-- Reading a normal path changes nothing in it. -/
theorem foldl_pushNormal_of_normal (h : Normal cs) : cs.foldl pushNormal [] = cs.reverse := by
  obtain ⟨⟨root, ups, names, rfl⟩, -⟩ := h
  have hups : ∀ stack : List Component, (∀ s, stack.head? ≠ some (.name s)) →
      (List.replicate ups Component.up ++ names.map Component.name).foldl pushNormal stack =
        (List.replicate ups Component.up ++ names.map Component.name).reverse ++ stack := by
    intro stack hstack
    rw [List.foldl_append, foldl_pushNormal_ups ups hstack, foldl_pushNormal_names]
    simp
  cases root with
  | false =>
      have hstart := hups [] (by simp)
      simpa [arranged] using hstart
  | true =>
      have hstart := hups [.root] (by simp)
      simpa [arranged, pushNormal] using hstart

/-- The normal form of components does to every stack what the components do. -/
theorem foldl_pushNormal_normalComponents (cs stack : List Component) :
    (normalComponents cs).foldl pushNormal stack = cs.foldl pushNormal stack := by
  -- from the end, since the normal form is made by pushing the last component on the others
  induction cs using List.reverseRecOn with
  | nil => rfl
  | append_singleton cs c ih =>
      rw [List.foldl_append, ← ih]
      simp only [normalComponents, List.foldl_append, List.foldl_cons, List.foldl_nil]
      generalize cs.foldl pushNormal [] = top
      cases c with
      | root => simp [pushNormal]
      | here => rfl
      | name s => simp [pushNormal]
      | up =>
          cases top with
          | nil => simp [pushNormal]
          | cons first rest => cases first <;> simp [pushNormal]

theorem normalComponents_of_normal (h : Normal cs) : normalComponents cs = cs := by
  rw [normalComponents, foldl_pushNormal_of_normal h, List.reverse_reverse]

theorem normalize_normalize (p : Path) : p.normalize.normalize = p.normalize := by
  have hcomponents := normal_components_normalize p
  rw [normalize, normalComponents_of_normal hcomponents, components_normalize, normalize]

/-- A normal path is known by its components. -/
theorem normalize_eq_ofComponents (p : Path) :
    p.normalize = ofComponents p.normalize.components := by
  rw [components_normalize, normalize]

/-! ## Joined paths -/

theorem ne_empty_of_isAbsolute (h : p.isAbsolute = true) : p.text ≠ "" := by
  intro hempty
  simp [isAbsolute, hempty] at h

theorem join_ne_empty (hp : p.text ≠ "") (text : String) : (p.join text).text ≠ "" := by
  unfold join
  split
  · rename_i habs
    exact ne_empty_of_isAbsolute (p := ⟨text⟩) (by simpa [hp] using habs)
  · split <;> simp [hp]

/-- A relative text that is joined to a path adds its pieces to those of the path, of which an
empty one at the end is dropped. -/
theorem exists_front_of_join (hp : p.text ≠ "") (htext : (⟨text⟩ : Path).isAbsolute = false) :
    ∃ front, Text.split '/' (p.join text).text = front ++ Text.split '/' text ∧
      (Text.split '/' p.text = front ∨ Text.split '/' p.text = front ++ [""]) := by
  by_cases hslash : p.text.toList.getLast? = some '/'
  · obtain ⟨chars, hchars⟩ := List.getLast?_eq_some_iff.1 hslash
    obtain ⟨front, rfl⟩ : ∃ front : String, front.toList = chars := ⟨.ofList chars, by simp⟩
    have hpath : p.text = front ++ "/" ++ "" := by
      apply String.toList_inj.1
      simpa using hchars
    have hjoin : (p.join text).text = front ++ "/" ++ text := by
      simp [join, htext, hpath]
    refine ⟨Text.split '/' front, by rw [hjoin, Text.split_append_slash], Or.inr ?_⟩
    rw [hpath, Text.split_append_slash]
    rfl
  · have hjoin : (p.join text).text = p.text ++ "/" ++ text := by
      simp [join, htext, hp, hslash]
    exact ⟨_, by rw [hjoin, Text.split_append_slash], Or.inl rfl⟩

theorem components_of_split_cons {piece : String} {pieces : List String}
    (h : Text.split '/' p.text = piece :: pieces) (hp : p.text ≠ "") :
    p.components =
      (if piece = "" then some .root else if piece = "." then some .here
        else Component.ofPiece? piece).toList ++ pieces.filterMap Component.ofPiece? := by
  by_cases hempty : piece = ""
  · subst hempty
    have hne : pieces ≠ [] := by
      rintro rfl
      exact hp (Text.split_eq_singleton_empty h)
    rw [components_of_split_empty h hne]
    rfl
  · rw [components_of_split h hempty, if_neg hempty]

/-- What stands behind a slash adds what its pieces stand for. -/
theorem components_append_slash (hp : p.text ≠ "") (text : String) :
    (⟨p.text ++ "/" ++ text⟩ : Path).components =
      p.components ++ (Text.split '/' text).filterMap Component.ofPiece? := by
  obtain ⟨piece, pieces, hpieces⟩ := List.exists_cons_of_ne_nil (split_ne_nil p.text)
  have hsplit : Text.split '/' (p.text ++ "/" ++ text) =
      piece :: (pieces ++ Text.split '/' text) := by
    rw [Text.split_append_slash, hpieces, List.cons_append]
  rw [components_of_split_cons hsplit (by simp [hp]), components_of_split_cons hpieces hp,
    List.filterMap_append, List.append_assoc]

/-- A relative text that is joined to a path adds what its pieces stand for. -/
theorem components_join_of_relative (hp : p.text ≠ "")
    (htext : (⟨text⟩ : Path).isAbsolute = false) :
    (p.join text).components =
      p.components ++ (Text.split '/' text).filterMap Component.ofPiece? := by
  obtain ⟨front, hjoined, hself⟩ := exists_front_of_join hp htext
  cases front with
  | nil =>
      rcases hself with hself | hself
      · exact absurd hself (split_ne_nil p.text)
      · exact absurd (Text.split_eq_singleton_empty hself) hp
  | cons piece pieces =>
      rw [List.cons_append] at hjoined hself
      have hnothing : [""].filterMap Component.ofPiece? = [] := rfl
      have hpath : p.components = (if piece = "" then some .root else if piece = "." then some .here
          else Component.ofPiece? piece).toList ++ pieces.filterMap Component.ofPiece? := by
        rcases hself with hself | hself
        · exact components_of_split_cons hself hp
        · rw [components_of_split_cons hself hp, List.filterMap_append, hnothing, List.append_nil]
      rw [components_of_split_cons hjoined (join_ne_empty hp text), hpath, List.filterMap_append,
        List.append_assoc]

/-- A piece that is joined to a path adds its component, if it stands for one. -/
theorem components_join (hp : p.text ≠ "") (hs : '/' ∉ s.toList) :
    (p.join s).components = p.components ++ (Component.ofPiece? s).toList := by
  have hrelative : (⟨s⟩ : Path).isAbsolute = false := by
    have hhead : s.toList.head? ≠ some '/' := fun h => hs (List.mem_of_head? h)
    simpa [isAbsolute] using hhead
  rw [components_join_of_relative hp hrelative, Text.split_of_not_mem hs]
  cases hpiece : Component.ofPiece? s <;> simp [hpiece]

/-- What a path means up to the last component read, the last one on top. -/
def stack (p : Path) : List Component :=
  p.components.foldl pushNormal []

theorem stack_join (hs : '/' ∉ s.toList) (hne : s ≠ "") :
    (p.join s).stack = (Component.ofPiece? s).toList.foldl pushNormal p.stack := by
  by_cases hp : p.text = ""
  · have hjoin : p.join s = ⟨s⟩ := by simp [join, hp]
    have hstack : p.stack = [] := by
      obtain rfl : p = ⟨""⟩ := by
        cases p
        simpa using hp
      decide
    rw [hjoin, hstack]
    by_cases hdot : s = "."
    · subst hdot
      decide
    · rw [stack, components_of_split (Text.split_of_not_mem hs) hne, if_neg hdot]
      simp
  · rw [stack, components_join hp hs, List.foldl_append]
    rfl

theorem stack_foldl_join {segments : List String}
    (h : ∀ s ∈ segments, s ≠ "" ∧ '/' ∉ s.toList) (p : Path) :
    (segments.foldl join p).stack =
      (segments.filterMap Component.ofPiece?).foldl pushNormal p.stack := by
  induction segments generalizing p with
  | nil => rfl
  | cons s segments ih =>
      rw [List.forall_mem_cons] at h
      rw [List.foldl_cons, ih h.2, stack_join h.1.2 h.1.1, List.filterMap_cons]
      cases Component.ofPiece? s <;> rfl

end Path

end Polybuild
