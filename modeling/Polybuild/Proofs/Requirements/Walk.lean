import Mathlib.Logic.Relation
import Polybuild.Proofs.Except
import Polybuild.Requirements.Order

/-!
# What a walk through requirements keeps

`g.Requires a b` is one edge between known modules. A list of modules is `Grounded` when each of
them has all that it requires behind it; the finished modules of a walk, the last one first, are
such a list. This is the one fact that the order of requirements rests on: whatever a module
reaches stands behind it in a grounded list, so nothing in a grounded list without repetition
reaches itself.

`Progress.Sound` collects what holds of the progress of a walk at any time, and `Walked` says
what a walk that ends without a cycle adds to it.
-/

namespace Polybuild

namespace Requirements

variable {g : Requirements} {wanted stack names : List String} {p q : Progress}

/-- One module requires another, and both are known. -/
def Requires (g : Requirements) (a b : String) : Prop :=
  b ∈ g.of a ∧ g.knows b = true

theorem of_eq_of_get? {name : String} {required : List String}
    (h : g.edges.get? name = some required) : g.of name = required := by
  simp [of, h]

theorem knows_of_get? {name : String} {required : List String}
    (h : g.edges.get? name = some required) : g.knows name = true := by
  simp [knows, h]

theorem not_knows_of_get? {name : String} (h : g.edges.get? name = none) :
    g.knows name = false := by
  simp [knows, h]

/-! ## Steps of a walk -/

theorem walk_nil : g.walk wanted stack [] p = .ok p := by
  rw [walk]

theorem walk_cons_of_finished {name : String} (hfinished : p.finished.contains name = true) :
    g.walk wanted stack (name :: names) p = g.walk wanted stack names p := by
  rw [walk, if_pos hfinished]

theorem walk_cons_of_unknown {name : String} (hunknown : g.edges.get? name = none) :
    g.walk wanted stack (name :: names) p = g.walk wanted stack names p := by
  rw [walk]
  split
  · rfl
  · split
    · rfl
    · rename_i hrequired
      simp [hunknown] at hrequired

/-- A known module is finished behind all that it requires, unless it was entered before. -/
theorem walk_cons_of_known {name : String} {required : List String}
    (hnew : ¬p.finished.contains name = true) (hrequired : g.edges.get? name = some required) :
    g.walk wanted stack (name :: names) p =
      if stack.contains name then .error (Cycle.ofStack name stack)
      else (g.walk wanted (name :: stack) required p).bind fun q =>
        g.walk wanted stack names (q.finish wanted name) := by
  rw [walk, if_neg hnew]
  split
  · rename_i hunknown
    simp [hrequired] at hunknown
  · rename_i found hfound
    obtain rfl : required = found := Option.some.inj (hrequired.symm.trans hfound)
    simp only [dite_eq_ite]

/-- A walk from the names of two lists is one from the first and then one from the second. -/
theorem walk_append (front back : List String) :
    g.walk wanted stack (front ++ back) p =
      (g.walk wanted stack front p).bind fun q => g.walk wanted stack back q := by
  fun_induction walk g wanted stack front p with
  | case1 => rfl
  | case2 stack name rest p hfinished ih =>
      rw [List.cons_append, walk_cons_of_finished hfinished, ih]
  | case3 stack name rest p _ hunknown ih =>
      rw [List.cons_append, walk_cons_of_unknown hunknown, ih]
  | case4 stack name rest p hnew required hrequired hstack =>
      rw [List.cons_append, walk_cons_of_known hnew hrequired, if_pos hstack]
      rfl
  | case5 stack name rest p hnew required hrequired hstack ihinner ihrest =>
      rw [List.cons_append, walk_cons_of_known hnew hrequired, if_neg hstack]
      cases g.walk wanted (name :: stack) required p with
      | error cycle => rfl
      | ok q => exact ihrest q

/-! ## Grounded lists -/

/-- Each module of a list has all that it requires behind it. -/
def Grounded (g : Requirements) : List String → Prop
  | [] => True
  | x :: rest => (∀ y, g.Requires x y → y ∈ rest) ∧ Grounded g rest

theorem Grounded.of_append {before after : List String} (h : g.Grounded (before ++ after)) :
    g.Grounded after := by
  induction before with
  | nil => exact h
  | cons x before ih => exact ih h.2

/-- What the first module of a grounded list reaches stands behind it. -/
theorem Grounded.mem_of_reaches {x y : String} {rest : List String}
    (h : g.Grounded (x :: rest)) (hxy : Relation.TransGen g.Requires x y) : y ∈ rest := by
  induction hxy with
  | single hstep => exact h.1 _ hstep
  | tail _ hstep ih =>
      obtain ⟨before, after, rfl⟩ := List.append_of_mem ih
      have hlast := (Grounded.of_append h.2).1 _ hstep
      exact List.mem_append_right _ (List.mem_cons_of_mem _ hlast)

/-- A grounded list is closed: it holds what its modules reach. -/
theorem Grounded.mem_of_reflTransGen {x y : String} {list : List String} (h : g.Grounded list)
    (hx : x ∈ list) (hxy : Relation.ReflTransGen g.Requires x y) : y ∈ list := by
  obtain ⟨before, after, rfl⟩ := List.append_of_mem hx
  rcases Relation.reflTransGen_iff_eq_or_transGen.1 hxy with rfl | hxy
  · exact hx
  · have hy := (Grounded.of_append h).mem_of_reaches hxy
    exact List.mem_append_right _ (List.mem_cons_of_mem _ hy)

/-- Nothing in a grounded list without repetition reaches itself. -/
theorem Grounded.not_reaches_self {x : String} {list : List String} (h : g.Grounded list)
    (hnodup : list.Nodup) (hx : x ∈ list) : ¬ Relation.TransGen g.Requires x x := by
  intro hself
  obtain ⟨before, after, rfl⟩ := List.append_of_mem hx
  have hbehind := (Grounded.of_append h).mem_of_reaches hself
  exact (List.nodup_cons.1 (List.nodup_append.1 hnodup).2.1).1 hbehind

/-! ## Progress -/

/-- What holds of the progress of a walk at any time. -/
structure Progress.Sound (g : Requirements) (wanted : List String) (p : Progress) : Prop where
  grounded : g.Grounded p.finished
  distinct : p.finished.Nodup
  known : ∀ x ∈ p.finished, g.knows x = true
  emitted : p.emitted = p.finished.reverse.filter fun x => wanted.contains x

theorem Progress.sound_start : Progress.start.Sound g wanted where
  grounded := trivial
  distinct := List.nodup_nil
  known := by simp [Progress.start]
  emitted := rfl

/-- A module may be finished when all that it requires is. -/
theorem Progress.Sound.finish {name : String} (hp : p.Sound g wanted)
    (hknown : g.knows name = true) (hnew : name ∉ p.finished)
    (hrequired : ∀ y, g.Requires name y → y ∈ p.finished) :
    (p.finish wanted name).Sound g wanted where
  grounded := ⟨hrequired, hp.grounded⟩
  distinct := List.nodup_cons.2 ⟨hnew, hp.distinct⟩
  known := by
    intro x hx
    rcases List.mem_cons.1 hx with rfl | hx
    · exact hknown
    · exact hp.known x hx
  emitted := by
    simp only [Progress.finish, List.reverse_cons, List.filter_append, hp.emitted]
    split <;> simp_all

/-- What a walk that ends without a cycle has done. Nothing that was finished is forgotten, the
known modules it walked from are finished, and the modules on the stack are not. -/
structure Walked (g : Requirements) (wanted stack names : List String) (p q : Progress) :
    Prop where
  sound : q.Sound g wanted
  kept : p.finished <:+ q.finished
  reached : ∀ x ∈ names, g.knows x = true → x ∈ q.finished
  pending : ∀ x ∈ stack, x ∈ q.finished → x ∈ p.finished

theorem Walked.cons {name : String} (h : Walked g wanted stack names p q)
    (hname : g.knows name = true → name ∈ q.finished) :
    Walked g wanted stack (name :: names) p q where
  sound := h.sound
  kept := h.kept
  reached := by
    intro x hx hknown
    rcases List.mem_cons.1 hx with rfl | hx
    · exact hname hknown
    · exact h.reached x hx hknown
  pending := h.pending

/-- Walking from all that a module requires allows to finish it. -/
theorem Walked.finish {name : String} {required : List String}
    (h : Walked g wanted (name :: stack) required p q)
    (hrequired : g.edges.get? name = some required) (hnew : name ∉ p.finished) :
    (q.finish wanted name).Sound g wanted := by
  refine h.sound.finish (knows_of_get? hrequired) ?_ ?_
  · exact fun hmem => hnew (h.pending name List.mem_cons_self hmem)
  · rintro y ⟨hmem, hknown⟩
    rw [of_eq_of_get? hrequired] at hmem
    exact h.reached y hmem hknown

/-- A walk through all that a module requires, and then from the rest of a list. -/
theorem Walked.andThen {name : String} {required : List String} {r : Progress}
    (hentered : Walked g wanted (name :: stack) required p r)
    (hleft : Walked g wanted stack names (r.finish wanted name) q) (hstack : name ∉ stack) :
    Walked g wanted stack (name :: names) p q := by
  have hkept : name :: r.finished <:+ q.finished := hleft.kept
  refine Walked.cons ⟨hleft.sound, ?_, hleft.reached, ?_⟩ ?_
  · exact (hentered.kept.trans (List.suffix_cons name _)).trans hkept
  · intro x hx hfinished
    rcases List.mem_cons.1 (hleft.pending x hx hfinished) with rfl | hbefore
    · exact absurd hx hstack
    · exact hentered.pending x (List.mem_cons_of_mem _ hx) hbefore
  · exact fun _ => hkept.subset List.mem_cons_self

/-- A walk that ends without a cycle keeps its progress sound. -/
theorem walked_of_walk (h : g.walk wanted stack names p = .ok q) (hp : p.Sound g wanted) :
    Walked g wanted stack names p q := by
  fun_induction walk g wanted stack names p generalizing q with
  | case1 stack p =>
      obtain rfl : p = q := by simpa using h
      exact ⟨hp, List.suffix_refl _, by simp, fun _ _ hx => hx⟩
  | case2 stack name rest p hfinished ih =>
      have hwalked := ih h hp
      exact hwalked.cons fun _ => hwalked.kept.subset (by simpa using hfinished)
  | case3 stack name rest p _ hunknown ih =>
      exact (ih h hp).cons fun hknown => by simp [not_knows_of_get? hunknown] at hknown
  | case4 => simp at h
  | case5 stack name rest p hnew required hrequired hstack ihinner ihrest =>
      -- the module is entered, all that it requires is walked, and then it is finished
      obtain ⟨r, hinner, hrest⟩ := bind_eq_ok_iff.1 h
      have hentered := ihinner hinner hp
      have hleft := ihrest r hrest (hentered.finish hrequired (by simpa using hnew))
      exact hentered.andThen hleft (by simpa using hstack)

/-- A module that requires nothing is an order of its own. -/
theorem order_singleton {name : String} (h : g.edges.get? name = some []) :
    g.order [name] = .ok [name] := by
  have hwalk : g.walk [name] [] [name] .start = .ok ⟨[name], [name]⟩ := by
    rw [walk_cons_of_known (by simp [Progress.start]) h]
    simp [walk_nil, Except.bind, Progress.finish, Progress.start]
  simp [order, hwalk, Except.map]

end Requirements

end Polybuild
