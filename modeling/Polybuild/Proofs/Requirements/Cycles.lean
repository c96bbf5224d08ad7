import Mathlib.Data.List.Chain
import Polybuild.Proofs.Requirements.Sorted

/-!
# Cycles of requirements

The modules cannot be ordered exactly when a wanted one reaches a cycle, and then the chain that
is told is such a cycle.

The stack of a walk is a `Way` through the graph from a wanted module to the one on top, without
repetition. So when the walk meets a module of the stack again, the piece of the stack from there
up closes to a cycle that meets no module twice. In the other direction an order leaves no cycle
unseen: the finished modules hold all that the wanted ones reach, and nothing in a grounded list
reaches itself.
-/

namespace Polybuild

/-- A chain of known modules that require each other in turn. It leads back to its first module
and meets no module twice on the way. -/
structure Cycle.Simple (g : Requirements) (c : Cycle) : Prop where
  long : 2 ≤ c.chain.length
  closed : c.chain.head? = c.chain.getLast?
  distinct : c.chain.dropLast.Nodup
  known : ∀ x ∈ c.chain, g.knows x = true
  steps : c.chain.IsChain fun a b => b ∈ g.of a

namespace Requirements

variable {g : Requirements} {wanted stack names : List String} {p : Progress} {c : Cycle}

/-- Whether a module is reached from a known one of the wanted modules. -/
def ReachedFrom (g : Requirements) (wanted : List String) (x : String) : Prop :=
  ∃ w ∈ wanted, g.knows w = true ∧ Relation.ReflTransGen g.Requires w x

/-- A stack of modules, each but the last one required by the one below it. -/
structure Way (g : Requirements) (wanted stack : List String) : Prop where
  steps : stack.IsChain fun a b => a ∈ g.of b
  distinct : stack.Nodup
  known : ∀ x ∈ stack, g.knows x = true
  reached : ∀ x ∈ stack, g.ReachedFrom wanted x

/-- What a walk asks for: with nothing entered the wanted modules, and else what the module on
top of the stack requires. -/
def Asked (g : Requirements) (wanted : List String) : List String → String → Prop
  | [], name => name ∈ wanted
  | top :: _, name => name ∈ g.of top

theorem Way.empty : Way g wanted [] :=
  ⟨.nil, List.nodup_nil, by simp, by simp⟩

/-- A module that is asked for is reached. -/
theorem Way.reached_of_asked {name : String} (h : Way g wanted stack)
    (hasked : g.Asked wanted stack name) (hknown : g.knows name = true) :
    g.ReachedFrom wanted name := by
  cases stack with
  | nil => exact ⟨name, hasked, hknown, .refl⟩
  | cons top below =>
      obtain ⟨w, hw, hwknown, hwtop⟩ := h.reached top List.mem_cons_self
      exact ⟨w, hw, hwknown, hwtop.tail ⟨hasked, hknown⟩⟩

/-- A way goes on to a module that is asked for and not on it yet. -/
theorem Way.push {name : String} (h : Way g wanted stack) (hasked : g.Asked wanted stack name)
    (hknown : g.knows name = true) (hnew : name ∉ stack) : Way g wanted (name :: stack) where
  steps := by
    refine List.isChain_cons.2 ⟨?_, h.steps⟩
    cases stack with
    | nil => simp
    | cons top below => simpa [Asked] using hasked
  distinct := List.nodup_cons.2 ⟨hnew, h.distinct⟩
  known := by
    intro x hx
    rcases List.mem_cons.1 hx with rfl | hx
    · exact hknown
    · exact h.known x hx
  reached := by
    intro x hx
    rcases List.mem_cons.1 hx with rfl | hx
    · exact h.reached_of_asked hasked hknown
    · exact h.reached x hx

/-- A walk that ends in a cycle has met a module of its stack again. -/
theorem exists_way_of_walk_eq_error (h : g.walk wanted stack names p = .error c)
    (hway : Way g wanted stack) (hasked : ∀ x ∈ names, g.Asked wanted stack x) :
    ∃ name stack, c = Cycle.ofStack name stack ∧ Way g wanted stack ∧ name ∈ stack ∧
      g.Asked wanted stack name := by
  fun_induction walk g wanted stack names p with
  | case1 => simp at h
  | case2 stack name rest p _ ih =>
      exact ih h hway fun x hx => hasked x (List.mem_cons_of_mem _ hx)
  | case3 stack name rest p _ _ ih =>
      exact ih h hway fun x hx => hasked x (List.mem_cons_of_mem _ hx)
  | case4 stack name rest p _ required _ hstack =>
      obtain rfl : Cycle.ofStack name stack = c := by simpa using h
      exact ⟨name, stack, rfl, hway, by simpa using hstack, hasked name List.mem_cons_self⟩
  | case5 stack name rest p _ required hrequired hstack ihinner ihrest =>
      rcases bind_eq_error_iff.1 h with hinner | ⟨q, -, hrest⟩
      · have hentered := hway.push (hasked name List.mem_cons_self) (knows_of_get? hrequired)
          (by simpa using hstack)
        exact ihinner hinner hentered fun x hx => by simpa [Asked, of_eq_of_get? hrequired] using hx
      · exact ihrest q hrest hway fun x hx => hasked x (List.mem_cons_of_mem _ hx)

theorem ofStack_append {name : String} {above below : List String} (h : name ∉ above) :
    Cycle.ofStack name (above ++ name :: below) = ⟨name :: above.reverse ++ [name]⟩ := by
  have habove : ∀ x ∈ above, decide (x ≠ name) = true := by
    intro x hx
    have hne : x ≠ name := fun heq => h (heq ▸ hx)
    simpa using hne
  rw [Cycle.ofStack, List.takeWhile_append_of_pos habove]
  simp

/-- The stack from a module up, and that module again, is a cycle. -/
theorem Way.simple_ofStack {name : String} (h : Way g wanted stack) (hname : name ∈ stack)
    (hasked : g.Asked wanted stack name) :
    (Cycle.ofStack name stack).Simple g ∧ (Cycle.ofStack name stack).chain.head? = some name := by
  obtain ⟨above, below, rfl⟩ := List.append_of_mem hname
  have hpart : (above ++ [name]) <+: above ++ name :: below := ⟨below, by simp⟩
  have hdistinct : (above ++ [name]).Nodup := h.distinct.sublist hpart.sublist
  have hnew : name ∉ above := by
    intro hmem
    exact (List.nodup_append.1 hdistinct).2.2 name hmem name List.mem_cons_self rfl
  rw [ofStack_append hnew]
  -- read from its end, the chain is the module and then the stack down to it
  have hsteps : (name :: (above ++ [name])).IsChain fun a b => a ∈ g.of b := by
    refine List.isChain_cons.2 ⟨?_, h.steps.prefix hpart⟩
    cases above with
    | nil => simpa [Asked] using hasked
    | cons top above => simpa [Asked] using hasked
  refine ⟨⟨by simp, ?_, ?_, ?_, ?_⟩, rfl⟩
  · rw [List.getLast?_concat]
    rfl
  · have hreverse : name :: above.reverse = (above ++ [name]).reverse := by simp
    rw [List.dropLast_concat, hreverse]
    exact List.nodup_reverse.2 hdistinct
  · intro x hx
    apply h.known
    apply hpart.subset
    simpa [or_comm] using hx
  · have hreverse : name :: above.reverse ++ [name] = (name :: (above ++ [name])).reverse := by
      simp
    rw [hreverse]
    exact List.isChain_reverse.2 hsteps

/-- A cycle leads from its first module back to it. -/
theorem reaches_self_of_simple {first : String} (h : c.Simple g)
    (hfirst : c.chain.head? = some first) : Relation.TransGen g.Requires first first := by
  have hsteps : c.chain.IsChain g.Requires :=
    h.steps.imp_of_mem_imp fun a b _ hb hstep => ⟨hstep, h.known b hb⟩
  have hclosed := h.closed
  have hlong := h.long
  match hchain : c.chain with
  | [] => simp [hchain] at hlong
  | [x] => simp [hchain] at hlong
  | x :: y :: rest =>
      rw [hchain] at hsteps hclosed hfirst
      obtain rfl : x = first := by simpa using hfirst
      have hlast : (y :: rest).getLast (List.cons_ne_nil _ _) = x := by
        rw [List.head?_cons, List.getLast?_cons_cons,
          List.getLast?_eq_some_getLast (List.cons_ne_nil _ _)] at hclosed
        exact (Option.some.inj hclosed).symm
      obtain ⟨hxy, hrest⟩ := List.isChain_cons_cons.1 hsteps
      exact .head' hxy (List.relationReflTransGen_of_exists_isChain_cons rest hrest hlast)

/-- What an error of `order` tells. -/
theorem simple_of_order_eq_error (h : g.order wanted = .error c) :
    c.Simple g ∧ ∃ first, c.chain.head? = some first ∧ g.ReachedFrom wanted first := by
  cases hwalk : g.walk wanted [] wanted .start with
  | ok q => simp [order, hwalk, Except.map] at h
  | error cycle =>
      obtain rfl : cycle = c := by simpa [order, hwalk, Except.map] using h
      obtain ⟨name, stack, rfl, hway, hname, hasked⟩ :=
        exists_way_of_walk_eq_error hwalk Way.empty fun x hx => hx
      obtain ⟨hsimple, hfirst⟩ := hway.simple_ofStack hname hasked
      exact ⟨hsimple, name, hfirst, hway.reached name hname⟩

/-- An order leaves no cycle that a wanted module reaches. -/
theorem not_reaches_self_of_order {x : String} (h : g.order wanted = .ok names)
    (hx : g.ReachedFrom wanted x) : ¬ Relation.TransGen g.Requires x x := by
  obtain ⟨q, hwalked, -⟩ := exists_walked_of_order h
  obtain ⟨w, hw, hknown, hreaches⟩ := hx
  have hfinished := hwalked.sound.grounded.mem_of_reflTransGen (hwalked.reached w hw hknown) hreaches
  exact hwalked.sound.grounded.not_reaches_self hwalked.sound.distinct hfinished

/-- The wanted modules cannot be ordered exactly when one of them reaches a module on a cycle.
The chain that is told is a cycle that meets no module twice, and a wanted module reaches it. -/
theorem order_eq_error_iff_cycle (g : Requirements) (wanted : List String) :
    ((∃ c, g.order wanted = .error c) ↔
        ∃ x, g.ReachedFrom wanted x ∧ Relation.TransGen g.Requires x x) ∧
      ∀ c, g.order wanted = .error c →
        c.Simple g ∧ ∃ first, c.chain.head? = some first ∧ g.ReachedFrom wanted first := by
  refine ⟨?_, fun c hc => simple_of_order_eq_error hc⟩
  constructor
  · rintro ⟨c, hc⟩
    obtain ⟨hsimple, first, hfirst, hreached⟩ := simple_of_order_eq_error hc
    exact ⟨first, hreached, reaches_self_of_simple hsimple hfirst⟩
  · rintro ⟨x, hreached, hself⟩
    cases horder : g.order wanted with
    | error c => exact ⟨c, rfl⟩
    | ok names => exact absurd hself (not_reaches_self_of_order horder hreached)

/-- `App` requires `Log`, and `Log` and `Net`, which are not wanted, require each other. -/
def aroundUnwanted : Requirements :=
  ((empty.insert "App" ["Log"]).insert "Log" ["Net"]).insert "Net" ["App!", "Log"]

theorem order_aroundUnwanted :
    aroundUnwanted.order ["Ghost", "App"] = .error ⟨["Log", "Net", "Log"]⟩ ∧
      (⟨["Log", "Net", "Log"]⟩ : Cycle).Simple aroundUnwanted ∧
      ∃ x, aroundUnwanted.ReachedFrom ["Ghost", "App"] x ∧
        Relation.TransGen aroundUnwanted.Requires x x := by
  have horder : aroundUnwanted.order ["Ghost", "App"] = .error ⟨["Log", "Net", "Log"]⟩ := by cbv
  obtain ⟨hiff, htold⟩ := order_eq_error_iff_cycle aroundUnwanted ["Ghost", "App"]
  exact ⟨horder, (htold _ horder).1, hiff.1 ⟨_, horder⟩⟩

end Requirements

end Polybuild
