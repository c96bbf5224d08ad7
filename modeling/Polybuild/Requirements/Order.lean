import Polybuild.Requirements.Basic

/-!
# The order of requirements

`order` lists the wanted modules so that each stands behind the modules it requires. The graph is
walked in depth from every wanted name in turn, through modules that are not wanted too, and a
module is finished when all it requires is finished. Names that are not known are passed over.

The walk carries the stack of modules it has entered and not finished, the last one on top. To
meet one of them again is a cycle, and the stack from there up is its chain. The names on the
stack are known and distinct, so each step into a module leaves fewer known names off the stack,
and the walk ends.
-/

namespace Polybuild

/-- A circle of modules that require each other. The chain starts and ends with one module. -/
structure Cycle where
  chain : List String
  deriving DecidableEq, Repr

namespace Cycle

/-- The cycle that closes when a module is met again on a stack. -/
def ofStack (name : String) (stack : List String) : Cycle :=
  ⟨name :: (stack.takeWhile (· ≠ name)).reverse ++ [name]⟩

/-- The words for a cycle. -/
def message (c : Cycle) : String :=
  "Circular dependency detected: " ++ Text.join " -> " c.chain

end Cycle

namespace Requirements

/-- How far a walk has come: the modules that are finished, and those of them that were wanted,
in the order in which they were. -/
structure Progress where
  finished : List String
  emitted : List String
  deriving DecidableEq, Repr

namespace Progress

/-- Nothing is finished. -/
def start : Progress := ⟨[], []⟩

/-- One more module is finished. -/
def finish (p : Progress) (wanted : List String) (name : String) : Progress :=
  ⟨name :: p.finished, if wanted.contains name then p.emitted ++ [name] else p.emitted⟩

end Progress

/-- The known names that are not on a stack. -/
def offStack (g : Requirements) (stack : List String) : List String :=
  g.edges.keys.filter fun name => !stack.contains name

theorem mem_keys_of_get? {α : Type} {t : Keyed α} {key : String} {a : α}
    (h : t.get? key = some a) : key ∈ t.keys := by
  obtain ⟨before, after, heq, -⟩ := List.lookup_eq_some_iff.1 h
  simp [Keyed.keys, heq]

theorem length_offStack_lt {g : Requirements} {name : String} {stack : List String}
    {required : List String} (hknown : g.edges.get? name = some required)
    (hnew : stack.contains name = false) :
    (g.offStack (name :: stack)).length < (g.offStack stack).length := by
  have hmem : name ∈ g.offStack stack := by
    simp only [offStack, List.mem_filter]
    exact ⟨mem_keys_of_get? hknown, by simpa using hnew⟩
  have hsub : g.offStack (name :: stack) = (g.offStack stack).filter (· != name) := by
    simp only [offStack, List.filter_filter]
    apply List.filter_congr
    intro x _
    by_cases hx : x = name <;> simp [hx]
  rw [hsub]
  exact List.length_filter_lt_length_iff_exists.2 ⟨name, hmem, by simp⟩

/-- Walks from each name of a list in turn, with the modules of a stack entered. -/
def walk (g : Requirements) (wanted stack : List String) :
    List String → Progress → Except Cycle Progress
  | [], p => .ok p
  | name :: rest, p =>
      if p.finished.contains name then g.walk wanted stack rest p
      else
        match _ : g.edges.get? name with
        | none => g.walk wanted stack rest p
        | some required =>
            if _ : stack.contains name then .error (Cycle.ofStack name stack)
            else
              (g.walk wanted (name :: stack) required p).bind fun p =>
                g.walk wanted stack rest (p.finish wanted name)
termination_by names => ((g.offStack stack).length, names.length)
decreasing_by
  · exact Prod.Lex.right _ (by simp)
  · exact Prod.Lex.right _ (by simp)
  · exact Prod.Lex.left _ _ (length_offStack_lt ‹_› (Bool.eq_false_iff.2 ‹_›))
  · exact Prod.Lex.right _ (by simp)

/-- The wanted modules that are known, each once and behind the modules it requires. -/
def order (g : Requirements) (wanted : List String) : Except Cycle (List String) :=
  (g.walk wanted [] wanted .start).map (·.emitted)

@[simp] theorem order_nil (g : Requirements) : g.order [] = .ok [] := by
  simp [order, walk, Progress.start, Except.map]

end Requirements

end Polybuild
