import Polybuild.Proofs.Requirements.Walk

/-!
# Only what comes up counts

A walk looks up the names it was started from and the names that it finds in the requirements of
those, and no others. So two graphs that say the same of every name that comes up are walked alike,
up to a cycle or to the end, whatever else they say. A name that is not known can come up too: then
both graphs have to leave it out.
-/

namespace Polybuild

namespace Requirements

variable {g h : Requirements} {wanted stack names : List String} {p : Progress} {x y : String}

/-- Whether a walk from some names can look up a name. -/
def ComesUp (g : Requirements) (wanted : List String) (x : String) : Prop :=
  ∃ w ∈ wanted, Relation.ReflTransGen (fun a b => b ∈ g.of a) w x

theorem comesUp_of_mem (hx : x ∈ wanted) : g.ComesUp wanted x :=
  ⟨x, hx, .refl⟩

theorem ComesUp.of_mem_of (hx : g.ComesUp wanted x) (hy : y ∈ g.of x) : g.ComesUp wanted y := by
  obtain ⟨w, hw, hreaches⟩ := hx
  exact ⟨w, hw, hreaches.tail hy⟩

/-- What comes up stays among names that require each other only. -/
theorem ComesUp.mem_of_closed (hx : g.ComesUp wanted x) (hwanted : wanted ⊆ names)
    (hclosed : ∀ a ∈ names, g.of a ⊆ names) : x ∈ names := by
  obtain ⟨w, hw, hreaches⟩ := hx
  induction hreaches with
  | refl => exact hwanted hw
  | tail _ hstep ih => exact hclosed _ ih hstep

/-- Another graph says the same of every name that comes up. -/
def AgreesOn (g : Requirements) (wanted : List String) (h : Requirements) : Prop :=
  ∀ x, g.ComesUp wanted x → h.knows x = g.knows x ∧ h.of x = g.of x

theorem get?_eq_of_knows (hknows : h.knows x = g.knows x) (hof : h.of x = g.of x) :
    h.edges.get? x = g.edges.get? x := by
  unfold knows at hknows
  unfold of at hof
  cases hg : g.edges.get? x <;> cases hh : h.edges.get? x <;> simp_all

/-- A module that does not come up may be declared in any way. -/
theorem AgreesOn.insert (hagree : g.AgreesOn wanted h) (hx : ¬g.ComesUp wanted x)
    (required : List String) : g.AgreesOn wanted (h.insert x required) := by
  intro y hy
  have hne : y ≠ x := fun heq => hx (heq ▸ hy)
  obtain ⟨hknows, hof⟩ := hagree y hy
  rw [knows_insert, of_insert, if_neg hne, hknows, hof]
  simp [hne]

/-- Graphs that agree on what comes up are walked alike. -/
theorem AgreesOn.walk_eq (hagree : g.AgreesOn wanted h) (hnames : ∀ x ∈ names, g.ComesUp wanted x) :
    h.walk wanted stack names p = g.walk wanted stack names p := by
  have hget : ∀ x, g.ComesUp wanted x → h.edges.get? x = g.edges.get? x :=
    fun x hx => get?_eq_of_knows (hagree x hx).1 (hagree x hx).2
  fun_induction walk g wanted stack names p with
  | case1 => exact walk_nil
  | case2 stack name rest p hfinished ih =>
      rw [walk_cons_of_finished hfinished, ih fun x hx => hnames x (List.mem_cons_of_mem _ hx)]
  | case3 stack name rest p _ hunknown ih =>
      have hname := hget name (hnames name List.mem_cons_self)
      rw [walk_cons_of_unknown (hname.trans hunknown),
        ih fun x hx => hnames x (List.mem_cons_of_mem _ hx)]
  | case4 stack name rest p hnew required hrequired hstack =>
      have hname := hget name (hnames name List.mem_cons_self)
      rw [walk_cons_of_known hnew (hname.trans hrequired), if_pos hstack]
  | case5 stack name rest p hnew required hrequired hstack ihinner ihrest =>
      have hname := hnames name List.mem_cons_self
      have hinner : ∀ x ∈ required, g.ComesUp wanted x := by
        intro x hx
        rw [← of_eq_of_get? hrequired] at hx
        exact hname.of_mem_of hx
      rw [walk_cons_of_known hnew ((hget name hname).trans hrequired), if_neg hstack,
        ihinner hinner]
      congr 1
      funext q
      exact ihrest q fun x hx => hnames x (List.mem_cons_of_mem _ hx)

theorem AgreesOn.order_eq (hagree : g.AgreesOn wanted h) : h.order wanted = g.order wanted := by
  unfold order
  rw [hagree.walk_eq fun x hx => comesUp_of_mem hx]

/-- Graphs that agree on what comes up have the same order, or the same cycle. So a module that does
not come up changes nothing, nor does a cycle through it. -/
theorem order_depends_on_what_comes_up (hagree : g.AgreesOn wanted h) :
    h.order wanted = g.order wanted ∧
      ∀ x required, ¬g.ComesUp wanted x → (h.insert x required).order wanted = g.order wanted :=
  ⟨hagree.order_eq, fun _ required hx => (hagree.insert hx required).order_eq⟩

/-- `App` requires `Ghost`, which is not known, and `Runtime`. -/
def alone : Requirements :=
  (empty.insert "App" ["Ghost", "Runtime"]).insert "Runtime" []

/-- Two more modules that require each other, and `App`. -/
def beside : Requirements :=
  (alone.insert "Tool" ["Plugin", "App"]).insert "Plugin" ["Tool"]

theorem comesUp_alone (hx : alone.ComesUp ["App"] x) : x ∈ ["App", "Ghost", "Runtime"] :=
  hx.mem_of_closed (by simp) (by decide)

theorem agreesOn_beside : alone.AgreesOn ["App"] beside := by
  have hsame : ∀ x ∈ ["App", "Ghost", "Runtime"],
      beside.knows x = alone.knows x ∧ beside.of x = alone.of x := by decide
  exact fun x hx => hsame x (comesUp_alone hx)

/-- The cycle beside `App` does not keep `App` from being ordered, nor does a shorter one. -/
theorem order_beside :
    beside.order ["App"] = .ok ["App"] ∧ beside.order ["Tool"] = .error ⟨["Tool", "Plugin", "Tool"]⟩ ∧
      (beside.insert "Tool" ["Tool"]).order ["App"] = .ok ["App"] := by
  have halone : alone.order ["App"] = .ok ["App"] := by cbv
  have htool : ¬alone.ComesUp ["App"] "Tool" := fun hx => by simpa using comesUp_alone hx
  obtain ⟨hsame, hadded⟩ := order_depends_on_what_comes_up agreesOn_beside
  exact ⟨hsame.trans halone, by cbv, (hadded "Tool" ["Tool"] htool).trans halone⟩

end Requirements

end Polybuild
