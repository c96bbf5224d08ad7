import Mathlib.Data.List.Perm.Subperm
import Polybuild.Proofs.Requirements.Cycles

/-!
# How deep a walk goes

`walk` hands the stack down to the walks inside it, so none of them can leave anything on it. Here
the stack is part of the state, as it is for a program with one stack: a module is pushed when it
is entered and the top is popped when it is left, and a cycle ends everything at once, with the
stack as it is then. `Visits` says how such visits go, without saying that they end. That they do,
in one way each, is `exists_visits` and `Visits.unique`, and what they come to is what `walk`
computes (`Visits.walk_eq`).

A visit calls for the visits of what the module requires (`Calls`). `Standing` is what holds of a
call at the end of a path of calls: its stack lists the calls below it, which are for distinct
known modules, so there are no more calls in one another than known modules and one.
-/

namespace Polybuild

namespace Requirements

variable {g : Requirements} {wanted stack names : List String} {name : String}

/-- What visits go on from: the progress so far, and the stack of the modules that are entered and
not left, the last one on top. -/
structure Trail where
  progress : Progress
  stack : List String
  deriving DecidableEq, Repr

namespace Trail

/-- Nothing is finished or entered. -/
def start : Trail := ⟨.start, []⟩

/-- A module is pushed on the stack. -/
def enter (s : Trail) (name : String) : Trail :=
  ⟨s.progress, name :: s.stack⟩

/-- The top of the stack is popped, whatever it is, and a module is finished. -/
def leave (s : Trail) (wanted : List String) (name : String) : Trail :=
  ⟨s.progress.finish wanted name, s.stack.tail⟩

end Trail

/-- What is to be done about a module. -/
inductive Opening where
  /-- It is finished or not known. -/
  | pass
  /-- It was entered before. -/
  | close (c : Cycle)
  /-- It is to be entered, and requires some modules. -/
  | enter (required : List String)
  deriving DecidableEq, Repr

/-- What is to be done about a module at some time. -/
def opening (g : Requirements) (s : Trail) (name : String) : Opening :=
  if s.progress.finished.contains name then .pass
  else
    match g.edges.get? name with
    | none => .pass
    | some required =>
        if s.stack.contains name then .close (Cycle.ofStack name s.stack) else .enter required

/-- The modules of a list are visited in turn, which gives a result and leaves a state behind. A
visit that gives a cycle ends those that it is a part of, and nothing is popped then. -/
inductive Visits (g : Requirements) (wanted : List String) :
    List String → Trail → Except Cycle Unit → Trail → Prop
  | nil {s : Trail} : Visits g wanted [] s (.ok ()) s
  | pass {name : String} {rest : List String} {s t : Trail} {r : Except Cycle Unit}
      (hopening : g.opening s name = .pass) (hrest : Visits g wanted rest s r t) :
      Visits g wanted (name :: rest) s r t
  | close {name : String} {rest : List String} {s : Trail} {c : Cycle}
      (hopening : g.opening s name = .close c) : Visits g wanted (name :: rest) s (.error c) s
  | fail {name : String} {required rest : List String} {s t : Trail} {c : Cycle}
      (hopening : g.opening s name = .enter required)
      (hinner : Visits g wanted required (s.enter name) (.error c) t) :
      Visits g wanted (name :: rest) s (.error c) t
  | through {name : String} {required rest : List String} {s t u : Trail} {r : Except Cycle Unit}
      (hopening : g.opening s name = .enter required)
      (hinner : Visits g wanted required (s.enter name) (.ok ()) t)
      (hrest : Visits g wanted rest (t.leave wanted name) r u) :
      Visits g wanted (name :: rest) s r u

variable {s t : Trail} {r : Except Cycle Unit} {required : List String}

theorem opening_of_finished (hfinished : s.progress.finished.contains name = true) :
    g.opening s name = .pass := by
  rw [opening, if_pos hfinished]

theorem opening_of_unknown (hunknown : g.edges.get? name = none) : g.opening s name = .pass := by
  simp [opening, hunknown]

theorem opening_of_known (hnew : ¬s.progress.finished.contains name = true)
    (hrequired : g.edges.get? name = some required) :
    g.opening s name =
      if s.stack.contains name then .close (Cycle.ofStack name s.stack) else .enter required := by
  rw [opening, if_neg hnew, hrequired]

theorem opening_eq_enter_iff :
    g.opening s name = .enter required ↔
      name ∉ s.progress.finished ∧ g.edges.get? name = some required ∧ name ∉ s.stack := by
  unfold opening
  cases g.edges.get? name <;> by_cases hfinished : name ∈ s.progress.finished <;>
    by_cases hstack : name ∈ s.stack <;> simp [hfinished, hstack]

/-- A walk begins as the visit of its first module does. -/
theorem walk_cons (g : Requirements) (wanted : List String) (s : Trail) (name : String)
    (rest : List String) :
    g.walk wanted s.stack (name :: rest) s.progress =
      match g.opening s name with
      | .pass => g.walk wanted s.stack rest s.progress
      | .close c => .error c
      | .enter required =>
          (g.walk wanted (name :: s.stack) required s.progress).bind fun q =>
            g.walk wanted s.stack rest (q.finish wanted name) := by
  by_cases hnew : s.progress.finished.contains name = true
  · rw [walk_cons_of_finished hnew, opening_of_finished hnew]
  · cases hrequired : g.edges.get? name with
    | none => rw [walk_cons_of_unknown hrequired, opening_of_unknown hrequired]
    | some required =>
        rw [walk_cons_of_known hnew hrequired, opening_of_known hnew hrequired]
        cases s.stack.contains name <;> rfl

/-! ## Visits end, in one way -/

/-- Visits that end without a cycle pop what they push. -/
theorem Visits.stack_eq (h : g.Visits wanted names s r t) (hr : r = .ok ()) :
    t.stack = s.stack := by
  induction h with
  | nil => rfl
  | pass _ _ ih => exact ih hr
  | close => simp at hr
  | fail => simp at hr
  | through _ _ _ ihinner ihrest =>
      rw [ihrest hr, Trail.leave, ihinner rfl]
      rfl

/-- So a module that is left had been on top of the stack. -/
theorem Visits.leave_eq (h : g.Visits wanted names (s.enter name) (.ok ()) t) :
    t.leave wanted name = ⟨t.progress.finish wanted name, s.stack⟩ := by
  rw [Trail.leave, h.stack_eq rfl]
  rfl

/-- Visits come to what a walk computes. -/
theorem Visits.walk_eq (h : g.Visits wanted names s r t) :
    g.walk wanted s.stack names s.progress = r.map fun _ => t.progress := by
  induction h with
  | nil => exact walk_nil
  | pass hopening _ ih =>
      rw [walk_cons, hopening]
      exact ih
  | close hopening =>
      rw [walk_cons, hopening]
      rfl
  | fail hopening _ ih =>
      rw [walk_cons, hopening]
      exact congrArg (Except.bind · _) ih
  | through hopening hinner _ ihinner ihrest =>
      rw [hinner.leave_eq] at ihrest
      rw [walk_cons, hopening]
      exact (congrArg (Except.bind · _) ihinner).trans ihrest

/-- Visits have one result and leave one state behind. -/
theorem Visits.unique {r' : Except Cycle Unit} {t' : Trail} (h : g.Visits wanted names s r t)
    (h' : g.Visits wanted names s r' t') : (r, t) = (r', t') := by
  induction h generalizing r' t' with
  | nil =>
      cases h'
      rfl
  | pass hopening _ ih =>
      cases h' with
      | pass _ hrest' => exact ih hrest'
      | close hopening' => simp [hopening] at hopening'
      | fail hopening' => simp [hopening] at hopening'
      | through hopening' => simp [hopening] at hopening'
  | close hopening =>
      cases h' with
      | pass hopening' => simp [hopening] at hopening'
      | close hopening' =>
          obtain rfl := Opening.close.inj (hopening.symm.trans hopening')
          rfl
      | fail hopening' => simp [hopening] at hopening'
      | through hopening' => simp [hopening] at hopening'
  | fail hopening _ ih =>
      cases h' with
      | pass hopening' => simp [hopening] at hopening'
      | close hopening' => simp [hopening] at hopening'
      | fail hopening' hinner' =>
          obtain rfl := Opening.enter.inj (hopening.symm.trans hopening')
          exact ih hinner'
      | through hopening' hinner' =>
          obtain rfl := Opening.enter.inj (hopening.symm.trans hopening')
          simpa using ih hinner'
  | through hopening _ _ ihinner ihrest =>
      cases h' with
      | pass hopening' => simp [hopening] at hopening'
      | close hopening' => simp [hopening] at hopening'
      | fail hopening' hinner' =>
          obtain rfl := Opening.enter.inj (hopening.symm.trans hopening')
          simpa using ihinner hinner'
      | through hopening' hinner' hrest' =>
          obtain rfl := Opening.enter.inj (hopening.symm.trans hopening')
          obtain ⟨-, rfl⟩ := Prod.mk.inj (ihinner hinner')
          exact ihrest hrest'

/-- Visits end, whatever they start from. The induction is on the recursion of `walk`, where fewer
known names are off the stack behind each module that is entered. -/
theorem exists_visits (g : Requirements) (wanted stack names : List String) (p : Progress) :
    ∃ r t, g.Visits wanted names ⟨p, stack⟩ r t := by
  fun_induction walk g wanted stack names p with
  | case1 stack p => exact ⟨_, _, .nil⟩
  | case2 stack name rest p hfinished ih =>
      obtain ⟨r, t, hrest⟩ := ih
      exact ⟨r, t, .pass (opening_of_finished hfinished) hrest⟩
  | case3 stack name rest p hnew hunknown ih =>
      obtain ⟨r, t, hrest⟩ := ih
      exact ⟨r, t, .pass (opening_of_unknown hunknown) hrest⟩
  | case4 stack name rest p hnew required hrequired hstack =>
      have hopening : g.opening ⟨p, stack⟩ name = .close (Cycle.ofStack name stack) := by
        rw [opening_of_known hnew hrequired, if_pos hstack]
      exact ⟨_, _, .close hopening⟩
  | case5 stack name rest p hnew required hrequired hstack ihinner ihrest =>
      have hopening : g.opening ⟨p, stack⟩ name = .enter required := by
        rw [opening_of_known hnew hrequired, if_neg hstack]
      obtain ⟨r, t, hinner⟩ := ihinner
      cases r with
      | error c => exact ⟨_, _, .fail hopening hinner⟩
      | ok =>
          obtain ⟨r, u, hrest⟩ := ihrest t.progress
          have hleave := Visits.leave_eq (s := ⟨p, stack⟩) hinner
          exact ⟨r, u, .through hopening hinner (hleave ▸ hrest)⟩

/-- What visits that end without a cycle have done. -/
theorem Visits.walked (h : g.Visits wanted names s (.ok ()) t)
    (hsound : s.progress.Sound g wanted) :
    Walked g wanted s.stack names s.progress t.progress :=
  walked_of_walk h.walk_eq hsound

/-! ## Calls in one another -/

/-- A visit that is called for, and what it starts from. -/
structure Call where
  name : String
  trail : Trail

/-- One visit calls for another one: the module is entered, the visits of what it requires come
to an end without a cycle as far as the other module, and that is next. -/
def Calls (g : Requirements) (wanted : List String) (caller callee : Call) : Prop :=
  ∃ front back,
    g.opening caller.trail caller.name = .enter (front ++ callee.name :: back) ∧
      g.Visits wanted front (caller.trail.enter caller.name) (.ok ()) callee.trail

/-- Calls in one another, the innermost first. The outermost is for a wanted module, behind the
visits of those in front of it. -/
inductive CallPath (g : Requirements) (wanted : List String) : List Call → Prop
  | outer {call : Call} (front back : List String) (hwanted : front ++ call.name :: back = wanted)
      (hfront : g.Visits wanted front .start (.ok ()) call.trail) : CallPath g wanted [call]
  | inner {caller callee : Call} {below : List Call} (hpath : CallPath g wanted (caller :: below))
      (hcalls : g.Calls wanted caller callee) : CallPath g wanted (callee :: caller :: below)

/-- What holds of a call inside of others. -/
structure Standing (g : Requirements) (wanted : List String) (call : Call) (below : List Call) :
    Prop where
  stack : call.trail.stack = below.map (·.name)
  way : Way g wanted call.trail.stack
  asked : g.Asked wanted call.trail.stack call.name
  sound : call.trail.progress.Sound g wanted

variable {call caller callee : Call} {below : List Call}

theorem standing_outer {front back : List String} (hwanted : front ++ call.name :: back = wanted)
    (hfront : g.Visits wanted front .start (.ok ()) call.trail) : Standing g wanted call [] := by
  have hstack : call.trail.stack = [] := hfront.stack_eq rfl
  refine ⟨hstack, ?_, ?_, (hfront.walked Progress.sound_start).sound⟩
  · rw [hstack]
    exact Way.empty
  · rw [hstack, ← hwanted]
    exact List.mem_append_right _ List.mem_cons_self

/-- When a visit calls for another one, its module stands on top of the stack. -/
theorem Calls.stack_eq (h : g.Calls wanted caller callee) :
    callee.trail.stack = caller.name :: caller.trail.stack := by
  obtain ⟨front, back, -, hfront⟩ := h
  exact hfront.stack_eq rfl

theorem Standing.inner (h : Standing g wanted caller below)
    (hcalls : g.Calls wanted caller callee) :
    Standing g wanted callee (caller :: below) := by
  have hstack := hcalls.stack_eq
  obtain ⟨front, back, hopening, hfront⟩ := hcalls
  obtain ⟨-, hrequired, hnew⟩ := opening_eq_enter_iff.1 hopening
  refine ⟨by rw [hstack, h.stack, List.map_cons], ?_, ?_, (hfront.walked h.sound).sound⟩
  · rw [hstack]
    exact h.way.push h.asked (knows_of_get? hrequired) hnew
  · rw [hstack, Asked, of_eq_of_get? hrequired]
    exact List.mem_append_right _ List.mem_cons_self

theorem standing_of_callPath (h : g.CallPath wanted (call :: below)) :
    Standing g wanted call below := by
  generalize hpath : call :: below = path at h
  induction h generalizing call below with
  | outer front back hwanted hfront =>
      obtain ⟨rfl, rfl⟩ := List.cons.inj hpath
      exact standing_outer hwanted hfront
  | inner _ hcalls ih =>
      obtain ⟨rfl, rfl⟩ := List.cons.inj hpath
      exact (ih rfl).inner hcalls

/-- A way is no longer than there are known modules. -/
theorem Way.length_le (h : Way g wanted stack) : stack.length ≤ g.edges.keys.length := by
  refine (List.subperm_of_subset h.distinct fun x hx => ?_).length_le
  obtain ⟨required, hrequired⟩ := Option.isSome_iff_exists.1 (h.known x hx)
  exact mem_keys_of_get? hrequired

/-- No visit calls for visits in one another for ever. -/
theorem wellFounded_calls (g : Requirements) (wanted : List String) :
    WellFounded fun callee caller => g.Calls wanted caller callee := by
  refine Subrelation.wf ?_ (measure fun call : Call => (g.offStack call.trail.stack).length).wf
  intro callee caller hcalls
  have hstack := hcalls.stack_eq
  obtain ⟨front, back, hopening, -⟩ := hcalls
  obtain ⟨-, hrequired, hnew⟩ := opening_eq_enter_iff.1 hopening
  show (g.offStack callee.trail.stack).length < (g.offStack caller.trail.stack).length
  rw [hstack]
  exact length_offStack_lt hrequired (by simpa using hnew)

/-- Visits end, in one way each, and to visit the wanted modules gives their order. The stack of a
call lists the calls around it, from the innermost on. They are for distinct known modules, so the
calls in one another are no more than the known modules and one. A call that ends without a cycle
leaves the stack as it was, it forgets nothing that was finished, and whatever a finished module
requires is finished then. -/
theorem visits_end_on_same_stack (g : Requirements) (wanted : List String) :
    (∀ names s, ∃! e : Except Cycle Unit × Trail, g.Visits wanted names s e.1 e.2) ∧
      (WellFounded fun callee caller => g.Calls wanted caller callee) ∧
      (∃ r t, g.Visits wanted wanted .start r t ∧
        g.order wanted = r.map fun _ => t.progress.emitted) ∧
      ∀ call below, g.CallPath wanted (call :: below) →
        call.trail.stack = below.map (·.name) ∧ call.trail.stack.Nodup ∧
        (∀ x ∈ call.trail.stack, g.knows x = true) ∧
        (call :: below).length ≤ g.edges.keys.length + 1 ∧
        ∀ t, g.Visits wanted [call.name] call.trail (.ok ()) t →
          t.stack = call.trail.stack ∧
          call.trail.progress.finished <:+ t.progress.finished ∧
          ∀ x ∈ t.progress.finished, ∀ y, g.Requires x y → y ∈ t.progress.finished := by
  refine ⟨fun names s => ?_, wellFounded_calls g wanted, ?_, fun call below hpath => ?_⟩
  · obtain ⟨r, t, hvisits⟩ := g.exists_visits wanted s.stack names s.progress
    exact ⟨(r, t), hvisits, fun e he => Visits.unique he hvisits⟩
  · obtain ⟨r, t, hvisits⟩ := g.exists_visits wanted [] wanted .start
    refine ⟨r, t, hvisits, ?_⟩
    have hwalk : g.walk wanted [] wanted .start = r.map fun _ => t.progress := hvisits.walk_eq
    rw [order, hwalk]
    cases r <;> rfl
  · have hstanding := standing_of_callPath hpath
    refine ⟨hstanding.stack, hstanding.way.distinct, hstanding.way.known, ?_, fun t hvisits => ?_⟩
    · have hlength : below.length = call.trail.stack.length := by
        rw [hstanding.stack, List.length_map]
      rw [List.length_cons, hlength]
      exact Nat.succ_le_succ hstanding.way.length_le
    · have hwalked := hvisits.walked hstanding.sound
      refine ⟨hvisits.stack_eq rfl, hwalked.kept, fun x hx y hxy => ?_⟩
      exact hwalked.sound.grounded.mem_of_reflTransGen hx (.single hxy)

/-- `App` requires `Lib` and `Net`, and `Net` requires `App`. -/
def besideLib : Requirements :=
  ((empty.insert "App" ["Lib", "Net"]).insert "Lib" []).insert "Net" ["App"]

/-- The call that meets `App` again comes behind the one for `Lib`, which ends. -/
theorem callPath_besideLib :
    besideLib.CallPath ["App"]
        [⟨"App", ⟨⟨["Lib"], []⟩, ["Net", "App"]⟩⟩, ⟨"Net", ⟨⟨["Lib"], []⟩, ["App"]⟩⟩,
          ⟨"App", .start⟩] ∧
      3 ≤ besideLib.edges.keys.length + 1 ∧
      besideLib.CallPath ["App"] [⟨"Lib", ⟨.start, ["App"]⟩⟩, ⟨"App", .start⟩] ∧
      besideLib.Visits ["App"] ["Lib"] ⟨.start, ["App"]⟩ (.ok ()) ⟨⟨["Lib"], []⟩, ["App"]⟩ ∧
      Progress.start.finished <:+ ["Lib"] := by
  have houter : besideLib.CallPath ["App"] [⟨"App", .start⟩] := .outer [] [] rfl .nil
  have hopening : besideLib.opening ⟨.start, ["App"]⟩ "Lib" = .enter [] := by decide
  have hlib : besideLib.Visits ["App"] ["Lib"] ⟨.start, ["App"]⟩ (.ok ())
      ⟨⟨["Lib"], []⟩, ["App"]⟩ :=
    .through hopening .nil .nil
  have hinner : besideLib.CallPath ["App"] [⟨"Lib", ⟨.start, ["App"]⟩⟩, ⟨"App", .start⟩] :=
    houter.inner ⟨[], ["Net"], by decide, .nil⟩
  have hnet : besideLib.CallPath ["App"]
      [⟨"Net", ⟨⟨["Lib"], []⟩, ["App"]⟩⟩, ⟨"App", .start⟩] :=
    houter.inner ⟨["Lib"], [], by decide, hlib⟩
  have hagain : besideLib.CallPath ["App"]
      [⟨"App", ⟨⟨["Lib"], []⟩, ["Net", "App"]⟩⟩, ⟨"Net", ⟨⟨["Lib"], []⟩, ["App"]⟩⟩,
        ⟨"App", .start⟩] :=
    hnet.inner ⟨[], [], by decide, .nil⟩
  obtain ⟨-, -, -, hcalls⟩ := visits_end_on_same_stack besideLib ["App"]
  obtain ⟨-, -, -, hdeep, -⟩ := hcalls _ _ hagain
  obtain ⟨-, -, -, -, hends⟩ := hcalls _ _ hinner
  exact ⟨hagain, hdeep, hinner, hlib, (hends _ hlib).2.1⟩

end Requirements

end Polybuild
