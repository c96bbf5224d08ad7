import Polybuild.Module.Basic

/-!
# Requirements

The requirements of some modules are a directed graph over their names: the modules that each of
them asks for, in the order in which it does. A reference to a group asks for every other module
of the group. Names that are asked for need not be known to the graph.
-/

namespace Polybuild

/-- What each known module requires. -/
structure Requirements where
  edges : Keyed (List String)

namespace Requirements

/-- No modules. -/
def empty : Requirements := ⟨.empty⟩

/-- Whether a module is known. -/
def knows (g : Requirements) (name : String) : Bool :=
  (g.edges.get? name).isSome

/-- What a module requires; nothing if it is not known. -/
def of (g : Requirements) (name : String) : List String :=
  (g.edges.get? name).getD []

/-- The graph with the requirements of one module, in place of those that it had. -/
def insert (g : Requirements) (name : String) (required : List String) : Requirements :=
  ⟨g.edges.insert name required⟩

/-- A list with a name at its end, unless it has it already. -/
def pushNew (names : List String) (name : String) : List String :=
  if names.contains name then names else names ++ [name]

/-- The modules that an entry of a list of requirements asks for. -/
def targets (modules : List Module) (m : Module) (entry : String) : List String :=
  match Reference.ofText entry with
  | .group _ => (modules.filter fun n => n.hasGroup entry && n.name != m.name).map (·.name)
  | .module name => [name]

/-- What a module requires among others, each name once. -/
def required (modules : List Module) (m : Module) : List String :=
  (m.manifest.require.flatMap (targets modules m)).foldl pushNew []

/-- The requirements of a list of modules. -/
def ofModules (modules : List Module) : Requirements :=
  modules.foldl (fun g m => g.insert m.name (required modules m)) empty

@[simp] theorem of_empty (name : String) : empty.of name = [] := rfl

theorem of_insert (g : Requirements) (name : String) (required : List String) (other : String) :
    (g.insert name required).of other = if other = name then required else g.of other := by
  by_cases h : other = name <;> simp [of, insert, Keyed.get?_insert, h]

theorem knows_insert (g : Requirements) (name : String) (required : List String)
    (other : String) :
    (g.insert name required).knows other = (other == name || g.knows other) := by
  by_cases h : other = name <;> simp [knows, insert, Keyed.get?_insert, h]

end Requirements

end Polybuild
