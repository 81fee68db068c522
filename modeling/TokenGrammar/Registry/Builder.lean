import TokenGrammar.Compilation
import TokenGrammar.Form.Definition
import TokenGrammar.Predicate.Standard
import TokenGrammar.Registry
/-!
Building registries. Rules are registered as recipes, each name once; building turns every recipe into a
matcher, in the order of registration and with the functions that are in force then.
-/

namespace TokenGrammar

/-- How a rule is made: it is there already, its body is compiled, or it compiles forms of a kind that
a compiled body recognises. -/
inductive Recipe where
  | ready (matcher : Matcher)
  | body (tokens : List Token)
  | compiler (kind : FormKind) (recognizer : List Token)

def Recipe.prepare (functions : FunctionTable) : Recipe → Except GrammarError Matcher
  | .ready matcher => .ok matcher
  | .body tokens => compileBody functions tokens
  | .compiler kind recognizer => (compileBody functions recognizer).map (.compiler kind)

/-- The names that are taken, and the recipes in the order in which they were registered. -/
structure Builder where
  names : List String
  factories : List (String × Recipe)
  functions : FunctionTable

namespace Builder

def start : Builder := ⟨[], [], .standard⟩

def contains (builder : Builder) (name : String) : Bool := builder.names.contains name

def withFunctions (builder : Builder) (functions : FunctionTable) : Builder :=
  ⟨builder.names, builder.factories, functions⟩

def register (builder : Builder) (name : String) (recipe : Recipe) :
    Except GrammarError Builder :=
  if builder.contains name then .error (.duplicateRule name)
  else .ok ⟨builder.names ++ [name], builder.factories ++ [(name, recipe)], builder.functions⟩

def registerAll : Builder → List (String × Recipe) → Builder × Option GrammarError
  | builder, [] => (builder, none)
  | builder, (name, recipe) :: rest =>
      match builder.register name recipe with
      | .ok next => registerAll next rest
      | .error problem => (builder, some problem)

def orError : Builder × Option GrammarError → Except GrammarError Builder
  | (next, none) => .ok next
  | (_, some problem) => .error problem

def define (builder : Builder) (definition : Definition) : Except GrammarError Builder :=
  builder.register definition.name (.body definition.body)

def recipeOf (definition : Definition) : String × Recipe := (definition.name, .body definition.body)

/-- Registers the definitions of a text. If the text holds anything else, none is registered. -/
def defineAll (builder : Builder) (source : String) : Builder × Except GrammarError Nat :=
  match readDefinitions source with
  | .error problem => (builder, .error problem)
  | .ok definitions =>
      match builder.registerAll (definitions.map recipeOf) with
      | (next, some problem) => (next, .error problem)
      | (next, none) => (next, .ok definitions.length)

structure Making where
  rules : NameMap Matcher
  failure : Option GrammarError

/-- Makes the matcher of a recipe. Later recipes are tried even after a failure. -/
def Making.make (functions : FunctionTable) (making : Making) : String × Recipe → Making
  | (name, recipe) =>
      match recipe.prepare functions with
      | .ok matcher => ⟨making.rules.set name matcher, making.failure⟩
      | .error problem => ⟨making.rules, making.failure.or (some (.inRule name problem))⟩

def build (builder : Builder) : Except GrammarError Registry :=
  let made := builder.factories.foldl (Making.make builder.functions) ⟨∅, none⟩
  match made.failure with
  | some problem => .error problem
  | none => .ok ⟨made.rules, builder.functions⟩

end Builder

end TokenGrammar
