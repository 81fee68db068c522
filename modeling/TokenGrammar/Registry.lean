import TokenGrammar.Matcher
/-!
Registries: named matchers, and the functions that predicates among them can call.
-/

namespace TokenGrammar

structure Registry where
  rules : NameMap Matcher
  functions : FunctionTable

namespace Registry

def lookup (registry : Registry) (name : String) : Option Matcher := registry.rules.get? name

def contains (registry : Registry) (name : String) : Bool := registry.rules.contains name

def ruleNames (registry : Registry) : List String := registry.rules.sortedNames

def withoutRules (registry : Registry) : Registry := ⟨∅, registry.functions⟩

def shown (registry : Registry) : String :=
  "Registry \x7b rules: " ++ Text.quotedList registry.ruleNames ++ ", functions: " ++
    registry.functions.shown ++ " \x7d"

end Registry

end TokenGrammar
