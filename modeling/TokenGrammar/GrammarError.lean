import TokenGrammar.Lexeme
/-!
What can be wrong with a grammar: a form that fits no kind, a marker out of place, a definition that is
none, a name taken twice, a text that does not read, or any of these inside a named rule.
-/

namespace TokenGrammar

inductive GrammarError where
  | unknownForm (form : List Token)
  | misplacedMarker (sequence : List Token)
  | missingName (sequence : List Token)
  | duplicateRule (name : String)
  | malformedDefinition (form : Token)
  | notSelfDescribed (name : String)
  | unreadable (error : ReadError)
  | inRule (name : String) (error : GrammarError)

namespace GrammarError

def message : GrammarError → String
  | .unknownForm form => "Invalid grammar element: " ++ Token.renderAll form
  | .misplacedMarker sequence => "Misplaced marker: " ++ Token.renderAll sequence
  | .missingName sequence => "Expected a name after => in: " ++ Token.renderAll sequence
  | .duplicateRule name => "Rule registered twice: " ++ name
  | .malformedDefinition form => "Expected (rule name body), got: " ++ form.render
  | .notSelfDescribed name => "Rule " ++ name ++ " is not accepted by its own meta-grammar"
  | .unreadable error => "Read error: " ++ error.message
  | .inRule name error => "In rule " ++ name ++ ": " ++ error.message

def causes : GrammarError → List String
  | .unreadable error => [error.message]
  | .inRule _ error => error.message :: error.causes
  | _ => []

end GrammarError

end TokenGrammar
