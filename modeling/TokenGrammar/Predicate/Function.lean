import TokenGrammar.Bindings
import TokenGrammar.Token.Written
import TokenGrammar.Text.Quoted
/-!
Functions that predicates can call, and the ways in which a predicate can fail to have a value.
-/

namespace TokenGrammar

inductive EvalError where
  | unbound (name : String)
  | notCallable (head : Option Token)
  | wrongCount (function : String) (required found : Nat)
  | noArguments (function : String)
  | notNumber (function : String) (found : Token)
  | notInteger (function : String) (found : Token)
  | notCollection (function : String) (found : Token)
  | unordered (function : String)
  | overflow (function : String)
  | failure (message : String)

def Token.description : Token → String
  | .integer _ => "Number (integer)"
  | .float _ => "Number (float)"
  | .boolean _ => "Bool"
  | .text _ => "String"
  | .character _ => "Char"
  | .symbol _ => "Symbol"
  | .group .round _ => "List"
  | .group .square _ => "Vector"

namespace EvalError

/-- The four classes of errors: names without a value, heads that are no function, arguments that do
not fit, and calls that go wrong on fitting arguments. -/
inductive Class where
  | unbound
  | notCallable
  | incorrectArgument
  | runtime
  deriving DecidableEq

def classOf : EvalError → Class
  | .unbound _ => .unbound
  | .notCallable _ => .notCallable
  | .wrongCount .. | .noArguments _ | .notNumber .. | .notInteger .. | .notCollection .. =>
      .incorrectArgument
  | .unordered _ | .overflow _ | .failure _ => .runtime

def Class.label : Class → String
  | .unbound => "Unbound symbol: "
  | .notCallable => "Not callable: "
  | .incorrectArgument => "Incorrect argument: "
  | .runtime => "Runtime error: "

def detail : EvalError → String
  | .unbound name => name
  | .notCallable head => (head.map Token.render).getD "()"
  | .wrongCount function required found =>
      function ++ " requires " ++ toString required ++ " argument" ++
        (if required = 1 then "" else "s") ++ ", got " ++ toString found
  | .noArguments function => function ++ " requires at least 1 argument"
  | .notNumber function found => function ++ " expects a number, got " ++ found.description
  | .notInteger function found => function ++ " expects an integer, got " ++ found.description
  | .notCollection function found => function ++ " expects a collection, got " ++ found.description
  | .unordered function => function ++ " cannot order NaN"
  | .overflow function => function ++ ": integer overflow"
  | .failure message => message

def message (error : EvalError) : String := error.classOf.label ++ error.detail

end EvalError

abbrev Function := List Token → Except EvalError Token

abbrev FunctionTable := NameMap Function

namespace FunctionTable

/-- A call is a list that starts with the name of a known function. -/
def isCall (functions : FunctionTable) : Token → Bool
  | .group .round (.symbol head :: _) => functions.contains head
  | _ => false

def shown (functions : FunctionTable) : String :=
  "FunctionTable \x7b functions: " ++ Text.quotedList functions.sortedNames ++ " \x7d"

end FunctionTable

end TokenGrammar
