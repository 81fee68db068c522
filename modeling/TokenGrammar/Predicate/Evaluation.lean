import TokenGrammar.Predicate.Function
/-!
Evaluating predicates. A symbol stands for its capture, a two-element `(quote x)` for `x`, a list for a
call, a vector for the vector of its values, and any other token for itself. The first error from the
left is the error of the whole.
-/

namespace TokenGrammar

def captured : List Token → Token
  | [token] => token
  | tokens => .vector tokens

mutual

def evaluate (functions : FunctionTable) (bindings : Bindings) : Token → Except EvalError Token
  | .symbol name =>
      match bindings.get? name with
      | some tokens => .ok (captured tokens)
      | none => .error (.unbound name)
  | .group .square items => (evaluateAll functions bindings items).map .vector
  | .group .round [] => .error (.notCallable none)
  | .group .round (head :: arguments) =>
      match (Token.group .round (head :: arguments)).quoted? with
      | some quoted => .ok quoted
      | none =>
          match head with
          | .symbol name =>
              match functions.get? name with
              | some function => do function (← evaluateAll functions bindings arguments)
              | none => .error (.notCallable (some head))
          | other => .error (.notCallable (some other))
  | token => .ok token

def evaluateAll (functions : FunctionTable) (bindings : Bindings) :
    List Token → Except EvalError (List Token)
  | [] => .ok []
  | token :: rest => do
      let value ← evaluate functions bindings token
      let values ← evaluateAll functions bindings rest
      .ok (value :: values)

end

end TokenGrammar
