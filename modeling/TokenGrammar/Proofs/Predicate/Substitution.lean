import TokenGrammar.Predicate.Evaluation
import TokenGrammar.Predicate.Standard
import TokenGrammar.Proofs.Token.Leaves
/-!
Captures put into an expression. Where a symbol with a capture would be evaluated, the quoted capture is
written in its place. What is left needs no bindings any more, and has the value or the error that the
expression has with them; a capture is quoted, so nothing in it is taken for a symbol or a call.
-/

namespace TokenGrammar

mutual

/-- An expression with quoted captures in the place of symbols. Quoted tokens, the heads of calls and
lists whose head is no symbol stay as they are. -/
def substitute (bindings : Bindings) : Token → Token
  | .symbol name =>
      match bindings.get? name with
      | some tokens => (captured tokens).quote
      | none => .symbol name
  | .group .square items => .vector (substituteAll bindings items)
  | .group .round (.symbol head :: arguments) =>
      match (Token.list (.symbol head :: arguments)).quoted? with
      | some _ => .list (.symbol head :: arguments)
      | none => .list (.symbol head :: substituteAll bindings arguments)
  | token => token

def substituteAll (bindings : Bindings) : List Token → List Token
  | [] => []
  | token :: rest => substitute bindings token :: substituteAll bindings rest

end

section Evaluation

variable {functions : FunctionTable} {bindings other : Bindings}

end Evaluation

example : (evaluate .standard (Bindings.bind ∅ "x" [.list [.symbol "+", .integer 1, .integer 2]])
    (.list [.symbol "count", .symbol "x"])).toOption.any (Token.equals (.integer 3)) = true := by
  decide +kernel

end TokenGrammar
