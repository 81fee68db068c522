import TokenGrammar.Predicate.Function
/-!
The standard functions: equality, order, arithmetic, tests of numbers and tests of types. Integers are
exact or refused; a float among the arguments makes the others floats.
-/

namespace TokenGrammar

namespace Standard

def unary (name : String) (apply : Token → Except EvalError Token) : Function := fun arguments =>
  match arguments with
  | [argument] => apply argument
  | _ => .error (.wrongCount name 1 arguments.length)

def binary (name : String) (apply : Token → Token → Except EvalError Token) : Function :=
  fun arguments =>
    match arguments with
    | [left, right] => apply left right
    | _ => .error (.wrongCount name 2 arguments.length)

def floatOf (name : String) : Token → Except EvalError Binary64
  | .integer value => .ok (.ofInt value.toInt)
  | .float value => .ok value
  | other => .error (.notNumber name other)

def equality (name : String) (negated : Bool) : Function := fun arguments =>
  match arguments with
  | [] => .error (.noArguments name)
  | first :: rest => .ok (.boolean ((rest.all fun other => other.equals first) != negated))

def comparison (name : String) (accepts : Ordering → Bool) : Function :=
  binary name fun left right =>
    match left, right with
    | .integer first, .integer second => .ok (.boolean (accepts (compare first second)))
    | _, _ => do
        let first ← floatOf name left
        let second ← floatOf name right
        match first.compare? second with
        | some order => .ok (.boolean (accepts order))
        | none => .error (.unordered name)

/-- Two integers give the exact result if it is in range, other numbers a float. -/
def arithmetic (name : String) (exact : Int → Int → Int)
    (rounded : Binary64 → Binary64 → Binary64) : Function :=
  binary name fun left right =>
    match left, right with
    | .integer first, .integer second =>
        match Integer.ofInt? (exact first.toInt second.toInt) with
        | some value => .ok (.integer value)
        | none => .error (.overflow name)
    | _, _ => do
        let first ← floatOf name left
        let second ← floatOf name right
        .ok (.float (rounded first second))

def integerTest (name : String) (test : Int → Bool) : Function := unary name fun argument =>
  match argument with
  | .integer value => .ok (.boolean (test value.toInt))
  | other => .error (.notInteger name other)

def signTest (name : String) (wanted : Ordering) : Function := unary name fun argument => do
  let value ← floatOf name argument
  .ok (.boolean (value.compare? .zero == some wanted))

def tokenTest (name : String) (test : Token → Bool) : Function :=
  unary name fun argument => .ok (.boolean (test argument))

def count (name : String) : Function := unary name fun argument =>
  match argument with
  | .group _ items => .ok (.integer (Int64.ofNat items.length))
  | .text value => .ok (.integer (Int64.ofNat value.length))
  | other => .error (.notCollection name other)

def functions : List (String × Function) := [
  ("=", equality "=" false),
  ("not=", equality "not=" true),
  ("<", comparison "<" Ordering.isLT),
  ("<=", comparison "<=" Ordering.isLE),
  (">", comparison ">" Ordering.isGT),
  (">=", comparison ">=" Ordering.isGE),
  ("+", arithmetic "+" (· + ·) Binary64.add),
  ("-", arithmetic "-" (· - ·) Binary64.sub),
  ("*", arithmetic "*" (· * ·) Binary64.mul),
  ("even?", integerTest "even?" fun value => value % 2 == 0),
  ("odd?", integerTest "odd?" fun value => value % 2 != 0),
  ("zero?", signTest "zero?" .eq),
  ("pos?", signTest "pos?" .gt),
  ("neg?", signTest "neg?" .lt),
  ("symbol?", tokenTest "symbol?" Token.isSymbol),
  ("keyword?", tokenTest "keyword?" Token.isReserved),
  ("string?", tokenTest "string?" Token.isText),
  ("number?", tokenTest "number?" Token.isNumber),
  ("char?", tokenTest "char?" Token.isCharacter),
  ("list?", tokenTest "list?" (Token.isGroup .round)),
  ("vector?", tokenTest "vector?" (Token.isGroup .square)),
  ("not", tokenTest "not" fun token => !token.isTruthy),
  ("count", count "count")]

end Standard

def FunctionTable.standard : FunctionTable := .ofList Standard.functions

end TokenGrammar
