import Mathlib.Algebra.Ring.Int.Defs
import TokenGrammar.Predicate.Evaluation
import TokenGrammar.Predicate.Standard
import TokenGrammar.Proofs.Integer
import TokenGrammar.Proofs.NameMap
/-!
Sums, differences and products of integers. A calculation has its exact value, or the error of the first
call whose exact result does not fit into 64 bits; what later calls would make of such a result does not
matter.
-/

namespace TokenGrammar

inductive Operation where
  | plus
  | minus
  | times
  deriving DecidableEq

namespace Operation

def name : Operation → String
  | .plus => "+"
  | .minus => "-"
  | .times => "*"

def apply : Operation → Int → Int → Int
  | .plus => (· + ·)
  | .minus => (· - ·)
  | .times => (· * ·)

def function : Operation → Function
  | .plus => Standard.arithmetic "+" (· + ·) Binary64.add
  | .minus => Standard.arithmetic "-" (· - ·) Binary64.sub
  | .times => Standard.arithmetic "*" (· * ·) Binary64.mul

theorem function_integers (operation : Operation) (left right : Int64) :
    operation.function [.integer left, .integer right] =
      match Integer.ofInt? (operation.apply left.toInt right.toInt) with
      | some value => .ok (.integer value)
      | none => .error (.overflow operation.name) := by
  cases operation <;> rfl

end Operation

/-- Calculations with integers that are written out or captured. A captured one is a symbol, known by its
name. -/
inductive Calculation where
  | literal (value : Int64)
  | captured (name : String) (value : Int64)
  | call (operation : Operation) (left right : Calculation)
  deriving DecidableEq

namespace Calculation

def token : Calculation → Token
  | .literal value => .integer value
  | .captured name _ => .symbol name
  | .call operation left right => .list [.symbol operation.name, left.token, right.token]

def exactValue : Calculation → Int
  | .literal value => value.toInt
  | .captured _ value => value.toInt
  | .call operation left right => operation.apply left.exactValue right.exactValue

/-- The calculations inside a calculation, arguments before their call and left before right. -/
def parts : Calculation → List Calculation
  | .call operation left right => left.parts ++ right.parts ++ [.call operation left right]
  | single => [single]

def CapturedIn (bindings : Bindings) : Calculation → Prop
  | .literal _ => True
  | .captured name value => bindings.get? name = some [.integer value]
  | .call _ left right => left.CapturedIn bindings ∧ right.CapturedIn bindings

section Evaluation

variable {bindings : Bindings} {operation : Operation} {first second : Calculation}

theorem get?_standard (operation : Operation) :
    FunctionTable.standard.get? operation.name = some operation.function := by
  have entries : FunctionTable.standard.entries = Standard.functions :=
    NameMap.entries_ofList (by decide)
  rw [NameMap.get?, entries]
  cases operation <;> rfl

theorem evaluate_call (operation : Operation) (first second : Calculation) :
    evaluate .standard bindings (call operation first second).token =
      (evaluate .standard bindings first.token).bind fun left =>
        (evaluate .standard bindings second.token).bind fun right =>
          operation.function [left, right] := by
  simp only [token, evaluate, Token.quoted?, get?_standard, evaluateAll]
  cases evaluate .standard bindings first.token with
  | error problem => rfl
  | ok left => cases evaluate .standard bindings second.token <;> rfl

theorem evaluate_of_inRange {calculation : Calculation} (captured : calculation.CapturedIn bindings)
    (fits : ∀ part ∈ calculation.parts, Integer.InRange part.exactValue) :
    ∃ value : Int64, value.toInt = calculation.exactValue ∧
      evaluate .standard bindings calculation.token = .ok (.integer value) := by
  induction calculation with
  | literal value => exact ⟨value, rfl, by simp only [token, evaluate]⟩
  | captured name value =>
      simp only [CapturedIn] at captured
      exact ⟨value, rfl, by simp only [token, evaluate, captured, TokenGrammar.captured]⟩
  | call operation first second firstIh secondIh =>
      simp only [parts, List.forall_mem_append, List.forall_mem_singleton] at fits
      obtain ⟨⟨firstFits, secondFits⟩, own⟩ := fits
      obtain ⟨left, leftExact, leftValue⟩ := firstIh captured.1 firstFits
      obtain ⟨right, rightExact, rightValue⟩ := secondIh captured.2 secondFits
      obtain ⟨value, found, exact⟩ := Integer.ofInt?_of_inRange own
      refine ⟨value, exact, ?_⟩
      rw [Calculation.exactValue, ← leftExact, ← rightExact] at found
      rw [evaluate_call, leftValue, rightValue]
      simp only [Except.bind, Operation.function_integers, found]

/-- The first part, in the order of evaluation, whose exact value is not in range. -/
def exceeding? (calculation : Calculation) : Option Calculation :=
  calculation.parts.find? fun part => !decide (Integer.InRange part.exactValue)

theorem inRange_of_exceeding? {calculation : Calculation} (none : calculation.exceeding? = none) :
    ∀ part ∈ calculation.parts, Integer.InRange part.exactValue := by
  simpa [exceeding?] using none

theorem exceeding?_call (operation : Operation) (first second : Calculation) :
    (call operation first second).exceeding? =
      first.exceeding?.or (second.exceeding?.or
        (if Integer.InRange (call operation first second).exactValue then none
          else some (call operation first second))) := by
  simp only [exceeding?, parts, List.find?_append, Option.or_assoc]
  by_cases own : Integer.InRange (call operation first second).exactValue <;> simp [own]

theorem evaluate_of_exceeding? {calculation part : Calculation}
    (captured : calculation.CapturedIn bindings) (found : calculation.exceeding? = some part) :
    ∃ operation first second, part = .call operation first second ∧
      evaluate .standard bindings calculation.token = .error (.overflow operation.name) := by
  induction calculation with
  | literal value => simp [parts, exceeding?, exactValue, Integer.inRange_toInt] at found
  | captured name value => simp [parts, exceeding?, exactValue, Integer.inRange_toInt] at found
  | call operation first second firstIh secondIh =>
      obtain ⟨firstCaptured, secondCaptured⟩ := captured
      rw [evaluate_call]
      rw [exceeding?_call] at found
      cases firstFound : first.exceeding? with
      | some stopped =>
          rw [firstFound, Option.some_or] at found
          obtain ⟨inner, left, right, same, fails⟩ := firstIh firstCaptured (firstFound.trans found)
          exact ⟨inner, left, right, same, by rw [fails]; rfl⟩
      | none =>
          obtain ⟨left, leftExact, leftValue⟩ :=
            evaluate_of_inRange firstCaptured (inRange_of_exceeding? firstFound)
          rw [firstFound, Option.none_or] at found
          rw [leftValue]
          cases secondFound : second.exceeding? with
          | some stopped =>
              rw [secondFound, Option.some_or] at found
              obtain ⟨inner, left, right, same, fails⟩ := secondIh secondCaptured (secondFound.trans found)
              exact ⟨inner, left, right, same, by rw [fails]; rfl⟩
          | none =>
              -- Both arguments have their exact values, so it is the call itself that exceeds.
              obtain ⟨right, rightExact, rightValue⟩ :=
                evaluate_of_inRange secondCaptured (inRange_of_exceeding? secondFound)
              rw [secondFound, Option.none_or] at found
              split at found
              next => cases found
              next exceeds =>
                  refine ⟨operation, first, second, (Option.some.inj found).symm, ?_⟩
                  rw [exactValue, ← leftExact, ← rightExact] at exceeds
                  simp only [rightValue, Except.bind, Operation.function_integers,
                    Integer.ofInt?_of_not_inRange exceeds]

end Evaluation

/-- A calculation has its exact value if the exact values of all its parts are in range. Otherwise its
error is the overflow of the first part that is not, arguments before their call and left before right;
this part is a call. -/
theorem evaluate_exact_or_overflow (calculation : Calculation) (bindings : Bindings)
    (captured : calculation.CapturedIn bindings) :
    ((∀ part ∈ calculation.parts, Integer.InRange part.exactValue) →
      ∃ value : Int64, value.toInt = calculation.exactValue ∧
        evaluate .standard bindings calculation.token = .ok (.integer value)) ∧
    (¬ (∀ part ∈ calculation.parts, Integer.InRange part.exactValue) →
      ∃ before operation left right after,
        calculation.parts = before ++ call operation left right :: after ∧
        (∀ part ∈ before, Integer.InRange part.exactValue) ∧
        ¬ Integer.InRange (call operation left right).exactValue ∧
        evaluate .standard bindings calculation.token = .error (.overflow operation.name) ∧
        (EvalError.overflow operation.name).message =
          "Runtime error: " ++ operation.name ++ ": integer overflow") := by
  refine ⟨fun fits => evaluate_of_inRange captured fits, fun exceeds => ?_⟩
  cases found : calculation.exceeding? with
  | none => exact absurd (inRange_of_exceeding? found) exceeds
  | some part =>
      obtain ⟨operation, left, right, rfl, fails⟩ := evaluate_of_exceeding? captured found
      obtain ⟨own, before, after, order, earlier⟩ := List.find?_eq_some_iff_append.mp found
      refine ⟨before, operation, left, right, after, order, ?_, by simpa using own, fails, ?_⟩
      · simpa using earlier
      · cases operation <;> rfl

/-- The sum overflows although the difference that it stands in has an exact value in range; below zero
there is room for one integer more. -/
theorem evaluate_exact_or_overflow_inside :
    let bindings := Bindings.bind ∅ "n" [.integer 1]
    let sum := call .plus (.literal 9223372036854775807) (.captured "n" 1)
    let whole := call .minus sum (.literal 1)
    let least := call .minus (.literal (-9223372036854775807)) (.captured "n" 1)
    whole.CapturedIn bindings ∧ Integer.InRange whole.exactValue ∧
      evaluate .standard bindings whole.token = .error (.overflow "+") ∧
      ∃ value : Int64, value.toInt = -2 ^ 63 ∧
        evaluate .standard bindings least.token = .ok (.integer value) := by
  intro bindings sum whole least
  have captured : whole.CapturedIn bindings := ⟨⟨trivial, rfl⟩, trivial⟩
  obtain ⟨before, operation, left, right, after, order, _, exceeds, fails, _⟩ :=
    (evaluate_exact_or_overflow whole bindings captured).2 (by decide)
  have member : call operation left right ∈ [sum, whole] := by
    have inside : call operation left right ∈ whole.parts := order ▸ List.mem_append_cons_self
    simpa [parts, whole, sum] using inside
  rcases List.mem_pair.mp member with same | same
  · injection same with plus
    subst plus
    exact ⟨captured, by decide, fails,
      (evaluate_exact_or_overflow least bindings ⟨trivial, rfl⟩).1 (by decide)⟩
  · rw [same] at exceeds
    exact absurd (by decide) exceeds

end Calculation

end TokenGrammar
