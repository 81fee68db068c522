import TokenGrammar.Matcher
/-!
Outcomes of matching, and the ways of putting steps together. A step looks at the front of a token
sequence in an environment of bindings. Sequences, choices, repetitions and negations are built from
arbitrary steps, also from steps that report more tokens than there are.
-/

namespace TokenGrammar

/-- A computation is cut off before its end, or it fails, or it succeeds with a value. -/
inductive Outcome (α : Type) where
  | unfinished
  | failed
  | succeeded (value : α)

namespace Outcome

variable {α β : Type}

def bind (outcome : Outcome α) (next : α → Outcome β) : Outcome β :=
  match outcome with
  | .unfinished => .unfinished
  | .failed => .failed
  | .succeeded value => next value

def ofOption : Option α → Outcome α
  | some value => .succeeded value
  | none => .failed

end Outcome

inductive Matched where
  | tokens (tokens : List Token)
  | compiled (matcher : Matcher)

structure Success where
  matched : Matched
  bindings : Bindings
  consumed : Nat

namespace Success

def front (input : List Token) (count : Nat) (bindings : Bindings) : Success :=
  ⟨.tokens (input.take count), bindings, count⟩

def empty (bindings : Bindings) : Success := ⟨.tokens [], bindings, 0⟩

def compiled? (success : Success) : Option Matcher :=
  match success.matched with
  | .compiled matcher => some matcher
  | .tokens _ => none

end Success

abbrev Step := List Token → Bindings → Outcome Success

namespace Step

def one (accepts : Token → Bool) : Step := fun input bindings =>
  match input with
  | token :: _ => if accepts token then .succeeded (.front input 1 bindings) else .failed
  | [] => .failed

def lookahead (holds : List Token → Bindings → Bool) : Step := fun input bindings =>
  if holds input bindings then .succeeded (.empty bindings) else .failed

def startsWith : List Char → List Token → Bool
  | [], _ => true
  | expected :: rest, .character found :: tokens => found == expected && startsWith rest tokens
  | _, _ => false

def text (characters : List Char) : Step := fun input bindings =>
  if startsWith characters input then .succeeded (.front input characters.length bindings)
  else .failed

/-- Runs named steps one behind the other from a position of the input. A step cannot take more than
what is left; a name is bound to what its step has taken. -/
def sequenceFrom (input : List Token) :
    List (Step × Option String) → Nat → Bindings → Outcome Success
  | [], position, bindings => .succeeded (.front input position bindings)
  | (step, name) :: rest, position, bindings =>
      let left := input.drop position
      (step left bindings).bind fun found =>
        let taken := min found.consumed left.length
        let extended := match name with
          | some name => Bindings.bind found.bindings name (left.take taken)
          | none => found.bindings
        sequenceFrom input rest (position + taken) extended

def sequence (elements : List (Step × Option String)) : Step := fun input bindings =>
  sequenceFrom input elements 0 bindings

def choice : List Step → Step
  | [] => fun _ _ => .failed
  | step :: rest => fun input bindings =>
      match step input bindings with
      | .failed => choice rest input bindings
      | outcome => outcome

structure Progress where
  position : Nat
  count : Nat
  bindings : Bindings

/-- Repeats a step until it fails, succeeds without taking anything, or has succeeded as often as is
allowed. The `budget` limits how often the step is tried. -/
def repeatFrom (step : Step) (most : Option Nat) (input : List Token) :
    Nat → Progress → Outcome Progress
  | 0, progress =>
      if most = some progress.count then .succeeded progress else .unfinished
  | budget + 1, progress =>
      if most = some progress.count then .succeeded progress
      else
        match step (input.drop progress.position) progress.bindings with
        | .unfinished => .unfinished
        | .failed => .succeeded progress
        | .succeeded found =>
            if found.consumed = 0 then
              .succeeded ⟨progress.position, progress.count + 1, found.bindings⟩
            else
              repeatFrom step most input budget
                ⟨min (progress.position + found.consumed) input.length, progress.count + 1,
                  found.bindings⟩

def repetition (quantifier : Quantifier) (budget : Nat) (step : Step) : Step :=
  fun input bindings =>
    (repeatFrom step quantifier.most input budget ⟨0, 0, bindings⟩).bind fun progress =>
      if quantifier.least ≤ progress.count then
        .succeeded (.front input progress.position progress.bindings)
      else .failed

def negation (step : Step) : Step := fun input bindings =>
  match step input bindings with
  | .unfinished => .unfinished
  | .failed => .succeeded (.empty bindings)
  | .succeeded _ => .failed

end Step

end TokenGrammar
