import TokenGrammar.Proofs.Matcher.Ending
import TokenGrammar.Proofs.Registry.Adequacy
/-!
Registries that agree. What a run comes to depends on the functions of its registry and on the rules that
its matcher leads to, and on no other rule: registries that agree on those run the matcher alike at every
level. So a matcher is run alike in every registry around one in which all that it leads to is there.
-/

namespace TokenGrammar

namespace Generation

/-- The rules that the compiler of a kind looks up. A group is cut by rules, and a form inside another
is compiled by the rule for its kind. -/
def Consults : FormKind → String → Prop
  | .group, name => Asks name
  | .quantified _, name | .negated, name => ∃ kind : FormKind, name = kind.compiler
  | _, _ => False

section Congruence

variable {functions : FunctionTable} {invoke other : Invoke}

theorem element_congr (same : ∀ kind : FormKind, invoke kind.compiler = other kind.compiler)
    (form : List Token) : element functions invoke form = element functions other form := by
  unfold element
  split
  · rfl
  next kind _ => rw [same kind]

theorem nameOf_congr (same : invoke bindingRule = other bindingRule) (sequence : List Token) :
    nameOf invoke sequence = nameOf other sequence := by
  unfold nameOf
  rw [same]

theorem elementsWithin_congr (same : ∀ name, Asks name → invoke name = other name) (budget : Nat) :
    ∀ sequence, elementsWithin functions invoke budget sequence =
      elementsWithin functions other budget sequence := by
  have compilers : ∀ kind : FormKind, invoke kind.compiler = other kind.compiler :=
    fun kind => same _ (.inr (.inr ⟨kind, rfl⟩))
  induction budget with
  | zero =>
      intro sequence
      cases sequence <;> rfl
  | succ budget ih =>
      intro sequence
      cases sequence with
      | nil => rfl
      | cons token rest =>
          unfold elementsWithin
          rw [same elementRule (.inl rfl)]
          simp only [element_congr compilers, nameOf_congr (same bindingRule (.inr (.inl rfl))), ih]

theorem alternativesMatchers_congr (same : ∀ name, Asks name → invoke name = other name)
    (alternatives : List (List Token)) :
    alternativesMatchers functions invoke alternatives =
      alternativesMatchers functions other alternatives := by
  induction alternatives with
  | nil => rfl
  | cons sequence rest ih =>
      simp only [alternativesMatchers, sequenceMatcher, elementsWithin_congr same, ih]

theorem formMatcher_congr {known otherKnown : String → Bool} {kind : FormKind}
    (same : ∀ name, Consults kind name → known name = otherKnown name ∧ invoke name = other name)
    (form : List Token) :
    formMatcher functions known invoke kind form =
      formMatcher functions otherKnown other kind form := by
  cases form with
  | nil => rfl
  | cons head rest =>
      cases kind with
      | quantified quantifier =>
          simp only [formMatcher, element_congr fun kind => (same _ ⟨kind, rfl⟩).2]
      | negated => simp only [formMatcher, element_congr fun kind => (same _ ⟨kind, rfl⟩).2]
      | group =>
          have rules : ∀ name, Asks name → invoke name = other name := fun name asks =>
            (same name asks).2
          have bodies : bodyMatcher functions invoke = bodyMatcher functions other := by
            funext body
            simp only [bodyMatcher, alternativesMatchers_congr rules]
          simp only [formMatcher, (same elementRule (.inl rfl)).1,
            (same bindingRule (.inr (.inl rfl))).1, bodies]
      | predicate | reference | literal => rfl
      | text => cases head <;> rfl

end Congruence

end Generation

namespace Matcher

def Consults (matcher : Matcher) (name : String) : Prop :=
  Part (.rule name) matcher ∨
    ∃ kind recognizer, Part (.compiler kind recognizer) matcher ∧ Generation.Consults kind name

theorem Consults.of_part {part whole : Matcher} {name : String} (consults : part.Consults name)
    (inside : Part part whole) : whole.Consults name := by
  rcases consults with reference | ⟨kind, recognizer, compiler, asks⟩
  · exact .inl (reference.trans inside)
  · exact .inr ⟨kind, recognizer, compiler.trans inside, asks⟩

end Matcher

namespace Registry

variable {registry other : Registry} {matcher : Matcher}

/-- The rules that a matcher leads to, one through the other. -/
inductive LeadsTo (registry : Registry) : Matcher → String → Prop
  | directly {matcher : Matcher} {name : String} (consults : matcher.Consults name) :
      LeadsTo registry matcher name
  | through {matcher body : Matcher} {rule name : String} (consults : matcher.Consults rule)
      (known : registry.lookup rule = some body) (further : LeadsTo registry body name) :
      LeadsTo registry matcher name

theorem LeadsTo.of_part {part whole : Matcher} {name : String} (leads : registry.LeadsTo part name)
    (inside : Matcher.Part part whole) : registry.LeadsTo whole name := by
  cases leads with
  | directly consults => exact .directly (consults.of_part inside)
  | through consults known further => exact .through (consults.of_part inside) known further

theorem LeadsTo.closed {scope : String → Prop}
    (closed : ∀ rule body name, scope rule → registry.lookup rule = some body →
      body.Consults name → scope name)
    {name : String} (leads : registry.LeadsTo matcher name)
    (own : ∀ rule, matcher.Consults rule → scope rule) : scope name := by
  induction leads with
  | directly consults => exact own _ consults
  | @through matcher body rule name consults known _ ih =>
      exact ih fun callee => closed rule body callee (own rule consults) known

def Resolves (registry : Registry) (matcher : Matcher) : Prop :=
  ∀ name, registry.LeadsTo matcher name → registry.contains name = true

theorem run_eq_of_agree (functions : other.functions = registry.functions) (level : Nat) :
    ∀ matcher, (∀ name, registry.LeadsTo matcher name → other.lookup name = registry.lookup name) →
      other.run level matcher = registry.run level matcher := by
  -- On the levels: a rule stands for its body, which leads to nothing that the rule does not lead to.
  induction level with
  | zero =>
      intro matcher _
      rfl
  | succ level ih =>
      intro matcher agree
      have inner : ∀ part, Matcher.Part part matcher →
          other.run level part = registry.run level part := fun part inside =>
        ih part fun name leads => agree name (leads.of_part inside)
      have behind : ∀ rule body, matcher.Consults rule → registry.lookup rule = some body →
          other.run level body = registry.run level body := fun rule body consults known =>
        ih body fun name leads => agree name (.through consults known leads)
      cases matcher with
      | literal expected => rfl
      | tokenIf name test => simp only [run, functions]
      | endOfInput => rfl
      | rule name =>
          have consults : (Matcher.rule name).Consults name := .inl .whole
          funext input bindings
          rw [run_rule, run_rule, agree name (.directly consults)]
          cases known : registry.lookup name with
          | none => rfl
          | some body => exact congrFun (congrFun (behind name body consults known) input) bindings
      | sequence elements =>
          have same : ∀ element ∈ elements,
              (other.run level element.1, element.2) = (registry.run level element.1, element.2) :=
            fun element member => by rw [inner _ (.element member .whole)]
          exact congrArg Step.sequence (List.map_congr_left same)
      | choice alternatives =>
          exact congrArg Step.choice (List.map_congr_left fun alternative member =>
            inner alternative (.alternative member .whole))
      | repetition quantifier repeated =>
          exact congrArg (Step.repetition quantifier level) (inner repeated (.repeated .whole))
      | negation denied => exact congrArg Step.negation (inner denied (.negated .whole))
      | predicate call => simp only [run, holds, functions]
      | text content => rfl
      | compiler kind recognizer =>
          have consults : ∀ name, Generation.Consults kind name →
              (Matcher.compiler kind recognizer).Consults name :=
            fun name asks => .inr ⟨kind, recognizer, .whole, asks⟩
          have generated := @Generation.formMatcher_congr registry.functions (other.invokeAt level)
            (registry.invokeAt level) other.contains registry.contains kind ?_
          · funext input bindings
            rw [run_compiler, run_compiler, inner recognizer (.recognizer .whole), functions]
            simp only [generated]
          · intro name asks
            have same := agree name (.directly (consults name asks))
            refine ⟨congrArg Option.isSome same, ?_⟩
            funext form
            unfold invokeAt
            rw [same]
            cases known : registry.lookup name with
            | none => rfl
            | some body =>
                exact congrFun (congrFun (behind name body (consults name asks) known) form) ∅
      | claim count => rfl

/-- A registry that has the functions of another and all its rules lies around it. -/
structure Within (registry other : Registry) : Prop where
  functions : other.functions = registry.functions
  rules : ∀ name matcher, registry.lookup name = some matcher → other.lookup name = some matcher

namespace Within

variable (within : registry.Within other)

include within

theorem lookup_eq {name : String} (contained : registry.contains name = true) :
    other.lookup name = registry.lookup name := by
  obtain ⟨body, known⟩ := Option.isSome_iff_exists.mp contained
  exact (within.rules name body known).trans known.symm

theorem run_eq (resolves : registry.Resolves matcher) (level : Nat) :
    other.run level matcher = registry.run level matcher :=
  run_eq_of_agree within.functions level matcher fun name leads =>
    within.lookup_eq (resolves name leads)

theorem matchFront_eq (resolves : registry.Resolves matcher) :
    other.matchFront matcher = registry.matchFront matcher :=
  matchFront_congr (within.run_eq resolves)

theorem invoke_eq {name : String} (resolves : registry.Resolves (.rule name)) :
    other.invoke name = registry.invoke name := by
  have consults : (Matcher.rule name).Consults name := .inl .whole
  have same := within.lookup_eq (resolves name (.directly consults))
  funext input bindings
  unfold invoke
  rw [same]
  cases known : registry.lookup name with
  | none => rfl
  | some body =>
      exact congrFun (congrFun (within.matchFront_eq fun callee leads =>
        resolves callee (.through consults known leads)) input) bindings

end Within

section Mutual

variable (within : registry.Within other) (around : other.Within registry)

include within around

theorem lookup_eq_of_within (name : String) : other.lookup name = registry.lookup name := by
  cases known : registry.lookup name with
  | some body => exact within.rules name body known
  | none =>
      cases found : other.lookup name with
      | none => rfl
      | some body => exact absurd (around.rules name body found) (by simp [known])

/-- Registries within each other differ at most in the order of their rules, which no run shows. -/
theorem run_eq_of_within (level : Nat) (matcher : Matcher) :
    other.run level matcher = registry.run level matcher :=
  run_eq_of_agree within.functions level matcher fun name _ =>
    lookup_eq_of_within within around name

theorem invoke_eq_of_within (name : String) : other.invoke name = registry.invoke name := by
  have fronts : ∀ matcher, other.matchFront matcher = registry.matchFront matcher := fun matcher =>
    matchFront_congr fun level => run_eq_of_within within around level matcher
  funext input bindings
  simp only [invoke, lookup_eq_of_within within around name, fronts]

end Mutual

end Registry

end TokenGrammar
