import TokenGrammar.Proofs.Registry.Recognition
/-!
Generation agrees with compiling directly, if the rules that it invokes do what they are there for. It
cuts and compiles one element at a time, so it may fail elsewhere than direct compilation does, but it
fails on the same bodies.
-/

namespace TokenGrammar

namespace Outcome

def ofExcept {ε α : Type} : Except ε α → Outcome α
  | .ok value => .succeeded value
  | .error _ => .failed

theorem ofExcept_eq_succeeded_iff {ε α : Type} {result : Except ε α} {value : α} :
    ofExcept result = .succeeded value ↔ result = .ok value := by
  cases result <;> simp [ofExcept]

theorem ofExcept_map {ε α β : Type} (result : Except ε α) (change : α → β) :
    ofExcept (result.map change) =
      (ofExcept result).bind fun value => .succeeded (change value) := by
  cases result <;> rfl

end Outcome

namespace Step

def compiling (functions : FunctionTable) (kind : FormKind) : Step := fun form bindings =>
  if FormKind.classify functions form = some kind then
    (Outcome.ofExcept (compileForm functions form)).bind fun matcher =>
      .succeeded ⟨.compiled matcher, bindings, form.length⟩
  else .failed

end Step

namespace Generation

/-- The rules that compilers invoke cut bodies and compile forms as direct compilation does. -/
structure Invoke.Faithful (functions : FunctionTable) (invoke : Invoke) : Prop where
  element : ∀ form, (invoke elementRule form).Approximates (Step.measured Body.formMeasure form ∅)
  binding : ∀ form, (invoke bindingRule form).Approximates
    (Step.binding (FormKind.reference.accepts functions) form ∅)
  compiler : ∀ kind form, (invoke (FormKind.compiler kind) form).Approximates
    (Step.compiling functions kind form ∅)

variable {functions : FunctionTable} {invoke : Invoke}

theorem element_approximates (faithful : invoke.Faithful functions) (form : List Token) :
    (element functions invoke form).Approximates (.ofExcept (compileForm functions form)) := by
  unfold element
  split
  next unclassified =>
      have unknown : Form.ofTokens? functions form = none := Option.map_eq_none_iff.mp unclassified
      rw [compileForm, Compilation.formMatcher, unknown]
      exact Outcome.approximates_refl _
  next kind known =>
      have compiled := (faithful.compiler kind form).bind fun found =>
        Outcome.approximates_refl (Outcome.ofOption found.compiled?)
      rw [Step.compiling, if_pos known] at compiled
      cases made : compileForm functions form with
      | error problem => rwa [made] at compiled
      | ok matcher => rwa [made] at compiled

theorem binding_of_nameOf (unquoted : functions.contains "quote" = false)
    {sequence rest left : List Token} {name : Option String}
    (found : Body.nameOf sequence rest = .ok (name, left)) :
    match name with
    | some name => ∃ marker, rest = marker :: .symbol name :: left ∧
        Step.binding (FormKind.reference.accepts functions) rest ∅ =
          .succeeded (.front rest 2 (Bindings.bind ∅ captureName [.symbol name]))
    | none => left = rest ∧
        Step.binding (FormKind.reference.accepts functions) rest ∅ = .failed := by
  cases rest with
  | nil =>
      cases found
      exact ⟨rfl, rfl⟩
  | cons marker after =>
      cases named : marker.isNamed Body.bindMarker with
      | false =>
          simp only [Body.nameOf, named] at found
          cases found
          cases after <;> simp [Step.binding, named]
      | true =>
          rcases after with _ | ⟨token, behind⟩
          · simp [Body.nameOf, named] at found
          · cases token with
            | symbol text =>
                cases reserved : (Token.symbol text).isReserved with
                | true => simp [Body.nameOf, named, Token.symbol?, reserved] at found
                | false =>
                    simp only [Body.nameOf, named, Token.symbol?, reserved] at found
                    cases found
                    refine ⟨marker, rfl, ?_⟩
                    simp [Step.binding, named, FormKind.accepts_eq_passes unquoted, FormKind.passes,
                      reserved, Token.isSymbol]
            | _ => simp [Body.nameOf, named, Token.symbol?] at found

theorem nameOf_approximates (unquoted : functions.contains "quote" = false)
    (faithful : invoke.Faithful functions) {sequence rest left : List Token} {name : Option String}
    (found : Body.nameOf sequence rest = .ok (name, left)) :
    (nameOf invoke rest).Approximates (.succeeded (name, left)) := by
  unfold nameOf
  rcases faithful.binding rest with cut | same
  · rw [cut]
    exact .inl rfl
  · rw [same]
    have bound := binding_of_nameOf unquoted found
    cases name with
    | none =>
        rw [bound.2, bound.1]
        exact .inr rfl
    | some name =>
        obtain ⟨marker, shape, taken⟩ := bound
        rw [taken, shape]
        exact .inr rfl

theorem binding_of_nameOf_error (unquoted : functions.contains "quote" = false)
    {sequence rest : List Token} {problem : GrammarError}
    (wrong : Body.nameOf sequence rest = .error problem) :
    Step.binding (FormKind.reference.accepts functions) rest ∅ = .failed ∧
      ∃ token left other, rest = token :: left ∧ Body.formLength rest = .error other := by
  cases rest with
  | nil => cases wrong
  | cons marker after =>
      cases named : marker.isNamed Body.bindMarker with
      | false => simp [Body.nameOf, named] at wrong
      | true =>
          constructor
          · rcases after with _ | ⟨token, behind⟩
            · rfl
            · cases token with
              | symbol text =>
                  cases reserved : (Token.symbol text).isReserved with
                  | true =>
                      simp [Step.binding, FormKind.accepts_eq_passes unquoted, FormKind.passes,
                        reserved]
                  | false => simp [Body.nameOf, named, Token.symbol?, reserved] at wrong
              | _ =>
                  simp [Step.binding, FormKind.accepts_eq_passes unquoted, FormKind.passes,
                    Token.isSymbol]
          · rw [Token.isNamed_iff.mp named]
            exact ⟨_, after, _, rfl, rfl⟩

theorem nameOf_approximates_of_error (unquoted : functions.contains "quote" = false)
    (faithful : invoke.Faithful functions) {sequence rest : List Token} {problem : GrammarError}
    (wrong : Body.nameOf sequence rest = .error problem) :
    (nameOf invoke rest).Approximates (.succeeded (none, rest)) := by
  unfold nameOf
  rcases faithful.binding rest with cut | same
  · rw [cut]
    exact .inl rfl
  · rw [same, (binding_of_nameOf_error unquoted wrong).1]
    exact .inr rfl

def elementMatchers (functions : FunctionTable) (sequence rest : List Token) :
    Except GrammarError (List (Matcher × Option String)) := do
  let elements ← Body.elementsFrom sequence rest
  elements.mapM (Compilation.elementMatcher functions (compileBody functions))

theorem elementMatchers_nil (sequence : List Token) :
    elementMatchers functions sequence [] = .ok [] := by
  simp [elementMatchers, bind, Except.bind, pure, Except.pure]

section Elements

variable {sequence rest left : List Token} {token : Token} {length : Nat} {name : Option String}
  {problem : GrammarError}

theorem elementMatchers_of_formLength_error
    (wrong : Body.formLength (token :: rest) = .error problem) :
    Outcome.ofExcept (elementMatchers functions sequence (token :: rest)) = .failed := by
  simp [elementMatchers, Body.elementsFrom_cons, Body.nextElement, wrong, bind, Except.bind,
    Outcome.ofExcept]

theorem elementMatchers_of_nameOf_error (size : Body.formLength (token :: rest) = .ok length)
    (wrong : Body.nameOf sequence ((token :: rest).drop length) = .error problem) :
    Outcome.ofExcept (elementMatchers functions sequence (token :: rest)) = .failed := by
  simp [elementMatchers, Body.elementsFrom_cons, Body.nextElement, size, wrong, bind, Except.bind,
    Outcome.ofExcept]

theorem elementMatchers_cons (size : Body.formLength (token :: rest) = .ok length)
    (named : Body.nameOf sequence ((token :: rest).drop length) = .ok (name, left)) :
    Outcome.ofExcept (elementMatchers functions sequence (token :: rest)) =
      (Outcome.ofExcept (compileForm functions ((token :: rest).take length))).bind fun matcher =>
        (Outcome.ofExcept (elementMatchers functions sequence left)).bind fun others =>
          .succeeded ((matcher, name) :: others) := by
  have next : Body.nextElement sequence (token :: rest) =
      .ok (⟨(token :: rest).take length, name⟩, left) := by
    simp [Body.nextElement, size, named, bind, Except.bind, pure, Except.pure]
  have own : Compilation.elementMatcher functions (compileBody functions)
      ⟨(token :: rest).take length, name⟩ =
        (compileForm functions ((token :: rest).take length)).map (·, name) := rfl
  unfold elementMatchers
  rw [Body.elementsFrom_cons, next]
  dsimp only
  cases Body.elementsFrom sequence left with
  | error problem => cases compileForm functions ((token :: rest).take length) <;> rfl
  | ok elements =>
      simp only [Except.map, bind, Except.bind, List.mapM_cons, pure, Except.pure, own]
      cases compileForm functions ((token :: rest).take length) with
      | error problem => rfl
      | ok matcher =>
          cases elements.mapM (Compilation.elementMatcher functions (compileBody functions)) <;> rfl

end Elements

theorem elements_approximates_of_nameOf_error (unquoted : functions.contains "quote" = false)
    (faithful : invoke.Faithful functions) {sequence rest : List Token} {problem : GrammarError}
    (wrong : Body.nameOf sequence rest = .error problem) {budget : Nat}
    (later : (elementsWithin functions invoke budget rest).Approximates
      (.ofExcept (elementMatchers functions sequence rest))) (chunk : List Token) :
    ((element functions invoke chunk).bind fun matcher =>
      (nameOf invoke rest).bind fun (name, left) =>
        (elementsWithin functions invoke budget left).bind fun others =>
          .succeeded ((matcher, name) :: others)).Approximates .failed := by
  -- A binding without a name stays where it is, and the next element fails on its marker.
  obtain ⟨_, marker, after, other, shape, stuck⟩ := binding_of_nameOf_error unquoted wrong
  cases element functions invoke chunk with
  | unfinished => exact .inl rfl
  | failed => exact .inr rfl
  | succeeded matcher =>
      rcases nameOf_approximates_of_error unquoted faithful wrong with cut | same
      · dsimp only [Outcome.bind]
        rw [cut]
        exact .inl rfl
      · dsimp only [Outcome.bind]
        rw [same]
        rw [shape] at later stuck ⊢
        rw [elementMatchers_of_formLength_error stuck] at later
        exact later.bind fun others => Outcome.approximates_refl _

theorem elementsWithin_approximates (unquoted : functions.contains "quote" = false)
    (faithful : invoke.Faithful functions) {sequence rest : List Token} {budget : Nat}
    (enough : rest.length ≤ budget) :
    (elementsWithin functions invoke budget rest).Approximates
      (.ofExcept (elementMatchers functions sequence rest)) := by
  induction budget generalizing rest with
  | zero =>
      rw [List.length_eq_zero_iff.mp (Nat.le_zero.mp enough), elementMatchers_nil]
      exact Outcome.approximates_refl _
  | succ budget ih =>
      cases rest with
      | nil =>
          rw [elementMatchers_nil]
          exact Outcome.approximates_refl _
      | cons token rest =>
          unfold elementsWithin
          rcases faithful.element (token :: rest) with cut | same
          · rw [cut]
            exact .inl rfl
          rw [same]
          cases size : Body.formLength (token :: rest) with
          | error problem =>
              rw [elementMatchers_of_formLength_error size]
              simp only [Step.measured, Body.formMeasure, size]
              exact .inr rfl
          | ok length =>
              have positive := Body.one_le_of_formLength size
              have shorter := List.length_drop (i := length) (l := token :: rest)
              simp only [Step.measured, Body.formMeasure, size, Except.toOption, Outcome.bind,
                Success.front]
              cases named : Body.nameOf sequence ((token :: rest).drop length) with
              | error problem =>
                  have fewer : ((token :: rest).drop length).length ≤ budget := by
                    rw [List.length_cons] at enough shorter
                    omega
                  rw [elementMatchers_of_nameOf_error size named]
                  exact elements_approximates_of_nameOf_error unquoted faithful named (ih fewer) _
              | ok found =>
                  obtain ⟨name, left⟩ := found
                  have suffix := Body.suffix_of_nameOf named
                  rw [elementMatchers_cons size named]
                  refine (element_approximates faithful _).bind fun matcher => ?_
                  rcases nameOf_approximates unquoted faithful named with cut | same
                  · rw [cut]
                    exact .inl rfl
                  · rw [same]
                    refine (ih ?_).bind fun others => Outcome.approximates_refl _
                    have fewer := suffix.length_le
                    rw [List.length_cons] at enough shorter
                    dsimp only
                    omega

theorem sequenceMatcher_approximates (unquoted : functions.contains "quote" = false)
    (faithful : invoke.Faithful functions) (sequence : List Token) :
    (sequenceMatcher functions invoke sequence).Approximates
      (.ofExcept (Compilation.sequenceMatcher functions (compileBody functions) sequence)) := by
  have same : Compilation.sequenceMatcher functions (compileBody functions) sequence =
      (elementMatchers functions sequence sequence).map Matcher.sequenceOf := by
    unfold Compilation.sequenceMatcher elementMatchers Body.elements
    cases Body.elementsFrom sequence sequence with
    | error problem => rfl
    | ok elements =>
        simp only [bind, Except.bind]
        cases elements.mapM (Compilation.elementMatcher functions (compileBody functions)) <;> rfl
  rw [same, Outcome.ofExcept_map]
  exact (elementsWithin_approximates unquoted faithful (Nat.le_refl _)).bind
    fun _ => Outcome.approximates_refl _

theorem alternativesMatchers_approximates (unquoted : functions.contains "quote" = false)
    (faithful : invoke.Faithful functions) (alternatives : List (List Token)) :
    (alternativesMatchers functions invoke alternatives).Approximates
      (.ofExcept (alternatives.mapM
        (Compilation.sequenceMatcher functions (compileBody functions)))) := by
  induction alternatives with
  | nil => exact Outcome.approximates_refl _
  | cons sequence rest ih =>
      have same : Outcome.ofExcept ((sequence :: rest).mapM
            (Compilation.sequenceMatcher functions (compileBody functions))) =
          (Outcome.ofExcept
            (Compilation.sequenceMatcher functions (compileBody functions) sequence)).bind
              fun matcher => (Outcome.ofExcept (rest.mapM
                (Compilation.sequenceMatcher functions (compileBody functions)))).bind
                  fun others => .succeeded (matcher :: others) := by
        rw [List.mapM_cons]
        cases Compilation.sequenceMatcher functions (compileBody functions) sequence with
        | error problem => rfl
        | ok matcher =>
            simp only [bind, Except.bind]
            cases rest.mapM (Compilation.sequenceMatcher functions (compileBody functions)) <;> rfl
      rw [same]
      refine (sequenceMatcher_approximates unquoted faithful sequence).bind fun matcher => ?_
      exact ih.bind fun _ => Outcome.approximates_refl _

theorem bodyMatcher_approximates (unquoted : functions.contains "quote" = false)
    (faithful : invoke.Faithful functions) (body : List Token) :
    (bodyMatcher functions invoke body).Approximates (.ofExcept (compileBody functions body)) := by
  rw [compileBody_eq, Compilation.bodyMatcher, Outcome.ofExcept_map]
  exact (alternativesMatchers_approximates unquoted faithful _).bind
    fun _ => Outcome.approximates_refl _

theorem formMatcher_concat (known : String → Bool) (quantifier : Quantifier)
    (front : List Token) (last : Token) :
    formMatcher functions known invoke (.quantified quantifier) (front ++ [last]) =
      (element functions invoke front).bind fun inner =>
        .succeeded (.repetition quantifier inner) := by
  have more : front ++ [last] ≠ [] := by simp
  have shape : (front ++ [last]).dropLast = front := List.dropLast_concat
  generalize front ++ [last] = form at more shape
  subst shape
  cases form with
  | nil => exact absurd rfl more
  | cons head rest => rfl

theorem formMatcher_approximates (unquoted : functions.contains "quote" = false)
    (faithful : invoke.Faithful functions) {known : String → Bool}
    (cutting : known elementRule = true ∧ known bindingRule = true) {kind : FormKind}
    {form : List Token} (own : FormKind.classify functions form = some kind) :
    (formMatcher functions known invoke kind form).Approximates
      (.ofExcept (compileForm functions form)) := by
  cases FormKind.classify_eq_some_iff.mp own with
  | @quantified quantifier front count atom plain =>
      rw [compileForm_concat_marker plain, Outcome.ofExcept_map, formMatcher_concat]
      exact (element_approximates faithful front).bind fun _ => Outcome.approximates_refl _
  | @negated rest count atom plain =>
      rw [compileForm_negated plain, Outcome.ofExcept_map]
      exact (element_approximates faithful rest).bind fun _ => Outcome.approximates_refl _
  | @atom kind token accepted =>
      obtain ⟨atom, meaning, same⟩ := FormKind.accepts_iff.mp accepted
      subst same
      rw [compileForm_singleton meaning]
      have parts := Atom.parts_of_ofToken? meaning
      cases atom with
      | predicate call =>
          rw [parts]
          exact Outcome.approximates_refl _
      | group items =>
          unfold formMatcher
          simp only [Atom.kind, cutting.1, cutting.2, Bool.and_self, if_true, parts]
          exact bodyMatcher_approximates unquoted faithful items
      | reference name =>
          rw [parts]
          exact Outcome.approximates_refl _
      | text content =>
          rw [parts]
          exact Outcome.approximates_refl _
      | literal expected =>
          dsimp only at parts
          rw [← parts]
          exact Outcome.approximates_refl _

end Generation

end TokenGrammar
