import TokenGrammar.Proofs.Matcher.Part
import TokenGrammar.Proofs.Matcher.Watching
import TokenGrammar.Proofs.Registry.Built
import TokenGrammar.Proofs.Registry.Levels
import TokenGrammar.Proofs.Token.Leaves
/-!
Bindings matter to predicates only. A predicate reads no other names than those of the symbols in it, and
nothing else reads bindings at all; compilers invoke rules without any. So two runs of a matcher differ in
nothing but bindings from before, if these agree on the symbols of all predicates that the matcher leads
to through rules.
-/

namespace TokenGrammar

section Evaluation

variable {functions : FunctionTable} {bindings other : Bindings}

theorem evaluateAll_congr {tokens : List Token}
    (each : ∀ token ∈ tokens, evaluate functions bindings token = evaluate functions other token) :
    evaluateAll functions bindings tokens = evaluateAll functions other tokens := by
  induction tokens with
  | nil => simp only [evaluateAll]
  | cons token rest ih =>
      obtain ⟨first, others⟩ := List.forall_mem_cons.mp each
      simp only [evaluateAll, first, ih others]

theorem evaluate_congr {expression : Token}
    (agree : ∀ name, Token.symbol name ∈ expression.leaves → bindings.get? name = other.get? name) :
    evaluate functions bindings expression = evaluate functions other expression := by
  induction expression using Token.induction with
  | atom token atomic =>
      cases token with
      | symbol name => simp only [evaluate, agree name (Token.mem_leaves_self atomic)]
      | group bracket items => cases atomic
      | _ => simp only [evaluate]
  | group bracket items ih =>
      have inner : ∀ item ∈ items,
          evaluate functions bindings item = evaluate functions other item := by
        intro item member
        refine ih item member fun name leaf => agree name ?_
        rw [Token.leaves]
        exact Token.mem_leavesAll.mpr ⟨item, member, leaf⟩
      cases bracket with
      | square => simp only [evaluate, evaluateAll_congr inner]
      | round =>
          cases items with
          | nil => simp only [evaluate]
          | cons head arguments =>
              have given := evaluateAll_congr fun argument member =>
                inner argument (List.mem_cons_of_mem head member)
              simp only [evaluate, given]

end Evaluation

namespace Registry

variable {registry : Registry}

theorem holds_congr {bindings other : Bindings} {call : Token}
    (agree : bindings.AgreeOn (fun name => Token.symbol name ∈ call.leaves) other) :
    registry.holds call bindings = registry.holds call other := by
  rw [holds, holds, evaluate_congr agree]

/-- The symbols that occur in the predicates of a matcher, or of rules that it refers to, one through
the other. -/
inductive Watches (registry : Registry) : Matcher → String → Prop
  | predicate {matcher : Matcher} {call : Token} {name : String}
      (inside : Matcher.Part (.predicate call) matcher) (occurs : Token.symbol name ∈ call.leaves) :
      Watches registry matcher name
  | rule {matcher body : Matcher} {callee name : String}
      (inside : Matcher.Part (.rule callee) matcher) (known : registry.lookup callee = some body)
      (further : Watches registry body name) : Watches registry matcher name

theorem Watches.of_part {part whole : Matcher} {name : String} (watches : registry.Watches part name)
    (inside : Matcher.Part part whole) : registry.Watches whole name := by
  cases watches with
  | predicate innermost occurs => exact .predicate (innermost.trans inside) occurs
  | rule innermost known further => exact .rule (innermost.trans inside) known further

theorem readsOnly_run (level : Nat) :
    ∀ matcher, (registry.run level matcher).ReadsOnly (registry.Watches matcher) := by
  -- On the levels: a rule stands for its body, which watches nothing that the rule does not watch.
  induction level with
  | zero =>
      intro matcher input bindings other _
      exact .unfinished
  | succ level ih =>
      intro matcher
      have inner : ∀ part, Matcher.Part part matcher →
          (registry.run level part).ReadsOnly (registry.Watches matcher) := fun part inside =>
        (ih part).imp fun _ watches => watches.of_part inside
      cases matcher with
      | literal expected => exact Step.readsOnly_one _
      | tokenIf name test => exact Step.readsOnly_one _
      | endOfInput => exact Step.readsOnly_lookahead fun _ _ _ _ => rfl
      | rule name =>
          intro input bindings other agree
          rw [run_rule, run_rule]
          cases known : registry.lookup name with
          | none => exact .failed
          | some body =>
              exact ih body input bindings other
                (agree.imp fun _ watches => .rule .whole known watches)
      | sequence elements =>
          apply Step.readsOnly_sequence
          exact forall_mem_stepsAt fun element member => inner element.1 (.element member .whole)
      | choice alternatives =>
          apply Step.readsOnly_choice
          exact List.forall_mem_map.mpr fun alternative member =>
            inner alternative (.alternative member .whole)
      | repetition quantifier repeated =>
          exact Step.readsOnly_repetition (inner repeated (.repeated .whole)) quantifier level
      | negation denied => exact Step.readsOnly_negation (inner denied (.negated .whole))
      | predicate call =>
          refine Step.readsOnly_lookahead fun _ bindings other agree => holds_congr ?_
          exact agree.imp fun _ occurs => .predicate .whole occurs
      | text content => exact Step.readsOnly_text _
      | compiler kind recognizer =>
          intro input bindings other agree
          have recognized := inner recognizer (.recognizer .whole) input bindings other agree
          rw [run_compiler, run_compiler]
          refine recognized.bind fun found otherFound alike => ?_
          rw [alike.consumed]
          -- From here on both runs compile the same form, without bindings.
          cases Generation.formMatcher registry.functions registry.contains
              (registry.invokeAt level) kind (input.take otherFound.consumed) with
          | unfinished => exact .unfinished
          | failed => exact .failed
          | succeeded generated =>
              exact .succeeded ⟨rfl, rfl, Bindings.moveAlike_refl bindings other⟩
      | claim count =>
          intro input bindings other _
          exact .succeeded ⟨rfl, rfl, Bindings.moveAlike_refl bindings other⟩

theorem readsOnly_matchFront (matcher : Matcher) :
    (registry.matchFront matcher).ReadsOnly (registry.Watches matcher) :=
  fun input bindings other agree => readsOnly_run _ matcher input bindings other agree

/-- Bindings that agree on the watched symbols lead to the same failure, or to successes that differ in
nothing but bindings from before. So the order of bindings never shows, and a matcher that leads to no
predicate does not depend on bindings. -/
theorem alike_of_agreeOn_watches (registry : Registry) (matcher : Matcher) (input : List Token)
    (bindings other : Bindings) :
    (bindings.AgreeOn (registry.Watches matcher) other →
      (∀ level, (registry.run level matcher input bindings).Alike (Success.Alike bindings other)
        (registry.run level matcher input other)) ∧
      (registry.matchFront matcher input bindings).Alike (Success.Alike bindings other)
        (registry.matchFront matcher input other)) ∧
    ((∀ name, bindings.get? name = other.get? name) →
      (registry.matchFront matcher input bindings).Alike
        (fun found otherFound => found.matched = otherFound.matched ∧
          found.consumed = otherFound.consumed ∧
          ∀ name, found.bindings.get? name = otherFound.bindings.get? name)
        (registry.matchFront matcher input other)) ∧
    ((∀ name, ¬ registry.Watches matcher name) →
      (registry.matchFront matcher input bindings).Alike (Success.Alike bindings other)
        (registry.matchFront matcher input other)) := by
  refine ⟨fun agree => ⟨fun level => ?_, ?_⟩, fun same => ?_, fun blind => ?_⟩
  · exact readsOnly_run level matcher input bindings other agree
  · exact readsOnly_matchFront matcher input bindings other agree
  · have alike := @readsOnly_matchFront registry matcher input bindings other fun name _ => same name
    refine alike.imp fun found otherFound both => ⟨both.matched, both.consumed, fun name => ?_⟩
    rcases both.bindings name with equal | ⟨kept, otherKept⟩
    · exact equal
    · rw [kept, otherKept, same name]
  · exact readsOnly_matchFront matcher input bindings other fun name watched =>
      absurd watched (blind name)

theorem Watches.of_bound_predicate {name : String} {test : TokenTest} {rule : String} {call : Token}
    {watched : String}
    (watches : registry.Watches
      (.sequence [(.tokenIf rule test, some name), (.predicate call, none)]) watched) :
    Token.symbol watched ∈ call.leaves := by
  have inner : ∀ {part}, Matcher.Part part
      (.sequence [(.tokenIf rule test, some name), (.predicate call, none)]) →
      part = .sequence [(.tokenIf rule test, some name), (.predicate call, none)] ∨
      part = .tokenIf rule test ∨ part = .predicate call := by
    intro part inside
    cases inside with
    | whole => exact .inl rfl
    | element listed inside =>
        rcases List.mem_cons.mp listed with here | later
        · cases here
          cases inside
          exact .inr (.inl rfl)
        · cases List.mem_singleton.mp later
          cases inside
          exact .inr (.inr rfl)
  cases watches with
  | predicate inside occurs => rcases inner inside with same | same | same <;> cases same; exact occurs
  | rule inside known further => rcases inner inside with same | same | same <;> cases same

/-- An even number is matched whatever is bound to a name that the predicate does not read. -/
theorem alike_of_agreeOn_watches_even : ∃ (registry : Registry) (matcher : Matcher)
    (other : Bindings) (found otherFound : Success), Session.registryOf [] = .ok registry ∧
      Bindings.AgreeOn (registry.Watches matcher) ∅ other ∧ registry.Watches matcher "n" ∧
      registry.matchFront matcher [.integer 4] ∅ = .succeeded found ∧
      registry.matchFront matcher [.integer 4] other = .succeeded otherFound ∧
      Success.Alike ∅ other found otherFound := by
  let call : Token := .list [.symbol "even?", .symbol "n"]
  let matcher : Matcher := .sequence [(.tokenIf "number" .number, some "n"), (.predicate call, none)]
  let other : Bindings := Bindings.bind ∅ "seen" [.integer 5]
  have computed : (Session.registryOf []).toOption.any (fun registry =>
      (registry.matchFront matcher [.integer 4] ∅).any (·.consumed == 1)) = true := by
    rw [Builder.registryOf_eq]
    decide +kernel
  obtain ⟨registry, opened, matched⟩ := Result.exists_of_any computed
  obtain ⟨found, succeeded, _⟩ := Outcome.any_eq_true.mp matched
  have agree : Bindings.AgreeOn (registry.Watches matcher) ∅ other := by
    intro name watches
    have occurs := watches.of_bound_predicate
    have known : name = "even?" ∨ name = "n" := by
      simpa [call, Token.leaves, Token.leavesAll] using occurs
    rcases known with same | same <;> subst same <;> rfl
  have reads : registry.Watches matcher "n" :=
    .predicate (.element (List.mem_cons_of_mem _ List.mem_cons_self) .whole)
      (by simp [call, Token.leaves, Token.leavesAll])
  have alike := ((alike_of_agreeOn_watches registry matcher [.integer 4] ∅ other).1 agree).2
  rw [succeeded] at alike
  cases second : registry.matchFront matcher [.integer 4] other with
  | succeeded otherFound =>
      rw [second] at alike
      cases alike with
      | succeeded both =>
          exact ⟨registry, matcher, other, found, otherFound, opened, agree, reads, succeeded,
            second, both⟩
  | _ =>
      rw [second] at alike
      cases alike

end Registry

end TokenGrammar
