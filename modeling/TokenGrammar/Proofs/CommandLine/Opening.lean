import TokenGrammar.CommandLine
import TokenGrammar.Proofs.Session.Loading
/-!
Opening the prompt. However files and streams behave, the command line hands no session to the prompt
but one that came of loading texts and has the rule that it starts from.
-/

namespace TokenGrammar

open MonadAttach

structure Session.Ready (session : Session) : Prop where
  reachable : session.Reachable
  known : session.registry.contains session.start = true

namespace CommandLine

variable {m : Type → Type} [Monad m] [LawfulMonad m] [MonadAttach m] [LawfulMonadAttach m]

section Results

variable {α β ε : Type}

theorem not_canReturn_throw (problem : ε) (value : α) :
    ¬ CanReturn (throw problem : ExceptT ε m α) value := by
  intro returned
  have same : Except.error problem = Except.ok value :=
    LawfulMonadAttach.eq_of_canReturn_pure (m := m) returned
  cases same

theorem keeps_of_foldlM {holds : α → Prop} {step : α → β → m α}
    (kept : ∀ value item next, holds value → CanReturn (step value item) next → holds next)
    {items : List β} {start final : α} (first : holds start)
    (returned : CanReturn (items.foldlM step start) final) : holds final := by
  induction items generalizing start with
  | nil =>
      rw [List.foldlM_nil] at returned
      exact LawfulMonadAttach.eq_of_canReturn_pure returned ▸ first
  | cons item rest ih =>
      rw [List.foldlM_cons] at returned
      obtain ⟨next, once, later⟩ := LawfulMonadAttach.canReturn_bind_imp' returned
      exact ih (kept start item next first once) later

end Results

theorem eq_ok_of_orThrow {α : Type} {result : Except GrammarError α} {value : α}
    (returned : CanReturn (orThrow result : ExceptT Failure m α) value) : result = .ok value := by
  cases result with
  | ok found => exact congrArg _ (LawfulMonadAttach.eq_of_canReturn_pure returned)
  | error problem => exact absurd returned (not_canReturn_throw _ _)

theorem reachable_of_loadGrammar {files : Files m} {session next : Session} {path : String}
    (reachable : session.Reachable) (returned : CanReturn (loadGrammar files session path) next) :
    next.Reachable := by
  obtain ⟨content, _, returned⟩ := LawfulMonadAttach.canReturn_bind_imp' returned
  cases content with
  | error problem => exact absurd returned (not_canReturn_throw _ _)
  | ok source =>
      cases result : session.load source with
      | error problem =>
          simp only [result] at returned
          exact absurd returned (not_canReturn_throw _ _)
      | ok loaded =>
          simp only [result] at returned
          rw [← LawfulMonadAttach.eq_of_canReturn_pure returned, ← Session.after_load result]
          exact reachable.after (.load source)

def OpensReady (outcome : List Printed × Ending) : Prop :=
  ∀ session, outcome.2 = .prompt session → session.Ready

theorem opensReady_exit (printed : List Printed) (code : Nat) : OpensReady (printed, .exit code) :=
  fun _ impossible => by cases impossible

theorem opensReady_of_pure {printed : List Printed} {code : Nat}
    {outcome : List Printed × Ending}
    (returned : CanReturn (pure (printed, .exit code) : m (List Printed × Ending)) outcome) :
    OpensReady outcome :=
  LawfulMonadAttach.eq_of_canReturn_pure returned ▸ opensReady_exit printed code

theorem opensReady_of_matchInput {session : Session} {text : String}
    {outcome : List Printed × Ending}
    (returned : CanReturn (matchInput session text : ExceptT Failure m _) outcome) :
    OpensReady outcome := by
  obtain ⟨result, _, returned⟩ := LawfulMonadAttach.canReturn_bind_imp' returned
  cases result with
  | succeeded success => exact opensReady_of_pure returned
  | failed => exact opensReady_of_pure returned
  | unfinished => exact absurd returned (not_canReturn_throw _ _)

theorem opensReady_of_carryOut {files : Files m} {stream : m (Except FileError String)}
    {options : Options} {settings : Settings} {outcome : List Printed × Ending}
    (returned : CanReturn (carryOut files stream options settings) outcome) : OpensReady outcome := by
  obtain ⟨opened, opens, returned⟩ := LawfulMonadAttach.canReturn_bind_imp' returned
  have reachable : opened.Reachable := .opened (eq_ok_of_orThrow opens)
  have empty : Session.Reachable (if (options.characters || settings.characters) = true then
      opened.withMode .characters else opened) := by
    split
    · exact reachable.after (.mode .characters)
    · exact reachable
  obtain ⟨session, loads, returned⟩ := LawfulMonadAttach.canReturn_bind_imp' returned
  have loaded : session.Reachable :=
    keeps_of_foldlM (fun _ _ _ reachable once => reachable_of_loadGrammar reachable once) empty loads
  split at returned
  · obtain ⟨_, _, returned⟩ := LawfulMonadAttach.canReturn_bind_imp' returned
    exact opensReady_of_pure returned
  split at returned
  · exact absurd returned (not_canReturn_throw _ _)
  next known =>
    split at returned
    · rw [← LawfulMonadAttach.eq_of_canReturn_pure returned]
      intro ready same
      cases same
      exact ⟨loaded, by simpa using known⟩
    · split at returned
      · obtain ⟨_, _, returned⟩ := LawfulMonadAttach.canReturn_bind_imp' returned
        exact opensReady_of_matchInput returned
      · exact absurd returned (not_canReturn_throw _ _)

/-- The command line opens the prompt on nothing but a session that has the rule it starts from. -/
theorem opensReady_of_run {files : Files m} {usual : Option String}
    {stream : m (Except FileError String)} {arguments : List String}
    {outcome : List Printed × Ending}
    (returned : CanReturn (run files usual stream arguments) outcome) : OpensReady outcome := by
  unfold run at returned
  split at returned
  · exact opensReady_of_pure returned
  · exact opensReady_of_pure returned
  · exact opensReady_of_pure returned
  next options _ =>
    obtain ⟨loaded, _, returned⟩ := LawfulMonadAttach.canReturn_bind_imp' returned
    cases loaded with
    | error problem => exact opensReady_of_pure returned
    | ok settings =>
        obtain ⟨result, carried, returned⟩ := LawfulMonadAttach.canReturn_bind_imp' returned
        have held : ∀ ended, result = .ok ended → OpensReady ended := fun ended same =>
          opensReady_of_carryOut (same ▸ carried)
        cases result with
        | ok ended =>
            obtain ⟨_, first, returned⟩ := LawfulMonadAttach.canReturn_bind_imp' returned
            rw [← LawfulMonadAttach.eq_of_canReturn_pure first] at returned
            rw [← LawfulMonadAttach.eq_of_canReturn_pure returned]
            exact held ended rfl
        | error failure =>
            obtain ⟨_, first, returned⟩ := LawfulMonadAttach.canReturn_bind_imp' returned
            rw [← LawfulMonadAttach.eq_of_canReturn_pure first] at returned
            exact opensReady_of_pure returned

end CommandLine

end TokenGrammar
