import TokenGrammar.Files.Tree
import TokenGrammar.Proofs.CommandLine.Opening
/-!
What stays true at the prompt. Whatever the line editor gives, the session has the rule that it starts from,
and what is offered for completion are its rules; a reply that is answered with an error leaves the
session as it is.
-/

namespace TokenGrammar

namespace Session

theorem Reachable.contains_of_load {session next : Session} {source name : String}
    {names : List String} (reachable : session.Reachable)
    (loaded : session.load source = .ok (next, names))
    (known : session.registry.contains name = true) : next.registry.contains name = true := by
  obtain ⟨added, registry, _, opened, same, _⟩ := load_eq_ok_iff.mp loaded
  subst same
  have old := NameMap.contains_iff.mp known
  rw [names_of_registryOf reachable.registryOf_eq] at old
  refine NameMap.contains_iff.mpr ?_
  rw [names_of_registryOf opened, taken_append]
  exact List.mem_append_left _ old

end Session

namespace Prompt

variable {prompt next : Prompt} {printed : List Printed}

def Quiet (printed : List Printed) : Prop := ∀ text, Printed.error text ∉ printed

/-- What a reply can do to a session and to what is offered. Only where nothing changes can
an error be printed. -/
inductive Turns (prompt next : Prompt) (printed : List Printed) : Prop
  | stays (session : next.session = prompt.session) (offered : next.offered = prompt.offered)
  | loads {source : String} {names : List String} (quiet : Quiet printed)
      (loaded : prompt.session.load source = .ok (next.session, names))
      (offered : next.offered = next.session.registry.ruleNames)
  | starts {rule : String} (quiet : Quiet printed)
      (known : prompt.session.registry.contains rule = true)
      (session : next.session = prompt.session.withStart rule)
      (offered : next.offered = prompt.offered)
  | switches {mode : InputMode} (quiet : Quiet printed)
      (session : next.session = prompt.session.withMode mode)
      (offered : next.offered = prompt.offered)

theorem turns_of_carryOut (prompt : Prompt) (command : Command) :
    prompt.Turns (prompt.carryOut command).1 (prompt.carryOut command).2 := by
  cases command with
  | define source =>
      cases result : prompt.session.load source with
      | ok loaded =>
          simp only [carryOut, result]
          exact .loads (by simp [Quiet, Printed.line]) result rfl
      | error problem =>
          simp only [carryOut, result]
          exact .stays rfl rfl
  | start rule =>
      by_cases known : prompt.session.registry.contains rule = true
      · simp only [carryOut, known, if_true]
        exact .starts (by simp [Quiet]) known rfl rfl
      · simp only [carryOut, known]
        exact .stays rfl rfl
  | mode mode => exact .switches (by simp [carryOut, Quiet]) rfl rfl
  | run text =>
      unfold carryOut
      dsimp only
      split
      · exact .stays rfl rfl
      · exact .stays rfl rfl
  | rules | check | help | quit | unknown line => exact .stays rfl rfl

theorem turns_of_take (prompt : Prompt) (reply : Reply) :
    prompt.Turns (prompt.take reply).1 (prompt.take reply).2 := by
  cases reply with
  | line text =>
      unfold take
      dsimp only
      split
      next command _ => exact turns_of_carryOut prompt command
      next => exact .stays rfl rfl
  | interrupted | ended | failed message => exact .stays rfl rfl

theorem Turns.session_eq_of_error (turns : prompt.Turns next printed) {text : String}
    (failed : Printed.error text ∈ printed) : next.session = prompt.session := by
  cases turns with
  | stays session offered => exact session
  | loads quiet _ _ => exact absurd failed (quiet text)
  | starts quiet _ _ _ => exact absurd failed (quiet text)
  | switches quiet _ _ => exact absurd failed (quiet text)

structure Settled (prompt : Prompt) : Prop where
  ready : prompt.session.Ready
  offered : prompt.offered = prompt.session.registry.ruleNames

theorem settled_start {session : Session} (ready : session.Ready) : (start session).Settled :=
  ⟨ready, rfl⟩

theorem Settled.turn (settled : prompt.Settled) (turns : prompt.Turns next printed) :
    next.Settled := by
  obtain ⟨⟨reachable, known⟩, offered⟩ := settled
  cases turns with
  | stays session names =>
      rw [← session] at reachable known offered
      exact ⟨⟨reachable, known⟩, names.trans offered⟩
  | @loads source names _ loaded offers =>
      have kept : next.session.start = prompt.session.start := by
        obtain ⟨_, _, _, _, same, _⟩ := Session.load_eq_ok_iff.mp loaded
        rw [same]
      refine ⟨⟨?_, ?_⟩, offers⟩
      · rw [← Session.after_load loaded]
        exact reachable.after (.load source)
      · rw [kept]
        exact reachable.contains_of_load loaded known
  | @starts rule _ contained session names =>
      have ready : (prompt.session.withStart rule).Ready :=
        ⟨reachable.after (.start rule), contained⟩
      exact ⟨session ▸ ready, names.trans (session ▸ offered)⟩
  | @switches mode _ session names =>
      have ready : (prompt.session.withMode mode).Ready := ⟨reachable.after (.mode mode), known⟩
      exact ⟨session ▸ ready, names.trans (session ▸ offered)⟩

theorem Settled.take (settled : prompt.Settled) (reply : Reply) : (prompt.take reply).1.Settled :=
  settled.turn (turns_of_take prompt reply)

theorem Settled.takeAll (settled : prompt.Settled) (replies : List Reply) :
    (prompt.takeAll replies).1.Settled := by
  induction replies generalizing prompt with
  | nil => exact settled
  | cons reply rest ih =>
      unfold Prompt.takeAll
      split
      · exact settled
      · exact ih (settled.take reply)

/-- Without a terminal there are no other replies, and a broken entry only leaves the prompt. -/
theorem Settled.takeEntered (settled : prompt.Settled) (pending : List Char)
    (lines : List (List Char)) : (prompt.takeEntered pending lines).1.Settled := by
  induction lines generalizing prompt pending with
  | nil => exact settled
  | cons line rest ih =>
      unfold Prompt.takeEntered
      split
      · exact settled
      · dsimp only
        split
        next => exact ⟨settled.ready, settled.offered⟩
        next kept _ => exact ih settled kept
        next text _ => exact ih (settled.take _) []

/-- Whatever the options, the settings and the files, the prompt is opened only on a session that has the rule
it starts from. Whatever the line editor gives from then on, at every prompt the session still has it and the
names of its rules are offered, and a reply that is answered with an error changes nothing of the session. -/
theorem settled_of_takeAll :
    (∀ (m : Type → Type) [Monad m] [LawfulMonad m] [MonadAttach m] [LawfulMonadAttach m]
      (files : Files m) (stream : m (Except FileError String)) (options : Options)
      (settings : Settings) (outcome : List Printed × CommandLine.Ending),
        MonadAttach.CanReturn (CommandLine.carryOut files stream options settings) outcome →
          ∀ session, outcome.2 = .prompt session → session.Ready) ∧
    ∀ session : Session, session.Ready → ∀ (replies : List Reply) (prompt : Prompt)
      (printed : List Printed), (start session).takeAll replies = (prompt, printed) →
        prompt.session.registry.contains prompt.session.start = true ∧
        prompt.offered = prompt.session.registry.ruleNames ∧
        ∀ reply text, .error text ∈ (prompt.take reply).2 →
          (prompt.take reply).1.session = prompt.session := by
  constructor
  · intro m _ _ _ _ files stream options settings outcome
    exact CommandLine.opensReady_of_carryOut
  · intro session ready replies prompt printed reached
    have settled := (settled_start ready).takeAll replies
    rw [reached] at settled
    refine ⟨settled.ready.known, settled.offered, ?_⟩
    intro reply text failed
    exact (turns_of_take prompt reply).session_eq_of_error failed

/-- A prompt that has turned from one rule to another stays there when it is asked for one that is not
there. -/
theorem settled_of_takeAll_unknown : ∃ (session : Session) (prompt : Prompt)
    (printed : List Printed), session.Ready ∧ session.start = "number" ∧
      (start session).takeAll [.line ":rule symbol", .interrupted] = (prompt, printed) ∧
      prompt.session.start = "symbol" ∧
      prompt.session.registry.contains prompt.session.start = true ∧
      prompt.offered = prompt.session.registry.ruleNames ∧
      .error "Error: no rule named nothing\n" ∈ (prompt.take (.line ":rule nothing")).2 ∧
      (prompt.take (.line ":rule nothing")).1.session = prompt.session := by
  have computed : (Session.open? "number").toOption.any (fun session =>
      session.start == "number" && session.registry.contains "number" &&
        session.registry.contains "symbol" && !session.registry.contains "nothing") = true := by
    simp only [Session.open?, Builder.registryOf_eq]
    decide +kernel
  obtain ⟨session, opens, known⟩ := Result.exists_of_any computed
  simp only [Bool.and_eq_true, beq_iff_eq, Bool.not_eq_true'] at known
  obtain ⟨⟨⟨number, here⟩, symbol⟩, missing⟩ := known
  let files : Files Id := FileTree.files "home" .emptyFolder
  let stream : Id (Except FileError String) := pure (.error .notText)
  let options : Options := ⟨none, none, [], some "number", false, none, true, false⟩
  have carried : CommandLine.carryOut files stream options .defaults =
      pure (greeting, .prompt session) := by
    have asked : Session.open? (options.rule.getD Settings.defaults.startRule) = .ok session := opens
    unfold CommandLine.carryOut
    rw [asked]
    simp [CommandLine.orThrow, options, Settings.defaults, number, here]
  obtain ⟨opened, kept⟩ := settled_of_takeAll
  have ready : session.Ready :=
    opened Id files stream options .defaults (greeting, .prompt session) (carried ▸ rfl) session rfl
  have reached : (start session).takeAll [.line ":rule symbol", .interrupted] =
      ((start session).withSession (session.withStart "symbol"), []) := by
    have parsed : Command.parse ":rule symbol" = some (.start "symbol") := by decide +kernel
    simp [takeAll, take, parsed, carryOut, start, symbol, withSession]
  have failed : .error "Error: no rule named nothing\n" ∈
      (((start session).withSession (session.withStart "symbol")).take (.line ":rule nothing")).2 := by
    have parsed : Command.parse ":rule nothing" = some (.start "nothing") := by decide +kernel
    simp [take, parsed, carryOut, start, missing, withSession, Session.withStart, Printed.problem]
  obtain ⟨known, offered, unchanged⟩ := kept session ready _ _ _ reached
  exact ⟨session, _, _, ready, number, reached, rfl, known, offered, failed, unchanged _ _ failed⟩

end Prompt

end TokenGrammar
