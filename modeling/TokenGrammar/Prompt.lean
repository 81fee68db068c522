import TokenGrammar.Prompt.Command
import TokenGrammar.Prompt.Completion
/-!
The prompt: what the line editor gives is carried out, one reply after the other, until the prompt is left.
The names offered for completion follow the rules of the session. The exit code is 0 after a request to
leave or at the end of the input, and 1 if reading fails.
-/

namespace TokenGrammar

inductive Printed where
  | output (text : String)
  | error (text : String)
  deriving DecidableEq

namespace Printed

def line (text : String) : Printed := .output (text ++ "\n")

def problem (text : String) : Printed := .error ("Error: " ++ text ++ "\n")

end Printed

/-- What the line editor gives when a line is asked for. -/
inductive Reply where
  | line (text : String)
  | interrupted
  | ended
  | failed (message : String)

structure Prompt where
  session : Session
  offered : List String
  exitCode : Option Nat

namespace Prompt

def version : String := "0.2.0"

def greeting : List Printed := [
  .line ("metapeg REPL v" ++ version),
  .line "Type :help for commands, :quit to leave.\n"]

def help : List Printed := [
  .line "  (rule name [body])   define a rule",
  .line "  :rule NAME           match input against NAME",
  .line "  :rules               list rule names",
  .line "  :chars / :tokens     match text as characters / as tokens",
  .line "  :check               compile the meta-grammar with itself",
  .line "  :quit                leave"]

def start (session : Session) : Prompt := ⟨session, session.registry.ruleNames, none⟩

def label (prompt : Prompt) : String := prompt.session.start ++ "> "

def withSession (prompt : Prompt) (session : Session) : Prompt :=
  ⟨session, prompt.offered, prompt.exitCode⟩

def leave (prompt : Prompt) (code : Nat) : Prompt :=
  ⟨prompt.session, prompt.offered, some code⟩

def checkReport : Except GrammarError Unit → Printed
  | .ok () => .line "meta-grammar compiles itself"
  | .error problem => .problem problem.message

def matchReport : Outcome Success → List Printed
  | .succeeded success => [.output success.report]
  | .failed => [.line "no match"]
  | .unfinished => [.problem "the rules call themselves without end"]

def carryOut (prompt : Prompt) : Command → Prompt × List Printed
  | .define source =>
      match prompt.session.load source with
      | .ok (session, names) =>
          (⟨session, session.registry.ruleNames, prompt.exitCode⟩,
            [.line ("defined " ++ ", ".intercalate names)])
      | .error problem => (prompt, [.problem problem.message])
  | .start rule =>
      if prompt.session.registry.contains rule then
        (prompt.withSession (prompt.session.withStart rule), [])
      else (prompt, [.problem ("no rule named " ++ rule)])
  | .rules => (prompt, [.line (" ".intercalate prompt.session.registry.ruleNames)])
  | .mode mode => (prompt.withSession (prompt.session.withMode mode), [])
  | .check => (prompt, [checkReport prompt.session.registry.verify])
  | .help => (prompt, help)
  | .quit => (prompt.leave 0, [])
  | .run text =>
      match prompt.session.run text with
      | .ok outcome => (prompt, matchReport outcome)
      | .error problem => (prompt, [.problem problem.message])
  | .unknown line => (prompt, [.problem ("unknown command " ++ line)])

def take (prompt : Prompt) : Reply → Prompt × List Printed
  | .line text =>
      match Command.parse text with
      | some command => prompt.carryOut command
      | none => (prompt, [])
  | .interrupted => (prompt, [])
  | .ended => (prompt.leave 0, [])
  | .failed message => (prompt.leave 1, [.problem ("REPL failed: " ++ message)])

def takeAll (prompt : Prompt) : List Reply → Prompt × List Printed
  | [] => (prompt, [])
  | reply :: rest =>
      if prompt.exitCode.isSome then (prompt, [])
      else
        let (next, printed) := prompt.take reply
        let (last, more) := takeAll next rest
        (last, printed ++ more)

end Prompt

end TokenGrammar
