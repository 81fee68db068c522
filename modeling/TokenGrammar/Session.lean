import TokenGrammar.Registry.Core
/-!
Sessions: the core rules with loaded definitions, a rule to start from, and a way of turning text into
tokens. Loading takes all definitions of a text or none.
-/

namespace TokenGrammar

inductive InputMode where
  | tokens
  | characters
  deriving DecidableEq, Repr

structure Session where
  definitions : List Definition
  registry : Registry
  start : String
  mode : InputMode

namespace Session

def registryOf (definitions : List Definition) : Except GrammarError Registry := do
  let core ← Builder.start.withCore
  let builder ← definitions.foldlM Builder.define core
  builder.build

def open? (start : String) : Except GrammarError Session :=
  (registryOf []).map fun registry => ⟨[], registry, start, .tokens⟩

def load (session : Session) (source : String) : Except GrammarError (Session × List String) := do
  let added ← readDefinitions source
  let definitions := session.definitions ++ added
  let registry ← registryOf definitions
  return (⟨definitions, registry, session.start, session.mode⟩, added.map (·.name))

def withStart (session : Session) (start : String) : Session :=
  ⟨session.definitions, session.registry, start, session.mode⟩

def withMode (session : Session) (mode : InputMode) : Session :=
  ⟨session.definitions, session.registry, session.start, mode⟩

/-- Characters leave out one line feed at the end of the text. -/
def withoutLineFeed (text : List Char) : List Char :=
  if text.getLast? = some '\n' then text.dropLast else text

def input (session : Session) (text : String) : Except GrammarError (List Token) :=
  match session.mode with
  | .tokens =>
      match read text with
      | .ok tokens => .ok tokens
      | .error problem => .error (.unreadable problem)
  | .characters => .ok ((withoutLineFeed text.toList).map .character)

def run (session : Session) (text : String) : Except GrammarError (Outcome Success) :=
  (session.input text).map fun tokens => session.registry.invoke session.start tokens ∅

end Session

def Success.report (success : Success) : String :=
  let matched := match success.matched with
    | .tokens tokens => "matched: " ++ Token.renderAll tokens ++ "\n"
    | .compiled matcher => "compiled: " ++ matcher.shown ++ "\n"
  let consumed := "consumed: " ++ toString success.consumed ++ "\n"
  let bindings := success.bindings.entries.map fun (name, value) =>
    "  " ++ name ++ " = " ++ Token.renderAll value ++ "\n"
  matched ++ consumed ++ String.join bindings

end TokenGrammar
