import TokenGrammar.CommandLine.Options
import TokenGrammar.Prompt.Editing
import TokenGrammar.Settings
/-!
The command line: reads options and settings, loads grammars, and then checks the core rules, opens the
prompt, or matches one input. The exit code is 0 for success, 1 for an error, and 2 for no match or
wrong arguments.
-/

namespace TokenGrammar

namespace CommandLine

def versionLine : String := "metapeg " ++ Prompt.version

def usage : String := "Usage: metapeg [OPTIONS] [INPUT]"

inductive Failure where
  | settings (error : SettingsError)
  | unreadableGrammar (path : String) (problem : FileError)
  | wrongGrammar (path : String) (error : GrammarError)
  | grammar (error : GrammarError)
  | unknownRule (name : String)
  | noInput
  | inputNotFound (path : String)
  | unreadableInput (path : String) (problem : FileError)
  | unreadableStream (problem : FileError)
  | endless

def Failure.message : Failure → String
  | .settings error => error.message
  | .unreadableGrammar path problem =>
      "Failed to read grammar '" ++ path ++ "': " ++ problem.message
  | .wrongGrammar path error => "In grammar '" ++ path ++ "': " ++ error.message
  | .grammar error => error.message
  | .unknownRule name => "No rule named " ++ name
  | .noInput => "Missing input (use '-' for stdin, or --repl)"
  | .inputNotFound path => "Input file not found: " ++ path
  | .unreadableInput path problem => "Failed to read file '" ++ path ++ "': " ++ problem.message
  | .unreadableStream problem => "Failed to read from stdin: " ++ problem.message
  | .endless => "the rules call themselves without end"

inductive Ending where
  | exit (code : Nat)
  | prompt (session : Session)

def isLevel (text : String) : Bool :=
  let digits := match text.toList with
    | '+' :: rest => rest
    | other => other
  let number := Nat.ofDigitChars 10 digits 0
  (!digits.isEmpty && digits.all Char.isDigit && 1 ≤ number && number ≤ 5) ||
    ["error", "warn", "info", "debug", "trace"].contains
      (String.ofList (text.toList.map Char.toLower))

def levelWarning (level : String) : List Printed :=
  if isLevel level then []
  else [.error ("Warning: unknown log level '" ++ level ++ "', using warn\n")]

variable {m : Type → Type} [Monad m]

def loadGrammar (files : Files m) (session : Session) (path : String) :
    ExceptT Failure m Session := do
  match ← files.readText path with
  | .error problem => throw (.unreadableGrammar path problem)
  | .ok source =>
      match session.load source with
      | .error problem => throw (.wrongGrammar path problem)
      | .ok (next, _) => return next

def readInput (files : Files m) (stream : m (Except FileError String)) (input : String) :
    ExceptT Failure m String := do
  if input = "-" then
    match ← stream with
    | .ok text => return text
    | .error problem => throw (.unreadableStream problem)
  else if ← files.isPresent input then
    match ← files.readText input with
    | .ok text => return text
    | .error problem => throw (.unreadableInput input problem)
  else throw (.inputNotFound input)

def orThrow {α : Type} : Except GrammarError α → ExceptT Failure m α
  | .ok value => pure value
  | .error problem => throw (.grammar problem)

def matchInput (session : Session) (text : String) : ExceptT Failure m (List Printed × Ending) := do
  match ← orThrow (session.run text) with
  | .succeeded success => return ([.output success.report], .exit 0)
  | .failed => return ([.line "no match"], .exit 2)
  | .unfinished => throw .endless

def carryOut (files : Files m) (stream : m (Except FileError String)) (options : Options)
    (settings : Settings) : ExceptT Failure m (List Printed × Ending) := do
  let opened ← orThrow (Session.open? (options.rule.getD settings.startRule))
  let empty := if options.characters || settings.characters then opened.withMode .characters
    else opened
  let session ← (settings.files ++ options.grammars).foldlM (loadGrammar files) empty
  if options.selfCheck then
    orThrow session.registry.verify
    return ([.line "meta-grammar compiles itself"], .exit 0)
  else if !session.registry.contains session.start then throw (.unknownRule session.start)
  else if options.prompt then return (Prompt.greeting, .prompt session)
  else
    match options.input with
    | some input => matchInput session (← readInput files stream input)
    | none => throw .noInput

def failed (failure : Failure) : List Printed × Ending :=
  ([.problem failure.message], .exit 1)

/-- Runs the program with its arguments. `usual` is where the settings are if no option names them, and
`stream` reads the standard input. -/
def run (files : Files m) (usual : Option String) (stream : m (Except FileError String))
    (arguments : List String) : m (List Printed × Ending) := do
  match Options.read arguments with
  | .help => return ([.line usage], .exit 0)
  | .version => return ([.line versionLine], .exit 0)
  | .refused fault => return ([.error ("error: " ++ fault.message ++ "\n")], .exit 2)
  | .run options =>
      match ← Settings.load files options.settings usual with
      | .error problem => return failed (.settings problem)
      | .ok settings =>
          let warning := levelWarning (options.logLevel.getD settings.level)
          let (printed, ending) ← match ← (carryOut files stream options settings).run with
            | .ok outcome => pure outcome
            | .error failure => pure (failed failure)
          return (warning ++ printed, ending)

end CommandLine

end TokenGrammar
