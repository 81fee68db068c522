/-!
Options of the command line. A long option takes its value behind an equals sign or from the next
argument, a short one from what follows its letter or from the next argument. A value that stands by
itself cannot start with a hyphen, unless it is one. Arguments are taken from left to right, and the
first that is wrong ends them.
-/

namespace TokenGrammar

structure Options where
  input : Option String
  settings : Option String
  grammars : List String
  rule : Option String
  characters : Bool
  logLevel : Option String
  prompt : Bool
  selfCheck : Bool
  deriving DecidableEq

namespace Options

def none : Options := ⟨.none, .none, [], .none, false, .none, false, false⟩

inductive Valued where
  | settings
  | grammar
  | rule
  | logLevel
  deriving DecidableEq

inductive Flag where
  | characters
  | prompt
  | selfCheck
  | help
  | version
  deriving DecidableEq

inductive Fault where
  | unknown (argument : String)
  | repeated (argument : String)
  | missingValue (argument : String)
  | emptyValue (argument : String)
  | unexpectedValue (argument : String)
  | surplusInput (argument : String)
  deriving DecidableEq

def Fault.message : Fault → String
  | .unknown argument => "unexpected argument '" ++ argument ++ "' found"
  | .repeated argument => "the argument '" ++ argument ++ "' cannot be used multiple times"
  | .missingValue argument => "a value is required for '" ++ argument ++ "' but none was supplied"
  | .emptyValue argument => "the value of '" ++ argument ++ "' must not be empty"
  | .unexpectedValue argument => "'" ++ argument ++ "' takes no value"
  | .surplusInput argument => "unexpected argument '" ++ argument ++ "' found"

inductive Request where
  | run (options : Options)
  | help
  | version
  | refused (fault : Fault)
  deriving DecidableEq

def long? (name : String) : Option (Valued ⊕ Flag) :=
  if name = "config" then some (.inl .settings)
  else if name = "grammar" then some (.inl .grammar)
  else if name = "rule" then some (.inl .rule)
  else if name = "log-level" then some (.inl .logLevel)
  else if name = "chars" then some (.inr .characters)
  else if name = "repl" then some (.inr .prompt)
  else if name = "self-check" then some (.inr .selfCheck)
  else if name = "help" then some (.inr .help)
  else if name = "version" then some (.inr .version)
  else .none

def short? (letter : Char) : Option (Valued ⊕ Flag) :=
  if letter = 'c' then some (.inl .settings)
  else if letter = 'g' then some (.inl .grammar)
  else if letter = 'r' then some (.inl .rule)
  else if letter = 'h' then some (.inr .help)
  else if letter = 'V' then some (.inr .version)
  else .none

/-- Gives an option its value. Only grammars may be given again; a path cannot be empty. -/
def give (options : Options) (option : Valued) (shown value : String) : Except Request Options :=
  match option with
  | .settings =>
      if value.isEmpty then .error (.refused (.emptyValue shown))
      else if options.settings.isSome then .error (.refused (.repeated shown))
      else .ok { options with settings := some value }
  | .grammar =>
      if value.isEmpty then .error (.refused (.emptyValue shown))
      else .ok { options with grammars := options.grammars ++ [value] }
  | .rule =>
      if options.rule.isSome then .error (.refused (.repeated shown))
      else .ok { options with rule := some value }
  | .logLevel =>
      if options.logLevel.isSome then .error (.refused (.repeated shown))
      else .ok { options with logLevel := some value }

def raise (options : Options) (flag : Flag) (shown : String) : Except Request Options :=
  match flag with
  | .characters =>
      if options.characters then .error (.refused (.repeated shown))
      else .ok { options with characters := true }
  | .prompt =>
      if options.prompt then .error (.refused (.repeated shown))
      else .ok { options with prompt := true }
  | .selfCheck =>
      if options.selfCheck then .error (.refused (.repeated shown))
      else .ok { options with selfCheck := true }
  | .help => .error .help
  | .version => .error .version

def giveInput (options : Options) (value : String) : Except Request Options :=
  if options.input.isSome then .error (.refused (.surplusInput value))
  else .ok { options with input := some value }

inductive Stand where
  | between
  | value (option : Valued) (shown : String)
  | inputs

def splitLong (argument : List Char) : String × Option String :=
  let name := argument.takeWhile (· ≠ '=')
  let value := match argument.drop name.length with
    | _ :: value => some (String.ofList value)
    | [] => .none
  (String.ofList name, value)

def readLong (options : Options) (argument : List Char) : Except Request (Options × Stand) := do
  let (name, value) := splitLong argument
  let shown := "--" ++ name
  match long? name, value with
  | .none, _ => throw (.refused (.unknown shown))
  | some (.inr _), some _ => throw (.refused (.unexpectedValue shown))
  | some (.inr flag), .none => return (← raise options flag shown, .between)
  | some (.inl option), some value => return (← give options option shown value, .between)
  | some (.inl option), .none => return (options, .value option shown)

/-- Reads a group of short options. What follows a letter that takes a value is the value, perhaps
behind an equals sign. -/
def readShort (options : Options) : List Char → Except Request (Options × Stand)
  | [] => .ok (options, .between)
  | letter :: rest =>
      let shown := String.ofList ['-', letter]
      match short? letter, rest with
      | .none, _ => .error (.refused (.unknown shown))
      | some (.inr flag), _ =>
          match raise options flag shown with
          | .ok raised => readShort raised rest
          | .error request => .error request
      | some (.inl option), [] => .ok (options, .value option shown)
      | some (.inl option), first :: more =>
          let value := if first = '=' then more else rest
          (give options option shown (String.ofList value)).map (·, .between)

def isValue (argument : String) : Bool :=
  argument = "-" || argument.toList.head? ≠ some '-'

def take (options : Options) (stand : Stand) (argument : String) :
    Except Request (Options × Stand) := do
  match stand with
  | .inputs => return (← giveInput options argument, .inputs)
  | .value option shown =>
      if isValue argument then return (← give options option shown argument, .between)
      else throw (.refused (.missingValue shown))
  | .between =>
      match argument.toList with
      | ['-', '-'] => return (options, .inputs)
      | '-' :: '-' :: long => readLong options long
      | '-' :: first :: more => readShort options (first :: more)
      | _ => return (← giveInput options argument, .between)

def read (arguments : List String) : Request :=
  match arguments.foldlM (fun (options, stand) argument => take options stand argument)
    (none, .between) with
  | .error request => request
  | .ok (_, .value _ shown) => .refused (.missingValue shown)
  | .ok (options, _) => .run options

end Options

end TokenGrammar
