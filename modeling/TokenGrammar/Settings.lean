import TokenGrammar.Files
import TokenGrammar.Files.Path
import TokenGrammar.Toml
/-!
Settings: which grammar files to load, where to start, how to take input, and how much to log. They are
read from a TOML text with the tables `grammar` and `log`; what it leaves out has a default, and other
keys are ignored.
-/

namespace TokenGrammar

structure Settings where
  files : List String
  start : Option String
  characters : Bool
  level : String
  deriving DecidableEq

inductive SettingsFault where
  | malformed
  | mistyped
  deriving DecidableEq

def SettingsFault.message : SettingsFault → String
  | .malformed => "the text is not valid TOML"
  | .mistyped => "a value has the wrong type"

inductive SettingsError where
  | unreadable (path : String) (problem : FileError)
  | invalid (path : String) (fault : SettingsFault)

namespace SettingsError

def summary : SettingsError → String
  | .unreadable path problem => "Failed to read config '" ++ path ++ "': " ++ problem.message
  | .invalid path _ => "Invalid config '" ++ path ++ "'"

def message : SettingsError → String
  | .invalid path fault => summary (.invalid path fault) ++ ": " ++ fault.message
  | error => error.summary

end SettingsError

namespace Settings

def defaults : Settings := ⟨[], none, false, "warn"⟩

instance : Inhabited Settings := ⟨defaults⟩

def defaultStart : String := "rule-element"

def startRule (settings : Settings) : String := settings.start.getD defaultStart

def textOf : Toml.Value → Except SettingsFault String
  | .text content => .ok content
  | _ => .error .mistyped

def booleanOf : Toml.Value → Except SettingsFault Bool
  | .boolean value => .ok value
  | _ => .error .mistyped

def textsOf : Toml.Value → Except SettingsFault (List String)
  | .array items => items.mapM textOf
  | _ => .error .mistyped

/-- The value of the field with a name in a table or, in an array, at its place among the fields. A date
or time has no fields. -/
def field (name : String) (place : Nat) : Toml.Value → Except SettingsFault (Option Toml.Value)
  | .table entries => .ok (entries.lookup name)
  | .array items => .ok items[place]?
  | .moment => .ok none
  | _ => .error .mistyped

def optional {α : Type} (decode : Toml.Value → Except SettingsFault α) (absent : α) :
    Option Toml.Value → Except SettingsFault α
  | some value => decode value
  | none => .ok absent

def ofEntries (entries : List (String × Toml.Value)) : Except SettingsFault Settings := do
  let grammar := (entries.lookup "grammar").getD (.table [])
  let log := (entries.lookup "log").getD (.table [])
  let files ← optional textsOf defaults.files (← field "files" 0 grammar)
  let start ← optional (fun value => (textOf value).map some) none (← field "start" 1 grammar)
  let characters ← optional booleanOf defaults.characters (← field "chars" 2 grammar)
  let level ← optional textOf defaults.level (← field "level" 0 log)
  return ⟨files, start, characters, level⟩

def parse (text : String) : Except SettingsFault Settings :=
  match Toml.parse text.toList with
  | some entries => ofEntries entries
  | none => .error .malformed

/-- Grammar files are named from the folder of the settings file. -/
def relativeTo (path : String) (settings : Settings) : Settings :=
  match Path.folder? path with
  | some folder =>
      ⟨settings.files.map (Path.within folder), settings.start, settings.characters, settings.level⟩
  | none => settings

/-- Where the settings are if nothing names them: in the folder for settings or else, if that is no absolute
path, in the home folder. -/
def usualPath (folder home : Option String) : Option String :=
  let folder := (folder.filter Path.isAbsolute).or (home.map fun path => Path.within path ".config")
  folder.map fun path => Path.within (Path.within path "metapeg") "config.toml"

variable {m : Type → Type} [Monad m]

def ofFile (files : Files m) (path : String) : m (Except SettingsError Settings) := do
  match ← files.readText path with
  | .error problem => return .error (.unreadable path problem)
  | .ok text =>
      match parse text with
      | .error fault => return .error (.invalid path fault)
      | .ok settings => return .ok (settings.relativeTo path)

def load (files : Files m) (named usual : Option String) : m (Except SettingsError Settings) := do
  match named, usual with
  | some path, _ => ofFile files path
  | none, some path => if ← files.isFile path then ofFile files path else return .ok defaults
  | none, none => return .ok defaults

end Settings

end TokenGrammar
