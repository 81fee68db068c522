import TokenGrammar.CommandLine
import TokenGrammar.Prompt.Editing
/-!
The program itself: files, streams and surroundings of the process, for the command line.
-/

namespace TokenGrammar

namespace Main

def fileError : IO.Error → FileError
  | .alreadyExists _ number text | .interrupted _ number text | .noFileOrDirectory _ number text
  | .invalidArgument _ number text | .permissionDenied _ number text
  | .resourceExhausted _ number text | .inappropriateType _ number text
  | .noSuchThing _ number text | .otherError number text | .resourceBusy number text
  | .resourceVanished number text | .unsupportedOperation number text | .hardwareFault number text
  | .unsatisfiedConstraints number text | .illegalOperation number text
  | .protocolError number text | .timeExpired number text => .system text number.toNat
  | .unexpectedEof | .userError _ => .notText

def textOf (bytes : ByteArray) : Except FileError String :=
  match String.fromUTF8? bytes with
  | some text => .ok text
  | none => .error .notText

def readText (path : String) : IO (Except FileError String) := do
  if path.toList.contains '\x00' then return .error .unusablePath
  try
    let file ← IO.FS.Handle.mk path .read
    return textOf (← file.readBinToEnd)
  catch problem =>
    return .error (fileError problem)

def files : Files IO where
  readText := readText
  isPresent path := do
    match ← readText path with
    | .ok _ => return true
    | .error problem => return !problem.isAbsence
  isFile path := do
    match ← readText path with
    | .ok _ => return true
    | .error problem => return !problem.isAbsence && problem ≠ .isFolder

def readStream (stream : IO.FS.Stream) : IO (Except FileError String) := do
  try
    return textOf (← stream.readBinToEnd)
  catch problem =>
    return .error (fileError problem)

def put : Printed → IO Unit
  | .output text => IO.print text
  | .error text => IO.eprint text

partial def converse (stream : IO.FS.Stream) (pending : List Char) (prompt : Prompt) : IO Nat := do
  if let some code := prompt.exitCode then return code
  if ← stream.isTty then IO.print prompt.label
  (← IO.getStdout).flush
  let line := (← stream.getLine).toList
  if line.isEmpty then return 0
  let (text, ending) := Prompt.splitEnd line
  match Entered.ofLine pending text ending with
  | .broken => return 101
  | .kept pending => converse stream pending prompt
  | .entry text =>
      let (next, printed) := prompt.take (.line text)
      printed.forM put
      converse stream [] next

end Main

end TokenGrammar

def main (arguments : List String) : IO UInt32 := do
  let stream ← IO.getStdin
  let usual := TokenGrammar.Settings.usualPath (← IO.getEnv "XDG_CONFIG_HOME") (← IO.getEnv "HOME")
  let (printed, ending) ← TokenGrammar.CommandLine.run TokenGrammar.Main.files usual
    (TokenGrammar.Main.readStream stream) arguments
  printed.forM TokenGrammar.Main.put
  match ending with
  | .exit code => return code.toUInt32
  | .prompt session =>
      let code ← TokenGrammar.Main.converse stream [] (TokenGrammar.Prompt.start session)
      return code.toUInt32
