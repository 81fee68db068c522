import TokenGrammar.Prompt
import TokenGrammar.Prompt.Erasure
/-!
Editing without a terminal: the lines of a stream are gathered until they make a complete entry, and a
backspace takes back what stands before it. This is no part of the prompt, which takes any replies.
-/

namespace TokenGrammar

inductive Entered where
  | kept (pending : List Char)
  | entry (text : String)
  | broken

/-- Enters a line and the characters that ended it behind what was kept. A line that leaves the text
incomplete is kept with its end, and a backspace reaches back to the lines that are kept. -/
def Entered.ofLine (pending line ending : List Char) : Entered :=
  match Erasure.erase? (pending ++ line) with
  | none => .broken
  | some text =>
      if isIncomplete (String.ofList text) then .kept (text ++ ending)
      else .entry (String.ofList text)

namespace Prompt

def splitEnd (line : List Char) : List Char × List Char :=
  if line.getLast? = some '\n' then
    let text := line.dropLast
    if text.getLast? = some '\r' then (text.dropLast, ['\r', '\n']) else (text, ['\n'])
  else (line, [])

def linesOf : List Char → List (List Char)
  | [] => []
  | character :: rest =>
      if character = '\n' then [character] :: linesOf rest
      else
        match linesOf rest with
        | line :: others => (character :: line) :: others
        | [] => [[character]]

/-- Takes the entries that lines make. The exit code is 101 if editing breaks off. -/
def takeEntered (prompt : Prompt) (pending : List Char) : List (List Char) → Prompt × List Printed
  | [] => (prompt, [])
  | line :: rest =>
      if prompt.exitCode.isSome then (prompt, [])
      else
        let (text, ending) := splitEnd line
        match Entered.ofLine pending text ending with
        | .broken => (prompt.leave 101, [])
        | .kept pending => takeEntered prompt pending rest
        | .entry text =>
            let (next, printed) := prompt.take (.line text)
            let (last, more) := takeEntered next [] rest
            (last, printed ++ more)

def takeLines (prompt : Prompt) (lines : List (List Char)) : Prompt × List Printed :=
  prompt.takeEntered [] lines

end Prompt

end TokenGrammar
