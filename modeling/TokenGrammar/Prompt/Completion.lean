import TokenGrammar.Text.Blank
import TokenGrammar.Text.Bytes
/-!
Completing the word in front of the cursor with commands and rule names. Positions in a line count the
bytes of its UTF-8 form.
-/

namespace TokenGrammar

namespace Completion

def commands : List String := [":rule", ":rules", ":chars", ":tokens", ":check", ":help", ":quit"]

def isBreak (character : Char) : Bool :=
  Text.isBlank character || ['(', ')', '[', ']', '\''].contains character

def lastWord (text : List Char) : List Char :=
  (text.reverse.takeWhile (!isBreak ·)).reverse

/-- Commands and names that start with a word, in the order of their code points and each once. -/
def candidates (names : List String) (word : List Char) : List String :=
  let fitting := (commands ++ names).filter fun candidate => word.isPrefixOf candidate.toList
  (fitting.mergeSort fun first second => decide (first ≤ second)).eraseReps

def complete (names : List String) (line : String) (position : Nat) : Nat × List String :=
  let word := lastWord (Text.within position line.toList)
  if word.isEmpty then (position, []) else (position - Text.byteSize word, candidates names word)

end Completion

end TokenGrammar
