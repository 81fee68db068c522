import TokenGrammar.Lexeme
/-!
Building tokens from lexemes. What is open while a form is read is a list of frames, innermost first:
groups with the items read so far, and quotes that wait for their token. A form is finished when
nothing is open.
-/

namespace TokenGrammar

namespace Reading

/-- An open part of a form; the items of a group stand newest first. -/
inductive Frame where
  | group (bracket : Bracket) (items : List Token)
  | quote

inductive Progress where
  | open (frames : List Frame)
  | complete (token : Token)
  | refused (fault : ReadFault)

def place (token : Token) : List Frame → Progress
  | [] => .complete token
  | .quote :: outer => place token.quote outer
  | .group bracket items :: outer => .open (.group bracket (token :: items) :: outer)

def endFault : List Frame → ReadFault
  | [] => .unexpectedEnd
  | .quote :: _ => .nothingToQuote
  | .group bracket _ :: _ => .unclosedGroup bracket

def close (bracket : Bracket) : List Frame → Progress
  | .group found items :: outer =>
      if found = bracket then place (.group bracket items.reverse) outer
      else .refused (.unexpectedClosing bracket)
  | _ => .refused (.unexpectedClosing bracket)

def symbolToken (name : String) : Token :=
  if name = "true" then .boolean true
  else if name = "false" then .boolean false
  else .symbol name

def accept (frames : List Frame) : Lexeme → Progress
  | .opening bracket => .open (.group bracket [] :: frames)
  | .closing bracket => close bracket frames
  | .quote => .open (.quote :: frames)
  | .symbol name => place (symbolToken name) frames
  | .text value => place (.text value) frames
  | .integer value => place (.integer value) frames
  | .float value => place (.float value) frames
  | .character value => place (.character value) frames
  | .endOfText => .refused (endFault frames)

/-- Reads on until the open form is finished; gives the lexemes that are left. An error stands at the
lexeme that is refused, or nowhere if the lexemes ran out. -/
def formFrom (frames : List Frame) :
    List PlacedLexeme → Except ReadError Token × List PlacedLexeme
  | [] => (.error ⟨endFault frames, ⟨0, 0⟩⟩, [])
  | placed :: rest =>
      match accept frames placed.lexeme with
      | .open inner => formFrom inner rest
      | .complete token => (.ok token, rest)
      | .refused fault => (.error ⟨fault, placed.position⟩, placed :: rest)

def formsFrom (frames : List Frame) :
    List PlacedLexeme → Except ReadError (List Token) × List PlacedLexeme
  | [] =>
      match frames with
      | [] => (.ok [], [])
      | _ => (.error ⟨endFault frames, ⟨0, 0⟩⟩, [])
  | placed :: rest =>
      if frames.isEmpty && placed.lexeme = .endOfText then (.ok [], placed :: rest)
      else
        match accept frames placed.lexeme with
        | .open inner => formsFrom inner rest
        | .complete token =>
            let (tokens, left) := formsFrom [] rest
            (tokens.map (token :: ·), left)
        | .refused fault => (.error ⟨fault, placed.position⟩, placed :: rest)

def form (lexemes : List PlacedLexeme) : Except ReadError Token × List PlacedLexeme :=
  formFrom [] lexemes

def forms (lexemes : List PlacedLexeme) : Except ReadError (List Token) × List PlacedLexeme :=
  formsFrom [] lexemes

end Reading

end TokenGrammar
