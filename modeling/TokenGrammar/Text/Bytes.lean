/-!
Sizes of texts in bytes of their UTF-8 form.
-/

namespace TokenGrammar

namespace Text

def byteSize (text : List Char) : Nat := text.foldr (fun character size => character.utf8Size + size) 0

def within : Nat → List Char → List Char
  | _, [] => []
  | size, character :: rest =>
      if character.utf8Size ≤ size then character :: within (size - character.utf8Size) rest else []

/-- What is left when `size` bytes are taken off the front of a text; nothing if that would split a
character. -/
def without? : Nat → List Char → Option (List Char)
  | 0, text => some text
  | _ + 1, [] => none
  | size, character :: rest =>
      if character.utf8Size ≤ size then without? (size - character.utf8Size) rest else none

end Text

end TokenGrammar
