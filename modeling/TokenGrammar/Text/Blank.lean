import TokenGrammar.Text.CharSet
/-!
Blank characters: the Unicode property White_Space, and trimming by it.
-/

namespace TokenGrammar

namespace Text

/-- The code points with the property White_Space. -/
def blanks : CharSet :=
  ⟨[(0x0009, 0x000d), (0x0020, 0x0020), (0x0085, 0x0085), (0x00a0, 0x00a0), (0x1680, 0x1680),
    (0x2000, 0x200a), (0x2028, 0x2029), (0x202f, 0x202f), (0x205f, 0x205f), (0x3000, 0x3000)]⟩

def isBlank (character : Char) : Bool := blanks.contains character

def trimStart (text : List Char) : List Char := text.dropWhile isBlank

def trimEnd (text : List Char) : List Char := (text.reverse.dropWhile isBlank).reverse

def trim (text : List Char) : List Char := trimEnd (trimStart text)

end Text

end TokenGrammar
