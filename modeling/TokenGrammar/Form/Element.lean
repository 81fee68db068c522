import TokenGrammar.Form
import TokenGrammar.GrammarError
/-!
Cutting the body of a rule into alternatives, and an alternative into elements. An element is a form
and perhaps a name for what the form matches. Cutting looks only at the markers; it takes any token
that is not reserved for an atom.
-/

namespace TokenGrammar

structure Element where
  form : List Token
  name : Option String

namespace Body

def choiceMarker : String := "/"

def bindMarker : String := "=>"

def alternatives : List Token → List (List Token)
  | [] => [[]]
  | token :: rest =>
      if token.isNamed choiceMarker then [] :: alternatives rest
      else
        match alternatives rest with
        | first :: others => (token :: first) :: others
        | [] => [[token]]

def atomLength : List Token → Except GrammarError Nat
  | [] => .error (.unknownForm [])
  | token :: rest =>
      if token.isNamed Form.negation then
        match rest with
        | [] => .error (.misplacedMarker [token])
        | _ => (atomLength rest).map (· + 1)
      else if token.isReserved then .error (.misplacedMarker (token :: rest))
      else .ok 1

def formLength (sequence : List Token) : Except GrammarError Nat :=
  (atomLength sequence).map fun length =>
    match sequence[length]?.bind Quantifier.ofToken? with
    | some _ => length + 1
    | none => length

def nameOf (sequence rest : List Token) : Except GrammarError (Option String × List Token) :=
  match rest with
  | marker :: after =>
      if marker.isNamed bindMarker then
        match after with
        | token :: left =>
            match token.symbol? with
            | some name =>
                if token.isReserved then .error (.missingName sequence) else .ok (some name, left)
            | none => .error (.missingName sequence)
        | [] => .error (.missingName sequence)
      else .ok (none, rest)
  | [] => .ok (none, [])

def nextElement (sequence rest : List Token) : Except GrammarError (Element × List Token) := do
  let length ← formLength rest
  let (name, left) ← nameOf sequence (rest.drop length)
  return (⟨rest.take length, name⟩, left)

theorem one_le_of_atomLength {sequence : List Token} {length : Nat}
    (found : atomLength sequence = .ok length) : 1 ≤ length := by
  cases sequence with
  | nil => simp [atomLength] at found
  | cons token rest =>
      unfold atomLength at found
      split at found
      · cases rest with
        | nil => simp at found
        | cons next rest =>
            cases inner : atomLength (next :: rest) with
            | error problem => simp [inner, Except.map] at found
            | ok count =>
                simp only [inner, Except.map, Except.ok.injEq] at found
                omega
      · split at found
        · simp at found
        · simp only [Except.ok.injEq] at found
          omega

theorem one_le_of_formLength {sequence : List Token} {length : Nat}
    (found : formLength sequence = .ok length) : 1 ≤ length := by
  unfold formLength at found
  cases atom : atomLength sequence with
  | error problem => simp [atom, Except.map] at found
  | ok count =>
      have positive := one_le_of_atomLength atom
      simp only [atom, Except.map, Except.ok.injEq] at found
      split at found <;> omega

theorem length_of_nameOf {sequence rest left : List Token} {name : Option String}
    (found : nameOf sequence rest = .ok (name, left)) : left.length ≤ rest.length := by
  unfold nameOf at found
  repeat' split at found
  all_goals simp_all
  all_goals omega

theorem length_lt_of_nextElement {sequence rest left : List Token} {element : Element}
    (found : nextElement sequence rest = .ok (element, left)) (more : rest ≠ []) :
    left.length < rest.length := by
  unfold nextElement at found
  cases size : formLength rest with
  | error problem => simp [size, bind, Except.bind] at found
  | ok length =>
      have positive := one_le_of_formLength size
      have nonempty := List.length_pos_iff.mpr more
      cases named : nameOf sequence (rest.drop length) with
      | error problem => simp [size, named, bind, Except.bind] at found
      | ok outcome =>
          obtain ⟨name, behind⟩ := outcome
          have shorter := length_of_nameOf named
          simp only [size, named, bind, Except.bind, pure, Except.pure, Except.ok.injEq,
            Prod.mk.injEq] at found
          rw [← found.2]
          simp only [List.length_drop] at shorter
          omega

def elementsFrom (sequence rest : List Token) : Except GrammarError (List Element) :=
  if _more : rest = [] then .ok []
  else
    match _found : nextElement sequence rest with
    | .error problem => .error problem
    | .ok (element, left) => (elementsFrom sequence left).map (element :: ·)
termination_by rest.length
decreasing_by exact length_lt_of_nextElement _found _more

def elements (sequence : List Token) : Except GrammarError (List Element) :=
  elementsFrom sequence sequence

end Body

end TokenGrammar
