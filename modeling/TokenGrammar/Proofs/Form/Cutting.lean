import TokenGrammar.Predicate.Standard
import TokenGrammar.Proofs.Form.Shape
/-!
Cutting a sequence into elements finds exactly the elements of which it is put together. Whatever begins an
element ends the one before it, so that the sequence cannot be cut in another way, and what is in the
way of cutting is a marker.
-/

namespace TokenGrammar

theorem Token.symbol?_eq_some_iff {token : Token} {name : String} :
    token.symbol? = some name ↔ token = .symbol name := by
  cases token <;> simp [Token.symbol?]

namespace Form

variable {functions : FunctionTable}

theorem isSome_ofTokens?_iff {tokens : List Token} :
    (ofTokens? functions tokens).isSome = true ↔ ∃ front quantifier,
      (plainOf? functions front).isSome = true ∧
        tokens = front ++ (Option.map (Token.symbol ∘ Quantifier.marker) quantifier).toList := by
  rw [Option.isSome_iff_exists]
  constructor
  · rintro ⟨⟨count, atom, quantifier⟩, found⟩
    obtain ⟨front, plain, shape⟩ := ofTokens?_eq_some_iff.mp found
    refine ⟨front, quantifier, Option.isSome_of_eq_some plain, ?_⟩
    cases quantifier with
    | none => exact shape.trans (List.append_nil front).symm
    | some quantifier => exact shape
  · rintro ⟨front, quantifier, plain, shape⟩
    obtain ⟨⟨count, atom⟩, found⟩ := Option.isSome_iff_exists.mp plain
    refine ⟨⟨count, atom, quantifier⟩, ofTokens?_eq_some_iff.mpr ⟨front, found, ?_⟩⟩
    cases quantifier with
    | none => exact shape.trans (List.append_nil front)
    | some quantifier => exact shape

end Form

namespace Element

def binding : Option String → List Token
  | some name => [.symbol Body.bindMarker, .symbol name]
  | none => []

def tokens (element : Element) : List Token := element.form ++ binding element.name

/-- A form stands in front, and the name that is bound is free. -/
structure Fits (functions : FunctionTable) (element : Element) : Prop where
  form : (Form.ofTokens? functions element.form).isSome = true
  free : ∀ name, element.name = some name → (Token.symbol name).isReserved = false

end Element

namespace Body

variable {functions : FunctionTable} {sequence rest left : List Token}

def Begins (token : Token) : Prop := token.isNamed Form.negation = true ∨ token.isReserved = false

theorem Begins.ofToken?_eq_none {token : Token} (begins : Begins token) :
    Quantifier.ofToken? token = none := by
  rcases begins with named | free
  · rw [Token.isNamed_iff.mp named]
    rfl
  · exact Quantifier.ofToken?_eq_none free

theorem Begins.isNamed_eq_false {token : Token} (begins : Begins token) {name : String}
    (reserved : name ∈ Token.reserved) (other : name ≠ Form.negation) :
    token.isNamed name = false := by
  rw [Bool.eq_false_iff]
  intro named
  rcases begins with negated | free
  · rw [Token.isNamed_iff.mp named, Token.isNamed_iff] at negated
    cases negated
    exact other rfl
  · rw [Token.isReserved_of_isNamed named reserved] at free
    cases free

theorem begins_of_plainOf? {token : Token}
    (plain : (Form.plainOf? functions (token :: rest)).isSome = true) : Begins token := by
  obtain ⟨⟨count, atom⟩, found⟩ := Option.isSome_iff_exists.mp plain
  obtain ⟨last, shape, meaning⟩ := Form.plainOf?_eq_some_iff.mp found
  cases count with
  | zero =>
      cases shape
      exact .inr (Form.isReserved_of_ofToken? meaning)
  | succ count =>
      rw [List.replicate_succ, List.cons_append] at shape
      exact .inl (Token.isNamed_iff.mpr (List.cons.inj shape).1)

theorem formLength_eq_ok_iff {length : Nat} :
    formLength sequence = .ok length ↔ ∃ front behind, sequence = front ++ behind ∧
      (Form.plainOf? functions front).isSome = true ∧
        length = front.length + (behind.head?.bind Quantifier.ofToken?).toList.length := by
  have next : ∀ front behind : List Token, (front ++ behind)[front.length]? = behind.head? := by
    intro front behind
    rw [List.getElem?_append_right (Nat.le_refl _), Nat.sub_self, List.head?_eq_getElem?]
  unfold formLength
  rw [Result.map_eq_ok_iff]
  constructor
  · rintro ⟨count, atom, same⟩
    obtain ⟨front, behind, shape, size, plain⟩ := (@atomLength_eq_ok_iff functions _ _).mp atom
    subst shape size
    rw [next] at same
    refine ⟨front, behind, rfl, plain, ?_⟩
    rw [← same]
    cases behind.head?.bind Quantifier.ofToken? <;> rfl
  · rintro ⟨front, behind, shape, plain, same⟩
    subst shape same
    refine ⟨front.length, atomLength_eq_ok_iff.mpr ⟨front, behind, rfl, rfl, plain⟩, ?_⟩
    rw [next]
    cases behind.head?.bind Quantifier.ofToken? <;> rfl

theorem isSome_ofTokens?_take {length : Nat} (found : formLength sequence = .ok length) :
    (Form.ofTokens? functions (sequence.take length)).isSome = true := by
  obtain ⟨front, behind, shape, plain, same⟩ := (@formLength_eq_ok_iff functions _ _).mp found
  subst shape same
  refine Form.isSome_ofTokens?_iff.mpr ⟨front, behind.head?.bind Quantifier.ofToken?, plain, ?_⟩
  rw [List.take_length_add_append]
  congr 1
  cases behind with
  | nil => rfl
  | cons token rest =>
      cases marked : Quantifier.ofToken? token with
      | none => simp [marked]
      | some quantifier =>
          have same := Quantifier.ofToken?_eq_some_iff.mp marked
          rw [List.head?_cons, Option.bind_some, marked, same]
          rfl

theorem formLength_append {form : List Token}
    (complete : (Form.ofTokens? functions form).isSome = true)
    (stops : rest.head?.bind Quantifier.ofToken? = none) :
    formLength (form ++ rest) = .ok form.length := by
  obtain ⟨front, quantifier, plain, shape⟩ := Form.isSome_ofTokens?_iff.mp complete
  subst shape
  refine formLength_eq_ok_iff.mpr ⟨front, _, List.append_assoc _ _ _, plain, ?_⟩
  cases quantifier with
  | none => simp [stops]
  | some quantifier =>
      have marked : Quantifier.ofToken? (.symbol quantifier.marker) = some quantifier :=
        Quantifier.ofToken?_eq_some_iff.mpr rfl
      simp [marked]

theorem binding_of_nameOf {name : Option String} (found : nameOf sequence rest = .ok (name, left)) :
    rest = Element.binding name ++ left ∧
      ∀ known, name = some known → (Token.symbol known).isReserved = false := by
  fun_cases nameOf sequence rest with
  | case1 marker marked token after known symbol reserved =>
      simp [nameOf, marked, symbol, reserved] at found
  | case2 marker marked token after known symbol free =>
      simp only [nameOf, marked, symbol, free, if_true] at found
      cases found
      rw [Token.isNamed_iff.mp marked, Token.symbol?_eq_some_iff.mp symbol] at *
      exact ⟨rfl, fun name same => Option.some.inj same ▸ Bool.eq_false_iff.mpr free⟩
  | case3 marker marked token after symbol => simp [nameOf, marked, symbol] at found
  | case4 marker marked => simp [nameOf, marked] at found
  | case5 marker after other =>
      simp only [nameOf, other] at found
      cases found
      exact ⟨rfl, by simp⟩
  | case6 =>
      cases found
      exact ⟨rfl, by simp⟩

theorem nameOf_binding {name : Option String}
    (free : ∀ known, name = some known → (Token.symbol known).isReserved = false)
    (begins : ∀ token, left.head? = some token → Begins token) :
    nameOf sequence (Element.binding name ++ left) = .ok (name, left) := by
  cases name with
  | some name =>
      have unreserved := free name rfl
      simp [Element.binding, nameOf, Token.isNamed, Token.symbol?, unreserved]
  | none =>
      cases left with
      | nil => rfl
      | cons token rest =>
          have unmarked : token.isNamed bindMarker = false :=
            (begins token rfl).isNamed_eq_false (by decide) (by decide)
          simp [Element.binding, nameOf, unmarked]

theorem nextElement_eq_ok {element : Element} (found : nextElement sequence rest = .ok (element, left)) :
    rest = element.tokens ++ left ∧ element.Fits functions := by
  unfold nextElement at found
  cases size : formLength rest with
  | error problem => simp [size, bind, Except.bind] at found
  | ok length =>
      cases named : nameOf sequence (rest.drop length) with
      | error problem => simp [size, named, bind, Except.bind] at found
      | ok outcome =>
          obtain ⟨name, behind⟩ := outcome
          obtain ⟨shape, free⟩ := binding_of_nameOf named
          simp only [size, named, bind, Except.bind, pure, Except.pure, Except.ok.injEq,
            Prod.mk.injEq] at found
          obtain ⟨same, after⟩ := found
          subst same after
          refine ⟨?_, isSome_ofTokens?_take size, free⟩
          rw [Element.tokens, List.append_assoc, ← shape, List.take_append_drop]

theorem nextElement_tokens {element : Element} (fits : element.Fits functions)
    (begins : ∀ token, left.head? = some token → Begins token) :
    nextElement sequence (element.tokens ++ left) = .ok (element, left) := by
  obtain ⟨form, name⟩ := element
  have stops : (Element.binding name ++ left).head?.bind Quantifier.ofToken? = none := by
    cases name with
    | some name => rfl
    | none =>
        cases left with
        | nil => rfl
        | cons token rest => exact (begins token rfl).ofToken?_eq_none
  have size := formLength_append fits.form stops
  have named := @nameOf_binding sequence _ _ fits.free begins
  unfold nextElement
  rw [Element.tokens, List.append_assoc]
  simp [size, named, bind, Except.bind, pure, Except.pure]

theorem exists_tokens_eq_cons {element : Element} (fits : element.Fits functions) :
    ∃ token rest, element.tokens = token :: rest ∧ Begins token := by
  obtain ⟨front, quantifier, plain, shape⟩ := Form.isSome_ofTokens?_iff.mp fits.form
  cases front with
  | nil => cases plain
  | cons token front =>
      rw [Element.tokens, shape]
      exact ⟨token, _, rfl, begins_of_plainOf? plain⟩

theorem elementsFrom_eq_ok_iff {elements : List Element} :
    elementsFrom sequence rest = .ok elements ↔
      rest = elements.flatMap Element.tokens ∧ ∀ element ∈ elements, element.Fits functions := by
  constructor
  · intro found
    fun_induction elementsFrom sequence rest generalizing elements with
    | case1 =>
        cases found
        simp_all
    | case2 => cases found
    | case3 rest _ element left next ih =>
        obtain ⟨others, later, same⟩ := Result.map_eq_ok_iff.mp found
        obtain ⟨shape, fits⟩ := @nextElement_eq_ok functions _ _ _ _ next
        obtain ⟨behind, each⟩ := ih later
        subst same
        refine ⟨?_, List.forall_mem_cons.mpr ⟨fits, each⟩⟩
        rw [List.flatMap_cons, ← behind, shape]
  · rintro ⟨shape, each⟩
    subst shape
    induction elements with
    | nil => exact elementsFrom_nil sequence
    | cons element others ih =>
        obtain ⟨fits, later⟩ := List.forall_mem_cons.mp each
        have begins : ∀ token, (others.flatMap Element.tokens).head? = some token → Begins token := by
          intro token first
          cases others with
          | nil => cases first
          | cons next others =>
              obtain ⟨start, rest, shape, begins⟩ := exists_tokens_eq_cons (later next List.mem_cons_self)
              rw [List.flatMap_cons, shape] at first
              cases first
              exact begins
        have next := @nextElement_tokens functions sequence _ element fits begins
        obtain ⟨start, rest, shape, _⟩ := exists_tokens_eq_cons fits
        rw [List.flatMap_cons, shape, List.cons_append]
        rw [shape, List.cons_append] at next
        exact elementsFrom_eq_ok next (ih later)

section Alternatives

theorem alternatives_cons_of_not_named {token : Token} (other : token.isNamed choiceMarker = false)
    {rest first : List Token} {others : List (List Token)}
    (found : alternatives rest = first :: others) :
    alternatives (token :: rest) = (token :: first) :: others := by
  simp [alternatives, other, found]

theorem alternatives_of_unmarked
    (unmarked : ∀ token ∈ sequence, token.isNamed choiceMarker = false) :
    alternatives sequence = [sequence] := by
  induction sequence with
  | nil => rfl
  | cons token rest ih =>
      obtain ⟨own, later⟩ := List.forall_mem_cons.mp unmarked
      exact alternatives_cons_of_not_named own (ih later)

theorem alternatives_append_choice
    (unmarked : ∀ token ∈ sequence, token.isNamed choiceMarker = false) (rest : List Token) :
    alternatives (sequence ++ .symbol choiceMarker :: rest) = sequence :: alternatives rest := by
  induction sequence with
  | nil => simp [alternatives, Token.isNamed]
  | cons token front ih =>
      obtain ⟨own, later⟩ := List.forall_mem_cons.mp unmarked
      exact alternatives_cons_of_not_named own (ih later)

theorem alternatives_cases (body : List Token) :
    alternatives body = [body] ∨ ∃ sequence rest, body = sequence ++ .symbol choiceMarker :: rest ∧
      alternatives body = sequence :: alternatives rest := by
  induction body with
  | nil => exact .inl rfl
  | cons token rest ih =>
      by_cases marked : token.isNamed choiceMarker = true
      · refine .inr ⟨[], rest, ?_, ?_⟩
        · rw [Token.isNamed_iff.mp marked]
          rfl
        · simp [alternatives, marked]
      · have other := Bool.not_eq_true _ ▸ marked
        rcases ih with alone | ⟨sequence, behind, shape, cut⟩
        · exact .inl (alternatives_cons_of_not_named other alone)
        · refine .inr ⟨token :: sequence, behind, ?_, alternatives_cons_of_not_named other cut⟩
          rw [shape]
          rfl

end Alternatives

section Markers

variable {problem : GrammarError}

theorem atomLength_eq_error (more : sequence ≠ []) (failed : atomLength sequence = .error problem) :
    ∃ shown, problem = .misplacedMarker shown := by
  induction sequence with
  | nil => exact absurd rfl more
  | cons token rest ih =>
      by_cases named : token.isNamed Form.negation = true
      · cases rest with
        | nil =>
            simp only [atomLength, named, if_true] at failed
            cases failed
            exact ⟨_, rfl⟩
        | cons next rest =>
            rw [atomLength_cons_of_named named (List.cons_ne_nil _ _)] at failed
            exact ih (List.cons_ne_nil _ _) (Result.map_eq_error_iff.mp failed)
      · unfold atomLength at failed
        rw [if_neg named] at failed
        split at failed
        next =>
            cases failed
            exact ⟨_, rfl⟩
        next => cases failed

theorem nameOf_eq_error (failed : nameOf sequence rest = .error problem) :
    problem = .missingName sequence := by
  unfold nameOf at failed
  repeat' split at failed
  all_goals first | cases failed; rfl | cases failed

theorem elementsFrom_eq_error (failed : elementsFrom sequence rest = .error problem) :
    (∃ shown, problem = .misplacedMarker shown) ∨ ∃ shown, problem = .missingName shown := by
  fun_induction elementsFrom sequence rest with
  | case1 => cases failed
  | case2 rest more other wrong =>
      cases failed
      unfold nextElement at wrong
      cases size : formLength rest with
      | error other =>
          rw [size] at wrong
          cases wrong
          exact .inl (atomLength_eq_error more (Result.map_eq_error_iff.mp size))
      | ok length =>
          cases named : nameOf sequence (rest.drop length) with
          | error other =>
              simp only [size, named, bind, Except.bind] at wrong
              cases wrong
              exact .inr ⟨_, nameOf_eq_error named⟩
          | ok outcome => simp [size, named, bind, Except.bind, pure, Except.pure] at wrong
  | case3 rest _ element left next ih => exact ih (Result.map_eq_error_iff.mp failed)

end Markers

theorem fits_iff_classified {element : Element} : element.Fits functions ↔
    (∃ kind, FormKind.classify functions element.form = some kind) ∧
      ∀ name, element.name = some name → (Token.symbol name).isReserved = false := by
  have known : (∃ kind, FormKind.classify functions element.form = some kind) ↔
      (Form.ofTokens? functions element.form).isSome = true := by
    rw [FormKind.classify, ← Option.isSome_iff_exists, Option.isSome_map]
  rw [known]
  exact ⟨fun fits => ⟨fits.form, fits.free⟩, fun both => ⟨both.1, both.2⟩⟩

theorem join_single (form : List Token) :
    [(⟨form, none⟩ : Element)].flatMap Element.tokens = form := by
  simp [Element.tokens, Element.binding]

/-- Cutting finds the elements exactly if they make up the sequence, their forms have kinds and the names
that they bind are free. Nothing is lost, no other elements make up the same sequence, and a form is what
is cut into itself. -/
theorem elements_eq_ok_iff_joined (functions : FunctionTable) :
    (∀ sequence parts, elements sequence = .ok parts ↔
      parts.flatMap Element.tokens = sequence ∧ ∀ part ∈ parts,
        (∃ kind, FormKind.classify functions part.form = some kind) ∧
          ∀ name, part.name = some name → (Token.symbol name).isReserved = false) ∧
    (∀ parts others : List Element, (∀ part ∈ parts, part.Fits functions) →
      (∀ other ∈ others, other.Fits functions) →
        parts.flatMap Element.tokens = others.flatMap Element.tokens → parts = others) ∧
    (∀ form, (∃ kind, FormKind.classify functions form = some kind) ↔
      elements form = .ok [⟨form, none⟩]) := by
  have cut : ∀ {sequence parts}, elements sequence = .ok parts ↔
      sequence = parts.flatMap Element.tokens ∧ ∀ part ∈ parts, part.Fits functions :=
    fun {_ _} => elementsFrom_eq_ok_iff
  refine ⟨fun sequence parts => ?_, fun parts others fit otherFit same => ?_, fun form => ?_⟩
  · rw [cut, eq_comm]
    simp only [fits_iff_classified]
  · have found := cut.mpr ⟨rfl, fit⟩
    have otherFound := cut.mpr ⟨same, otherFit⟩
    rw [found] at otherFound
    exact Except.ok.inj otherFound
  · rw [cut, join_single, List.forall_mem_singleton, fits_iff_classified]
    simp

/-- A quantifier behind two negations and their atom ends the first element, and the name that it binds is
not taken for an element. -/
theorem elements_eq_ok_iff_joined_negated :
    let front := [.symbol "--", .symbol "--", .symbol "a", .symbol "*"]
    let parts := [⟨front, some "x"⟩, ⟨[.integer 1], none⟩]
    elements (front ++ [.symbol "=>", .symbol "x", .integer 1]) = .ok parts ∧
      elements front = .ok [⟨front, none⟩] ∧
      ∀ others : List Element, (∀ other ∈ others, other.Fits .standard) →
        others.flatMap Element.tokens = parts.flatMap Element.tokens → others = parts := by
  intro front parts
  obtain ⟨cut, unique, single⟩ := elements_eq_ok_iff_joined .standard
  have first : FormKind.classify .standard front = some (.quantified .zeroOrMore) := by decide +kernel
  have second : FormKind.classify .standard [.integer 1] = some .literal := by decide +kernel
  have named : ∀ name, some "x" = some name → (Token.symbol name).isReserved = false := by
    rintro name ⟨⟩
    decide
  have unnamed : ∀ name, none = some name → (Token.symbol name).isReserved = false := by simp
  have each : ∀ part ∈ parts, (∃ kind, FormKind.classify .standard part.form = some kind) ∧
      ∀ name, part.name = some name → (Token.symbol name).isReserved = false :=
    List.forall_mem_cons.mpr ⟨⟨⟨_, first⟩, named⟩, List.forall_mem_singleton.mpr ⟨⟨_, second⟩, unnamed⟩⟩
  refine ⟨(cut _ parts).mpr ⟨rfl, each⟩, (single front).mp ⟨_, first⟩, ?_⟩
  exact fun others fit => unique others parts fit fun part member =>
    fits_iff_classified.mpr (each part member)

end Body

end TokenGrammar
