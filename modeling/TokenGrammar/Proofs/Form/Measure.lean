import TokenGrammar.Proofs.Form.Shape
import TokenGrammar.Proofs.Matcher.Measure
/-!
How many tokens the forms at the front of a sequence take, as measures. The measures of cutting a body are
put together from tests of single tokens as the grammar of bodies has it, and so are the measures that
recognise a whole form of a kind.
-/

namespace TokenGrammar

namespace FormKind

variable {functions : FunctionTable}

/-- The tests of single tokens by which the grammar of bodies tells the kinds of atoms. -/
def passes (functions : FunctionTable) (token : Token) : FormKind → Bool
  | .predicate => functions.isCall token
  | .group => token.isGroup .square ||
      (!functions.isCall token && (!token.quoted?.isSome && token.isGroup .round))
  | .reference => !token.isReserved && token.isSymbol
  | .text => token.isText
  | .literal => token.isNumber || (token.isCharacter || (token.isBoolean || token.quoted?.isSome))
  | .quantified _ => false
  | .negated => false

theorem isCall_of_quoted? (unquoted : functions.contains "quote" = false) {token quoted : Token}
    (found : token.quoted? = some quoted) : functions.isCall token = false := by
  unfold Token.quoted? at found
  split at found
  next head inner =>
      split at found
      next named =>
          rw [Token.isNamed_iff.mp named]
          exact unquoted
      next => cases found
  next => cases found

theorem accepts_eq_passes (unquoted : functions.contains "quote" = false) (kind : FormKind)
    (token : Token) : accepts functions kind token = passes functions token kind := by
  unfold accepts Atom.ofToken?
  cases token with
  | symbol name =>
      cases reserved : Token.isReserved (.symbol name) <;> cases kind <;>
        simp [passes, FunctionTable.isCall, Token.quoted?, Token.isGroup, reserved, Atom.kind,
          Token.isSymbol, Token.isText, Token.isNumber, Token.isCharacter, Token.isBoolean]
  | group bracket items =>
      cases bracket with
      | square => cases kind <;> rfl
      | round =>
          have notBoth : ¬ (functions.isCall (.list items) = true ∧
              (Token.list items).quoted?.isSome = true) := by
            rintro ⟨call, quoted⟩
            obtain ⟨inner, found⟩ := Option.isSome_iff_exists.mp quoted
            rw [isCall_of_quoted? unquoted found] at call
            cases call
          cases call : functions.isCall (.list items) <;>
            cases quoted : (Token.list items).quoted? <;> cases kind <;>
            simp [passes, call, quoted, Atom.kind, Token.isGroup, Token.isText, Token.isNumber,
              Token.isCharacter, Token.isBoolean, Token.isReserved, Token.isSymbol] at notBoth ⊢
  | _ => cases kind <;> rfl

@[simp] theorem accepts_quantified (quantifier : Quantifier) (token : Token) :
    accepts functions (.quantified quantifier) token = false := by
  unfold accepts
  cases Atom.ofToken? functions token with
  | none => rfl
  | some atom => cases atom <;> rfl

@[simp] theorem accepts_negated (token : Token) : accepts functions .negated token = false := by
  unfold accepts
  cases Atom.ofToken? functions token with
  | none => rfl
  | some atom => cases atom <;> rfl

theorem any_accepts (token : Token) : ([.predicate, .group, .reference, .text, .literal].any
    fun kind => accepts functions kind token) = !token.isReserved := by
  rw [← @Atom.isSome_ofToken? functions]
  simp only [accepts]
  cases Atom.ofToken? functions token with
  | none => rfl
  | some atom => cases atom <;> rfl

def recognition (functions : FunctionTable) (kind : FormKind) : Measure := fun form =>
  if classify functions form = some kind then some form.length else none

theorem recognition_eq_some_iff {kind : FormKind} {form : List Token} {count : Nat} :
    recognition functions kind form = some count ↔
      Shape functions kind form ∧ count = form.length := by
  unfold recognition
  rw [← classify_eq_some_iff]
  split
  next own => simp [own, eq_comm]
  next other => simp [other]

end FormKind

namespace Body

variable {functions : FunctionTable}

def atomMeasure : Measure := fun tokens => (atomLength tokens).toOption

def formMeasure : Measure := fun tokens => (formLength tokens).toOption

theorem atomMeasure_eq_some_iff {tokens : List Token} {length : Nat} :
    atomMeasure tokens = some length ↔ atomLength tokens = .ok length := by
  unfold atomMeasure
  cases atomLength tokens <;> simp [Except.toOption]

theorem atomMeasure_iff_plain (functions : FunctionTable) {tokens : List Token} {length : Nat} :
    atomMeasure tokens = some length ↔ ∃ front rest, tokens = front ++ rest ∧
      front.length = length ∧ (Form.plainOf? functions front).isSome = true :=
  atomMeasure_eq_some_iff.trans atomLength_eq_ok_iff

theorem within_atomMeasure : atomMeasure.Within := by
  intro tokens length found
  obtain ⟨front, rest, shape, size, _⟩ := (atomMeasure_iff_plain ∅).mp found
  rw [shape, List.length_append, size]
  exact Nat.le_add_right _ _

def recognizing (functions : FunctionTable) : FormKind → List Measure
  | .quantified quantifier => [atomMeasure, .single (Token.isNamed quantifier.marker)]
  | .negated => [.single (Token.isNamed Form.negation), atomMeasure]
  | kind => [.single (kind.accepts functions)]

theorem within_recognizing (kind : FormKind) :
    ∀ measure ∈ recognizing functions kind, measure.Within := by
  cases kind <;> simp [recognizing, Measure.within_single, within_atomMeasure]

theorem inSequence_quantified_iff {quantifier : Quantifier} {form : List Token} {total : Nat} :
    Measure.inSequence [atomMeasure, .single (Token.isNamed quantifier.marker), .atEnd] form =
        some total ↔
      (FormKind.quantified quantifier).Shape functions form ∧ total = form.length := by
  constructor
  · intro taken
    obtain ⟨length, others, atom, later, sum⟩ := Measure.inSequence_cons_eq_some_iff.mp taken
    obtain ⟨one, none, marked, ended, once⟩ := Measure.inSequence_cons_eq_some_iff.mp later
    obtain ⟨front, rest, shape, size, plain⟩ := (atomMeasure_iff_plain functions).mp atom
    subst shape size
    rw [List.drop_left] at marked ended
    obtain ⟨token, behind, same, named, first⟩ := Measure.single_eq_some_iff.mp marked
    subst same first
    obtain ⟨empty, zero⟩ := Measure.inSequence_atEnd_eq_some_iff.mp ended
    rw [List.drop_succ_cons, List.drop_zero] at empty
    obtain ⟨⟨count, atom⟩, found⟩ := Option.isSome_iff_exists.mp plain
    rw [empty, Token.isNamed_iff.mp named]
    refine ⟨.quantified quantifier found, ?_⟩
    rw [List.length_append, sum, once, zero]
    rfl
  · rintro ⟨shape, same⟩
    cases shape with
    | @quantified _ front _ _ plain =>
        have atom : atomMeasure (front ++ [.symbol quantifier.marker]) = some front.length :=
          (atomMeasure_iff_plain functions).mpr
            ⟨front, _, rfl, rfl, Option.isSome_of_eq_some plain⟩
        rw [same]
        simp [Measure.inSequence, atom, Measure.single, Measure.atEnd, Token.isNamed_iff.mpr rfl]
    | atom accepted => simp at accepted

theorem inSequence_negated_iff {form : List Token} {total : Nat} :
    Measure.inSequence [.single (Token.isNamed Form.negation), atomMeasure, .atEnd] form =
        some total ↔
      FormKind.negated.Shape functions form ∧ total = form.length := by
  constructor
  · intro taken
    obtain ⟨one, others, marked, later, once⟩ := Measure.inSequence_cons_eq_some_iff.mp taken
    obtain ⟨length, none, atom, ended, sum⟩ := Measure.inSequence_cons_eq_some_iff.mp later
    obtain ⟨token, rest, same, named, first⟩ := Measure.single_eq_some_iff.mp marked
    subst same first
    rw [List.drop_succ_cons, List.drop_zero] at atom ended
    obtain ⟨front, behind, shape, size, plain⟩ := (atomMeasure_iff_plain functions).mp atom
    subst shape size
    rw [List.drop_left] at ended
    obtain ⟨empty, zero⟩ := Measure.inSequence_atEnd_eq_some_iff.mp ended
    obtain ⟨⟨count, atom⟩, found⟩ := Option.isSome_iff_exists.mp plain
    rw [empty, List.append_nil, Token.isNamed_iff.mp named]
    refine ⟨.negated found, ?_⟩
    rw [List.length_cons, once, sum, zero]
    exact Nat.add_comm _ _
  · rintro ⟨shape, same⟩
    cases shape with
    | @negated rest _ _ plain =>
        have atom : atomMeasure rest = some rest.length :=
          (atomMeasure_iff_plain functions).mpr
            ⟨rest, [], (List.append_nil _).symm, rfl, Option.isSome_of_eq_some plain⟩
        rw [same]
        simp [Measure.inSequence, atom, Measure.single, Measure.atEnd, Token.isNamed_iff.mpr rfl,
          Nat.add_comm]
    | atom accepted => simp at accepted

theorem inSequence_single_iff {accepts : Token → Bool} {form : List Token} {total : Nat} :
    Measure.inSequence [.single accepts, .atEnd] form = some total ↔
      ∃ token, form = [token] ∧ accepts token = true ∧ total = 1 := by
  constructor
  · intro taken
    obtain ⟨one, others, passed, ended, sum⟩ := Measure.inSequence_cons_eq_some_iff.mp taken
    obtain ⟨token, rest, same, accepted, first⟩ := Measure.single_eq_some_iff.mp passed
    subst same first
    obtain ⟨empty, zero⟩ := Measure.inSequence_atEnd_eq_some_iff.mp ended
    rw [List.drop_succ_cons, List.drop_zero] at empty
    exact ⟨token, by rw [empty], accepted, by rw [sum, zero]⟩
  · rintro ⟨token, same, accepted, total⟩
    subst same total
    simp [Measure.inSequence, Measure.single, Measure.atEnd, accepted]

theorem inSequence_recognizing (kind : FormKind) :
    Measure.inSequence (recognizing functions kind ++ [.atEnd]) = kind.recognition functions := by
  funext form
  apply Option.ext
  intro total
  rw [FormKind.recognition_eq_some_iff]
  cases kind with
  | quantified quantifier => exact inSequence_quantified_iff
  | negated => exact inSequence_negated_iff
  | _ =>
      refine inSequence_single_iff.trans ?_
      constructor
      · rintro ⟨token, same, accepted, total⟩
        subst same total
        exact ⟨.atom accepted, rfl⟩
      · rintro ⟨shape, total⟩
        cases shape with
        | atom accepted => exact ⟨_, rfl, accepted, total⟩

theorem atomMeasure_cons_of_named {token : Token} (named : token.isNamed Form.negation = true)
    (rest : List Token) : atomMeasure (token :: rest) = (atomMeasure rest).map (1 + ·) := by
  unfold atomMeasure
  cases rest with
  | nil => simp [atomLength, named, Except.toOption]
  | cons next rest =>
      rw [atomLength_cons_of_named named (List.cons_ne_nil _ _)]
      cases atomLength (next :: rest) with
      | error problem => rfl
      | ok length => exact congrArg some (Nat.add_comm _ _)

theorem atomMeasure_cons_of_not_named {token : Token}
    (other : token.isNamed Form.negation = false) (rest : List Token) :
    atomMeasure (token :: rest) = if token.isReserved then none else some 1 := by
  unfold atomMeasure atomLength
  cases token.isReserved <;> simp [other, Except.toOption]

theorem firstOf_accepts : Measure.firstOf
    ([.predicate, .group, .reference, .text, .literal].map (fun kind =>
        .single (FormKind.accepts functions kind)) ++
      [.inSequence [.single (Token.isNamed Form.negation), atomMeasure]]) = atomMeasure := by
  funext tokens
  rw [Measure.firstOf_append, Measure.firstOf_map_single]
  simp only [FormKind.any_accepts]
  cases tokens with
  | nil => rfl
  | cons token rest =>
      cases named : token.isNamed Form.negation with
      | true =>
          have reserved := Token.isReserved_of_isNamed named (by decide)
          rw [atomMeasure_cons_of_named named]
          cases found : atomMeasure rest <;>
            simp [Measure.single, Measure.firstOf, Measure.inSequence, reserved, named, found]
      | false =>
          rw [atomMeasure_cons_of_not_named named]
          cases reserved : token.isReserved <;>
            simp [Measure.single, Measure.firstOf, Measure.inSequence, reserved, named]

theorem firstOf_atomMeasure : Measure.firstOf
    [.inSequence [atomMeasure, .single fun token => (Quantifier.ofToken? token).isSome],
      atomMeasure] = formMeasure := by
  funext tokens
  simp only [Measure.firstOf, Measure.inSequence, Option.or_none]
  unfold formMeasure formLength
  cases found : atomLength tokens with
  | error problem => simp [atomMeasure, found, Except.map, Except.toOption]
  | ok length =>
      simp only [atomMeasure, found, Except.map, Except.toOption, Option.bind_some]
      rw [← List.head?_drop]
      cases tokens.drop length with
      | nil => rfl
      | cons token rest =>
          cases marked : Quantifier.ofToken? token <;> simp [Measure.single, marked]

end Body

end TokenGrammar
