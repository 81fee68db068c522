import TokenGrammar.Proofs.Compilation
/-!
The shapes of forms. A plain form is a number of negations and one token that is not reserved; a form is
plain or has one quantifier more. The kind of a form is told by its shape, and cutting a sequence finds
the forms of these shapes.
-/

namespace TokenGrammar

namespace Token

theorem isNamed_iff {token : Token} {name : String} : token.isNamed name = true ↔ token = .symbol name := by
  cases token <;> simp [isNamed]

theorem isReserved_of_isNamed {token : Token} {name : String} (named : token.isNamed name = true)
    (reserved : name ∈ reserved) : token.isReserved = true := by
  rw [isNamed_iff.mp named]
  exact List.contains_iff_mem.mpr reserved

end Token

namespace Quantifier

theorem ofToken?_eq_some_iff {token : Token} {quantifier : Quantifier} :
    ofToken? token = some quantifier ↔ token = .symbol quantifier.marker := by
  constructor
  · intro found
    unfold ofToken? at found
    have named := List.find?_some found
    exact Token.isNamed_iff.mp named
  · intro same
    rw [same]
    cases quantifier <;> rfl

theorem ofToken?_eq_none {token : Token} (meaning : token.isReserved = false) :
    ofToken? token = none := by
  cases found : ofToken? token with
  | none => rfl
  | some quantifier =>
      rw [ofToken?_eq_some_iff.mp found] at meaning
      cases quantifier <;> cases meaning

end Quantifier

namespace Atom

variable {functions : FunctionTable} {token : Token}

theorem isSome_ofToken? : (ofToken? functions token).isSome = !token.isReserved := by
  unfold ofToken?
  split
  next call =>
      cases token <;> first | cases call | rfl
  next =>
      split
      next quoted found =>
          cases token <;> first | cases found | rfl
      next =>
          split
          · rfl
          · split
            next reserved => rw [reserved]; rfl
            next meaning => rw [Bool.eq_false_iff.mpr meaning]; rfl
          · rfl
          · cases token <;> simp_all [Token.isReserved]

theorem parts_of_ofToken? {atom : Atom} (meaning : ofToken? functions token = some atom) :
    match atom with
    | .predicate call => token = call
    | .group items => token.items? = some items
    | .reference name => token = .symbol name
    | .text content => token = .text content
    | .literal expected => token.quoted?.getD token = expected := by
  unfold ofToken? at meaning
  split at meaning
  · cases meaning
    rfl
  · split at meaning
    next quoted found =>
        cases meaning
        rw [found]
        rfl
    next plain =>
        split at meaning
        · cases meaning
          rfl
        · split at meaning
          · cases meaning
          · cases meaning
            rfl
        · cases meaning
          rfl
        · cases meaning
          rw [plain]
          rfl

end Atom

namespace Form

variable {functions : FunctionTable}

theorem plainOf?_cons_of_named {token : Token} (named : token.isNamed negation = true)
    (rest : List Token) : plainOf? functions (token :: rest) =
      (plainOf? functions rest).map fun (count, atom) => (count + 1, atom) := by
  cases rest with
  | nil =>
      have none : Atom.ofToken? functions token = none := by
        rw [← Option.not_isSome_iff_eq_none, Atom.isSome_ofToken?,
          Token.isReserved_of_isNamed named (by decide)]
        decide
      simp [plainOf?, none]
  | cons next rest => simp [plainOf?, named]

theorem plainOf?_eq_some_iff {tokens : List Token} {count : Nat} {atom : Atom} :
    plainOf? functions tokens = some (count, atom) ↔
      ∃ token, tokens = List.replicate count (.symbol negation) ++ [token] ∧
        Atom.ofToken? functions token = some atom := by
  constructor
  · intro found
    induction tokens generalizing count with
    | nil => cases found
    | cons token rest ih =>
        by_cases named : token.isNamed negation = true
        · rw [plainOf?_cons_of_named named] at found
          obtain ⟨⟨fewer, other⟩, inner, same⟩ := Option.map_eq_some_iff.mp found
          cases same
          obtain ⟨last, shape, meaning⟩ := ih inner
          refine ⟨last, ?_, meaning⟩
          rw [shape, Token.isNamed_iff.mp named]
          rfl
        · cases rest with
          | nil =>
              obtain ⟨other, meaning, same⟩ := Option.map_eq_some_iff.mp found
              cases same
              exact ⟨token, rfl, meaning⟩
          | cons next rest => simp [plainOf?, named] at found
  · rintro ⟨token, shape, meaning⟩
    subst shape
    induction count with
    | zero => simp [plainOf?, meaning]
    | succ count ih =>
        rw [List.replicate_succ, List.cons_append,
          plainOf?_cons_of_named (Token.isNamed_iff.mpr rfl), ih]
        rfl

theorem isReserved_of_ofToken? {token : Token} {atom : Atom}
    (meaning : Atom.ofToken? functions token = some atom) : token.isReserved = false := by
  have known : (Atom.ofToken? functions token).isSome = true := Option.isSome_of_eq_some meaning
  rw [Atom.isSome_ofToken?] at known
  exact Bool.not_eq_eq_eq_not.mp known

theorem ofTokens?_of_plainOf? {tokens : List Token} {count : Nat} {atom : Atom}
    (plain : plainOf? functions tokens = some (count, atom)) :
    ofTokens? functions tokens = some ⟨count, atom, none⟩ := by
  obtain ⟨token, shape, meaning⟩ := plainOf?_eq_some_iff.mp plain
  have last : tokens.getLast?.bind Quantifier.ofToken? = none := by
    rw [shape, List.getLast?_concat]
    exact Quantifier.ofToken?_eq_none (isReserved_of_ofToken? meaning)
  rw [ofTokens?, last, plain]
  rfl

theorem ofTokens?_concat_marker (tokens : List Token) (quantifier : Quantifier) :
    ofTokens? functions (tokens ++ [.symbol quantifier.marker]) =
      (plainOf? functions tokens).map fun (count, atom) => ⟨count, atom, some quantifier⟩ := by
  have last : (tokens ++ [Token.symbol quantifier.marker]).getLast?.bind Quantifier.ofToken? =
      some quantifier := by
    rw [List.getLast?_concat]
    exact Quantifier.ofToken?_eq_some_iff.mpr rfl
  rw [ofTokens?, last, List.dropLast_concat]

theorem ofTokens?_eq_some_iff {tokens : List Token} {form : Form} :
    ofTokens? functions tokens = some form ↔
      ∃ front, plainOf? functions front = some (form.negations, form.atom) ∧
        match form.quantifier with
        | some quantifier => tokens = front ++ [.symbol quantifier.marker]
        | none => tokens = front := by
  obtain ⟨negations, atom, quantifier⟩ := form
  constructor
  · intro found
    unfold ofTokens? at found
    split at found
    next quantifier last =>
        obtain ⟨⟨count, atom⟩, plain, same⟩ := Option.map_eq_some_iff.mp found
        cases same
        obtain ⟨token, behind, marker⟩ := Option.bind_eq_some_iff.mp last
        obtain ⟨front, shape⟩ := List.getLast?_eq_some_iff.mp behind
        rw [shape, List.dropLast_concat] at plain
        rw [Quantifier.ofToken?_eq_some_iff.mp marker] at shape
        exact ⟨front, plain, shape⟩
    next =>
        obtain ⟨⟨count, atom⟩, plain, same⟩ := Option.map_eq_some_iff.mp found
        cases same
        exact ⟨tokens, plain, rfl⟩
  · rintro ⟨front, plain, shape⟩
    cases quantifier with
    | none => exact shape ▸ ofTokens?_of_plainOf? plain
    | some quantifier =>
        dsimp only at shape plain
        rw [shape, ofTokens?_concat_marker, plain]
        rfl

end Form

namespace FormKind

variable {functions : FunctionTable}

def accepts (functions : FunctionTable) (kind : FormKind) (token : Token) : Bool :=
  (Atom.ofToken? functions token).map Atom.kind == some kind

theorem accepts_iff {kind : FormKind} {token : Token} :
    accepts functions kind token = true ↔
      ∃ atom, Atom.ofToken? functions token = some atom ∧ atom.kind = kind := by
  rw [accepts, beq_iff_eq, Option.map_eq_some_iff]

inductive Shape (functions : FunctionTable) : FormKind → List Token → Prop
  | quantified (quantifier : Quantifier) {front : List Token} {count : Nat} {atom : Atom}
      (plain : Form.plainOf? functions front = some (count, atom)) :
      Shape functions (.quantified quantifier) (front ++ [.symbol quantifier.marker])
  | negated {rest : List Token} {count : Nat} {atom : Atom}
      (plain : Form.plainOf? functions rest = some (count, atom)) :
      Shape functions .negated (.symbol Form.negation :: rest)
  | atom {kind : FormKind} {token : Token} (accepted : accepts functions kind token = true) :
      Shape functions kind [token]

theorem classify_eq_some_iff {tokens : List Token} {kind : FormKind} :
    classify functions tokens = some kind ↔ Shape functions kind tokens := by
  unfold classify
  rw [Option.map_eq_some_iff]
  constructor
  · rintro ⟨⟨count, atom, quantifier⟩, found, same⟩
    obtain ⟨front, plain, shape⟩ := Form.ofTokens?_eq_some_iff.mp found
    dsimp only at plain shape
    subst same
    cases quantifier with
    | some quantifier =>
        dsimp only at shape
        rw [shape]
        exact .quantified quantifier plain
    | none =>
        dsimp only at shape
        subst shape
        obtain ⟨token, shape, meaning⟩ := Form.plainOf?_eq_some_iff.mp plain
        subst shape
        cases count with
        | zero => exact .atom (accepts_iff.mpr ⟨atom, meaning, rfl⟩)
        | succ count =>
            rw [List.replicate_succ, List.cons_append]
            exact .negated (Form.plainOf?_eq_some_iff.mpr ⟨token, rfl, meaning⟩)
  · intro shape
    cases shape with
    | quantified quantifier plain =>
        refine ⟨_, by rw [Form.ofTokens?_concat_marker, plain]; rfl, rfl⟩
    | @negated rest count atom plain =>
        have longer : Form.plainOf? functions (.symbol Form.negation :: rest) =
            some (count + 1, atom) := by
          rw [Form.plainOf?_cons_of_named (Token.isNamed_iff.mpr rfl), plain]
          rfl
        exact ⟨_, Form.ofTokens?_of_plainOf? longer, rfl⟩
    | @atom _ token accepted =>
        obtain ⟨atom, meaning, same⟩ := accepts_iff.mp accepted
        subst same
        have plain : Form.plainOf? functions [token] = some (0, atom) :=
          Form.plainOf?_eq_some_iff.mpr ⟨token, rfl, meaning⟩
        exact ⟨_, Form.ofTokens?_of_plainOf? plain, rfl⟩

end FormKind

section Compiling

variable {functions : FunctionTable} {tokens : List Token} {count : Nat} {atom : Atom}

theorem compileForm_of_plainOf? (plain : Form.plainOf? functions tokens = some (count, atom)) :
    compileForm functions tokens =
      (Compilation.atomMatcher (compileBody functions) atom).map (Compilation.negated count) := by
  unfold compileForm Compilation.formMatcher
  rw [Form.ofTokens?_of_plainOf? plain]
  rfl

theorem compileForm_concat_marker (plain : Form.plainOf? functions tokens = some (count, atom))
    (quantifier : Quantifier) :
    compileForm functions (tokens ++ [.symbol quantifier.marker]) =
      (compileForm functions tokens).map (.repetition quantifier) := by
  rw [compileForm_of_plainOf? plain]
  unfold compileForm Compilation.formMatcher
  rw [Form.ofTokens?_concat_marker, plain]
  dsimp only [Option.map_some]
  cases Compilation.atomMatcher (compileBody functions) atom <;> rfl

theorem compileForm_negated (plain : Form.plainOf? functions tokens = some (count, atom)) :
    compileForm functions (.symbol Form.negation :: tokens) =
      (compileForm functions tokens).map .negation := by
  have longer : Form.plainOf? functions (.symbol Form.negation :: tokens) =
      some (count + 1, atom) := by
    rw [Form.plainOf?_cons_of_named (Token.isNamed_iff.mpr rfl), plain]
    rfl
  rw [compileForm_of_plainOf? plain, compileForm_of_plainOf? longer]
  cases Compilation.atomMatcher (compileBody functions) atom <;> rfl

theorem compileForm_singleton {token : Token} (meaning : Atom.ofToken? functions token = some atom) :
    compileForm functions [token] = Compilation.atomMatcher (compileBody functions) atom := by
  have plain : Form.plainOf? functions [token] = some (0, atom) :=
    Form.plainOf?_eq_some_iff.mpr ⟨token, rfl, meaning⟩
  rw [compileForm_of_plainOf? plain]
  cases Compilation.atomMatcher (compileBody functions) atom <;> rfl

end Compiling

namespace Body

variable {functions : FunctionTable}

theorem atomLength_cons_of_named {token : Token} (named : token.isNamed Form.negation = true)
    {rest : List Token} (more : rest ≠ []) :
    atomLength (token :: rest) = (atomLength rest).map (· + 1) := by
  cases rest with
  | nil => exact absurd rfl more
  | cons next rest => simp [atomLength, named]

theorem atomLength_eq_ok_iff {tokens : List Token} {length : Nat} :
    atomLength tokens = .ok length ↔ ∃ front rest, tokens = front ++ rest ∧
      front.length = length ∧ (Form.plainOf? functions front).isSome = true := by
  constructor
  · intro found
    induction tokens generalizing length with
    | nil => cases found
    | cons token rest ih =>
        by_cases named : token.isNamed Form.negation = true
        · cases rest with
          | nil => simp [atomLength, named] at found
          | cons next rest =>
              rw [atomLength_cons_of_named named (List.cons_ne_nil _ _)] at found
              obtain ⟨shorter, inner, same⟩ := Result.map_eq_ok_iff.mp found
              obtain ⟨front, behind, shape, size, plain⟩ := ih inner
              refine ⟨token :: front, behind, by rw [shape]; rfl, ?_, ?_⟩
              · rw [List.length_cons, size, same]
              · rw [Form.plainOf?_cons_of_named named, Option.isSome_map]
                exact plain
        · unfold atomLength at found
          rw [if_neg named] at found
          split at found
          · cases found
          next meaning =>
              refine ⟨[token], rest, rfl, Except.ok.inj found, ?_⟩
              rw [Form.plainOf?, Option.isSome_map, Atom.isSome_ofToken?]
              simpa using meaning
  · rintro ⟨front, rest, shape, size, plain⟩
    obtain ⟨⟨count, atom⟩, found⟩ := Option.isSome_iff_exists.mp plain
    obtain ⟨token, same, meaning⟩ := Form.plainOf?_eq_some_iff.mp found
    subst shape same size
    clear plain found
    induction count with
    | zero =>
        have free := Form.isReserved_of_ofToken? meaning
        have unnamed : token.isNamed Form.negation = false := by
          by_contra named
          rw [Token.isReserved_of_isNamed (Bool.not_eq_false _ ▸ named) (by decide)] at free
          cases free
        simp [atomLength, unnamed, free]
    | succ count ih =>
        rw [List.replicate_succ, List.cons_append, List.cons_append,
          atomLength_cons_of_named (Token.isNamed_iff.mpr rfl) (by simp), ih]
        rfl

end Body

end TokenGrammar
