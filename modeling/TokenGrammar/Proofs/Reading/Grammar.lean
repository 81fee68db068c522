import TokenGrammar.Reading
/-!
The grammar of forms. A form is an atom, the forms between two brackets that fit, or a quote and the form
behind it. Main statement: the tokens that are read from lexemes are those that can be derived from the
lexemes in front of the first end, and no lexemes have two derivations with different tokens.
-/

namespace TokenGrammar

namespace Reading

section Derivations

inductive AtomOf : Lexeme → Token → Prop
  | yes : AtomOf (.symbol "true") (.boolean true)
  | no : AtomOf (.symbol "false") (.boolean false)
  | symbol {name : String} (notTrue : name ≠ "true") (notFalse : name ≠ "false") :
      AtomOf (.symbol name) (.symbol name)
  | text (value : String) : AtomOf (.text value) (.text value)
  | integer (value : Int64) : AtomOf (.integer value) (.integer value)
  | float (value : Binary64) : AtomOf (.float value) (.float value)
  | character (value : Char) : AtomOf (.character value) (.character value)

mutual

inductive Derives : List Lexeme → Token → Prop
  | atom {lexeme : Lexeme} {token : Token} (meaning : AtomOf lexeme token) : Derives [lexeme] token
  | group {inside : List Lexeme} {items : List Token} (bracket : Bracket)
      (forms : DerivesAll inside items) :
      Derives (.opening bracket :: (inside ++ [.closing bracket])) (.group bracket items)
  | quote {lexemes : List Lexeme} {token : Token} (form : Derives lexemes token) :
      Derives (.quote :: lexemes) token.quote

inductive DerivesAll : List Lexeme → List Token → Prop
  | nil : DerivesAll [] []
  | cons {lexemes later : List Lexeme} {token : Token} {tokens : List Token}
      (form : Derives lexemes token) (forms : DerivesAll later tokens) :
      DerivesAll (lexemes ++ later) (token :: tokens)

end

theorem DerivesAll.append {lexemes later : List Lexeme} {tokens others : List Token}
    (first : DerivesAll lexemes tokens) (second : DerivesAll later others) :
    DerivesAll (lexemes ++ later) (tokens ++ others) := by
  cases first with
  | nil => exact second
  | cons form forms =>
      rw [List.append_assoc]
      exact .cons form (forms.append second)

theorem Derives.alone {lexemes : List Lexeme} {token : Token} (form : Derives lexemes token) :
    DerivesAll lexemes [token] := by
  have alone := DerivesAll.cons form .nil
  rwa [List.append_nil] at alone

theorem Derives.eq_symbol {lexemes : List Lexeme} {name : String}
    (form : Derives lexemes (.symbol name)) :
    lexemes = [.symbol name] := by
  generalize same : Token.symbol name = token at form
  cases form with
  | atom meaning =>
      subst same
      cases meaning
      rfl
  | group => cases same
  | quote => cases same

theorem DerivesAll.eq_symbol_cons {lexemes : List Lexeme} {name : String} {tokens : List Token}
    (forms : DerivesAll lexemes (.symbol name :: tokens)) :
    ∃ later, lexemes = .symbol name :: later ∧ DerivesAll later tokens := by
  cases forms with
  | cons form forms => exact ⟨_, by rw [form.eq_symbol]; rfl, forms⟩

theorem DerivesAll.exists_group {bracket : Bracket} {lexemes : List Lexeme} {tokens : List Token}
    (forms : DerivesAll (.opening bracket :: lexemes) tokens) :
    ∃ items others inside later, tokens = .group bracket items :: others ∧
      lexemes = inside ++ later ∧ DerivesAll inside items := by
  generalize whole : Lexeme.opening bracket :: lexemes = front at forms
  cases forms with
  | nil => cases whole
  | cons form forms =>
      cases form with
      | atom meaning =>
          cases whole
          cases meaning
      | group found inner =>
          rw [List.cons_append, List.append_assoc] at whole
          cases whole
          exact ⟨_, _, _, _, rfl, rfl, inner⟩
      | quote => cases whole

theorem atomOf_symbolToken (name : String) : AtomOf (.symbol name) (symbolToken name) := by
  unfold symbolToken
  split
  next same => exact same ▸ .yes
  split
  next same => exact same ▸ .no
  next notTrue notFalse => exact .symbol notTrue notFalse

theorem atomOf_iff {lexeme : Lexeme} {token : Token} :
    AtomOf lexeme token ↔ ∀ frames, accept frames lexeme = place token frames := by
  constructor
  · intro meaning frames
    cases meaning with
    | symbol notTrue notFalse => simp [accept, symbolToken, notTrue, notFalse]
    | _ => rfl
  · intro placed
    have alone : accept [] lexeme = .complete token := placed []
    cases lexeme with
    | symbol name =>
        cases alone
        exact atomOf_symbolToken name
    | text value => cases alone; exact .text value
    | integer value => cases alone; exact .integer value
    | float value => cases alone; exact .float value
    | character value => cases alone; exact .character value
    | _ => cases alone

end Derivations

section Placing

variable {frames : List Frame} {lexemes : List Lexeme} {tokens : List Token}

def proceed : Progress → List PlacedLexeme → Except ReadError (List Token) × List PlacedLexeme
  | .open inner, rest => formsFrom inner rest
  | .complete token, rest => ((formsFrom [] rest).1.map (token :: ·), (formsFrom [] rest).2)
  | .refused fault, rest => (.error ⟨fault, .start⟩, rest)

theorem place_ne_refused (token : Token) (frames : List Frame) (fault : ReadFault) :
    place token frames ≠ .refused fault := by
  induction frames generalizing token with
  | nil => simp [place]
  | cons frame outer ih =>
      cases frame with
      | quote => exact ih token.quote
      | group bracket items => simp [place]

theorem formsFrom_cons {frames : List Frame} {placed : PlacedLexeme} {rest : List PlacedLexeme}
    (more : placed.lexeme ≠ .endOfText)
    (fits : ∀ fault, accept frames placed.lexeme ≠ .refused fault) :
    formsFrom frames (placed :: rest) = proceed (accept frames placed.lexeme) rest := by
  rw [formsFrom]
  simp only [more, decide_false, Bool.and_false, Bool.false_eq_true, if_false]
  cases found : accept frames placed.lexeme with
  | refused fault => exact absurd found (fits fault)
  | _ => rfl

/-- After a step, the lexemes that follow, wherever they are placed, are read as these tokens. -/
def ProceedsAs (progress : Progress) (lexemes : List Lexeme) (tokens : List Token) : Prop :=
  ∀ placed : List PlacedLexeme, placed.map (·.lexeme) = lexemes →
    (proceed progress placed).1 = .ok tokens

def FormsAs (frames : List Frame) (lexemes : List Lexeme) (tokens : List Token) : Prop :=
  ∀ placed : List PlacedLexeme, placed.map (·.lexeme) = lexemes →
    (formsFrom frames placed).1 = .ok tokens

theorem formsAs_cons {lexeme : Lexeme} (more : lexeme ≠ .endOfText)
    (fits : ∀ fault, accept frames lexeme ≠ .refused fault)
    (later : ProceedsAs (accept frames lexeme) lexemes tokens) :
    FormsAs frames (lexeme :: lexemes) tokens := by
  intro placed shape
  obtain ⟨first, rest, same, own, listed⟩ := List.map_eq_cons_iff.mp shape
  subst same own
  rw [formsFrom_cons more fits]
  exact later rest listed

theorem formsAs_of_place {lexeme : Lexeme} {token : Token}
    (placed : accept frames lexeme = place token frames)
    (later : ProceedsAs (place token frames) lexemes tokens) :
    FormsAs frames (lexeme :: lexemes) tokens := by
  have fits : ∀ fault, accept frames lexeme ≠ .refused fault := by
    intro fault
    rw [placed]
    exact place_ne_refused token frames fault
  refine formsAs_cons ?_ fits (placed ▸ later)
  intro ended
  subst ended
  exact fits (endFault frames) rfl

theorem FormsAs.proceedsAs (later : FormsAs [] lexemes tokens) (token : Token) :
    ProceedsAs (.complete token) lexemes (token :: tokens) := by
  intro placed shape
  rw [proceed, later placed shape]
  rfl

mutual

theorem Derives.formsAs {frames : List Frame} {lexemes behind : List Lexeme} {token : Token}
    {tokens : List Token} (form : Derives lexemes token)
    (later : ProceedsAs (place token frames) behind tokens) :
    FormsAs frames (lexemes ++ behind) tokens := by
  cases form with
  | atom meaning => exact formsAs_of_place (atomOf_iff.mp meaning frames) later
  | @group inside items bracket forms =>
      have closed : accept (.group bracket (items.reverse ++ []) :: frames) (.closing bracket) =
          place (.group bracket items) frames := by
        simp [accept, close]
      rw [List.cons_append, List.append_assoc]
      refine formsAs_cons (by simp) (by simp [accept]) (forms.formsAs_group ?_)
      refine formsAs_cons (by simp) ?_ (closed ▸ later)
      rw [closed]
      exact place_ne_refused _ _
  | quote form => exact formsAs_cons (by simp) (by simp [accept]) (form.formsAs later)

theorem DerivesAll.formsAs_group {lexemes behind : List Lexeme} {items before tokens : List Token}
    {bracket : Bracket} {outer : List Frame} (forms : DerivesAll lexemes items)
    (later : FormsAs (.group bracket (items.reverse ++ before) :: outer) behind tokens) :
    FormsAs (.group bracket before :: outer) (lexemes ++ behind) tokens := by
  cases forms with
  | nil => exact later
  | @cons _ _ first rest form forms =>
      rw [List.reverse_cons, List.append_assoc] at later
      rw [List.append_assoc]
      exact form.formsAs (forms.formsAs_group later)

end

theorem DerivesAll.formsAs {lexemes behind : List Lexeme} {tokens others : List Token}
    (forms : DerivesAll lexemes tokens) (later : FormsAs [] behind others) :
    FormsAs [] (lexemes ++ behind) (tokens ++ others) := by
  cases forms with
  | nil => exact later
  | cons form forms =>
      rw [List.append_assoc]
      exact form.formsAs ((forms.formsAs later).proceedsAs _)

theorem formsAs_ended (ended : ∀ lexeme, lexemes.head? = some lexeme → lexeme = .endOfText) :
    FormsAs [] lexemes [] := by
  intro placed shape
  subst shape
  cases placed with
  | nil => rfl
  | cons first rest =>
      rw [formsFrom]
      simp [ended first.lexeme rfl]

end Placing

section Covering

variable {frames : List Frame} {before lexemes : List Lexeme} {token : Token}

inductive Opened : List Frame → List Lexeme → Prop
  | nothing : Opened [] []
  | group {outer : List Frame} {before inside : List Lexeme} {items : List Token}
      (bracket : Bracket) (around : Opened outer before) (forms : DerivesAll inside items.reverse) :
      Opened (.group bracket items :: outer) (before ++ .opening bracket :: inside)
  | quote {outer : List Frame} {before : List Lexeme} (around : Opened outer before) :
      Opened (.quote :: outer) (before ++ [.quote])

def Progress.Covers (lexemes : List Lexeme) : Progress → Prop
  | .open frames => Opened frames lexemes
  | .complete token => Derives lexemes token
  | .refused _ => True

theorem Opened.covers_place (opened : Opened frames before) (form : Derives lexemes token) :
    (place token frames).Covers (before ++ lexemes) := by
  induction opened generalizing lexemes token with
  | nothing => exact form
  | group bracket around forms _ =>
      rw [List.append_assoc, List.cons_append]
      refine .group bracket around ?_
      rw [List.reverse_cons]
      exact forms.append form.alone
  | quote _ ih =>
      rw [List.append_assoc]
      exact ih form.quote

theorem Opened.covers_close (opened : Opened frames before) (bracket : Bracket) :
    (close bracket frames).Covers (before ++ [.closing bracket]) := by
  cases opened with
  | group found around forms =>
      rw [close, List.append_assoc, List.cons_append]
      split
      next same =>
          subst same
          exact around.covers_place (.group found forms)
      next => trivial
  | _ => trivial

theorem Opened.covers_accept (opened : Opened frames before) (lexeme : Lexeme) :
    (accept frames lexeme).Covers (before ++ [lexeme]) := by
  cases lexeme with
  | opening bracket => exact .group bracket opened .nil
  | closing bracket => exact opened.covers_close bracket
  | quote => exact .quote opened
  | symbol name => exact opened.covers_place (.atom (atomOf_symbolToken name))
  | text value => exact opened.covers_place (.atom (.text value))
  | integer value => exact opened.covers_place (.atom (.integer value))
  | float value => exact opened.covers_place (.atom (.float value))
  | character value => exact opened.covers_place (.atom (.character value))
  | endOfText => trivial

def beforeEnd (lexemes : List PlacedLexeme) : List Lexeme :=
  (lexemes.map (·.lexeme)).takeWhile (· ≠ .endOfText)

theorem beforeEnd_cons {placed : PlacedLexeme} (more : placed.lexeme ≠ .endOfText)
    (rest : List PlacedLexeme) : beforeEnd (placed :: rest) = placed.lexeme :: beforeEnd rest := by
  simp [beforeEnd, more]

theorem ne_endOfText_of_accept {frames : List Frame} {lexeme : Lexeme} {progress : Progress}
    (accepted : accept frames lexeme = progress) (going : ∀ fault, progress ≠ .refused fault) :
    lexeme ≠ .endOfText := by
  intro ended
  subst ended
  exact going _ accepted.symm

theorem derivesAll_of_formsFrom (opened : Opened frames before) {placed : List PlacedLexeme}
    {tokens : List Token} (read : (formsFrom frames placed).1 = .ok tokens) :
    DerivesAll (before ++ beforeEnd placed) tokens := by
  fun_induction formsFrom frames placed generalizing before tokens with
  | case1 =>
      cases read
      cases opened
      exact .nil
  | case2 | case6 => cases read
  | case3 frames placed rest ended =>
      obtain ⟨closed, last⟩ := Bool.and_eq_true_iff.mp ended
      rw [List.isEmpty_iff.mp closed] at opened
      cases read
      cases opened
      simpa [beforeEnd, of_decide_eq_true last] using DerivesAll.nil
  | case4 frames placed rest _ inner accepted ih =>
      have more := ne_endOfText_of_accept accepted (by simp)
      have next := opened.covers_accept placed.lexeme
      rw [accepted] at next
      have forms := ih next read
      rwa [List.append_assoc, List.singleton_append, ← beforeEnd_cons more] at forms
  | case5 frames placed rest _ first accepted others left found ih =>
      have more := ne_endOfText_of_accept accepted (by simp)
      have next := opened.covers_accept placed.lexeme
      rw [accepted] at next
      rw [found] at ih
      cases others with
      | error problem => cases read
      | ok others =>
          cases read
          have forms := DerivesAll.cons next (ih .nothing rfl)
          rwa [List.append_assoc, List.singleton_append, List.nil_append, ← beforeEnd_cons more]
            at forms

end Covering

theorem forms_eq_ok_iff {lexemes : List PlacedLexeme} {tokens : List Token} :
    (forms lexemes).1 = .ok tokens ↔ DerivesAll (beforeEnd lexemes) tokens := by
  constructor
  · exact derivesAll_of_formsFrom .nothing
  · intro derives
    have ended : ∀ lexeme, ((lexemes.map (·.lexeme)).dropWhile (· ≠ .endOfText)).head? =
        some lexeme → lexeme = .endOfText := by
      intro lexeme first
      have stops := List.head?_dropWhile_not (· ≠ .endOfText) (lexemes.map (·.lexeme))
      rw [first] at stops
      simpa using stops
    have read := derives.formsAs (formsAs_ended ended) lexemes List.takeWhile_append_dropWhile.symm
    rwa [List.append_nil] at read

theorem DerivesAll.unique {lexemes : List Lexeme} {tokens others : List Token}
    (first : DerivesAll lexemes tokens) (second : DerivesAll lexemes others) : tokens = others := by
  have placed : (lexemes.map fun lexeme => (⟨lexeme, .start⟩ : PlacedLexeme)).map (·.lexeme) =
      lexemes ++ [] := by simp [Function.comp_def]
  have reads := first.formsAs (formsAs_ended (by simp)) _ placed
  rw [second.formsAs (formsAs_ended (by simp)) _ placed, List.append_nil, List.append_nil] at reads
  exact (Except.ok.inj reads).symm

/-- What is read from lexemes is what can be derived from those in front of the first end, all of them
if there is none, and a derivation leaves no choice of tokens. -/
theorem forms_eq_ok_iff_derivesAll :
    (∀ (lexemes : List PlacedLexeme) (tokens : List Token), (forms lexemes).1 = .ok tokens ↔
      DerivesAll ((lexemes.map (·.lexeme)).takeWhile (· ≠ .endOfText)) tokens) ∧
    ∀ (lexemes : List Lexeme) (tokens others : List Token), DerivesAll lexemes tokens →
      DerivesAll lexemes others → tokens = others :=
  ⟨fun _ _ => forms_eq_ok_iff, fun _ _ _ => DerivesAll.unique⟩

/-- Two quotes in front of a group, and a bracket too many behind the end. -/
theorem forms_eq_ok_iff_derivesAll_quoted :
    (forms ([.quote, .quote, .opening .square, .symbol "true", .closing .square, .endOfText,
        .closing .round].map fun lexeme => ⟨lexeme, .start⟩)).1 =
      .ok [.quote (.quote (.vector [.boolean true]))] ∧
    ∀ others, DerivesAll [.quote, .quote, .opening .square, .symbol "true", .closing .square] others →
      [.quote (.quote (.vector [.boolean true]))] = others := by
  have inside : DerivesAll [.symbol "true"] [.boolean true] := .cons (.atom .yes) .nil
  have derives : DerivesAll [.quote, .quote, .opening .square, .symbol "true", .closing .square]
      [.quote (.quote (.vector [.boolean true]))] :=
    .cons (.quote (.quote (.group .square inside))) .nil
  exact ⟨(forms_eq_ok_iff_derivesAll.1 _ _).mpr derives,
    fun others => forms_eq_ok_iff_derivesAll.2 _ _ others derives⟩

end Reading

end TokenGrammar
