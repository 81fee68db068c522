import TokenGrammar.Proofs.Form.Cutting
/-!
Well-formed bodies of rules, described by how they are put together. Main statement: a body compiles
exactly if it is well formed, and else the error is about a marker out of place or a missing name.
-/

namespace TokenGrammar

/-- The items of a token that groups them to a body: a vector, or a list that is no call of a known
function and quotes nothing. -/
def Token.body? (functions : FunctionTable) : Token → Option (List Token)
  | .vector items => some items
  | .list items =>
      if functions.isCall (.list items) || (Token.list items).quoted?.isSome then none else some items
  | _ => none

theorem Token.exists_of_body? {functions : FunctionTable} {token : Token} {items : List Token}
    (grouped : token.body? functions = some items) : ∃ bracket, token = .group bracket items := by
  unfold Token.body? at grouped
  split at grouped
  next inner =>
      cases grouped
      exact ⟨_, rfl⟩
  next inner =>
      split at grouped
      next => cases grouped
      next =>
          cases grouped
          exact ⟨_, rfl⟩
  next => cases grouped

namespace Atom

theorem ofToken?_eq_group_iff {functions : FunctionTable} {token : Token} {items : List Token} :
    ofToken? functions token = some (.group items) ↔ token.body? functions = some items := by
  cases token with
  | group bracket inner =>
      cases bracket with
      | square => simp [ofToken?, Token.body?, FunctionTable.isCall, Token.quoted?]
      | round =>
          cases call : functions.isCall (.list inner) <;>
            cases quoted : (Token.list inner).quoted? <;> simp [ofToken?, Token.body?, call, quoted]
  | _ => simp [ofToken?, Token.body?, FunctionTable.isCall, Token.quoted?]

end Atom

namespace Body

/-- An element in parts: negations, a token, perhaps a quantifier, perhaps a name to bind. -/
structure Phrase where
  negations : Nat
  token : Token
  quantifier : Option Quantifier
  name : Option String

namespace Phrase

def form (phrase : Phrase) : List Token :=
  List.replicate phrase.negations (.symbol "--") ++ [phrase.token] ++
    (phrase.quantifier.map fun quantifier => Token.symbol quantifier.marker).toList

def tokens (phrase : Phrase) : List Token :=
  phrase.form ++
    match phrase.name with
    | some name => [.symbol "=>", .symbol name]
    | none => []

def element (phrase : Phrase) : Element := ⟨phrase.form, phrase.name⟩

structure Free (phrase : Phrase) : Prop where
  token : phrase.token.isReserved = false
  name : ∀ name, phrase.name = some name → (Token.symbol name).isReserved = false

end Phrase

/-- Alternatives with choice markers between them. Each is made of phrases, and what a phrase groups is a
well-formed body again. -/
inductive WellFormed (functions : FunctionTable) : List Token → Prop
  | last {phrases : List Phrase} (free : ∀ phrase ∈ phrases, phrase.Free)
      (groups : ∀ phrase ∈ phrases, ∀ items, phrase.token.body? functions = some items →
        WellFormed functions items) :
      WellFormed functions (phrases.flatMap Phrase.tokens)
  | choice {phrases : List Phrase} {rest : List Token} (free : ∀ phrase ∈ phrases, phrase.Free)
      (groups : ∀ phrase ∈ phrases, ∀ items, phrase.token.body? functions = some items →
        WellFormed functions items)
      (others : WellFormed functions rest) :
      WellFormed functions (phrases.flatMap Phrase.tokens ++ .symbol "/" :: rest)

namespace Phrase

variable {functions : FunctionTable} {phrase : Phrase}

theorem Free.unmarked (free : phrase.Free) :
    ∀ token ∈ phrase.tokens, token.isNamed choiceMarker = false := by
  have plain : ∀ token : Token, token.isReserved = false → token.isNamed choiceMarker = false :=
    fun token unreserved => Begins.isNamed_eq_false (.inr unreserved) (by decide) (by decide)
  obtain ⟨count, token, quantifier, name⟩ := phrase
  intro other member
  rcases List.mem_append.mp member with inForm | behind
  · rcases List.mem_append.mp inForm with front | mark
    · rcases List.mem_append.mp front with negation | own
      · rw [List.eq_of_mem_replicate negation]
        rfl
      · rw [List.mem_singleton.mp own]
        exact plain token free.token
    · obtain ⟨found, _, same⟩ := Option.map_eq_some_iff.mp (Option.mem_toList.mp mark)
      subst same
      cases found <;> rfl
  · cases name with
    | none => cases behind
    | some name =>
        rcases List.mem_cons.mp behind with marker | named
        · rw [marker]
          rfl
        · rw [List.mem_singleton.mp named]
          exact plain _ (free.name name rfl)

theorem unmarked_of_free {phrases : List Phrase} (free : ∀ phrase ∈ phrases, phrase.Free) :
    ∀ token ∈ phrases.flatMap tokens, token.isNamed choiceMarker = false := by
  intro token member
  obtain ⟨phrase, inside, own⟩ := List.mem_flatMap.mp member
  exact (free phrase inside).unmarked token own

theorem token_mem_tokens (phrase : Phrase) : phrase.token ∈ phrase.tokens := by
  simp [tokens, form]

theorem Free.exists_atom (free : phrase.Free) :
    ∃ atom, Atom.ofToken? functions phrase.token = some atom := by
  rw [← Option.isSome_iff_exists, Atom.isSome_ofToken?, free.token]
  rfl

theorem ofTokens?_form {atom : Atom} (meaning : Atom.ofToken? functions phrase.token = some atom) :
    Form.ofTokens? functions phrase.form = some ⟨phrase.negations, atom, phrase.quantifier⟩ := by
  obtain ⟨count, token, quantifier, name⟩ := phrase
  have plain : Form.plainOf? functions (List.replicate count (.symbol "--") ++ [token]) =
      some (count, atom) := Form.plainOf?_eq_some_iff.mpr ⟨token, rfl, meaning⟩
  refine Form.ofTokens?_eq_some_iff.mpr ⟨_, plain, ?_⟩
  cases quantifier with
  | none => exact List.append_nil _
  | some quantifier => rfl

theorem fits_iff {element : Element} :
    element.Fits functions ↔ ∃ phrase : Phrase, phrase.Free ∧ phrase.element = element := by
  constructor
  · intro fits
    obtain ⟨⟨count, atom, quantifier⟩, found⟩ := Option.isSome_iff_exists.mp fits.form
    obtain ⟨front, plain, shape⟩ := Form.ofTokens?_eq_some_iff.mp found
    obtain ⟨token, same, meaning⟩ := Form.plainOf?_eq_some_iff.mp plain
    refine ⟨⟨count, token, quantifier, element.name⟩,
      ⟨Form.isReserved_of_ofToken? meaning, fits.free⟩, ?_⟩
    obtain ⟨form, name⟩ := element
    dsimp only at same shape
    subst same
    cases quantifier <;> subst shape <;> simp [element, form, Form.negation]
  · rintro ⟨phrase, free, rfl⟩
    obtain ⟨atom, meaning⟩ := @Free.exists_atom functions phrase free
    exact ⟨Option.isSome_of_eq_some (ofTokens?_form meaning), free.name⟩

theorem exists_of_fits {elements : List Element}
    (fits : ∀ element ∈ elements, element.Fits functions) :
    ∃ phrases : List Phrase, (∀ phrase ∈ phrases, phrase.Free) ∧
      phrases.map Phrase.element = elements := by
  induction elements with
  | nil => exact ⟨[], by simp, rfl⟩
  | cons element others ih =>
      obtain ⟨own, later⟩ := List.forall_mem_cons.mp fits
      obtain ⟨phrase, free, same⟩ := fits_iff.mp own
      obtain ⟨phrases, each, listed⟩ := ih later
      exact ⟨phrase :: phrases, List.forall_mem_cons.mpr ⟨free, each⟩, by
        rw [List.map_cons, same, listed]⟩

end Phrase

theorem elements_eq_ok_iff {functions : FunctionTable} {sequence : List Token}
    {cut : List Element} : elements sequence = .ok cut ↔ ∃ phrases : List Phrase,
      (∀ phrase ∈ phrases, phrase.Free) ∧ phrases.map Phrase.element = cut ∧
        sequence = phrases.flatMap Phrase.tokens := by
  unfold elements
  rw [@elementsFrom_eq_ok_iff functions]
  constructor
  · rintro ⟨shape, fits⟩
    obtain ⟨phrases, free, same⟩ := Phrase.exists_of_fits fits
    subst same
    rw [List.flatMap_map] at shape
    exact ⟨phrases, free, rfl, shape⟩
  · rintro ⟨phrases, free, same, shape⟩
    subst same
    rw [List.flatMap_map]
    refine ⟨shape, fun element member => ?_⟩
    obtain ⟨phrase, inside, same⟩ := List.mem_map.mp member
    exact Phrase.fits_iff.mpr ⟨phrase, free phrase inside, same⟩

def MadeOf (functions : FunctionTable) (passes : List Token → Prop) (sequence : List Token) : Prop :=
  ∃ phrases : List Phrase, sequence = phrases.flatMap Phrase.tokens ∧
    (∀ phrase ∈ phrases, phrase.Free) ∧
    ∀ phrase ∈ phrases, ∀ items, phrase.token.body? functions = some items → passes items

theorem MadeOf.imp {functions : FunctionTable} {passes others : List Token → Prop}
    {sequence : List Token} (made : MadeOf functions passes sequence)
    (implied : ∀ bracket items, Token.group bracket items ∈ sequence → passes items → others items) :
    MadeOf functions others sequence := by
  obtain ⟨phrases, shape, free, groups⟩ := made
  refine ⟨phrases, shape, free, fun phrase member items grouped => ?_⟩
  obtain ⟨bracket, same⟩ := Token.exists_of_body? grouped
  refine implied bracket items ?_ (groups phrase member items grouped)
  rw [shape, ← same]
  exact List.mem_flatMap.mpr ⟨phrase, member, phrase.token_mem_tokens⟩

theorem madeOf_congr {functions : FunctionTable} {passes others : List Token → Prop}
    {sequence : List Token}
    (same : ∀ bracket items, Token.group bracket items ∈ sequence → (passes items ↔ others items)) :
    MadeOf functions passes sequence ↔ MadeOf functions others sequence :=
  ⟨fun made => made.imp fun bracket items member => (same bracket items member).mp,
    fun made => made.imp fun bracket items member => (same bracket items member).mpr⟩

theorem madeOf_of_wellFormed {functions : FunctionTable} {body : List Token}
    (well : WellFormed functions body) :
    ∀ sequence ∈ alternatives body, MadeOf functions (WellFormed functions) sequence := by
  induction well with
  | last free groups _ =>
      rw [alternatives_of_unmarked (Phrase.unmarked_of_free free)]
      exact List.forall_mem_singleton.mpr ⟨_, rfl, free, groups⟩
  | @choice phrases rest free groups _ _ ih =>
      have cut : alternatives (phrases.flatMap Phrase.tokens ++ .symbol "/" :: rest) =
          phrases.flatMap Phrase.tokens :: alternatives rest :=
        alternatives_append_choice (Phrase.unmarked_of_free free) rest
      rw [cut]
      exact List.forall_mem_cons.mpr ⟨⟨_, rfl, free, groups⟩, ih⟩

theorem wellFormed_of_madeOf {functions : FunctionTable} {body : List Token}
    (made : ∀ sequence ∈ alternatives body, MadeOf functions (WellFormed functions) sequence) :
    WellFormed functions body := by
  rcases alternatives_cases body with alone | ⟨sequence, rest, shape, cut⟩
  · rw [alone] at made
    obtain ⟨phrases, same, free, groups⟩ := made body List.mem_cons_self
    rw [same]
    exact .last free groups
  · have shorter : rest.length < body.length := by
      rw [shape, List.length_append, List.length_cons]
      omega
    rw [cut] at made
    obtain ⟨⟨phrases, same, free, groups⟩, later⟩ := List.forall_mem_cons.mp made
    rw [shape, same]
    exact .choice free groups (wellFormed_of_madeOf later)
termination_by body.length

theorem wellFormed_iff {functions : FunctionTable} {body : List Token} :
    WellFormed functions body ↔
      ∀ sequence ∈ alternatives body, MadeOf functions (WellFormed functions) sequence :=
  ⟨madeOf_of_wellFormed, wellFormed_of_madeOf⟩

/-- What holds of a body if it holds of the items of each group in it holds of all bodies. -/
theorem induction {motive : List Token → Prop}
    (step : ∀ body, (∀ bracket items, Token.group bracket items ∈ body → motive items) → motive body)
    (body : List Token) : motive body := by
  refine step body fun bracket items member => ?_
  have shallower := Compilation.depthOfAll_lt_of_group_mem member
  exact induction step items
termination_by Token.depthOfAll body

end Body

namespace Compilation

variable {functions : FunctionTable} {compileGroup : List Token → Except GrammarError Matcher}
  {phrase : Body.Phrase} {sequence body : List Token} {problem : GrammarError}

theorem elementMatcher_element {atom : Atom}
    (meaning : Atom.ofToken? functions phrase.token = some atom) :
    elementMatcher functions compileGroup phrase.element =
      (atomMatcher compileGroup atom).map fun matcher =>
        (quantified phrase.quantifier (negated phrase.negations matcher), phrase.name) := by
  have form : Form.ofTokens? functions phrase.element.form =
      some ⟨phrase.negations, atom, phrase.quantifier⟩ := Body.Phrase.ofTokens?_form meaning
  unfold elementMatcher formMatcher
  rw [form]
  dsimp only
  cases atomMatcher compileGroup atom <;> rfl

theorem exists_elementMatcher_iff (free : phrase.Free) :
    (∃ matcher, elementMatcher functions compileGroup phrase.element = .ok matcher) ↔
      ∀ items, phrase.token.body? functions = some items →
        ∃ matcher, compileGroup items = .ok matcher := by
  obtain ⟨atom, meaning⟩ := @Body.Phrase.Free.exists_atom functions phrase free
  simp only [elementMatcher_element meaning, Result.map_eq_ok_iff, ← Atom.ofToken?_eq_group_iff, meaning]
  cases atom <;> simp [atomMatcher]

theorem exists_of_elementMatcher_eq_error (free : phrase.Free)
    (failed : elementMatcher functions compileGroup phrase.element = .error problem) :
    ∃ items, phrase.token.body? functions = some items ∧ compileGroup items = .error problem := by
  obtain ⟨atom, meaning⟩ := @Body.Phrase.Free.exists_atom functions phrase free
  rw [elementMatcher_element meaning, Result.map_eq_error_iff] at failed
  cases atom with
  | group items => exact ⟨items, Atom.ofToken?_eq_group_iff.mp meaning, failed⟩
  | _ => cases failed

theorem exists_sequenceMatcher_iff :
    (∃ matcher, sequenceMatcher functions compileGroup sequence = .ok matcher) ↔
      Body.MadeOf functions (fun items => ∃ matcher, compileGroup items = .ok matcher) sequence := by
  have parts : (∃ matcher, sequenceMatcher functions compileGroup sequence = .ok matcher) ↔
      ∃ cut, Body.elements sequence = .ok cut ∧
        ∀ element ∈ cut, ∃ matcher, elementMatcher functions compileGroup element = .ok matcher := by
    simp only [sequenceMatcher_eq_ok_iff, ← Result.exists_mapM_eq_ok_iff]
    constructor
    · rintro ⟨_, cut, elements, found, made, _⟩
      exact ⟨cut, found, elements, made⟩
    · rintro ⟨cut, found, elements, made⟩
      exact ⟨_, cut, elements, found, made, rfl⟩
  rw [parts]
  simp only [@Body.elements_eq_ok_iff functions]
  constructor
  · rintro ⟨_, ⟨phrases, free, same, shape⟩, compiled⟩
    subst same
    refine ⟨phrases, shape, free, fun phrase member => ?_⟩
    exact (exists_elementMatcher_iff (free phrase member)).mp
      (compiled _ (List.mem_map_of_mem member))
  · rintro ⟨phrases, shape, free, groups⟩
    refine ⟨_, ⟨phrases, free, rfl, shape⟩, fun element member => ?_⟩
    obtain ⟨phrase, inside, same⟩ := List.mem_map.mp member
    subst same
    exact (exists_elementMatcher_iff (free phrase inside)).mpr (groups phrase inside)

theorem cause_of_sequenceMatcher_eq_error
    (failed : sequenceMatcher functions compileGroup sequence = .error problem) :
    Body.elements sequence = .error problem ∨
      ∃ bracket items, Token.group bracket items ∈ sequence ∧ compileGroup items = .error problem := by
  unfold sequenceMatcher at failed
  cases cut : Body.elements sequence with
  | error other =>
      rw [cut] at failed
      cases failed
      exact .inl rfl
  | ok elements =>
      cases all : elements.mapM (elementMatcher functions compileGroup) with
      | ok matchers => simp [cut, all, bind, Except.bind, pure, Except.pure] at failed
      | error other =>
          simp only [cut, all, bind, Except.bind] at failed
          cases failed
          obtain ⟨phrases, free, same, shape⟩ := (@Body.elements_eq_ok_iff functions _ _).mp cut
          subst same
          obtain ⟨element, member, wrong⟩ := Result.exists_of_mapM_eq_error all
          obtain ⟨phrase, inside, same⟩ := List.mem_map.mp member
          subst same
          obtain ⟨items, grouped, fails⟩ := exists_of_elementMatcher_eq_error (free phrase inside) wrong
          obtain ⟨bracket, same⟩ := Token.exists_of_body? grouped
          refine .inr ⟨bracket, items, ?_, fails⟩
          rw [shape, ← same]
          exact List.mem_flatMap.mpr ⟨phrase, inside, phrase.token_mem_tokens⟩

end Compilation

theorem exists_compileBody_iff {functions : FunctionTable} {body : List Token} :
    (∃ matcher, compileBody functions body = .ok matcher) ↔ ∀ sequence ∈ Body.alternatives body,
      Body.MadeOf functions (fun items => ∃ matcher, compileBody functions items = .ok matcher)
        sequence := by
  rw [compileBody_eq]
  unfold Compilation.bodyMatcher
  simp only [Result.map_eq_ok_iff, ← Compilation.exists_sequenceMatcher_iff,
    ← Result.exists_mapM_eq_ok_iff]
  constructor
  · rintro ⟨_, matchers, made, _⟩
    exact ⟨matchers, made⟩
  · rintro ⟨matchers, made⟩
    exact ⟨_, matchers, made, rfl⟩

theorem exists_compileBody_iff_wellFormed {functions : FunctionTable} {body : List Token} :
    (∃ matcher, compileBody functions body = .ok matcher) ↔ Body.WellFormed functions body := by
  induction body using Body.induction with
  | step body ih =>
      rw [exists_compileBody_iff, Body.wellFormed_iff]
      refine forall₂_congr fun sequence cut => Body.madeOf_congr fun bracket items member => ?_
      exact ih bracket items (Body.mem_of_mem_alternatives cut member)

theorem marker_of_compileBody_eq_error {functions : FunctionTable} {body : List Token}
    {problem : GrammarError} (failed : compileBody functions body = .error problem) :
    (∃ shown, problem = .misplacedMarker shown) ∨ ∃ shown, problem = .missingName shown := by
  induction body using Body.induction with
  | step body ih =>
      rw [compileBody_eq] at failed
      obtain ⟨sequence, cut, fails⟩ :=
        Result.exists_of_mapM_eq_error (Result.map_eq_error_iff.mp failed)
      rcases Compilation.cause_of_sequenceMatcher_eq_error fails with marker | ⟨bracket, items, member, inner⟩
      · exact Body.elementsFrom_eq_error marker
      · exact ih bracket items (Body.mem_of_mem_alternatives cut member) inner

/-- A body compiles exactly if it is well formed. If it is not, a marker is out of place or a name is
missing behind one. -/
theorem compileBody_accepts_iff (functions : FunctionTable) (body : List Token) :
    ((∃ matcher, compileBody functions body = .ok matcher) ↔ Body.WellFormed functions body) ∧
    ∀ problem, compileBody functions body = .error problem →
      (∃ shown, problem = .misplacedMarker shown) ∨ ∃ shown, problem = .missingName shown :=
  ⟨exists_compileBody_iff_wellFormed, fun _ => marker_of_compileBody_eq_error⟩

/-- A group with an empty alternative, negated, repeated and bound; and a quantifier that is doubled. -/
theorem compileBody_accepts_iff_quantified :
    Body.WellFormed ∅ [.symbol "--", .vector [.symbol "a", .symbol "/"], .symbol "+", .symbol "=>",
      .symbol "n"] ∧
    compileBody ∅ [.symbol "a", .symbol "+", .symbol "+"] = .error (.misplacedMarker [.symbol "+"]) ∧
    ((∃ shown, GrammarError.misplacedMarker [.symbol "+"] = .misplacedMarker shown) ∨
      ∃ shown, GrammarError.misplacedMarker [.symbol "+"] = .missingName shown) := by
  have compiles : (compileBody ∅ [.symbol "--", .vector [.symbol "a", .symbol "/"], .symbol "+",
      .symbol "=>", .symbol "n"]).toOption.any (fun _ => true) = true := by decide +kernel
  have fails : compileBody ∅ [.symbol "a", .symbol "+", .symbol "+"] =
      .error (.misplacedMarker [.symbol "+"]) := by with_unfolding_all rfl
  obtain ⟨matcher, compiled, _⟩ := Result.exists_of_any compiles
  exact ⟨(compileBody_accepts_iff _ _).1.mp ⟨matcher, compiled⟩, fails,
    (compileBody_accepts_iff _ _).2 _ fails⟩

end TokenGrammar
