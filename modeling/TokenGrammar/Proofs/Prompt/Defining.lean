import TokenGrammar.Prompt.Command
import TokenGrammar.Proofs.Reading.Image
import TokenGrammar.Proofs.Session.Loading
/-!
Which lines the prompt takes for definitions. A line that reads as definitions is taken for one if nothing
but blanks stand beside the word `rule`; a comma or a comment there, which the reader skips as well, makes it
an input.
-/

namespace TokenGrammar

namespace Reading

theorem exists_separator {text : List Char} {lexemes : List Lexeme} {name : String}
    (stops : Stops text) (lexes : Lexes text (.symbol name :: lexemes)) : ∃ next rest, text = next :: rest ∧
      (Text.isBlank next = true ∨ next = ',' ∨ next = ';') ∧ Text.trimEnd rest ≠ [] := by
  obtain ⟨length, found, _⟩ := lexes.exists_cons Lexeme.noConfusion
  cases text with
  | nil => cases found
  | cons next rest =>
      have separated : Text.isBlank next = true ∨ next = ',' ∨ next = ';' := by
        by_contra plain
        simp only [not_or, Bool.not_eq_true] at plain
        rw [blankLength_cons_eq_zero plain.1 plain.2.1 plain.2.2, List.drop_zero] at found
        have special := (scan_eq_bare found rfl).1
        have delimiter := stops next rfl
        simp_all [isDelimiter]
      refine ⟨next, rest, rfl, separated, ?_⟩
      intro nothing
      rw [drop_blankLength_cons separated,
        drop_blankLength_of_all_isBlank (Text.all_isBlank_of_trimEnd nothing)] at found
      cases found

theorem exists_lexes_of_defines {source : String} {definitions : List Definition}
    (defines : Defines source definitions) {behind : List Char}
    (opens : Text.trimStart source.toList = '(' :: behind) :
    ∃ name later, Lexes behind (.symbol "rule" :: .symbol name :: later) := by
  obtain ⟨forms, reads, written⟩ := defines
  obtain ⟨lexemes, lexes, derives⟩ := read_eq_ok_iff.mp reads
  have start := drop_blankLength_of_trimStart opens (by decide) (by decide)
  generalize whole : lexemes ++ [Lexeme.endOfText] = all at lexes
  cases lexes with
  | ended blank =>
      rw [start] at blank
      cases blank
  | next found _ rest =>
      rw [start] at found rest
      have bracket : scan ('(' :: behind) = (.ok (.opening .round), 1) := rfl
      cases bracket.symm.trans found
      cases lexemes with
      | nil => cases whole
      | cons first inner =>
          cases whole
          obtain ⟨items, others, inside, later, rfl, rfl, derivesItems⟩ := derives.exists_group
          obtain ⟨definition, _, ⟨_, body, own, _⟩, _⟩ := List.forall₂_cons_left_iff.mp written
          cases own
          obtain ⟨fromName, rfl, derivesRest⟩ := derivesItems.eq_symbol_cons
          obtain ⟨fromBody, rfl, _⟩ := derivesRest.eq_symbol_cons
          exact ⟨definition.name, _, rest⟩

end Reading

namespace Command

/-- A line that opens with a bracket, the word `rule` and a character that separates it from its name. What
stands in front of the word is skipped by the reader. -/
structure Opens (line gap : List Char) (next : Char) (rest : List Char) : Prop where
  whole : line = '(' :: (gap ++ "rule".toList ++ next :: rest)
  skipped : Reading.blankLength false (gap ++ "rule".toList ++ next :: rest) = gap.length
  separated : Text.isBlank next = true ∨ next = ',' ∨ next = ';'

section Opening

variable {line gap rest : List Char} {next : Char}

theorem Opens.mark_of_trimStart (opens : Opens line gap next rest) {mark : Char} {later : List Char}
    (left : Text.trimStart gap = mark :: later) : mark = ',' ∨ mark = ';' := by
  have front : (gap ++ "rule".toList ++ next :: rest).take gap.length = gap := by
    rw [List.append_assoc, List.take_left]
  rw [← front, ← opens.skipped] at left
  exact Reading.eq_mark_of_trimStart left

theorem trimStart_word (rest : List Char) :
    Text.trimStart ("rule".toList ++ rest) = "rule".toList ++ rest := by
  have letter : Text.isBlank 'r' = false := by decide
  simp [Text.trimStart, letter]

theorem Opens.opensDefinition_iff (opens : Opens line gap next rest) :
    opensDefinition line = true ↔ ∀ character ∈ gap ++ [next], Text.isBlank character = true := by
  rw [opens.whole, opensDefinition, List.append_assoc, Text.trimStart_append]
  cases left : Text.trimStart gap with
  | nil =>
      have blank := List.dropWhile_eq_nil_iff.mp left
      have word : after? "rule" (Text.trimStart ("rule".toList ++ next :: rest)) = some (next :: rest) := by
        rw [trimStart_word]
        rfl
      have bracket : next ≠ '(' ∧ next ≠ '[' := by
        constructor <;> rintro rfl <;> exact absurd opens.separated (by decide)
      simp only [List.isEmpty_nil, if_true, word, bracket, decide_false, Bool.or_false,
        List.forall_mem_append, List.forall_mem_singleton]
      exact (and_iff_right blank).symm
  | cons mark later =>
      have marked := opens.mark_of_trimStart left
      have member : mark ∈ gap := (List.dropWhile_sublist _).subset (left ▸ List.mem_cons_self)
      have other : after? "rule" (mark :: later ++ ("rule".toList ++ next :: rest)) = none := by
        rcases marked with rfl | rfl <;> rfl
      simp only [List.isEmpty_cons, Bool.false_eq_true, if_false, other, false_iff]
      intro blank
      have own := blank mark (List.mem_append_left _ member)
      rcases marked with rfl | rfl <;> exact absurd own (by decide)

theorem exists_opens {source : String} {definitions : List Definition}
    (round : (Text.trim source.toList).head? = some '(')
    (defines : Defines source definitions) :
    ∃ gap next rest, Opens (Text.trim source.toList) gap next rest := by
  obtain ⟨behind, starts⟩ := List.head?_eq_some_iff.mp (Text.head?_of_trimEnd round)
  obtain ⟨name, later, lexes⟩ := Reading.exists_lexes_of_defines defines starts
  obtain ⟨length, found, lexesName⟩ := lexes.exists_cons Lexeme.noConfusion
  obtain ⟨after, word, stops, left⟩ := Reading.exists_append_of_scan_symbol found
  rw [left] at lexesName
  obtain ⟨next, rest, rfl, separated, more⟩ := Reading.exists_separator stops lexesName
  obtain ⟨gap, covered⟩ : ∃ gap, gap = behind.take (Reading.blankLength false behind) := ⟨_, rfl⟩
  have whole : behind = gap ++ "rule".toList ++ next :: rest := by
    rw [covered, List.append_assoc, ← word, List.take_append_drop]
  have length : Reading.blankLength false behind = gap.length := by
    have shorter := congrArg List.length word
    rw [List.length_drop, List.length_append, List.length_cons] at shorter
    rw [covered, List.length_take]
    omega
  rw [whole, List.append_assoc] at length
  have front : '(' :: (gap ++ "rule".toList ++ next :: rest) =
      ('(' :: gap ++ "rule".toList ++ [next]) ++ rest := by simp
  refine ⟨gap, next, Text.trimEnd rest, ?_, ?_, separated⟩
  · rw [Text.trim, starts, whole, front, Text.trimEnd_append more]
    simp
  · rw [List.append_assoc]
    exact Reading.blankLength_append_cons length _

end Opening

/-- What the prompt makes of a line of definitions: they are taken for definitions if the word `rule` of the
first has only blanks in front of it and one behind it; with a comma or a comment there, the line is run. -/
theorem parse_of_readDefinitions {line : String} {definitions : List Definition}
    (round : (Text.trim line.toList).head? = some '(')
    (reads : readDefinitions line = .ok definitions) :
    ∃ gap next rest, Opens (Text.trim line.toList) gap next rest ∧
      parse line = some (
        if (gap ++ [next]).all Text.isBlank then .define (String.ofList (Text.trim line.toList))
        else .run (String.ofList (Text.trim line.toList))) := by
  obtain ⟨gap, next, rest, opens⟩ := exists_opens round (readDefinitions_eq_ok_iff.mp reads)
  refine ⟨gap, next, rest, opens, ?_⟩
  have taken : opensDefinition (Text.trim line.toList) = (gap ++ [next]).all Text.isBlank := by
    rw [Bool.eq_iff_iff, opens.opensDefinition_iff, List.all_eq_true]
  have started := opens.whole
  unfold parse
  simp only [taken]
  generalize Text.trim line.toList = trimmed at started
  subst started
  cases (gap ++ [next]).all Text.isBlank <;> rfl

theorem parse_of_readDefinitions_wide :
    (Text.trim " ( \u3000rule\ta, [1]) ; one".toList).head? = some '(' ∧
      readDefinitions " ( \u3000rule\ta, [1]) ; one" = .ok [⟨"a", [.integer 1]⟩] ∧
      ∃ gap next rest, Opens (Text.trim " ( \u3000rule\ta, [1]) ; one".toList) gap next rest ∧
        parse " ( \u3000rule\ta, [1]) ; one" = some (
          if (gap ++ [next]).all Text.isBlank then .define "( \u3000rule\ta, [1]) ; one"
          else .run "( \u3000rule\ta, [1]) ; one") := by
  have round : (Text.trim " ( \u3000rule\ta, [1]) ; one".toList).head? = some '(' := by decide
  have reads : readDefinitions " ( \u3000rule\ta, [1]) ; one" = .ok [⟨"a", [.integer 1]⟩] := by
    with_unfolding_all rfl
  exact ⟨round, reads, parse_of_readDefinitions round reads⟩

/-- The reader skips a comma behind the word, the prompt does not. -/
theorem not_parse_eq_define_of_readDefinitions :
    ¬ ∀ (line : String) (definitions : List Definition),
      (Text.trim line.toList).head? = some '(' → readDefinitions line = .ok definitions →
      parse line = some (.define (String.ofList (Text.trim line.toList))) := by
  intro always
  have reads : readDefinitions "(rule, a [1])" = .ok [⟨"a", [.integer 1]⟩] := by
    with_unfolding_all rfl
  have defined := always "(rule, a [1])" _ (by decide) reads
  exact absurd defined (by decide)

end Command

end TokenGrammar
