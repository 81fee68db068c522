import TokenGrammar.Proofs.Matcher.Regrouping
import TokenGrammar.Registry.Evaluation
/-!
Texts and their characters. A text looks at the front of the input in one go, and this is what the literals
of its characters do one behind the other. So two texts in a row are the text that joins them, and on the
characters of another text only a prefix of it is found.
-/

namespace TokenGrammar

/-- The characters of a text as literals, one behind the other. -/
def Matcher.spelled (content : String) : Matcher :=
  sequenceOf (content.toList.map fun character => (.literal (.character character), none))

namespace Step

section Spelling

variable {input : List Token} {bindings : Bindings}

theorem equals_character_iff {token : Token} {character : Char} :
    token.equals (.character character) = true ↔ token = .character character := by
  cases token <;> simp [Token.equals]

theorem startsWith_cons (character : Char) (rest : List Char) (token : Token) (tokens : List Token) :
    startsWith (character :: rest) (token :: tokens) =
      (token.equals (.character character) && startsWith rest tokens) := by
  cases token <;> simp [startsWith, Token.equals]

theorem startsWith_iff {characters : List Char} :
    startsWith characters input = true ↔ characters.map Token.character <+: input := by
  induction characters generalizing input with
  | nil => simp [startsWith]
  | cons character rest ih =>
      cases input with
      | nil => simp [startsWith]
      | cons token tokens =>
          rw [startsWith_cons, Bool.and_eq_true, equals_character_iff, ih, List.map_cons,
            List.cons_prefix_cons, eq_comm]

theorem startsWith_characters_iff {characters : List Char} {other : String} :
    startsWith characters (Token.characters other) = true ↔ characters <+: other.toList := by
  rw [startsWith_iff, Token.characters]
  exact List.prefix_map_iff_of_injective fun _ _ same => Token.character.inj same

def character (expected : Char) : Step := one (·.equals (.character expected))

def spelled (characters : List Char) : Step :=
  sequence (characters.map fun expected => (character expected, none))

theorem character_cons (expected : Char) (token : Token) (tokens : List Token) :
    character expected (token :: tokens) bindings =
      if token.equals (.character expected) then
        .succeeded (.front (token :: tokens) 1 bindings)
      else .failed := rfl

theorem sequenceFrom_characters (characters : List Char) (position : Nat) :
    sequenceFrom input (characters.map fun expected => (character expected, none)) position bindings =
      if startsWith characters (input.drop position) then
        .succeeded (.front input (position + characters.length) bindings)
      else .failed := by
  induction characters generalizing position with
  | nil => rfl
  | cons expected rest ih =>
      rw [List.map_cons, sequenceFrom_cons]
      cases left : input.drop position with
      | nil => rfl
      | cons token tokens =>
          have further : input.drop (position + 1) = tokens := by
            rw [← List.drop_drop, left]
            rfl
          rw [character_cons, startsWith_cons]
          cases token.equals (.character expected) with
          | false => rfl
          | true =>
              have taken : min 1 (token :: tokens).length = 1 := Nat.min_eq_left (by simp)
              have length : position + 1 + rest.length = position + (rest.length + 1) := by omega
              change sequenceFrom input _ (position + min 1 (token :: tokens).length) bindings = _
              rw [taken, ih, further, length]
              rfl

theorem spelled_eq_text (characters : List Char) : spelled characters = text characters := by
  funext input bindings
  rw [spelled, sequence, sequenceFrom_characters, Nat.zero_add]
  rfl

theorem text_single (expected : Char) : text [expected] = character expected := by
  funext input bindings
  cases input with
  | nil => rfl
  | cons token tokens =>
      rw [text, startsWith_cons, character_cons, startsWith, Bool.and_true]
      rfl

theorem sequence_texts (front back : List Char) :
    sequence [(text front, none), (text back, none)] = text (front ++ back) := by
  rw [← spelled_eq_text, ← spelled_eq_text, ← spelled_eq_text]
  have first := sequence_group [] (front.map fun expected => (character expected, none))
    [(spelled back, none)]
  have second := sequence_group (front.map fun expected => (character expected, none))
    (back.map fun expected => (character expected, none)) []
  rw [List.nil_append] at first
  refine first.trans (second.trans ?_)
  rw [List.append_nil, ← List.map_append]
  rfl

end Spelling

end Step

namespace Registry

variable (registry : Registry)

theorem two_le_levels (matcher : Matcher) (input : List Token) :
    2 ≤ registry.levels matcher input := by
  have positive : 0 < ((registry.reads matcher).length + 1) * (registry.rules.size + 2) *
      (max registry.depth matcher.depth + 3) :=
    Nat.mul_pos (Nat.mul_pos (Nat.succ_pos _) (Nat.succ_pos _)) (Nat.succ_pos _)
  rw [levels, Nat.mul_assoc]
  exact Nat.le_trans (Nat.le_add_left 2 _) (Nat.le_mul_of_pos_right _ positive)

theorem matchFront_eq_of_run {matcher : Matcher} {step : Step}
    (same : ∀ level, registry.run (level + 2) matcher = step) : registry.matchFront matcher = step := by
  funext input bindings
  obtain ⟨level, enough⟩ := Nat.exists_eq_add_of_le' (two_le_levels registry matcher input)
  rw [matchFront, enough, same]

theorem matchFront_text (content : String) :
    registry.matchFront (.text content) = .text content.toList :=
  matchFront_eq_of_run registry fun _ => rfl

theorem matchFront_spelled (content : String) :
    registry.matchFront (.spelled content) = .text content.toList := by
  refine matchFront_eq_of_run registry fun level => ?_
  rw [Matcher.spelled]
  cases content.toList with
  | nil => exact Step.spelled_eq_text []
  | cons first rest =>
      cases rest with
      | nil => exact (Step.text_single first).symm
      | cons second rest =>
          rw [← Step.spelled_eq_text, Step.spelled, List.map_cons, List.map_cons]
          simp only [Matcher.sequenceOf, run, List.map_cons, List.map_map]
          rfl

/-- A text is found where its characters are, one by one, and two texts in a row where the text is that
joins them. Among the characters of another text it is found exactly if it is a prefix of that. -/
theorem matchFront_text_eq_spelled :
    (∀ content, registry.matchFront (.text content) = registry.matchFront (.spelled content)) ∧
    (∀ front back, registry.matchFront (.text (front ++ back)) =
      registry.matchFront (.sequenceOf [(.text front, none), (.text back, none)])) ∧
    ∀ content other bindings, registry.matchFront (.text content) (Token.characters other) bindings =
      if content.toList <+: other.toList then
        .succeeded ⟨.tokens (Token.characters content), bindings, content.length⟩
      else .failed := by
  refine ⟨fun content => ?_, fun front back => ?_, fun content other bindings => ?_⟩
  · rw [matchFront_text, matchFront_spelled]
  · rw [matchFront_text, String.toList_append, ← Step.sequence_texts]
    exact (matchFront_eq_of_run registry fun _ => rfl).symm
  · rw [matchFront_text, Step.text]
    by_cases starts : content.toList <+: other.toList
    · have taken : (Token.characters other).take content.toList.length = Token.characters content := by
        rw [Token.characters, ← List.map_take, ← List.prefix_iff_eq_take.mp starts, Token.characters]
      rw [if_pos (Step.startsWith_characters_iff.mpr starts), if_pos starts, Success.front, taken,
        String.length_toList]
    · rw [if_neg (mt Step.startsWith_characters_iff.mp starts), if_neg starts]

example (registry : Registry) :
    registry.matchFront (.text "aé") (Token.characters "aéz") ∅ =
      .succeeded ⟨.tokens [.character 'a', .character 'é'], ∅, 2⟩ ∧
    registry.matchFront (.text "aé") [.text "aé"] ∅ = .failed := by
  rw [matchFront_text]
  exact ⟨rfl, rfl⟩

end Registry

end TokenGrammar
