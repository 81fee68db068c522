import TokenGrammar.Proofs.Reading.Lines
import TokenGrammar.Proofs.Reading.Places
/-!
Calling for one lexeme after the other, also behind errors. Every call that does not end the text moves on
inside it, so that the end is found after at most as many calls as the text has characters; and whatever
calls for lexemes until the end comes to a result.
-/

namespace TokenGrammar

namespace Position

def Before (left right : Position) : Prop :=
  left.line < right.line ∨ left.line = right.line ∧ left.column < right.column

theorem before_after (position : Position) (character : Char) :
    position.Before (position.after character) := by
  unfold Before after
  split
  · exact .inl (Nat.lt_succ_self _)
  · exact .inr ⟨rfl, Nat.lt_succ_self _⟩

theorem Before.trans {first second third : Position} (left : first.Before second)
    (right : second.Before third) : first.Before third := by
  unfold Before at *
  omega

theorem before_afterAll {text : List Char} (more : text ≠ []) (position : Position) :
    position.Before (position.afterAll text) := by
  induction text generalizing position with
  | nil => exact absurd rfl more
  | cons character rest ih =>
      have step := before_after position character
      cases rest with
      | nil => exact step
      | cons next rest => exact step.trans (ih (List.cons_ne_nil _ _) _)

theorem before_inText {text : List Char} {first second : Nat} (further : first < second)
    (inside : second ≤ text.length) : (inText text first).Before (inText text second) := by
  obtain ⟨count, rfl⟩ := Nat.exists_eq_add_of_lt further
  rw [Nat.add_assoc, ← afterAll_inText]
  refine before_afterAll (fun nothing => ?_) _
  have size := congrArg List.length nothing
  rw [List.length_take, List.length_drop, List.length_nil] at size
  omega

end Position

namespace Reading

section Covering

def marks : List Char := ['(', ')', '[', ']', '\'', '"', '\\']

/-- Scanning that takes for a bare word what is in front of the first delimiter, which is nothing if that
stands first. -/
def scanToDelimiter : List Char → Except ReadFault Lexeme × Nat
  | [] => scan []
  | first :: rest =>
      if first ∈ marks then scan (first :: rest)
      else
        let word := (first :: rest).takeWhile (!isDelimiter ·)
        (atomOf word, word.length)

theorem isDelimiter_of_unmarked {first : Char} (seen : Text.isBlank first = false) (comma : first ≠ ',')
    (semicolon : first ≠ ';') (unmarked : first ∉ marks) : isDelimiter first = false := by
  rw [isDelimiter_eq_false_iff]
  simp only [marks, List.mem_cons, List.not_mem_nil, or_false, not_or] at unmarked ⊢
  simp [seen, comma, semicolon, unmarked]

/-- Behind what is skipped no bare word starts with a delimiter, and none is empty. -/
theorem scanToDelimiter_eq {text : List Char} (unblank : blankLength false text = 0) :
    scanToDelimiter text = scan text := by
  cases text with
  | nil => rfl
  | cons first rest =>
      rw [scanToDelimiter]
      by_cases marked : first ∈ marks
      · exact if_pos marked
      · have left : (first :: rest).drop (blankLength false (first :: rest)) = first :: rest := by
          rw [unblank, List.drop_zero]
        obtain ⟨seen, comma, semicolon⟩ := head_drop_blankLength left
        have plain := isDelimiter_of_unmarked seen comma semicolon marked
        rw [if_neg marked, List.takeWhile_cons_of_pos (by rw [plain]; rfl)]
        simp only [marks, List.mem_cons, List.not_mem_nil, or_false, not_or] at marked
        simp [scan, marked]

end Covering

end Reading

namespace Cursor

def after (cursor : Cursor) (calls : Nat) : Cursor := (fun cursor => cursor.next.2)^[calls] cursor

/-- How many characters a call goes over: those that are skipped, and those of the lexeme or of the
fault. -/
def covered (cursor : Cursor) : Nat :=
  Reading.blankLength false cursor.rest + (Reading.scanToDelimiter cursor.skipBlanks.rest).2

variable {cursor : Cursor} {text : List Char} {offset : Nat}

theorem after_succ (cursor : Cursor) (calls : Nat) :
    cursor.after (calls + 1) = (cursor.after calls).next.2 := Function.iterate_succ_apply' _ _ _

theorem after_add (cursor : Cursor) (first second : Nat) :
    cursor.after (first + second) = (cursor.after first).after second := by
  rw [Nat.add_comm]
  exact Function.iterate_add_apply _ _ _ _

section Ending

theorem isEnd_next_next (ended : isEnd cursor.next.1 = true) : isEnd cursor.next.2.next.1 = true := by
  rw [Reading.isEnd_next_iff] at ended ⊢
  have behind : cursor.next.2.rest = [] := by
    rw [next_snd]
    simp [advance, ended]
  simp [skipBlanks, advance, behind]

theorem isEnd_after (ended : isEnd cursor.next.1 = true) (calls : Nat) :
    isEnd (cursor.after calls).next.1 = true := by
  induction calls with
  | zero => exact ended
  | succ calls ih =>
      rw [after_succ]
      exact isEnd_next_next ih

theorem exists_isEnd_after (cursor : Cursor) :
    ∃ calls ≤ cursor.rest.length, isEnd (cursor.after calls).next.1 = true := by
  fun_induction Cursor.steps cursor with
  | case1 cursor more ih =>
      obtain ⟨calls, few, ended⟩ := ih
      exact ⟨calls + 1, Nat.lt_of_le_of_lt few (rest_next_lt more), ended⟩
  | case2 cursor ended => exact ⟨0, Nat.zero_le _, Bool.eq_true_of_not_eq_false ended⟩

end Ending

section Advancing

theorem StandsIn.advance_of_le (stands : cursor.StandsIn text offset) {count : Nat}
    (within : count ≤ cursor.rest.length) : (cursor.advance count).StandsIn text (offset + count) := by
  have moved := stands.advance count
  rw [stands.rest, List.length_drop] at within
  have inside := stands.inside
  rwa [Nat.min_eq_left (by omega)] at moved

theorem StandsIn.next (stands : cursor.StandsIn text offset) :
    cursor.next.2.StandsIn text (offset + cursor.covered) := by
  have unblank : Reading.blankLength false cursor.skipBlanks.rest = 0 :=
    Reading.blankLength_drop cursor.rest
  have skipped := stands.advance_of_le (Reading.blankLength_le false cursor.rest)
  have moved := skipped.advance_of_le (Reading.scan_length_le _)
  rw [covered, Reading.scanToDelimiter_eq unblank, next_snd, ← Nat.add_assoc]
  exact moved

theorem covered_pos (more : isEnd cursor.next.1 = false) : 0 < cursor.covered := by
  have unblank : Reading.blankLength false cursor.skipBlanks.rest = 0 :=
    Reading.blankLength_drop cursor.rest
  rw [covered, Reading.scanToDelimiter_eq unblank]
  cases left : cursor.skipBlanks.rest with
  | nil => rw [Reading.isEnd_next_iff.mpr left] at more; cases more
  | cons first rest =>
      exact Nat.lt_add_left _ (Reading.one_le_scan_length first rest)

structure Advances (cursor : Cursor) (text : List Char) (offset : Nat) : Prop where
  stands : cursor.StandsIn text offset
  moved : cursor.next.2.StandsIn text (offset + cursor.covered)
  forward : isEnd cursor.next.1 = false → 0 < cursor.covered
  ended : isEnd cursor.next.1 = true ↔ Reading.Skippable (text.drop offset)
  settled : isEnd cursor.next.1 = true → ∀ calls, isEnd (cursor.after calls).next.1 = true

theorem StandsIn.advances (stands : cursor.StandsIn text offset) : cursor.Advances text offset where
  stands := stands
  moved := stands.next
  forward := covered_pos
  ended := by
    rw [Reading.isEnd_next_iff, ← stands.rest]
    exact ⟨Reading.skippable_of_drop_blankLength, Reading.drop_blankLength_of_skippable⟩
  settled := isEnd_after

theorem StandsIn.exists_after (stands : cursor.StandsIn text offset) (calls : Nat) :
    ∃ further, offset ≤ further ∧ (cursor.after calls).StandsIn text further := by
  induction calls with
  | zero => exact ⟨offset, Nat.le_refl _, stands⟩
  | succ calls ih =>
      obtain ⟨further, beyond, reached⟩ := ih
      rw [after_succ]
      exact ⟨_, Nat.le_add_right_of_le beyond, reached.next⟩

theorem StandsIn.exists_starts (stands : cursor.StandsIn text offset) {earlier later : Nat}
    (order : earlier < later) {first second : PlacedLexeme}
    (here : (cursor.after earlier).next.1 = .ok first) (more : first.lexeme ≠ .endOfText)
    (there : (cursor.after later).next.1 = .ok second) :
    ∃ start further, start < further ∧ first.StandsAt text start ∧ second.StandsAt text further := by
  obtain ⟨_, _, reached⟩ := stands.exists_after earlier
  obtain ⟨start, _, starts, unblank⟩ := reached.exists_skipBlanks
  obtain ⟨behind, beyond, next⟩ := starts.lt_next here more
  obtain ⟨between, rfl⟩ := Nat.exists_eq_add_of_le (Nat.succ_le_of_lt order)
  rw [after_add, Nat.succ_eq_add_one, after_succ] at there
  obtain ⟨_, _, met⟩ := next.exists_after between
  obtain ⟨further, _, follows, clear⟩ := met.exists_skipBlanks
  exact ⟨start, further, by omega, starts.standsAt unblank here, follows.standsAt clear there⟩

end Advancing

section Looping

variable {σ ρ : Type}

def loop (cursor : Cursor) (body : σ → Except ReadError PlacedLexeme → σ ⊕ ρ) : Nat → σ → Option ρ
  | 0, _ => none
  | calls + 1, state =>
      match body state cursor.next.1 with
      | .inl following => loop cursor.next.2 body calls following
      | .inr result => some result

/-- A loop that stops at the end of the text needs one call more than there are characters; its result is
what each round makes of the steps that are left. -/
theorem loop_eq_some {body : σ → Except ReadError PlacedLexeme → σ ⊕ ρ}
    {value : σ → List (Except ReadError PlacedLexeme) → ρ}
    (last : ∀ state found, isEnd found = true → body state found = .inr (value state [found]))
    (round : ∀ state found rest, isEnd found = false →
      (body state found).elim (value · rest) id = value state (found :: rest))
    {calls : Nat} (enough : cursor.rest.length < calls) (state : σ) :
    cursor.loop body calls state = some (value state cursor.steps) := by
  fun_induction Cursor.steps cursor generalizing calls state with
  | case1 cursor more ih =>
      obtain ⟨fewer, rfl⟩ := Nat.exists_eq_add_of_lt enough
      have shorter := rest_next_lt more
      rw [loop, ← round state cursor.next.1 cursor.next.2.steps more]
      cases body state cursor.next.1 with
      | inl following => exact ih (by omega) following
      | inr result => rfl
  | case2 cursor ended =>
      obtain ⟨fewer, rfl⟩ := Nat.exists_eq_add_of_lt enough
      rw [loop, last state cursor.next.1 (Bool.eq_true_of_not_eq_false ended)]

def collect (lexemes : List PlacedLexeme) :
    Except ReadError PlacedLexeme → List PlacedLexeme ⊕ Except ReadError (List PlacedLexeme)
  | .error problem => .inr (.error problem)
  | .ok placed =>
      if placed.lexeme = .endOfText then .inr (.ok (lexemes ++ [placed]))
      else .inl (lexemes ++ [placed])

def weigh (depth : Int) : Except ReadError PlacedLexeme → Int ⊕ Bool
  | .error problem => .inr (problem.fault = .unclosedText || problem.fault = .endInsideEscape)
  | .ok placed =>
      match placed.lexeme with
      | .endOfText => .inr (decide (0 < depth))
      | .opening _ => .inl (depth + 1)
      | .closing _ => .inl (depth - 1)
      | _ => .inl depth

theorem loop_collect {calls : Nat} (enough : cursor.rest.length < calls) :
    cursor.loop collect calls [] = some cursor.lexemes := by
  have looped := @loop_eq_some cursor _ _ collect
    (fun lexemes found => (found.mapM id).map (lexemes ++ ·)) ?_ ?_ _ enough []
  · rw [looped, lexemes]
    cases cursor.steps.mapM id <;> rfl
  · rintro lexemes (problem | placed) ended
    · cases ended
    · rw [collect, if_pos (Reading.isEnd_ok_iff.mp ended)]
      rfl
  · rintro lexemes (problem | placed) rest more
    · rfl
    · rw [← Bool.not_eq_true, Reading.isEnd_ok_iff] at more
      rw [collect, if_neg more, List.mapM_cons]
      cases rest.mapM id with
      | error problem => rfl
      | ok others => exact congrArg Except.ok (List.append_assoc _ _ _)

theorem loop_weigh {calls : Nat} (enough : cursor.rest.length < calls) :
    cursor.loop weigh calls 0 = some (Reading.stopsEarly 0 cursor.steps) := by
  refine loop_eq_some ?_ ?_ enough 0
  · rintro depth (problem | placed) ended
    · cases ended
    · simp [weigh, Reading.stopsEarly, Reading.isEnd_ok_iff.mp ended]
  · rintro depth (problem | placed) rest more
    · rfl
    · rw [← Bool.not_eq_true, Reading.isEnd_ok_iff] at more
      obtain ⟨lexeme, position⟩ := placed
      cases lexeme with
      | endOfText => exact absurd rfl more
      | _ => rfl

end Looping

/-- Calls for lexemes, also behind errors, go on through a text up to its end, where they stay. Each stands
behind the characters that those before it went over, and goes over some more unless nothing but blanks,
commas and comments is left. So the end is found, lexemes start further and further on, and collecting them
and looking for what is open take no more calls than the text has characters, and one. -/
theorem advances_and_ends (source : String) :
    (∀ calls, ∃ offset, ((ofText source).after calls).Advances source.toList offset) ∧
    (∃ calls ≤ source.toList.length, isEnd ((ofText source).after calls).next.1 = true) ∧
    (∀ (earlier later : Nat) (first second : PlacedLexeme), earlier < later →
      ((ofText source).after earlier).next.1 = .ok first → first.lexeme ≠ .endOfText →
      ((ofText source).after later).next.1 = .ok second →
      first.position.Before second.position ∧ ∃ start further, start < further ∧
        first.StandsAt source.toList start ∧ second.StandsAt source.toList further) ∧
    (ofText source).loop collect (source.toList.length + 1) [] = some (ofText source).lexemes ∧
    (ofText source).loop weigh (source.toList.length + 1) 0 = some (isIncomplete source) := by
  have stands := standsIn_ofText source
  refine ⟨fun calls => ?_, exists_isEnd_after (ofText source), ?_, loop_collect (Nat.lt_succ_self _),
    loop_weigh (Nat.lt_succ_self _)⟩
  · obtain ⟨offset, _, reached⟩ := stands.exists_after calls
    exact ⟨offset, reached.advances⟩
  · intro earlier later first second order here more there
    obtain ⟨start, further, beyond, starts, follows⟩ := stands.exists_starts order here more there
    refine ⟨?_, start, further, beyond, starts, follows⟩
    rw [starts.position, follows.position]
    exact Position.before_inText beyond follows.inside

/-- A number that is none, a bracket and a string that is left open: two errors with a lexeme between them, and
then the end for ever. -/
theorem advances_and_ends_faulty :
    let calls := fun count => ((ofText "1a (,\"b").after count).next.1
    calls 0 = .error ⟨.malformedNumber "1a", ⟨1, 3⟩⟩ ∧ calls 1 = .ok ⟨.opening .round, ⟨1, 4⟩⟩ ∧
      calls 2 = .error ⟨.unclosedText, ⟨1, 8⟩⟩ ∧ calls 3 = .ok ⟨.endOfText, ⟨1, 8⟩⟩ ∧
      (∀ more, isEnd (calls (3 + more)) = true) ∧
      (∃ offset, ((ofText "1a (,\"b").after 1).Advances "1a (,\"b".toList offset) ∧
      Position.Before ⟨1, 4⟩ ⟨1, 8⟩ ∧
      (ofText "1a (,\"b").loop collect 8 [] = some (.error ⟨.malformedNumber "1a", ⟨1, 3⟩⟩) ∧
      (ofText "(,\"b").loop weigh 5 0 = some true := by
  have bracket : ((ofText "1a (,\"b").after 1).next.1 = .ok ⟨.opening .round, ⟨1, 4⟩⟩ := by
    with_unfolding_all rfl
  have ended : ((ofText "1a (,\"b").after 3).next.1 = .ok ⟨.endOfText, ⟨1, 8⟩⟩ := by
    with_unfolding_all rfl
  obtain ⟨everywhere, _, order, collected, _⟩ := advances_and_ends "1a (,\"b"
  obtain ⟨_, last⟩ := everywhere 3
  refine ⟨by with_unfolding_all rfl, bracket, by with_unfolding_all rfl, ended, fun more => ?_,
    everywhere 1, (order 1 3 _ _ (by decide) bracket (by decide) ended).1, ?_, ?_⟩
  · dsimp only
    rw [after_add]
    exact last.settled (by rw [ended]; rfl) more
  · exact collected.trans (by with_unfolding_all rfl)
  · exact (advances_and_ends "(,\"b").2.2.2.2.trans (by with_unfolding_all rfl)

end Cursor

end TokenGrammar
