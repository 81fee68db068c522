import Mathlib.Algebra.BigOperators.Group.List.Basic
import TokenGrammar.Proofs.Reading.Lines
/-!
Texts that stop too early. While forms are read, as many groups are open as opening brackets are ahead of
closing ones, so that counting brackets is enough to tell whether a text may go on: a text that reads
never waits for more, and one that ends inside a group or a string always does.
-/

namespace TokenGrammar

namespace ReadFault

/-- The messages of texts that end inside a group or a string. -/
def TellsUnfinished (message : String) : Prop :=
  message = "Unclosed string literal" ∨ message = "Unexpected end of string" ∨
    "Unexpected EOF, expected ".toList <+: message.toList

instance (message : String) : Decidable (TellsUnfinished message) := by
  unfold TellsUnfinished
  infer_instance

def isInsideText (fault : ReadFault) : Bool := fault = .unclosedText || fault = .endInsideEscape

def isBetween : ReadFault → Bool
  | .unclosedGroup _ | .nothingToQuote | .unexpectedEnd | .unexpectedClosing _ => true
  | _ => false

theorem isInsideText_eq_false {fault : ReadFault} (between : fault.isBetween = true) :
    fault.isInsideText = false := by
  cases fault <;> first | rfl | cases between

theorem not_tellsUnfinished_append {opening : String} (rest : String)
    (other : opening.toList.take 3 ≠ "Unc".toList ∧ opening.toList.take 3 ≠ "Une".toList)
    (long : 3 ≤ opening.toList.length) : ¬ TellsUnfinished (opening ++ rest) := by
  have front : (opening ++ rest).toList.take 3 = opening.toList.take 3 := by
    rw [String.toList_append, List.take_append_of_le_length long]
  rintro (same | same | ⟨behind, same⟩)
  · rw [same] at front
    exact other.1 (front.symm.trans (by decide +kernel))
  · rw [same] at front
    exact other.2 (front.symm.trans (by decide +kernel))
  · rw [← same, List.take_append_of_le_length (by decide +kernel)] at front
    exact other.2 (front.symm.trans (by decide +kernel))

theorem tellsUnfinished_iff {fault : ReadFault} : TellsUnfinished fault.message ↔
    fault.isInsideText = true ∨ ∃ bracket, fault = .unclosedGroup bracket := by
  cases fault with
  | unclosedText | endInsideEscape => exact iff_of_true (by decide +kernel) (.inl rfl)
  | unclosedGroup bracket =>
      have whole := @String.toList_append "Unexpected EOF, expected " (String.singleton bracket.closing)
      exact iff_of_true (Or.inr (Or.inr ⟨_, whole.symm⟩)) (.inr ⟨bracket, rfl⟩)
  | unknownCharacter name | integerOutOfRange name | malformedNumber name =>
      refine iff_of_false (not_tellsUnfinished_append name ?_ ?_) (by simp [isInsideText])
      · decide +kernel
      · decide +kernel
  | unexpectedClosing bracket =>
      refine iff_of_false ?_ (by simp [isInsideText])
      cases bracket <;> decide +kernel
  | endAfterBackslash | nothingToQuote | unexpectedEnd =>
      exact iff_of_false (by decide +kernel) (by simp [isInsideText])

end ReadFault

namespace Reading

section Counting

def depthChange : Lexeme → Int
  | .opening _ => 1
  | .closing _ => -1
  | _ => 0

def surplus (lexemes : List Lexeme) : Int := (lexemes.map depthChange).sum

def openGroups : List Frame → Int
  | [] => 0
  | .group _ _ :: outer => openGroups outer + 1
  | .quote :: outer => openGroups outer

theorem openGroups_nonneg (frames : List Frame) : 0 ≤ openGroups frames := by
  fun_induction openGroups frames with
  | case1 => exact Int.le_refl 0
  | case2 => omega
  | case3 _ ih => exact ih

theorem openGroups_pos_of_endFault {frames : List Frame} {bracket : Bracket}
    (fault : endFault frames = .unclosedGroup bracket) : 0 < openGroups frames := by
  cases frames with
  | nil => cases fault
  | cons frame outer =>
      cases frame with
      | quote => cases fault
      | group found items =>
          have around := openGroups_nonneg outer
          simp only [openGroups]
          omega

def Progress.Leaves (depth : Int) : Progress → Prop
  | .open frames => openGroups frames = depth
  | .complete _ => depth = 0
  | .refused _ => True

theorem leaves_place (token : Token) (frames : List Frame) :
    (place token frames).Leaves (openGroups frames) := by
  fun_induction place token frames with
  | case1 => rfl
  | case2 _ _ ih => exact ih
  | case3 => rfl

theorem leaves_close (bracket : Bracket) (frames : List Frame) :
    (close bracket frames).Leaves (openGroups frames - 1) := by
  fun_cases close bracket frames with
  | case1 items outer =>
      have placed := leaves_place (.group bracket items.reverse) outer
      simpa [openGroups] using placed
  | case2 | case3 => trivial

theorem leaves_accept (frames : List Frame) (lexeme : Lexeme) :
    (accept frames lexeme).Leaves (openGroups frames + depthChange lexeme) := by
  cases lexeme with
  | opening bracket => rfl
  | closing bracket => exact leaves_close bracket frames
  | quote => exact (Int.add_zero _).symm
  | endOfText => trivial
  | _ =>
      change Progress.Leaves (openGroups frames + 0) _
      rw [Int.add_zero]
      exact leaves_place _ frames

theorem cause_of_refused {frames : List Frame} {lexeme : Lexeme} {fault : ReadFault}
    (refused : accept frames lexeme = .refused fault) :
    (lexeme = .endOfText ∧ fault = endFault frames) ∨ ∃ bracket, fault = .unexpectedClosing bracket := by
  cases lexeme with
  | opening bracket | quote => cases refused
  | closing bracket =>
      change close bracket frames = .refused fault at refused
      unfold close at refused
      split at refused
      next =>
          split at refused
          next => exact absurd refused (place_ne_refused _ _ _)
          next => cases refused; exact .inr ⟨bracket, rfl⟩
      next => cases refused; exact .inr ⟨bracket, rfl⟩
  | endOfText => cases refused; exact .inl ⟨rfl, rfl⟩
  | _ => exact absurd refused (place_ne_refused _ _ _)

theorem isBetween_endFault (frames : List Frame) : (endFault frames).isBetween = true := by
  unfold endFault
  split <;> rfl

theorem isBetween_of_formsFrom {frames : List Frame} {placed : List PlacedLexeme} {error : ReadError}
    (failed : (formsFrom frames placed).1 = .error error) : error.fault.isBetween = true := by
  fun_induction formsFrom frames placed with
  | case1 | case3 => cases failed
  | case2 => cases failed; exact isBetween_endFault _
  | case4 _ _ _ _ _ _ ih => exact ih failed
  | case5 _ _ _ _ _ _ _ _ found ih =>
      rw [found] at ih
      exact ih (Result.map_eq_error_iff.mp failed)
  | case6 _ _ _ _ fault refused =>
      cases failed
      rcases cause_of_refused refused with ⟨_, ended⟩ | ⟨bracket, closing⟩
      · exact ended ▸ isBetween_endFault _
      · exact closing ▸ rfl

/-- Forms that are complete leave no group open; a group is missed at the end only if one is. -/
def LeavesOpen (depth : Int) : Except ReadError (List Token) → Prop
  | .ok _ => depth = 0
  | .error error => ∀ bracket, error.fault = .unclosedGroup bracket → 0 < depth

theorem surplus_beforeEnd_cons {placed : PlacedLexeme} (more : placed.lexeme ≠ .endOfText)
    (rest : List PlacedLexeme) :
    surplus (beforeEnd (placed :: rest)) = depthChange placed.lexeme + surplus (beforeEnd rest) := by
  rw [beforeEnd_cons more, surplus, List.map_cons, List.sum_cons, surplus]

theorem leavesOpen_formsFrom (frames : List Frame) (placed : List PlacedLexeme) :
    LeavesOpen (openGroups frames + surplus (beforeEnd placed)) (formsFrom frames placed).1 := by
  fun_induction formsFrom frames placed with
  | case1 => rfl
  | case2 =>
      intro bracket missed
      simpa [beforeEnd, surplus] using openGroups_pos_of_endFault missed
  | case3 frames placed rest ended =>
      obtain ⟨closed, last⟩ := Bool.and_eq_true_iff.mp ended
      rw [List.isEmpty_iff.mp closed]
      simp [LeavesOpen, openGroups, beforeEnd, of_decide_eq_true last, surplus]
  | case4 frames placed rest _ inner accepted ih =>
      have more := ne_endOfText_of_accept accepted (by simp)
      have next := leaves_accept frames placed.lexeme
      rw [accepted] at next
      rwa [surplus_beforeEnd_cons more, ← Int.add_assoc, ← next]
  | case5 frames placed rest _ token accepted others left found ih =>
      have more := ne_endOfText_of_accept accepted (by simp)
      have next := leaves_accept frames placed.lexeme
      rw [accepted] at next
      have closed : openGroups frames + depthChange placed.lexeme = openGroups [] := next
      rw [found] at ih
      rw [surplus_beforeEnd_cons more, ← Int.add_assoc, closed]
      cases others <;> exact ih
  | case6 frames placed rest _ fault refused =>
      intro bracket missed
      rcases cause_of_refused refused with ⟨last, ended⟩ | ⟨other, closing⟩
      · have positive := openGroups_pos_of_endFault (ended.symm.trans missed)
        simpa [beforeEnd, last, surplus] using positive
      · rw [closing] at missed
        cases missed

end Counting

section Stopping

theorem stopsEarly_map_ok (depth : Int) (placed : List PlacedLexeme) :
    stopsEarly depth (placed.map .ok) = decide (0 < depth + surplus (placed.map (·.lexeme))) := by
  induction placed generalizing depth with
  | nil => simp [stopsEarly, surplus]
  | cons first rest ih =>
      rw [List.map_cons, List.map_cons, surplus, List.map_cons, List.sum_cons, ← Int.add_assoc]
      unfold stopsEarly
      cases first.lexeme <;> simp [depthChange, ih, surplus, Int.sub_eq_add_neg]

theorem stopsEarly_of_error {found : List (Except ReadError PlacedLexeme)} {error : ReadError}
    (failed : found.mapM id = .error error) (depth : Int) :
    stopsEarly depth found = error.fault.isInsideText := by
  induction found generalizing depth with
  | nil => cases failed
  | cons first rest ih =>
      rw [List.mapM_cons, id_eq] at failed
      cases first with
      | error problem => cases failed; rfl
      | ok placed =>
          have later : rest.mapM id = .error error := by
            cases others : rest.mapM id with
            | error problem => rw [others] at failed; exact failed
            | ok placed => rw [others] at failed; cases failed
          rw [stopsEarly]
          split <;> exact ih later _

end Stopping

section Faults

theorem isBetween_of_atomOf {word : List Char} {fault : ReadFault} (failed : atomOf word = .error fault) :
    fault.isBetween = false := by
  unfold atomOf at failed
  dsimp only at failed
  repeat' split at failed
  all_goals cases failed
  all_goals rfl

theorem isBetween_of_scanText {text : List Char} {fault : ReadFault}
    (failed : (scanText text).1 = .error fault) : fault.isBetween = false := by
  fun_induction scanText text with
  | case1 | case3 | case4 => cases failed; rfl
  | case2 | case5 => cases failed
  | case6 _ _ value _ scanned _ ih =>
      rw [scanned] at ih
      exact ih (Result.map_eq_error_iff.mp failed)
  | case7 _ _ _ _ _ value _ scanned ih =>
      rw [scanned] at ih
      exact ih (Result.map_eq_error_iff.mp failed)

theorem isBetween_of_scanCharacter {text : List Char} {fault : ReadFault}
    (failed : (scanCharacter text).1 = .error fault) : fault.isBetween = false := by
  unfold scanCharacter characterNamed at failed
  dsimp only at failed
  repeat' split at failed
  all_goals cases failed
  all_goals rfl

theorem isBetween_of_scan {text : List Char} {fault : ReadFault}
    (failed : (scan text).1 = .error fault) : fault.isBetween = false := by
  cases text with
  | nil => cases failed
  | cons first rest =>
      rcases scan_cases first with ⟨lexeme, mark⟩ | quote | backslash | word
      · rw [mark] at failed
        cases failed
      · subst quote
        exact isBetween_of_scanText (Result.map_eq_error_iff.mp failed)
      · subst backslash
        exact isBetween_of_scanCharacter (Result.map_eq_error_iff.mp failed)
      · rw [word] at failed
        exact isBetween_of_atomOf failed

theorem isBetween_of_mem_steps {cursor : Cursor} {error : ReadError}
    (member : .error error ∈ cursor.steps) : error.fault.isBetween = false := by
  have here : ∀ cursor : Cursor, .error error = cursor.next.1 → error.fault.isBetween = false := by
    intro cursor found
    unfold Cursor.next at found
    dsimp only at found
    split at found
    next => cases found
    next fault failed => cases found; exact isBetween_of_scan failed
  fun_induction Cursor.steps cursor with
  | case1 cursor _ ih => exact (List.mem_cons.mp member).elim (here cursor) ih
  | case2 cursor _ => exact here cursor (List.mem_singleton.mp member)

theorem isBetween_of_lexemes {cursor : Cursor} {error : ReadError}
    (failed : cursor.lexemes = .error error) : error.fault.isBetween = false := by
  obtain ⟨found, member, same⟩ := Result.exists_of_mapM_eq_error failed
  rw [id_eq] at same
  exact isBetween_of_mem_steps (same ▸ member)

end Faults

theorem stopsEarly_of_lexemes {cursor : Cursor} {placed : List PlacedLexeme}
    (found : cursor.lexemes = .ok placed) :
    stopsEarly 0 cursor.steps = decide (0 < surplus (beforeEnd placed)) := by
  obtain ⟨front, shape, going⟩ := (lexes_of_lexemes found).exists_front
  have ended : surplus (placed.map (·.lexeme)) = surplus (beforeEnd placed) := by
    rw [beforeEnd_eq shape going, shape]
    simp [surplus, depthChange]
  rw [Result.mapM_id_eq_ok found, stopsEarly_map_ok, Int.zero_add, ended]

/-- A text that reads is not waiting for more, and one that is reported to end inside a group or a string
is. -/
theorem isIncomplete_of_read (source : String) :
    (∀ tokens, read source = .ok tokens → isIncomplete source = false) ∧
    ∀ error, read source = .error error → ReadFault.TellsUnfinished error.fault.message →
      isIncomplete source = true := by
  unfold read isIncomplete
  cases lexed : (Cursor.ofText source).lexemes with
  | error problem =>
      refine ⟨fun tokens found => (by cases found), fun error failed told => ?_⟩
      cases failed
      rw [stopsEarly_of_error lexed]
      refine (ReadFault.tellsUnfinished_iff.mp told).resolve_right fun ⟨bracket, missed⟩ => ?_
      have within := isBetween_of_lexemes lexed
      rw [missed] at within
      cases within
  | ok placed =>
      have depth := leavesOpen_formsFrom [] placed
      rw [openGroups, Int.zero_add] at depth
      rw [stopsEarly_of_lexemes lexed]
      refine ⟨fun tokens found => ?_, fun error failed told => ?_⟩
      · change (formsFrom [] placed).1 = .ok tokens at found
        rw [found] at depth
        have level : surplus (beforeEnd placed) = 0 := depth
        simp [level]
      · change (formsFrom [] placed).1 = .error error at failed
        rw [failed] at depth
        rcases ReadFault.tellsUnfinished_iff.mp told with inside | ⟨bracket, missed⟩
        · rw [ReadFault.isInsideText_eq_false (isBetween_of_formsFrom failed)] at inside
          cases inside
        · exact decide_eq_true (depth bracket missed)

/-- A quoted bracket is no bracket; a list is open in front of a quote, and a string behind a closing bracket
too many. -/
theorem isIncomplete_of_read_quoted :
    read "(\\( a) ; (" = .ok [.list [.character '(', .symbol "a"]] ∧
    isIncomplete "(\\( a) ; (" = false ∧
    read "[(a) 'b" = .error ⟨.unclosedGroup .square, ⟨1, 8⟩⟩ ∧ isIncomplete "[(a) 'b" = true ∧
    read ") \"\\" = .error ⟨.endInsideEscape, ⟨1, 5⟩⟩ ∧ isIncomplete ") \"\\" = true := by
  have reads : read "(\\( a) ; (" = .ok [.list [.character '(', .symbol "a"]] := by
    with_unfolding_all rfl
  have missed : read "[(a) 'b" = .error ⟨.unclosedGroup .square, ⟨1, 8⟩⟩ := by with_unfolding_all rfl
  have escaped : read ") \"\\" = .error ⟨.endInsideEscape, ⟨1, 5⟩⟩ := by with_unfolding_all rfl
  exact ⟨reads, (isIncomplete_of_read _).1 _ reads,
    missed, (isIncomplete_of_read _).2 _ missed (by decide +kernel),
    escaped, (isIncomplete_of_read _).2 _ escaped (by decide +kernel)⟩

end Reading

end TokenGrammar
