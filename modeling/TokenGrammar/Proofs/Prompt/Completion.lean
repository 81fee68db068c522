import Mathlib.Data.List.DropRight
import Mathlib.Data.List.Sort
import TokenGrammar.Prompt.Completion
import TokenGrammar.Proofs.Text.Bytes
/-!
What completion offers. The word in front of the cursor goes back to the last break, and in its place can
stand the commands and names that start with it, in the order of their bytes.
-/

namespace TokenGrammar

section Repetitions

variable {α : Type}

theorem eraseReps_loop [BEq α] (items : List α) (first : α) (kept : List α) :
    List.eraseRepsBy.loop (· == ·) first items kept = kept.reverse ++ (first :: items).eraseReps := by
  have whole : ∀ (first : α) (items : List α),
      (first :: items).eraseReps = List.eraseRepsBy.loop (· == ·) first items [] := fun _ _ => rfl
  induction items generalizing first kept with
  | nil => rw [whole, List.eraseRepsBy.loop, List.eraseRepsBy.loop, List.reverse_cons]; rfl
  | cons second rest ih =>
      rw [whole, List.eraseRepsBy.loop, List.eraseRepsBy.loop]
      cases first == second with
      | true => exact ih first kept
      | false =>
          dsimp only
          rw [ih second (first :: kept), ih second [first], List.reverse_cons, List.append_assoc]
          rfl

theorem eraseReps_cons_cons [BEq α] (first second : α) (rest : List α) :
    (first :: second :: rest).eraseReps =
      if first == second then (first :: rest).eraseReps
      else first :: (second :: rest).eraseReps := by
  change List.eraseRepsBy.loop (· == ·) first (second :: rest) [] = _
  rw [List.eraseRepsBy.loop]
  cases first == second with
  | true => exact eraseReps_loop rest first []
  | false => exact eraseReps_loop rest second [first]

theorem mem_eraseReps [BEq α] [LawfulBEq α] {item : α} {items : List α} :
    item ∈ items.eraseReps ↔ item ∈ items := by
  cases items with
  | nil => rfl
  | cons first rest =>
      induction rest generalizing first with
      | nil => rfl
      | cons second rest ih =>
          rw [eraseReps_cons_cons]
          split
          next same => simp [ih, beq_iff_eq.mp same]
          next => rw [List.mem_cons, ih second, ← List.mem_cons]

theorem pairwise_eraseReps [LinearOrder α] {items : List α} (ascending : items.Pairwise (· ≤ ·)) :
    items.eraseReps.Pairwise (· < ·) := by
  cases items with
  | nil => exact .nil
  | cons first rest =>
      induction rest generalizing first with
      | nil => exact List.pairwise_singleton _ _
      | cons second rest ih =>
          obtain ⟨least, later⟩ := List.pairwise_cons.mp ascending
          rw [eraseReps_cons_cons]
          split
          next same => exact ih first (beq_iff_eq.mp same ▸ later)
          next different =>
              have less : first < second :=
                lt_of_le_of_ne (least second List.mem_cons_self) fun same =>
                  different (beq_iff_eq.mpr same)
              refine List.pairwise_cons.mpr ⟨fun item member => ?_, ih second later⟩
              rcases List.mem_cons.mp (mem_eraseReps.mp member) with same | behind
              · exact same ▸ less
              · exact lt_of_lt_of_le less ((List.pairwise_cons.mp later).1 item behind)

end Repetitions

namespace Completion

section Candidates

variable {names : List String} {word : List Char}

theorem mem_candidates_iff {name : String} : name ∈ candidates names word ↔
    (name ∈ commands ∨ name ∈ names) ∧ word <+: name.toList := by
  rw [candidates, mem_eraseReps, List.mem_mergeSort, List.mem_filter, List.mem_append,
    List.isPrefixOf_iff_prefix]

theorem pairwise_candidates : (candidates names word).Pairwise (· < ·) :=
  pairwise_eraseReps (List.pairwise_mergeSort' (· ≤ ·) _)

end Candidates

section Words

theorem isBreak_iff {character : Char} : isBreak character = true ↔
    Text.isBlank character = true ∨ character ∈ ['(', ')', '[', ']', '\''] := by
  rw [isBreak, Bool.or_eq_true, List.contains_iff_mem]

theorem exists_lastWord (text : String) : ∃ front word : String, text = front ++ word ∧
    lastWord text.toList = word.toList ∧ (∀ character ∈ word.toList, isBreak character = false) ∧
      ∀ character ∈ front.toList.getLast?, isBreak character = true := by
  let plain : Char → Bool := (!isBreak ·)
  have cut : text.toList.rdropWhile plain ++ lastWord text.toList = text.toList :=
    List.rdropWhile_append_rtakeWhile
  refine ⟨String.ofList (text.toList.rdropWhile plain), String.ofList (lastWord text.toList), ?_,
    String.toList_ofList.symm, fun character member => ?_, fun character last => ?_⟩
  · rw [← String.ofList_append, cut, String.ofList_toList]
  · rw [String.toList_ofList] at member
    have own : plain character = true := List.mem_rtakeWhile_imp member
    simpa [plain] using own
  · rw [String.toList_ofList] at last
    obtain ⟨more, rfl⟩ := List.mem_getLast?_eq_getLast last
    simpa [plain] using List.rdropWhile_last_not plain text.toList more

theorem complete_append (names : List String) {front word : String}
    (last : lastWord (front ++ word).toList = word.toList) (after : String) :
    complete names (front ++ word ++ after) (front ++ word).utf8ByteSize =
      (front.utf8ByteSize, if word = "" then [] else candidates names word.toList) := by
  have before := Text.within_utf8ByteSize (front ++ word) after
  unfold complete
  simp only [before, last]
  by_cases empty : word = ""
  · subst empty
    simp
  · have some : word.toList.isEmpty = false := by simpa using empty
    rw [some, if_neg empty, Text.byteSize_toList, String.utf8ByteSize_append, Nat.add_sub_cancel]
    rfl

end Words

/-- At a place between two characters of a line, completion goes back to the start of the word there, and
offers in ascending order the commands and the names that the word is the start of. -/
theorem complete_of_isValid (names : List String) {line : String} {position : Nat}
    (boundary : String.Pos.Raw.IsValid line ⟨position⟩) :
    ∃ (start : Nat) (found : List String) (front word after : String),
      complete names line position = (start, found) ∧
      String.Pos.Raw.IsValid line ⟨start⟩ ∧ start ≤ position ∧
      line = front ++ word ++ after ∧ start = front.utf8ByteSize ∧
      position = (front ++ word).utf8ByteSize ∧
      (∀ character ∈ word.toList,
        ¬ (Text.isBlank character = true ∨ character ∈ ['(', ')', '[', ']', '\''])) ∧
      (front = "" ∨ ∃ character, front.toList.getLast? = some character ∧
        (Text.isBlank character = true ∨ character ∈ ['(', ')', '[', ']', '\''])) ∧
      found.Pairwise (fun first second => Text.bytes first < Text.bytes second) ∧
      ∀ name, name ∈ found ↔
        word ≠ "" ∧ (name ∈ commands ∨ name ∈ names) ∧ word.toList <+: name.toList := by
  obtain ⟨before, after, rfl, here⟩ := String.Pos.Raw.isValid_iff_exists_append.mp boundary
  obtain rfl : position = before.utf8ByteSize := congrArg String.Pos.Raw.byteIdx here
  obtain ⟨front, word, rfl, last, unbroken, broken⟩ := exists_lastWord before
  refine ⟨_, _, front, word, after, complete_append names last after, ?_, ?_, rfl, rfl, rfl, ?_, ?_,
    ?_, fun name => ?_⟩
  · exact String.Pos.Raw.isValid_iff_exists_append.mpr
      ⟨front, word ++ after, String.append_assoc, rfl⟩
  · rw [String.utf8ByteSize_append]
    exact Nat.le_add_right _ _
  · intro character member
    rw [← isBreak_iff, unbroken character member]
    exact Bool.false_ne_true
  · cases behind : front.toList.getLast? with
    | none => exact .inl (String.toList_eq_nil_iff.mp (List.getLast?_eq_none_iff.mp behind))
    | some character => exact .inr ⟨character, rfl, isBreak_iff.mp (broken character behind)⟩
  · split
    next => exact .nil
    next => exact pairwise_candidates.imp Text.bytes_lt_of_lt
  · split
    next empty => simp [empty]
    next more => rw [mem_candidates_iff, and_iff_right more]

/-- A wide blank of three bytes ends the word; what is offered is a name that is given twice and one that
only differs from it at its end. -/
theorem complete_of_isValid_wide :
    String.Pos.Raw.IsValid "a\u3000an" ⟨6⟩ ∧
    ∃ found, complete ["anyé", "any~", "anyé", "atom"] "a\u3000an" 6 = (4, found) ∧
      found.Pairwise (fun first second => Text.bytes first < Text.bytes second) ∧
      ∀ name, name ∈ found ↔ name = "anyé" ∨ name = "any~" := by
  have boundary : String.Pos.Raw.IsValid "a\u3000an" ⟨6⟩ :=
    String.Pos.Raw.isValid_iff_exists_append.mpr ⟨"a\u3000an", "", rfl, rfl⟩
  obtain ⟨start, found, front, word, after, answer, _, _, whole, size, position, _, _, ascending, exact⟩ :=
    complete_of_isValid ["anyé", "any~", "anyé", "atom"] boundary
  obtain rfl : start = 4 := (congrArg Prod.fst answer).symm.trans (by decide +kernel)
  have lead : front.toList = ['a', '\u3000'] := by
    rw [← Text.within_utf8ByteSize front (word ++ after), ← String.append_assoc, ← whole, ← size]
    decide +kernel
  have through : (front ++ word).toList = ['a', '\u3000', 'a', 'n'] := by
    rw [← Text.within_utf8ByteSize (front ++ word) after, ← whole, ← position]
    decide +kernel
  rw [String.toList_append, lead] at through
  have own : word.toList = ['a', 'n'] := List.append_cancel_left through
  have fitting : ∀ name ∈ commands ++ ["anyé", "any~", "anyé", "atom"],
      ['a', 'n'] <+: name.toList → name = "anyé" ∨ name = "any~" := by decide +kernel
  refine ⟨boundary, found, answer, ascending, fun name => ?_⟩
  rw [exact, own]
  constructor
  · rintro ⟨_, member, starts⟩
    exact fitting name (List.mem_append.mpr member) starts
  · have some : word ≠ "" := by
      rintro rfl
      cases own
    rintro (rfl | rfl)
    · exact ⟨some, .inr (by simp), by decide +kernel⟩
    · exact ⟨some, .inr (by simp), by decide +kernel⟩

end Completion

end TokenGrammar
