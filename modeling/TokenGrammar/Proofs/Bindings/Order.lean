import Mathlib.Data.Finset.Card
import Mathlib.Data.List.Induction
import Mathlib.Data.List.Perm.Subperm
import TokenGrammar.Proofs.Bindings
import TokenGrammar.Proofs.Token.Equality
/-!
Bindings keep the order of first binding and forget all else about the calls that made them: each name is
there once, with the value of its last call. Two environments are equal if they bind the same names to
equal values, in any order.
-/

namespace TokenGrammar

namespace Bindings

def bindAll (bindings : Bindings) (calls : List (String × List Token)) : Bindings :=
  calls.foldl (fun bindings (name, value) => bindings.bind name value) bindings

section Calls

variable {calls : List (String × List Token)}

theorem bindAll_concat (bindings : Bindings) (calls : List (String × List Token)) (name : String)
    (value : List Token) :
    bindAll bindings (calls ++ [(name, value)]) = (bindAll bindings calls).bind name value := by
  simp [bindAll]

theorem names_bindAll (calls : List (String × List Token)) :
    (bindAll ∅ calls).names = (calls.map Prod.fst).eraseDups := by
  induction calls using List.reverseRecOn with
  | nil => rfl
  | append_singleton calls call ih =>
      obtain ⟨name, value⟩ := call
      rw [bindAll_concat, names_bind, ih, List.map_append, List.eraseDups_append]
      by_cases known : name ∈ calls.map Prod.fst
      · simp [List.removeAll, List.mem_eraseDups, known]
      · simp [List.removeAll, List.mem_eraseDups, known, List.eraseDups_cons]

theorem get?_bindAll (calls : List (String × List Token)) (name : String) :
    (bindAll ∅ calls).get? name = calls.reverse.lookup name := by
  induction calls using List.reverseRecOn with
  | nil => rfl
  | append_singleton calls call ih =>
      obtain ⟨last, value⟩ := call
      rw [bindAll_concat, get?_bind, ih, List.reverse_append, List.reverse_singleton,
        List.singleton_append, NameMap.lookup_cons_eq_ite]

def Fitted : Bindings → Prop
  | .several map => 2 ≤ map.size
  | _ => True

theorem Fitted.bind {bindings : Bindings} (fitted : bindings.Fitted) (name : String)
    (value : List Token) : (bindings.bind name value).Fitted := by
  cases bindings with
  | empty => trivial
  | single found old =>
      by_cases same : found = name <;> simp [Bindings.bind, same, Fitted, NameMap.size]
  | several map =>
      have kept := (NameMap.names_prefix_names_set map name value).length_le
      simp only [NameMap.names, List.length_map] at kept
      exact Nat.le_trans fitted kept

theorem fitted_bindAll (calls : List (String × List Token)) : (bindAll ∅ calls).Fitted := by
  induction calls using List.reverseRecOn with
  | nil => trivial
  | append_singleton calls call ih =>
      rw [bindAll_concat]
      exact ih.bind _ _

/-- What an environment holds after calls to bind: each name once, in the order of the first calls and
with the value of the last one. Which form it has is told by how many names there are. -/
structure Records (calls : List (String × List Token)) (bindings : Bindings) : Prop where
  distinct : bindings.names.Nodup
  order : bindings.names = (calls.map Prod.fst).eraseDups
  listed : ∀ name value, (name, value) ∈ bindings.entries ↔ calls.reverse.lookup name = some value
  found : ∀ name, bindings.get? name = calls.reverse.lookup name
  size : bindings.size = (calls.map Prod.fst).toFinset.card
  isEmpty : bindings.isEmpty = true ↔ bindings.size = 0
  empty : bindings = .empty ↔ bindings.size = 0
  single : (∃ name value, bindings = .single name value) ↔ bindings.size = 1
  several : (∃ map, bindings = .several map) ↔ 2 ≤ bindings.size

theorem records_bindAll (calls : List (String × List Token)) : (bindAll ∅ calls).Records calls := by
  have order := names_bindAll calls
  have distinct := (bindAll ∅ calls).nodup_names
  have found := get?_bindAll calls
  have size : (bindAll ∅ calls).size = (calls.map Prod.fst).toFinset.card := by
    have same : (calls.map Prod.fst).toFinset = (bindAll ∅ calls).names.toFinset := by
      ext name
      rw [order, List.mem_toFinset, List.mem_toFinset, List.mem_eraseDups]
    rw [same, List.toFinset_card_of_nodup distinct, size_eq_length]
  have fitted := fitted_bindAll calls
  refine ⟨distinct, order, fun name value => by rw [mem_entries_iff, found], found, size, ?_, ?_, ?_, ?_⟩
  all_goals
    cases form : bindAll ∅ calls <;> rw [form] at fitted <;> simp [Bindings.isEmpty, Bindings.size]
  all_goals
    simp only [Fitted] at fitted
    omega

end Calls

section Equality

variable {left middle right : Bindings}

/-- Both sides bind the same names, and to equal values. -/
structure Matches (left right : Bindings) : Prop where
  names : ∀ name, name ∈ left.names ↔ name ∈ right.names
  values : ∀ name value other, left.get? name = some value → right.get? name = some other →
    Token.equalsAll value other = true

theorem equals_iff : left.equals right = true ↔ left.names.length = right.names.length ∧
    ∀ name value, left.get? name = some value →
      ∃ other, right.get? name = some other ∧ Token.equalsAll value other = true := by
  simp only [equals, Bool.and_eq_true, beq_iff_eq, size_eq_length, List.all_eq_true, Prod.forall,
    mem_entries_iff]
  refine and_congr_right fun _ => forall₃_congr fun name value _ => ?_
  cases right.get? name <;> simp

/-- Equality goes through the names of the left side only. As many names on both sides and no name twice
leave none for the right side alone. -/
theorem equals_iff_matches : left.equals right = true ↔ left.Matches right := by
  rw [equals_iff]
  constructor
  · rintro ⟨length, each⟩
    have within : left.names ⊆ right.names := by
      intro name known
      obtain ⟨value, bound⟩ := mem_names_iff.mp known
      obtain ⟨other, found, _⟩ := each name value bound
      exact mem_names_iff.mpr ⟨other, found⟩
    have perm : left.names.Perm right.names :=
      (List.subperm_of_subset left.nodup_names within).perm_of_length_le length.ge
    refine ⟨fun name => perm.mem_iff, fun name value other bound found => ?_⟩
    obtain ⟨same, known, equal⟩ := each name value bound
    rw [found] at known
    cases known
    exact equal
  · intro same
    have perm : left.names.Perm right.names :=
      (List.perm_ext_iff_of_nodup left.nodup_names right.nodup_names).mpr same.names
    refine ⟨perm.length_eq, fun name value bound => ?_⟩
    obtain ⟨other, found⟩ := mem_names_iff.mp ((same.names name).mp (mem_names_iff.mpr ⟨value, bound⟩))
    exact ⟨other, found, same.values name value other bound found⟩

theorem Matches.symm (same : left.Matches right) : right.Matches left :=
  ⟨fun name => (same.names name).symm, fun name value other bound found =>
    Token.equalsAll_symm (fun _ _ _ => Token.equals_symm) (same.values name other value found bound)⟩

theorem Matches.trans (first : left.Matches middle) (second : middle.Matches right) :
    left.Matches right := by
  refine ⟨fun name => (first.names name).trans (second.names name), ?_⟩
  intro name value other bound found
  obtain ⟨between, known⟩ :=
    mem_names_iff.mp ((first.names name).mp (mem_names_iff.mpr ⟨value, bound⟩))
  exact Token.equalsAll_trans (fun _ _ _ _ => Token.equals_trans)
    (first.values name value between bound known) (second.values name between other known found)

def NanFree (bindings : Bindings) : Prop :=
  ∀ name value, bindings.get? name = some value → Token.float .nan ∉ Token.leavesAll value

theorem matches_self_iff : left.Matches left ↔ left.NanFree := by
  constructor
  · intro same name value bound
    exact Token.equalsAll_self_iff.mp (same.values name value value bound bound)
  · intro free
    refine ⟨fun _ => Iff.rfl, fun name value other bound found => ?_⟩
    rw [bound] at found
    cases found
    exact Token.equalsAll_self_iff.mpr (free name value bound)

theorem mem_names_bind {bindings : Bindings} {name other : String} {value : List Token} :
    other ∈ (bindings.bind name value).names ↔ other = name ∨ other ∈ bindings.names := by
  simp only [mem_names_iff, get?_bind]
  by_cases same : other = name <;> simp [same]

theorem Matches.bind (same : left.Matches right) (name : String) {value other : List Token}
    (equal : Token.equalsAll value other = true) :
    (left.bind name value).Matches (right.bind name other) := by
  refine ⟨fun found => ?_, fun found first second bound known => ?_⟩
  · rw [mem_names_bind, mem_names_bind, same.names]
  · rw [get?_bind] at bound known
    by_cases here : found = name
    · rw [if_pos here] at bound known
      cases bound
      cases known
      exact equal
    · rw [if_neg here] at bound known
      exact same.values found first second bound known

theorem matches_congr {other : Bindings} (alike : ∀ name, left.get? name = other.get? name) :
    left.Matches right ↔ other.Matches right := by
  have names : ∀ name, name ∈ left.names ↔ name ∈ other.names := fun name => by
    rw [mem_names_iff, mem_names_iff, alike]
  constructor
  · rintro ⟨same, values⟩
    exact ⟨fun name => (names name).symm.trans (same name), fun name => alike name ▸ values name⟩
  · rintro ⟨same, values⟩
    exact ⟨fun name => (names name).trans (same name), fun name => alike name ▸ values name⟩

end Equality

/-- Whatever calls to bind have made an environment, it holds each name once, where its first call put it
and with what its last call gave it. Environments are equal if they bind the same names to equal values:
this is symmetric and transitive, it holds of an environment and itself unless there is a `nan` in it,
the order of the names makes no difference to it, and binding keeps it. -/
theorem records_bindAll_and_equals_iff_matches :
    (∀ calls, (bindAll ∅ calls).Records calls) ∧
    (∀ left right : Bindings, left.equals right = true ↔ left.Matches right) ∧
    (∀ left right : Bindings, left.equals right = true → right.equals left = true) ∧
    (∀ left middle right : Bindings, left.equals middle = true → middle.equals right = true →
      left.equals right = true) ∧
    (∀ bindings : Bindings, bindings.equals bindings = true ↔ bindings.NanFree) ∧
    (∀ left other : Bindings, (∀ name, left.get? name = other.get? name) →
      (∀ right, left.equals right = other.equals right) ∧
        (left.NanFree → left.equals other = true)) ∧
    (∀ (left right : Bindings) (name : String) (value other : List Token),
      left.equals right = true → Token.equalsAll value other = true →
        (left.bind name value).equals (right.bind name other) = true) := by
  refine ⟨records_bindAll, fun _ _ => equals_iff_matches, ?_, ?_, ?_, ?_, ?_⟩
  · intro left right same
    exact equals_iff_matches.mpr (equals_iff_matches.mp same).symm
  · intro left middle right first second
    exact equals_iff_matches.mpr ((equals_iff_matches.mp first).trans (equals_iff_matches.mp second))
  · intro bindings
    rw [equals_iff_matches, matches_self_iff]
  · intro left other alike
    refine ⟨fun right => ?_, fun free => ?_⟩
    · rw [Bool.eq_iff_iff, equals_iff_matches, equals_iff_matches]
      exact matches_congr alike
    · rw [equals_iff_matches, matches_congr alike, matches_self_iff]
      exact fun name value bound => free name value ((alike name).trans bound)
  · intro left right name value other same equal
    exact equals_iff_matches.mpr ((equals_iff_matches.mp same).bind name equal)

/-- A name that is bound twice keeps its place and has its second value, and an environment where it was
bound once, behind the other name, is equal to this one. -/
theorem records_bindAll_and_equals_iff_matches_rebound :
    let calls := [("x", [Token.integer 1]), ("y", [Token.integer 2]), ("x", [Token.integer 3])]
    let left := bindAll ∅ calls
    let right := bindAll ∅ [("y", [.integer 2]), ("x", [.integer 3])]
    left.Records calls ∧ left.names = ["x", "y"] ∧ right.names = ["y", "x"] ∧
      left.equals right = true ∧ right.equals left = true ∧ left.equals left = true ∧
      (left.bind "z" [.float .zero]).equals (right.bind "z" [.float .zero]) = true := by
  intro calls left right
  obtain ⟨records, _, symmetric, transitive, reflexive, alike, respects⟩ :=
    records_bindAll_and_equals_iff_matches
  have same : ∀ name, left.get? name = right.get? name := by
    intro name
    simp only [left, right, calls, get?_bindAll, List.reverse_cons, List.reverse_nil, List.nil_append,
      List.cons_append, NameMap.lookup_cons_eq_ite, List.lookup_nil]
    split <;> rfl
  have free : left.NanFree := (reflexive left).mp (by decide +kernel)
  have equal : left.equals right = true := (alike left right same).2 free
  have back : right.equals left = true := symmetric left right equal
  refine ⟨records calls, by decide, by decide, equal, back, transitive left right left equal back, ?_⟩
  exact respects left right "z" _ _ equal (by decide +kernel)

end Bindings

end TokenGrammar
