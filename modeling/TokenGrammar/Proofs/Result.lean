import Mathlib.Data.List.Forall2
import Mathlib.Data.List.Induction
/-!
Results that may be errors. A list of results is made if each of them is made, and the first error from
the left is the error of the list.
-/

namespace TokenGrammar

namespace Result

variable {ε α β : Type}

theorem map_eq_ok_iff {result : Except ε α} {change : α → β} {value : β} :
    result.map change = .ok value ↔ ∃ inner, result = .ok inner ∧ change inner = value := by
  cases result with
  | error problem => simp [Except.map]
  | ok inner => simp [Except.map]

theorem map_eq_error_iff {result : Except ε α} {change : α → β} {problem : ε} :
    result.map change = .error problem ↔ result = .error problem := by
  cases result with
  | error other => simp [Except.map]
  | ok inner => simp [Except.map]

theorem ok_bind (value : α) (further : α → Except ε β) :
    ((.ok value : Except ε α) >>= further) = further value := rfl

theorem bind_pure_eq_map (result : Except ε α) (change : α → β) :
    (result >>= fun value => pure (change value)) = result.map change := by
  cases result <;> rfl

theorem exists_of_any {result : Except ε α} {test : α → Bool}
    (held : result.toOption.any test = true) : ∃ value, result = .ok value ∧ test value = true := by
  cases result with
  | error problem => cases held
  | ok value => exact ⟨value, rfl, held⟩

def problem? : Except ε α → Option ε
  | .ok _ => none
  | .error problem => some problem

theorem exists_of_any_problem {result : Except ε α} {test : ε → Bool}
    (held : (problem? result).any test = true) :
    ∃ problem, result = .error problem ∧ test problem = true := by
  cases result with
  | error problem => exact ⟨problem, rfl, held⟩
  | ok value => cases held

theorem mapM_cons_eq_ok_iff {make : α → Except ε β} {item : α} {rest : List α}
    {results : List β} :
    (item :: rest).mapM make = .ok results ↔
      ∃ first others, make item = .ok first ∧ rest.mapM make = .ok others ∧
        results = first :: others := by
  rw [List.mapM_cons]
  cases first : make item with
  | error problem => simp [bind, Except.bind]
  | ok value =>
      cases others : rest.mapM make with
      | error problem => simp [bind, Except.bind]
      | ok values => simp [bind, Except.bind, pure, Except.pure, eq_comm]

theorem mapM_eq_ok_iff {make : α → Except ε β} {items : List α} {results : List β} :
    items.mapM make = .ok results ↔
      List.Forall₂ (fun item result => make item = .ok result) items results := by
  induction items generalizing results with
  | nil =>
      simp only [List.mapM_nil, pure, Except.pure, Except.ok.injEq, List.forall₂_nil_left_iff]
      exact eq_comm
  | cons item rest ih =>
      simp only [mapM_cons_eq_ok_iff, List.forall₂_cons_left_iff, ih]

theorem exists_of_mem_forall₂ {related : α → β → Prop} {items : List α} {results : List β}
    (all : List.Forall₂ related items results) {result : β} (member : result ∈ results) :
    ∃ item ∈ items, related item result := by
  induction all with
  | nil => cases member
  | cons first _ ih =>
      rcases List.mem_cons.mp member with same | later
      · exact ⟨_, List.mem_cons_self, same ▸ first⟩
      · obtain ⟨item, inside, found⟩ := ih later
        exact ⟨item, List.mem_cons_of_mem _ inside, found⟩

theorem exists_of_mem_mapM {make : α → Except ε β} {items : List α} {results : List β}
    (made : items.mapM make = .ok results) {result : β} (member : result ∈ results) :
    ∃ item ∈ items, make item = .ok result :=
  exists_of_mem_forall₂ (mapM_eq_ok_iff.mp made) member

theorem mapM_id_eq_ok {items : List (Except ε α)} {results : List α}
    (made : items.mapM id = .ok results) : items = results.map .ok := by
  have all := mapM_eq_ok_iff.mp made
  clear made
  induction all with
  | nil => rfl
  | cons first _ ih => exact congrArg₂ List.cons first ih

theorem exists_mapM_eq_ok_iff {make : α → Except ε β} {items : List α} :
    (∃ results, items.mapM make = .ok results) ↔ ∀ item ∈ items, ∃ result, make item = .ok result := by
  induction items with
  | nil => simp [pure, Except.pure]
  | cons item rest ih =>
      simp only [mapM_cons_eq_ok_iff, List.forall_mem_cons, ← ih]
      constructor
      · rintro ⟨_, first, others, made, later, _⟩
        exact ⟨⟨first, made⟩, others, later⟩
      · rintro ⟨⟨first, made⟩, others, later⟩
        exact ⟨_, first, others, made, later, rfl⟩

theorem exists_of_mapM_eq_error {make : α → Except ε β} {items : List α} {problem : ε}
    (failed : items.mapM make = .error problem) : ∃ item ∈ items, make item = .error problem := by
  induction items with
  | nil => cases failed
  | cons item rest ih =>
      rw [List.mapM_cons] at failed
      cases made : make item with
      | error other =>
          rw [made] at failed
          cases failed
          exact ⟨item, List.mem_cons_self, made⟩
      | ok result =>
          cases later : rest.mapM make with
          | error other =>
              simp only [made, later, bind, Except.bind] at failed
              cases failed
              obtain ⟨found, member, wrong⟩ := ih later
              exact ⟨found, List.mem_cons_of_mem _ member, wrong⟩
          | ok results => simp [made, later, bind, Except.bind, pure, Except.pure] at failed

theorem mapM_append_eq_ok_iff {make : α → Except ε β} {before after : List α} {results : List β} :
    (before ++ after).mapM make = .ok results ↔ ∃ first second, before.mapM make = .ok first ∧
      after.mapM make = .ok second ∧ results = first ++ second := by
  induction before generalizing results with
  | nil => simp [pure, Except.pure]
  | cons item rest ih =>
      simp only [List.cons_append, mapM_cons_eq_ok_iff, ih]
      constructor
      · rintro ⟨made, _, found, ⟨others, second, all, later, rfl⟩, rfl⟩
        exact ⟨made :: others, second, ⟨made, others, found, all, rfl⟩, later, rfl⟩
      · rintro ⟨_, second, ⟨made, others, found, all, rfl⟩, later, rfl⟩
        exact ⟨made, others ++ second, found, ⟨others, second, all, later, rfl⟩, rfl⟩

theorem mapM_eq_error {make : α → Except ε β} {before after : List α} {item : α} {problem : ε}
    (earlier : ∀ other ∈ before, ∃ result, make other = .ok result)
    (fails : make item = .error problem) :
    (before ++ item :: after).mapM make = .error problem := by
  induction before with
  | nil => rw [List.nil_append, List.mapM_cons, fails]; rfl
  | cons first rest ih =>
      obtain ⟨⟨result, made⟩, later⟩ := List.forall_mem_cons.mp earlier
      rw [List.cons_append, List.mapM_cons, made, ih later]
      rfl

theorem exists_first_failure {holds : List α → Prop} {items : List α} (start : holds [])
    (fails : ¬ holds items) : ∃ before item after, items = before ++ item :: after ∧
      holds before ∧ ¬ holds (before ++ [item]) := by
  induction items using List.reverseRecOn with
  | nil => exact absurd start fails
  | append_singleton items last ih =>
      by_cases further : holds items
      · exact ⟨items, last, [], rfl, further, fails⟩
      · obtain ⟨before, item, after, same, kept, stops⟩ := ih further
        refine ⟨before, item, after ++ [last], ?_, kept, stops⟩
        rw [same, List.append_assoc, List.cons_append]

theorem exists_first_not {holds : α → Prop} {items : List α} (fails : ¬ ∀ item ∈ items, holds item) :
    ∃ before item after, items = before ++ item :: after ∧
      (∀ other ∈ before, holds other) ∧ ¬ holds item := by
  obtain ⟨before, item, after, same, earlier, stops⟩ :=
    @exists_first_failure _ (∀ item ∈ ·, holds item) _ (List.forall_mem_nil _) fails
  refine ⟨before, item, after, same, earlier, fun held => stops ?_⟩
  exact List.forall_mem_append.mpr ⟨earlier, List.forall_mem_singleton.mpr held⟩

theorem mapM_congr {make other : α → Except ε β} {items : List α}
    (same : ∀ item ∈ items, make item = other item) : items.mapM make = items.mapM other := by
  induction items with
  | nil => rfl
  | cons item rest ih =>
      rw [List.mapM_cons, List.mapM_cons, same item List.mem_cons_self,
        ih fun item member => same item (List.mem_cons_of_mem _ member)]

end Result

end TokenGrammar
