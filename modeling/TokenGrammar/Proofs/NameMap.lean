import Mathlib.Data.List.Sort
import Mathlib.Data.String.Basic
import TokenGrammar.NameMap
/-!
What setting a name does to the names and values of a map, and which values a map made from a list has.
-/

namespace TokenGrammar

namespace NameMap

variable {α : Type}

theorem lookup_cons_eq_ite (found : String) (old : α) (rest : List (String × α)) (other : String) :
    ((found, old) :: rest).lookup other = if other = found then some old else rest.lookup other := by
  rw [List.lookup_cons]
  by_cases same : other = found
  · simp [same]
  · rw [beq_eq_false_iff_ne.mpr same, if_neg same]

theorem get?_eq_some_iff {map : NameMap α} {name : String} {value : α} :
    map.get? name = some value ↔ (name, value) ∈ map.entries := by
  obtain ⟨entries, distinct⟩ := map
  simp only [get?]
  induction entries with
  | nil => simp
  | cons entry rest ih =>
      obtain ⟨found, old⟩ := entry
      have parts := List.nodup_cons.mp distinct
      rw [lookup_cons_eq_ite]
      by_cases same : name = found
      · subst same
        simp only [if_true, Option.some.injEq, List.mem_cons, Prod.mk.injEq, true_and]
        constructor
        · intro equal
          exact .inl equal.symm
        · rintro (equal | later)
          · exact equal.symm
          · exact absurd (List.mem_map_of_mem (f := Prod.fst) later) parts.1
      · simp only [same, if_false, List.mem_cons, Prod.mk.injEq, false_and, false_or]
        exact ih parts.2

theorem contains_iff {map : NameMap α} {name : String} :
    map.contains name = true ↔ name ∈ map.names := by
  simp only [contains, Option.isSome_iff_exists, get?_eq_some_iff, names, List.mem_map, Prod.exists]
  constructor
  · rintro ⟨value, member⟩
    exact ⟨name, value, member, rfl⟩
  · rintro ⟨found, value, member, same⟩
    subst same
    exact ⟨value, member⟩

theorem lookup_setIn (name : String) (value : α) (entries : List (String × α)) (other : String) :
    (setIn name value entries).lookup other =
      if other = name then some value else entries.lookup other := by
  induction entries with
  | nil => exact lookup_cons_eq_ite name value [] other
  | cons entry rest ih =>
      obtain ⟨found, old⟩ := entry
      unfold setIn
      by_cases same : found = name
      · subst same
        simp only [if_true, lookup_cons_eq_ite]
        split <;> rfl
      · simp only [same, if_false, lookup_cons_eq_ite, ih]
        by_cases equal : other = found
        · subst equal
          simp [same]
        · simp [equal]

theorem get?_set (map : NameMap α) (name : String) (value : α) (other : String) :
    (map.set name value).get? other = if other = name then some value else map.get? other :=
  lookup_setIn name value map.entries other

theorem names_setIn (name : String) (value : α) (entries : List (String × α)) :
    (setIn name value entries).map Prod.fst =
      if name ∈ entries.map Prod.fst then entries.map Prod.fst
      else entries.map Prod.fst ++ [name] := by
  induction entries with
  | nil => simp [setIn]
  | cons entry rest ih =>
      obtain ⟨found, old⟩ := entry
      unfold setIn
      by_cases same : found = name
      · simp [same]
      · have different : name ≠ found := Ne.symm same
        simp only [same, if_false, List.map_cons, ih, List.mem_cons, different, false_or]
        split <;> simp

theorem names_prefix_names_set (map : NameMap α) (name : String) (value : α) :
    map.names <+: (map.set name value).names := by
  unfold names set
  rw [names_setIn]
  split
  · exact List.prefix_refl _
  · exact List.prefix_append _ _

theorem setIn_of_not_mem {name : String} {value : α} {entries : List (String × α)}
    (new : name ∉ entries.map Prod.fst) : setIn name value entries = entries ++ [(name, value)] := by
  induction entries with
  | nil => rfl
  | cons entry rest ih =>
      obtain ⟨found, old⟩ := entry
      simp only [List.map_cons, List.mem_cons, not_or] at new
      unfold setIn
      rw [if_neg (Ne.symm new.1), ih new.2]
      rfl

theorem entries_set_of_not_contains {map : NameMap α} {name : String} {value : α}
    (new : map.contains name = false) : (map.set name value).entries = map.entries ++ [(name, value)] := by
  apply setIn_of_not_mem
  intro member
  rw [contains_iff.mpr member] at new
  exact Bool.noConfusion new

theorem mem_of_mem_setIn {entry : String × α} {name : String} {value : α}
    {entries : List (String × α)} (member : entry ∈ setIn name value entries) :
    entry = (name, value) ∨ entry ∈ entries := by
  induction entries with
  | nil => exact .inl (List.mem_singleton.mp member)
  | cons first rest ih =>
      obtain ⟨found, old⟩ := first
      unfold setIn at member
      split at member
      · exact (List.mem_cons.mp member).imp_right (List.mem_cons_of_mem _)
      · rcases List.mem_cons.mp member with here | later
        · exact .inr (here ▸ List.mem_cons_self)
        · exact (ih later).imp_right (List.mem_cons_of_mem _)

theorem mem_of_mem_foldl_set {entry : String × α} {entries : List (String × α)} {map : NameMap α}
    (member : entry ∈ (entries.foldl (fun map (name, value) => map.set name value) map).entries) :
    entry ∈ map.entries ∨ entry ∈ entries := by
  induction entries generalizing map with
  | nil => exact .inl member
  | cons first rest ih =>
      rcases ih member with set | later
      · refine (mem_of_mem_setIn set).symm.imp_right fun here => ?_
        rw [here]
        exact List.mem_cons_self
      · exact .inr (List.mem_cons_of_mem _ later)

theorem mem_of_mem_ofList {entry : String × α} {entries : List (String × α)}
    (member : entry ∈ (ofList entries).entries) : entry ∈ entries :=
  (mem_of_mem_foldl_set member).resolve_left List.not_mem_nil

theorem entries_foldl_set {entries : List (String × α)} {map : NameMap α}
    (distinct : ((map.entries ++ entries).map Prod.fst).Nodup) :
    (entries.foldl (fun map (name, value) => map.set name value) map).entries =
      map.entries ++ entries := by
  induction entries generalizing map with
  | nil => simp
  | cons entry rest ih =>
      obtain ⟨name, value⟩ := entry
      have new : map.contains name = false := by
        rw [Bool.eq_false_iff]
        intro known
        rw [List.map_append, List.nodup_append] at distinct
        exact distinct.2.2 name (contains_iff.mp known) name (by simp) rfl
      have extended : (map.set name value).entries = map.entries ++ [(name, value)] :=
        entries_set_of_not_contains new
      rw [List.foldl_cons, ih]
      · rw [extended, List.append_assoc, List.singleton_append]
      · rw [extended, List.append_assoc, List.singleton_append]
        exact distinct

theorem mem_sortedNames {map : NameMap α} {name : String} :
    name ∈ map.sortedNames ↔ name ∈ map.names :=
  List.mem_mergeSort

theorem pairwise_sortedNames (map : NameMap α) : map.sortedNames.Pairwise (· < ·) := by
  have ordered : map.sortedNames.Pairwise (· ≤ ·) := List.pairwise_mergeSort' (· ≤ ·) map.names
  have distinct : map.sortedNames.Nodup := (List.mergeSort_perm _ _).nodup_iff.mpr map.distinct
  exact (ordered.and distinct).imp fun both => lt_of_le_of_ne both.1 both.2

theorem sortedNames_eq_of_perm {map other : NameMap α} (perm : map.names.Perm other.names) :
    map.sortedNames = other.sortedNames := by
  refine List.Pairwise.eq_of_mem_iff map.pairwise_sortedNames other.pairwise_sortedNames ?_
  intro name
  rw [mem_sortedNames, mem_sortedNames, perm.mem_iff]

theorem entries_ofList {entries : List (String × α)} (distinct : (entries.map Prod.fst).Nodup) :
    (ofList entries).entries = entries :=
  @entries_foldl_set _ entries empty distinct

end NameMap

end TokenGrammar
