import TokenGrammar.Bindings
import TokenGrammar.Proofs.NameMap
/-!
Bindings as a map. However few or many names are bound, binding a name and looking one up are what they
are for the list of entries.
-/

namespace TokenGrammar

namespace Bindings

theorem nodup_names (bindings : Bindings) : bindings.names.Nodup := by
  cases bindings with
  | empty => exact List.nodup_nil
  | single name value => exact List.nodup_singleton name
  | several map => exact map.distinct

def toMap (bindings : Bindings) : NameMap (List Token) := ⟨bindings.entries, bindings.nodup_names⟩

theorem entries_bind (bindings : Bindings) (name : String) (value : List Token) :
    (bindings.bind name value).entries = NameMap.setIn name value bindings.entries := by
  cases bindings with
  | empty => rfl
  | single found old =>
      by_cases same : found = name <;> simp [bind, entries, NameMap.setIn, same]
  | several map => rfl

theorem toMap_bind (bindings : Bindings) (name : String) (value : List Token) :
    (bindings.bind name value).toMap = bindings.toMap.set name value := by
  simp only [toMap, NameMap.set, entries_bind]

theorem get?_toMap (bindings : Bindings) (name : String) :
    bindings.toMap.get? name = bindings.get? name := by
  cases bindings with
  | empty => rfl
  | single found value =>
      simp only [toMap, NameMap.get?, entries, NameMap.lookup_cons_eq_ite, get?, eq_comm (a := name)]
      rfl
  | several map => rfl

theorem get?_bind (bindings : Bindings) (name : String) (value : List Token) (other : String) :
    (bindings.bind name value).get? other =
      if other = name then some value else bindings.get? other := by
  rw [← get?_toMap, toMap_bind, NameMap.get?_set, get?_toMap]

theorem names_bind (bindings : Bindings) (name : String) (value : List Token) :
    (bindings.bind name value).names =
      if name ∈ bindings.names then bindings.names else bindings.names ++ [name] := by
  rw [names, entries_bind, NameMap.names_setIn]
  rfl

theorem names_prefix_names_bind (bindings : Bindings) (name : String) (value : List Token) :
    bindings.names <+: (bindings.bind name value).names := by
  rw [names_bind]
  split
  · exact List.prefix_refl _
  · exact List.prefix_append _ _

theorem mem_entries_iff {bindings : Bindings} {name : String} {value : List Token} :
    (name, value) ∈ bindings.entries ↔ bindings.get? name = some value := by
  rw [← get?_toMap, NameMap.get?_eq_some_iff]
  rfl

theorem mem_names_iff {bindings : Bindings} {name : String} :
    name ∈ bindings.names ↔ ∃ value, bindings.get? name = some value := by
  simp only [names, List.mem_map, Prod.exists, mem_entries_iff, exists_and_right, exists_eq_right]

theorem size_eq_length (bindings : Bindings) : bindings.size = bindings.names.length := by
  cases bindings <;> simp [size, names, entries, NameMap.size]

end Bindings

end TokenGrammar
