/-!
Maps from names that keep the order in which the names were first added. Names are distinct, and a new
value for a name replaces the old one in its place.
-/

namespace TokenGrammar

structure NameMap (α : Type) where
  entries : List (String × α)
  distinct : (entries.map Prod.fst).Nodup

namespace NameMap

variable {α : Type}

def empty : NameMap α := ⟨[], List.nodup_nil⟩

instance : EmptyCollection (NameMap α) := ⟨empty⟩

instance : Inhabited (NameMap α) := ⟨empty⟩

def get? (map : NameMap α) (name : String) : Option α := map.entries.lookup name

def contains (map : NameMap α) (name : String) : Bool := (map.get? name).isSome

def size (map : NameMap α) : Nat := map.entries.length

def isEmpty (map : NameMap α) : Bool := map.entries.isEmpty

def names (map : NameMap α) : List String := map.entries.map Prod.fst

def sortedNames (map : NameMap α) : List String :=
  map.names.mergeSort fun first second => decide (first ≤ second)

/-- Sets the value of a name in its place, or adds it behind the others. -/
def setIn (name : String) (value : α) : List (String × α) → List (String × α)
  | [] => [(name, value)]
  | (found, old) :: rest =>
      if found = name then (name, value) :: rest else (found, old) :: setIn name value rest

theorem mem_names_setIn {name other : String} {value : α} {entries : List (String × α)} :
    other ∈ (setIn name value entries).map Prod.fst ↔
      other = name ∨ other ∈ entries.map Prod.fst := by
  induction entries with
  | nil => simp [setIn]
  | cons entry rest ih =>
      obtain ⟨found, old⟩ := entry
      unfold setIn
      split
      next same => simp [same]
      next =>
        simp only [List.map_cons, List.mem_cons, ih]
        constructor
        · rintro (first | named | later)
          · exact .inr (.inl first)
          · exact .inl named
          · exact .inr (.inr later)
        · rintro (named | first | later)
          · exact .inr (.inl named)
          · exact .inl first
          · exact .inr (.inr later)

theorem nodup_setIn {name : String} {value : α} {entries : List (String × α)}
    (distinct : (entries.map Prod.fst).Nodup) :
    ((setIn name value entries).map Prod.fst).Nodup := by
  induction entries with
  | nil => simp [setIn]
  | cons entry rest ih =>
      obtain ⟨found, old⟩ := entry
      have parts := List.nodup_cons.mp distinct
      unfold setIn
      split
      next same => simpa [same] using parts
      next different =>
        refine List.nodup_cons.mpr ⟨?_, ih parts.2⟩
        rw [mem_names_setIn]
        rintro (named | later)
        · exact different named
        · exact parts.1 later

def set (map : NameMap α) (name : String) (value : α) : NameMap α :=
  ⟨setIn name value map.entries, nodup_setIn map.distinct⟩

def ofList (entries : List (String × α)) : NameMap α :=
  entries.foldl (fun map (name, value) => map.set name value) ∅

end NameMap

end TokenGrammar
