import TokenGrammar.NameMap
import TokenGrammar.Token
/-!
Bindings: the tokens captured under each name while a match goes on. Most matches capture nothing or one
thing, which needs no map.
-/

namespace TokenGrammar

inductive Bindings where
  | empty
  | single (name : String) (value : List Token)
  | several (map : NameMap (List Token))

namespace Bindings

instance : EmptyCollection Bindings := ⟨empty⟩

instance : Inhabited Bindings := ⟨empty⟩

def get? (bindings : Bindings) (name : String) : Option (List Token) :=
  match bindings with
  | .empty => none
  | .single found value => if found = name then some value else none
  | .several map => map.get? name

def bind (bindings : Bindings) (name : String) (value : List Token) : Bindings :=
  match bindings with
  | .empty => .single name value
  | .single found old =>
      if same : found = name then .single name value
      else .several ⟨[(found, old), (name, value)], by simpa using same⟩
  | .several map => .several (map.set name value)

def entries : Bindings → List (String × List Token)
  | .empty => []
  | .single name value => [(name, value)]
  | .several map => map.entries

def names (bindings : Bindings) : List String := bindings.entries.map Prod.fst

def size : Bindings → Nat
  | .empty => 0
  | .single .. => 1
  | .several map => map.size

def isEmpty : Bindings → Bool
  | .empty => true
  | _ => false

/-- Equality regardless of order: as many names on both sides, and equal values for those of the
left side. -/
def equals (left right : Bindings) : Bool :=
  left.size == right.size &&
    left.entries.all fun (name, value) =>
      match right.get? name with
      | some other => Token.equalsAll value other
      | none => false

end Bindings

end TokenGrammar
