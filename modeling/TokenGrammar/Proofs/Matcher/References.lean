import TokenGrammar.Proofs.Matcher.Part
/-!
References read off a matcher: all of them, and those that stand where nothing has to be taken before.
Given a set of rules that are known to take a token, both can be computed without a registry.
-/

namespace TokenGrammar

namespace Matcher

mutual

def references : Matcher → List String
  | .rule name => [name]
  | .sequence elements => referencesOfElements elements
  | .choice alternatives => referencesOfAll alternatives
  | .repetition _ inner => inner.references
  | .negation inner => inner.references
  | .compiler _ recognizer => recognizer.references
  | _ => []

def referencesOfElements : List (Matcher × Option String) → List String
  | [] => []
  | (matcher, _) :: rest => matcher.references ++ referencesOfElements rest

def referencesOfAll : List Matcher → List String
  | [] => []
  | matcher :: rest => matcher.references ++ referencesOfAll rest

end

theorem references_subset_of_element {element : Matcher × Option String}
    {elements : List (Matcher × Option String)} (member : element ∈ elements) :
    element.1.references ⊆ referencesOfElements elements := by
  induction elements with
  | nil => cases member
  | cons first rest ih =>
      obtain ⟨matcher, name⟩ := first
      unfold referencesOfElements
      rcases List.mem_cons.mp member with here | later
      · rw [here]
        exact List.subset_append_left _ _
      · exact List.Subset.trans (ih later) (List.subset_append_right _ _)

theorem references_subset_of_alternative {alternative : Matcher} {alternatives : List Matcher}
    (member : alternative ∈ alternatives) :
    alternative.references ⊆ referencesOfAll alternatives := by
  induction alternatives with
  | nil => cases member
  | cons first rest ih =>
      unfold referencesOfAll
      rcases List.mem_cons.mp member with here | later
      · rw [here]
        exact List.subset_append_left _ _
      · exact List.Subset.trans (ih later) (List.subset_append_right _ _)

theorem references_subset_of_part {part whole : Matcher} (inside : Part part whole) :
    part.references ⊆ whole.references := by
  induction inside with
  | whole => exact List.Subset.refl _
  | element member _ ih => exact List.Subset.trans ih (references_subset_of_element member)
  | alternative member _ ih => exact List.Subset.trans ih (references_subset_of_alternative member)
  | repeated _ ih => exact ih
  | negated _ ih => exact ih
  | recognizer _ ih => exact ih

theorem mem_references_of_part {name : String} {matcher : Matcher}
    (inside : Part (.rule name) matcher) : name ∈ matcher.references :=
  references_subset_of_part inside List.mem_cons_self

section First

variable (taking : String → Bool)

mutual

/-- The matcher takes a token whenever it succeeds, if the rules of a set do. -/
def takes : Matcher → Bool
  | .literal _ | .tokenIf .. | .compiler .. => true
  | .rule name => taking name
  | .sequence elements => takesSome elements
  | .choice alternatives => takesAlways alternatives
  | .repetition quantifier inner => quantifier.least != 0 && inner.takes
  | .text content => content != ""
  | .endOfInput | .negation _ | .predicate _ | .claim _ => false

def takesSome : List (Matcher × Option String) → Bool
  | [] => false
  | (matcher, _) :: rest => matcher.takes || takesSome rest

def takesAlways : List Matcher → Bool
  | [] => true
  | matcher :: rest => matcher.takes && takesAlways rest

end

mutual

/-- The rules that a matcher may come to before it takes a token. -/
def firsts : Matcher → List String
  | .rule name => [name]
  | .sequence elements => firstsOfElements elements
  | .choice alternatives => firstsOfAll alternatives
  | .repetition _ inner => inner.firsts
  | .negation inner => inner.firsts
  | .compiler _ recognizer => recognizer.firsts
  | _ => []

def firstsOfElements : List (Matcher × Option String) → List String
  | [] => []
  | (matcher, _) :: rest =>
      matcher.firsts ++ if matcher.takes taking then [] else firstsOfElements rest

def firstsOfAll : List Matcher → List String
  | [] => []
  | matcher :: rest => matcher.firsts ++ firstsOfAll rest

end

variable {taking}

theorem takesSome_eq_false {elements : List (Matcher × Option String)}
    (all : ∀ element ∈ elements, element.1.takes taking = false) :
    takesSome taking elements = false := by
  induction elements with
  | nil => rfl
  | cons first rest ih =>
      obtain ⟨matcher, name⟩ := first
      unfold takesSome
      rw [all (matcher, name) List.mem_cons_self, Bool.false_or]
      exact ih fun element member => all element (List.mem_cons_of_mem _ member)

theorem takesAlways_eq_false {alternative : Matcher} {alternatives : List Matcher}
    (member : alternative ∈ alternatives) (none : alternative.takes taking = false) :
    takesAlways taking alternatives = false := by
  induction alternatives with
  | nil => cases member
  | cons first rest ih =>
      unfold takesAlways
      rcases List.mem_cons.mp member with here | later
      · rw [← here, none, Bool.false_and]
      · rw [ih later, Bool.and_false]

theorem mem_firstsOfElements {before after : List (Matcher × Option String)}
    {element : Matcher × Option String} {name : String}
    (none : ∀ earlier ∈ before, earlier.1.takes taking = false)
    (first : name ∈ element.1.firsts taking) :
    name ∈ firstsOfElements taking (before ++ element :: after) := by
  induction before with
  | nil =>
      obtain ⟨matcher, label⟩ := element
      rw [List.nil_append, firstsOfElements]
      exact List.mem_append_left _ first
  | cons earlier before ih =>
      obtain ⟨matcher, label⟩ := earlier
      rw [List.cons_append, firstsOfElements, none (matcher, label) List.mem_cons_self]
      exact List.mem_append_right _ (ih fun other member => none other (List.mem_cons_of_mem _ member))

theorem mem_firstsOfAll {alternative : Matcher} {alternatives : List Matcher} {name : String}
    (member : alternative ∈ alternatives) (first : name ∈ alternative.firsts taking) :
    name ∈ firstsOfAll taking alternatives := by
  induction alternatives with
  | nil => cases member
  | cons other rest ih =>
      unfold firstsOfAll
      rcases List.mem_cons.mp member with here | later
      · rw [← here]
        exact List.mem_append_left _ first
      · exact List.mem_append_right _ (ih later)

end First

end Matcher

end TokenGrammar
