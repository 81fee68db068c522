import TokenGrammar.Registry.Evaluation
/-!
The matchers that stand inside a matcher. A matcher is honest if no claim stands inside it, and plain if
neither a claim nor a compiler does: plain matchers are what bodies of rules are compiled to.
-/

namespace TokenGrammar

namespace Matcher

inductive Part : Matcher → Matcher → Prop
  | whole {matcher : Matcher} : Part matcher matcher
  | element {part : Matcher} {element : Matcher × Option String}
      {elements : List (Matcher × Option String)} (member : element ∈ elements)
      (inside : Part part element.1) : Part part (.sequence elements)
  | alternative {part alternative : Matcher} {alternatives : List Matcher}
      (member : alternative ∈ alternatives) (inside : Part part alternative) :
      Part part (.choice alternatives)
  | repeated {part inner : Matcher} {quantifier : Quantifier} (inside : Part part inner) :
      Part part (.repetition quantifier inner)
  | negated {part inner : Matcher} (inside : Part part inner) : Part part (.negation inner)
  | recognizer {part recognizer : Matcher} {kind : FormKind} (inside : Part part recognizer) :
      Part part (.compiler kind recognizer)

theorem Part.trans {inner middle outer : Matcher} (first : Part inner middle)
    (second : Part middle outer) : Part inner outer := by
  induction second with
  | whole => exact first
  | element member _ ih => exact .element member ih
  | alternative member _ ih => exact .alternative member ih
  | repeated _ ih => exact .repeated ih
  | negated _ ih => exact .negated ih
  | recognizer _ ih => exact .recognizer ih

def Throughout (allowed : Matcher → Prop) (matcher : Matcher) : Prop :=
  ∀ part, Part part matcher → allowed part

theorem Throughout.part {allowed : Matcher → Prop} {part whole : Matcher}
    (all : whole.Throughout allowed) (inside : Part part whole) : part.Throughout allowed :=
  fun inner innermost => all inner (innermost.trans inside)

theorem Throughout.imp {allowed permitted : Matcher → Prop} {matcher : Matcher}
    (all : matcher.Throughout allowed) (weaken : ∀ part, allowed part → permitted part) :
    matcher.Throughout permitted :=
  fun part inside => weaken part (all part inside)

def IsLeaf : Matcher → Prop
  | .sequence _ | .choice _ | .repetition .. | .negation _ | .compiler .. => False
  | _ => True

section Shapes

variable {allowed : Matcher → Prop}

theorem throughout_leaf {matcher : Matcher} (leaf : matcher.IsLeaf) (own : allowed matcher) :
    matcher.Throughout allowed := by
  intro part inside
  cases inside with
  | whole => exact own
  | _ => exact leaf.elim

theorem throughout_sequence {elements : List (Matcher × Option String)}
    (own : allowed (.sequence elements))
    (inner : ∀ element ∈ elements, element.1.Throughout allowed) :
    (Matcher.sequence elements).Throughout allowed := by
  intro part inside
  cases inside with
  | whole => exact own
  | element member inside => exact inner _ member _ inside

theorem throughout_choice {alternatives : List Matcher} (own : allowed (.choice alternatives))
    (inner : ∀ alternative ∈ alternatives, alternative.Throughout allowed) :
    (Matcher.choice alternatives).Throughout allowed := by
  intro part inside
  cases inside with
  | whole => exact own
  | alternative member inside => exact inner _ member _ inside

theorem throughout_repetition {quantifier : Quantifier} {matcher : Matcher}
    (own : allowed (.repetition quantifier matcher)) (inner : matcher.Throughout allowed) :
    (Matcher.repetition quantifier matcher).Throughout allowed := by
  intro part inside
  cases inside with
  | whole => exact own
  | repeated inside => exact inner _ inside

theorem throughout_negation {matcher : Matcher} (own : allowed (.negation matcher))
    (inner : matcher.Throughout allowed) : (Matcher.negation matcher).Throughout allowed := by
  intro part inside
  cases inside with
  | whole => exact own
  | negated inside => exact inner _ inside

theorem throughout_compiler {kind : FormKind} {matcher : Matcher}
    (own : allowed (.compiler kind matcher)) (inner : matcher.Throughout allowed) :
    (Matcher.compiler kind matcher).Throughout allowed := by
  intro part inside
  cases inside with
  | whole => exact own
  | recognizer inside => exact inner _ inside

end Shapes

def IsHonest : Matcher → Prop
  | .claim _ => False
  | _ => True

def IsPlain : Matcher → Prop
  | .claim _ => False
  | .compiler .. => False
  | _ => True

abbrev Honest (matcher : Matcher) : Prop := matcher.Throughout IsHonest

abbrev Plain (matcher : Matcher) : Prop := matcher.Throughout IsPlain

theorem isHonest_of_isPlain {matcher : Matcher} (plain : matcher.IsPlain) : matcher.IsHonest := by
  cases matcher with
  | claim _ => exact plain
  | _ => trivial

theorem Plain.honest {matcher : Matcher} (plain : matcher.Plain) : matcher.Honest :=
  plain.imp fun _ => isHonest_of_isPlain

theorem plain_sequenceOf {elements : List (Matcher × Option String)}
    (inner : ∀ element ∈ elements, element.1.Plain) : (sequenceOf elements).Plain := by
  unfold sequenceOf
  split
  · exact inner _ (List.mem_singleton.mpr rfl)
  · exact throughout_sequence trivial inner

theorem plain_choiceOf {alternatives : List Matcher}
    (inner : ∀ alternative ∈ alternatives, alternative.Plain) : (choiceOf alternatives).Plain := by
  unfold choiceOf
  split
  · exact inner _ (List.mem_singleton.mpr rfl)
  · exact throughout_choice trivial inner

theorem depth_le_depthOfElements {element : Matcher × Option String}
    {elements : List (Matcher × Option String)} (member : element ∈ elements) :
    element.1.depth ≤ depthOfElements elements := by
  induction elements with
  | nil => simp at member
  | cons first rest ih =>
      obtain ⟨matcher, name⟩ := first
      simp only [depthOfElements]
      rcases List.mem_cons.mp member with same | later
      · subst same
        exact Nat.le_max_left _ _
      · exact Nat.le_trans (ih later) (Nat.le_max_right _ _)

theorem depth_le_depthOfAll {matcher : Matcher} {matchers : List Matcher}
    (member : matcher ∈ matchers) : matcher.depth ≤ depthOfAll matchers := by
  induction matchers with
  | nil => simp at member
  | cons first rest ih =>
      simp only [depthOfAll]
      rcases List.mem_cons.mp member with same | later
      · subst same
        exact Nat.le_max_left _ _
      · exact Nat.le_trans (ih later) (Nat.le_max_right _ _)

theorem one_le_depth (matcher : Matcher) : 1 ≤ matcher.depth := by
  cases matcher <;> simp [depth]

end Matcher

end TokenGrammar
