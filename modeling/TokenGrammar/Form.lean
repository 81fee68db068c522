import TokenGrammar.Predicate.Function
/-!
Forms: what the elements of a grammar can be. A form is an atom with any number of negations in front
and at most one quantifier behind. Each kind of form has a rule that recognises it, named here.
-/

namespace TokenGrammar

inductive Quantifier where
  | oneOrMore
  | zeroOrMore
  | optional
  deriving DecidableEq, Repr

namespace Quantifier

def label : Quantifier → String
  | .oneOrMore => "one-or-more"
  | .zeroOrMore => "zero-or-more"
  | .optional => "optional"

def marker : Quantifier → String
  | .oneOrMore => "+"
  | .zeroOrMore => "*"
  | .optional => "?"

def all : List Quantifier := [.oneOrMore, .zeroOrMore, .optional]

def ofToken? (token : Token) : Option Quantifier :=
  all.find? fun quantifier => token.isNamed quantifier.marker

def least : Quantifier → Nat
  | .oneOrMore => 1
  | _ => 0

def most : Quantifier → Option Nat
  | .optional => some 1
  | _ => none

end Quantifier

inductive FormKind where
  | quantified (quantifier : Quantifier)
  | negated
  | predicate
  | group
  | reference
  | text
  | literal
  deriving DecidableEq, Repr

def FormKind.compiler : FormKind → String
  | .quantified quantifier => quantifier.label
  | .negated => "not"
  | .predicate => "predicate"
  | .group => "parenthesis"
  | .reference => "rule-match"
  | .text => "string-match"
  | .literal => "literal-match"

inductive Atom where
  | predicate (call : Token)
  | group (items : List Token)
  | reference (name : String)
  | text (content : String)
  | literal (expected : Token)

namespace Atom

def kind : Atom → FormKind
  | .predicate _ => .predicate
  | .group _ => .group
  | .reference _ => .reference
  | .text _ => .text
  | .literal _ => .literal

/-- A call of a known function is a predicate before it is anything else, and a quoted token is a
literal before it is a group. Reserved symbols mean nothing by themselves. -/
def ofToken? (functions : FunctionTable) (token : Token) : Option Atom :=
  if functions.isCall token then some (.predicate token)
  else
    match token.quoted? with
    | some quoted => some (.literal quoted)
    | none =>
        match token with
        | .group _ items => some (.group items)
        | .symbol name => if token.isReserved then none else some (.reference name)
        | .text content => some (.text content)
        | _ => some (.literal token)

end Atom

structure Form where
  negations : Nat
  atom : Atom
  quantifier : Option Quantifier

namespace Form

def negation : String := "--"

def plainOf? (functions : FunctionTable) : List Token → Option (Nat × Atom)
  | [] => none
  | [token] => (Atom.ofToken? functions token).map fun atom => (0, atom)
  | token :: rest =>
      if token.isNamed negation then
        (plainOf? functions rest).map fun (count, atom) => (count + 1, atom)
      else none

def ofTokens? (functions : FunctionTable) (tokens : List Token) : Option Form :=
  match tokens.getLast?.bind Quantifier.ofToken? with
  | some quantifier =>
      (plainOf? functions tokens.dropLast).map fun (count, atom) => ⟨count, atom, some quantifier⟩
  | none => (plainOf? functions tokens).map fun (count, atom) => ⟨count, atom, none⟩

def kind (form : Form) : FormKind :=
  match form.quantifier with
  | some quantifier => .quantified quantifier
  | none => if form.negations = 0 then form.atom.kind else .negated

end Form

def FormKind.classify (functions : FunctionTable) (tokens : List Token) : Option FormKind :=
  (Form.ofTokens? functions tokens).map Form.kind

end TokenGrammar
