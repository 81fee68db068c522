import TokenGrammar.Registry.Builder
import TokenGrammar.Registry.Evaluation
/-!
The core rules: tests of single tokens, the grammar of rule bodies in its own notation, and the rules
that compile forms. The grammar and the recognizers are given as texts, and as the tokens that they read
as; `Builder.describe` registers them from the texts.
-/

namespace TokenGrammar

namespace Core

def testRule (name : String) (test : TokenTest) : String × Recipe :=
  (name, .ready (.tokenIf name test))

def primitives : List (String × Recipe) := [
  testRule "anything" .anything,
  testRule "variable" .symbol,
  testRule "symbol" .symbol,
  testRule "string" .text,
  testRule "atom" .atomic,
  testRule "list" (.group .round),
  testRule "vec" (.group .square),
  testRule "keyword" .reserved,
  testRule "number" .number,
  testRule "char" .character,
  testRule "boolean" .boolean,
  testRule "quoted" .quoted,
  ("end", .ready .endOfInput),
  testRule "predicate-call" .call] ++
  Token.reserved.map fun marker => (marker, .ready (.literal (.symbol marker)))

/-- The grammar of rule bodies, in its own notation, part by part. -/
def grammarParts : List String := [
  "",
  "; A symbol that names a rule",
  "(rule rule-reference [-- keyword symbol])",
  "",
  "; Forms matched by equality",
  "(rule literal [number / char / boolean / quoted])",
  "",
  "; A bracketed or parenthesised sub-sequence; a call to a known function is a",
  "; predicate instead",
  "(rule group [vec / -- predicate-call -- quoted list])",
  "",
  "(rule rule-element-atomic\n" ++
    "  [predicate-call / group / rule-reference / string / literal / '-- rule-element-atomic])",
  "",
  "(rule quantifier ['+ / '* / '?])",
  "",
  "(rule rule-element [rule-element-atomic quantifier / rule-element-atomic])",
  "",
  "(rule binding ['=> rule-reference => name])",
  ""]

def grammarText : String := "\n".intercalate grammarParts

/-- The texts of the recognizers. Every compiling rule accepts exactly one complete form. -/
def recognizerTexts : List (FormKind × String) := [
  (.reference, "rule-reference end"),
  (.text, "string end"),
  (.literal, "literal end"),
  (.predicate, "predicate-call end"),
  (.group, "group end"),
  (.quantified .oneOrMore, "rule-element-atomic '+ end"),
  (.quantified .zeroOrMore, "rule-element-atomic '* end"),
  (.quantified .optional, "rule-element-atomic '? end"),
  (.negated, "'-- rule-element-atomic end")]

def definitions : List Definition := [
  ⟨"rule-reference", [.symbol "--", .symbol "keyword", .symbol "symbol"]⟩,
  ⟨"literal", [.symbol "number", .symbol "/", .symbol "char", .symbol "/", .symbol "boolean",
    .symbol "/", .symbol "quoted"]⟩,
  ⟨"group", [.symbol "vec", .symbol "/", .symbol "--", .symbol "predicate-call", .symbol "--",
    .symbol "quoted", .symbol "list"]⟩,
  ⟨"rule-element-atomic", [.symbol "predicate-call", .symbol "/", .symbol "group", .symbol "/",
    .symbol "rule-reference", .symbol "/", .symbol "string", .symbol "/", .symbol "literal",
    .symbol "/", (Token.symbol "--").quote, .symbol "rule-element-atomic"]⟩,
  ⟨"quantifier", [(Token.symbol "+").quote, .symbol "/", (Token.symbol "*").quote, .symbol "/",
    (Token.symbol "?").quote]⟩,
  ⟨"rule-element", [.symbol "rule-element-atomic", .symbol "quantifier", .symbol "/",
    .symbol "rule-element-atomic"]⟩,
  ⟨"binding", [(Token.symbol "=>").quote, .symbol "rule-reference", .symbol "=>",
    .symbol "name"]⟩]

def recognizers : List (FormKind × List Token) := [
  (.reference, [.symbol "rule-reference", .symbol "end"]),
  (.text, [.symbol "string", .symbol "end"]),
  (.literal, [.symbol "literal", .symbol "end"]),
  (.predicate, [.symbol "predicate-call", .symbol "end"]),
  (.group, [.symbol "group", .symbol "end"]),
  (.quantified .oneOrMore,
    [.symbol "rule-element-atomic", (Token.symbol "+").quote, .symbol "end"]),
  (.quantified .zeroOrMore,
    [.symbol "rule-element-atomic", (Token.symbol "*").quote, .symbol "end"]),
  (.quantified .optional,
    [.symbol "rule-element-atomic", (Token.symbol "?").quote, .symbol "end"]),
  (.negated, [(Token.symbol "--").quote, .symbol "rule-element-atomic", .symbol "end"])]

def selfDescription : List (String × Recipe) :=
  definitions.map Builder.recipeOf ++
    recognizers.map fun (kind, recognizer) => (kind.compiler, .compiler kind recognizer)

end Core

def Builder.registerCompilers : Builder → List (FormKind × String) → Builder × Option GrammarError
  | builder, [] => (builder, none)
  | builder, (kind, text) :: rest =>
      match read text with
      | .error problem => (builder, some (.unreadable problem))
      | .ok recognizer =>
          match builder.register kind.compiler (.compiler kind recognizer) with
          | .ok next => registerCompilers next rest
          | .error problem => (builder, some problem)

def Builder.describeBy (builder : Builder) (grammar : String) (compilers : List (FormKind × String)) :
    Builder × Option GrammarError :=
  match builder.defineAll grammar with
  | (next, .ok _) => next.registerCompilers compilers
  | (next, .error problem) => (next, some problem)

def Builder.describe (builder : Builder) : Builder × Option GrammarError :=
  builder.describeBy Core.grammarText Core.recognizerTexts

def Builder.withCore (builder : Builder) : Except GrammarError Builder :=
  (Builder.orError (builder.registerAll Core.primitives)).bind fun next => Builder.orError next.describe

namespace Registry

def accepts (registry : Registry) (body : List Token) : Bool :=
  match registry.compile body with
  | .succeeded _ => true
  | _ => false

def verifyCompilers (registry : Registry) : List (FormKind × String) → Except GrammarError Unit
  | [] => .ok ()
  | (kind, text) :: rest =>
      match read text with
      | .error problem => .error (.unreadable problem)
      | .ok recognizer =>
          if registry.accepts recognizer then registry.verifyCompilers rest
          else .error (.notSelfDescribed kind.compiler)

def verifyBy (registry : Registry) (grammar : String) (compilers : List (FormKind × String)) :
    Except GrammarError Unit :=
  match readDefinitions grammar with
  | .error problem => .error problem
  | .ok definitions =>
      match definitions.find? fun definition => !registry.accepts definition.body with
      | some definition => .error (.notSelfDescribed definition.name)
      | none => registry.verifyCompilers compilers

def verify (registry : Registry) : Except GrammarError Unit :=
  registry.verifyBy Core.grammarText Core.recognizerTexts

end Registry

end TokenGrammar
