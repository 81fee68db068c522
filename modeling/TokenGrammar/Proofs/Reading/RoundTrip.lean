import TokenGrammar.Proofs.Reading.Lexing
import TokenGrammar.Proofs.Reading.Scan
import TokenGrammar.Proofs.Token.Leaves
/-!
Reading what is written. A text is read in two passes: the lexemes of written tokens are found one behind
the other, and the tokens are derived from them again. The places of lexemes do not matter.
-/

namespace TokenGrammar

namespace Reading

section Lexing

theorem Lexes.space {text : List Char} {lexemes : List Lexeme} (lexes : Lexes text lexemes) :
    Lexes (' ' :: text) lexemes := by
  have skipped : (' ' :: text).drop (blankLength false (' ' :: text)) =
      text.drop (blankLength false text) := by
    have blank : Text.isBlank ' ' = true := by decide
    simp [blankLength, blank]
  cases lexes with
  | ended blank => exact .ended (skipped.trans blank)
  | next found more later =>
      rw [← skipped] at found later
      exact .next found more later

theorem Lexes.opening {after : List Char} {lexemes : List Lexeme} (bracket : Bracket)
    (lexes : Lexes after lexemes) :
    Lexes (bracket.opening :: after) (.opening bracket :: lexemes) := by
  cases bracket <;> exact @Lexes.next _ _ 1 _ rfl (by simp) lexes

theorem Lexes.closing {after : List Char} {lexemes : List Lexeme} (bracket : Bracket)
    (lexes : Lexes after lexemes) :
    Lexes (bracket.closing :: after) (.closing bracket :: lexemes) := by
  cases bracket <;> exact @Lexes.next _ _ 1 _ rfl (by simp) lexes

theorem ScannedAs.lexes {text after : List Char} {lexeme : Lexeme} {lexemes : List Lexeme}
    (scanned : ScannedAs text lexeme) (more : lexeme ≠ .endOfText) (stops : Stops after)
    (later : Lexes after lexemes) : Lexes (text ++ after) (lexeme :: lexemes) := by
  obtain ⟨unblank, found⟩ := scanned after stops
  have start : (text ++ after).drop (blankLength false (text ++ after)) = text ++ after := by
    rw [unblank, List.drop_zero]
  refine @Lexes.next _ _ text.length _ ?_ more ?_
  · rw [start]
    exact found
  · rw [start, List.drop_left]
    exact later

end Lexing

section Written

def lexemeOf : Token → Lexeme
  | .symbol name => .symbol name
  | .integer value => .integer value
  | .float value => .float value
  | .character value => .character value
  | .text value => .text value
  | .boolean value => .symbol (if value then "true" else "false")
  | .group bracket _ => .opening bracket

mutual

def lexemesOf : Token → List Lexeme
  | .group bracket items => .opening bracket :: (lexemesOfAll items ++ [.closing bracket])
  | token => [lexemeOf token]

def lexemesOfAll : List Token → List Lexeme
  | [] => []
  | token :: rest => lexemesOf token ++ lexemesOfAll rest

end

theorem lexemesOf_of_isAtomic {token : Token} (atom : token.isAtomic = true) :
    lexemesOf token = [lexemeOf token] := by
  cases token with
  | group bracket items => cases atom
  | _ => simp [lexemesOf]

structure ReadsBack (atom : Token) : Prop where
  scanned : ScannedAs atom.written (lexemeOf atom)
  more : lexemeOf atom ≠ .endOfText
  placed : ∀ frames, accept frames (lexemeOf atom) = place atom frames

theorem readsBack_integer (value : Int64) : ReadsBack (.integer value) := by
  refine ⟨?_, by simp [lexemeOf], fun _ => rfl⟩
  rw [Token.written]
  exact scannedAs_integer value

theorem readsBack_character (value : Char) : ReadsBack (.character value) := by
  refine ⟨?_, by simp [lexemeOf], fun _ => rfl⟩
  rw [Token.written]
  exact scannedAs_character value

theorem readsBack_text (value : String) : ReadsBack (.text value) :=
  ⟨scannedAs_text value, by simp [lexemeOf], fun _ => rfl⟩

theorem readsBack_boolean (value : Bool) : ReadsBack (.boolean value) := by
  cases value with
  | true =>
      refine ⟨?_, by simp [lexemeOf], fun _ => rfl⟩
      exact scannedAs_word (by decide) (undelimited_of_all (by decide)) (by decide) rfl
  | false =>
      refine ⟨?_, by simp [lexemeOf], fun _ => rfl⟩
      exact scannedAs_word (by decide) (undelimited_of_all (by decide)) (by decide) rfl

theorem Readable.readsBack {name : String} (readable : Readable name) :
    ReadsBack (.symbol name) := by
  refine ⟨?_, by simp [lexemeOf], ?_⟩
  · rw [Token.written]
    exact readable.scannedAs
  · intro frames
    simp [accept, lexemeOf, symbolToken, readable.notTrue, readable.notFalse]

theorem lexes_writtenAll {tokens : List Token}
    (each : ∀ token ∈ tokens, ∀ after lexemes, Stops after → Lexes after lexemes →
      Lexes (token.written ++ after) (lexemesOf token ++ lexemes))
    {after : List Char} {lexemes : List Lexeme} (stops : Stops after) (later : Lexes after lexemes) :
    Lexes (Token.writtenAll tokens ++ after) (lexemesOfAll tokens ++ lexemes) := by
  induction tokens with
  | nil => exact later
  | cons token rest ih =>
      have others := ih fun other member => each other (List.mem_cons_of_mem _ member)
      cases rest with
      | nil =>
          rw [Token.writtenAll, lexemesOfAll, List.append_assoc]
          exact each token List.mem_cons_self after lexemes stops later
      | cons next rest =>
          rw [Token.writtenAll, lexemesOfAll, List.append_assoc, List.append_assoc]
          exact each token List.mem_cons_self _ _ (stops_cons (by decide) _) others.space

theorem lexes_written (token : Token) (atoms : ∀ leaf ∈ token.leaves, ReadsBack leaf) :
    ∀ after lexemes, Stops after → Lexes after lexemes →
      Lexes (token.written ++ after) (lexemesOf token ++ lexemes) := by
  induction token using Token.induction with
  | atom token atomic =>
      intro after lexemes stops later
      have reads := atoms token (Token.mem_leaves_self atomic)
      rw [lexemesOf_of_isAtomic atomic]
      exact reads.scanned.lexes reads.more stops later
  | group bracket items ih =>
      intro after lexemes stops later
      rw [Token.leaves] at atoms
      have delimiter : isDelimiter bracket.closing = true := by cases bracket <;> decide
      have inner := lexes_writtenAll
        (fun item member => ih item member fun leaf inside =>
          atoms leaf (Token.mem_leavesAll.mpr ⟨item, member, inside⟩))
        (stops_cons delimiter after) (later.closing bracket)
      simp only [Token.written, lexemesOf, List.cons_append, List.append_assoc, List.nil_append]
      exact inner.opening bracket

end Written

section Deriving

theorem ReadsBack.derives {token : Token} (reads : ReadsBack token) (atomic : token.isAtomic = true) :
    Derives (lexemesOf token) token := by
  rw [lexemesOf_of_isAtomic atomic]
  exact .atom (atomOf_iff.mpr reads.placed)

theorem derivesAll_lexemesOfAll {tokens : List Token}
    (each : ∀ token ∈ tokens, Derives (lexemesOf token) token) :
    DerivesAll (lexemesOfAll tokens) tokens := by
  induction tokens with
  | nil => exact .nil
  | cons token rest ih =>
      obtain ⟨own, others⟩ := List.forall_mem_cons.mp each
      exact .cons own (ih others)

theorem derives_lexemesOf (token : Token) (atoms : ∀ leaf ∈ token.leaves, ReadsBack leaf) :
    Derives (lexemesOf token) token := by
  induction token using Token.induction with
  | atom token atomic => exact (atoms token (Token.mem_leaves_self atomic)).derives atomic
  | group bracket items ih =>
      rw [Token.leaves] at atoms
      refine .group bracket (derivesAll_lexemesOfAll fun item member => ih item member ?_)
      exact fun leaf inside => atoms leaf (Token.mem_leavesAll.mpr ⟨item, member, inside⟩)

end Deriving

theorem read_renderAll {tokens : List Token} (atoms : ∀ leaf ∈ Token.leavesAll tokens, ReadsBack leaf) :
    read (Token.renderAll tokens) = .ok tokens := by
  have own : ∀ token ∈ tokens, ∀ leaf ∈ token.leaves, ReadsBack leaf :=
    fun token member leaf inside => atoms leaf (Token.mem_leavesAll.mpr ⟨token, member, inside⟩)
  have lexes := lexes_writtenAll (fun token member => lexes_written token (own token member))
    stops_nil (Lexes.ended rfl)
  have derives := derivesAll_lexemesOfAll fun token member =>
    derives_lexemesOf token (own token member)
  rw [List.append_nil] at lexes
  rw [read_eq_ok_iff, Token.renderAll, String.toList_ofList]
  exact ⟨lexemesOfAll tokens, lexes, derives⟩

end Reading

end TokenGrammar
