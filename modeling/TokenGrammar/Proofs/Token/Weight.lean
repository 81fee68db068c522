import TokenGrammar.Token
/-!
Weights of token sequences: what is left out of a sequence makes it lighter, and so does the bracket
around the items of a group.
-/

namespace TokenGrammar

namespace Token

theorem one_le_weight (token : Token) : 1 ≤ token.weight := by
  cases token <;> simp [weight]

theorem weightAll_append (left right : List Token) :
    weightAll (left ++ right) = weightAll left + weightAll right := by
  induction left with
  | nil => simp [weightAll]
  | cons token rest ih => simp only [List.cons_append, weightAll, ih, Nat.add_assoc]

theorem weightAll_le_of_sublist {part whole : List Token} (sub : part.Sublist whole) :
    weightAll part ≤ weightAll whole := by
  induction sub with
  | slnil => exact Nat.le_refl _
  | cons token _ ih => exact Nat.le_trans ih (Nat.le_add_left _ _)
  | cons_cons token _ ih => exact Nat.add_le_add_left ih _

theorem length_le_weightAll (tokens : List Token) : tokens.length ≤ weightAll tokens := by
  induction tokens with
  | nil => exact Nat.le_refl _
  | cons token rest ih =>
      have positive := one_le_weight token
      simp only [List.length_cons, weightAll]
      omega

theorem weightAll_tail_lt (token : Token) (rest : List Token) :
    weightAll rest < weightAll (token :: rest) := by
  have positive := one_le_weight token
  simp only [weightAll]
  omega

theorem weightAll_drop_lt {tokens : List Token} {count : Nat} (some : 0 < count)
    (within : count ≤ tokens.length) : weightAll (tokens.drop count) < weightAll tokens := by
  cases tokens with
  | nil =>
      simp only [List.length_nil] at within
      omega
  | cons token rest =>
      obtain ⟨fewer, same⟩ := Nat.exists_eq_add_of_lt some
      subst same
      have left := weightAll_le_of_sublist (List.drop_sublist (0 + fewer) rest)
      exact Nat.lt_of_le_of_lt left (weightAll_tail_lt token rest)

theorem weightAll_dropLast_lt {tokens : List Token} (more : tokens ≠ []) :
    weightAll tokens.dropLast < weightAll tokens := by
  have parts := weightAll_append tokens.dropLast [tokens.getLast more]
  rw [List.dropLast_concat_getLast more] at parts
  have positive := one_le_weight (tokens.getLast more)
  simp only [weightAll] at parts
  omega

theorem weightAll_items_lt {token : Token} {items : List Token} (group : token.items? = some items)
    (rest : List Token) : weightAll items < weightAll (token :: rest) := by
  cases token with
  | group bracket inner =>
      cases group
      simp only [weightAll, weight]
      omega
  | _ => cases group

end Token

end TokenGrammar
