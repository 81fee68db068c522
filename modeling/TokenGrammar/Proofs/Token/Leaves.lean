import TokenGrammar.Proofs.Token.Weight
/-!
The leaves of a token: the atoms that stand in it, at any depth. A statement about all tokens is proved
for the atoms, and for a group from its items.
-/

namespace TokenGrammar

namespace Token

mutual

def leaves : Token → List Token
  | .group _ items => leavesAll items
  | token => [token]

def leavesAll : List Token → List Token
  | [] => []
  | token :: rest => token.leaves ++ leavesAll rest

end

theorem mem_leavesAll {leaf : Token} {tokens : List Token} :
    leaf ∈ leavesAll tokens ↔ ∃ token ∈ tokens, leaf ∈ token.leaves := by
  induction tokens with
  | nil => simp [leavesAll]
  | cons token rest ih => simp [leavesAll, ih]

theorem leaves_of_isAtomic {token : Token} (atom : token.isAtomic = true) :
    token.leaves = [token] := by
  cases token with
  | group bracket items => cases atom
  | _ => simp [leaves]

theorem mem_leaves_self {token : Token} (atom : token.isAtomic = true) : token ∈ token.leaves := by
  rw [leaves_of_isAtomic atom]
  exact List.mem_singleton.mpr rfl

theorem weight_le_weightAll {token : Token} {tokens : List Token} (member : token ∈ tokens) :
    token.weight ≤ weightAll tokens := by
  induction tokens with
  | nil => cases member
  | cons first rest ih =>
      simp only [weightAll]
      rcases List.mem_cons.mp member with here | later
      · rw [here]
        exact Nat.le_add_right _ _
      · exact Nat.le_trans (ih later) (Nat.le_add_left _ _)

theorem induction {motive : Token → Prop}
    (atom : ∀ token, token.isAtomic = true → motive token)
    (group : ∀ bracket items, (∀ item ∈ items, motive item) → motive (.group bracket items))
    (token : Token) : motive token := by
  cases token with
  | group bracket items =>
      exact group bracket items fun item member => induction atom group item
  | _ => exact atom _ rfl
termination_by token.weight
decreasing_by exact Nat.lt_succ_of_le (weight_le_weightAll member)

theorem isAtomic_of_mem_leaves {token leaf : Token} (member : leaf ∈ token.leaves) :
    leaf.isAtomic = true := by
  induction token using Token.induction with
  | atom token atom =>
      rw [leaves_of_isAtomic atom] at member
      rw [List.mem_singleton.mp member]
      exact atom
  | group bracket items ih =>
      rw [leaves] at member
      obtain ⟨item, inside, here⟩ := mem_leavesAll.mp member
      exact ih item inside here

end Token

end TokenGrammar
