import TokenGrammar.Proofs.Token.Leaves
/-!
Equality of tokens compares numbers by value. It is symmetric and transitive, and a token is equal to
itself exactly if there is no `nan` in it.
-/

namespace TokenGrammar

namespace Binary64

theorem equals_iff {left right : Binary64} :
    left.equals right = true ↔ ∃ rank, left.rank? = some rank ∧ right.rank? = some rank := by
  unfold equals compare?
  cases left.rank? with
  | none => simp
  | some rank =>
      cases right.rank? with
      | none => simp
      | some other =>
          simp only [Option.some.injEq, beq_iff_eq, Int.compare_eq_eq, exists_eq_left']
          exact eq_comm

theorem equals_symm {left right : Binary64} (same : left.equals right = true) :
    right.equals left = true := by
  obtain ⟨rank, leftRank, rightRank⟩ := equals_iff.mp same
  exact equals_iff.mpr ⟨rank, rightRank, leftRank⟩

theorem equals_trans {left middle right : Binary64} (first : left.equals middle = true)
    (second : middle.equals right = true) : left.equals right = true := by
  obtain ⟨rank, leftRank, middleRank⟩ := equals_iff.mp first
  obtain ⟨other, sameRank, rightRank⟩ := equals_iff.mp second
  rw [middleRank] at sameRank
  exact equals_iff.mpr ⟨rank, leftRank, sameRank ▸ rightRank⟩

theorem equals_self_iff {value : Binary64} : value.equals value = true ↔ value ≠ .nan := by
  cases value <;> simp [equals_iff, rank?]

end Binary64

namespace Token

theorem equalsAll_symm {lefts rights : List Token}
    (each : ∀ left ∈ lefts, ∀ right, left.equals right = true → right.equals left = true)
    (same : equalsAll lefts rights = true) : equalsAll rights lefts = true := by
  induction lefts generalizing rights with
  | nil => cases rights <;> simp_all [equalsAll]
  | cons left lefts ih =>
      obtain ⟨own, others⟩ := List.forall_mem_cons.mp each
      cases rights with
      | nil => simp [equalsAll] at same
      | cons right rights =>
          simp only [equalsAll, Bool.and_eq_true] at same ⊢
          exact ⟨own right same.1, ih others same.2⟩

theorem equals_symm {left right : Token} (same : left.equals right = true) :
    right.equals left = true := by
  induction left using Token.induction generalizing right with
  | atom left atomic =>
      cases left with
      | group => cases atomic
      | float value =>
          cases right with
          | float other => simpa only [equals] using Binary64.equals_symm same
          | _ => simp [equals] at same
      | _ => cases right <;> simp_all [equals]
  | group bracket items ih =>
      cases right with
      | group other others =>
          simp only [equals, Bool.and_eq_true, beq_iff_eq] at same ⊢
          exact ⟨same.1.symm, equalsAll_symm (fun item member _ => ih item member) same.2⟩
      | _ => simp [equals] at same

theorem equalsAll_trans {lefts middles rights : List Token}
    (each : ∀ left ∈ lefts, ∀ middle right, left.equals middle = true →
      middle.equals right = true → left.equals right = true)
    (first : equalsAll lefts middles = true) (second : equalsAll middles rights = true) :
    equalsAll lefts rights = true := by
  induction lefts generalizing middles rights with
  | nil => cases middles <;> simp_all [equalsAll]
  | cons left lefts ih =>
      obtain ⟨own, others⟩ := List.forall_mem_cons.mp each
      cases middles with
      | nil => simp [equalsAll] at first
      | cons middle middles =>
          cases rights with
          | nil => simp [equalsAll] at second
          | cons right rights =>
              simp only [equalsAll, Bool.and_eq_true] at first second ⊢
              exact ⟨own _ _ first.1 second.1, ih others first.2 second.2⟩

theorem equals_trans {left middle right : Token} (first : left.equals middle = true)
    (second : middle.equals right = true) : left.equals right = true := by
  induction left using Token.induction generalizing middle right with
  | atom left atomic =>
      cases left with
      | group => cases atomic
      | float value =>
          cases middle with
          | float other =>
              cases right with
              | float third =>
                  simp only [equals] at first second ⊢
                  exact Binary64.equals_trans first second
              | _ => simp [equals] at second
          | _ => simp [equals] at first
      | _ =>
          cases middle <;> simp only [equals, beq_iff_eq, Bool.false_eq_true] at first
          subst first
          exact second
  | group bracket items ih =>
      cases middle with
      | group other others =>
          cases right with
          | group third others =>
              simp only [equals, Bool.and_eq_true, beq_iff_eq] at first second ⊢
              exact ⟨first.1.trans second.1,
                equalsAll_trans (fun item member _ _ => ih item member) first.2 second.2⟩
          | _ => simp [equals] at second
      | _ => simp [equals] at first

theorem equalsAll_self {tokens : List Token} :
    equalsAll tokens tokens = true ↔ ∀ token ∈ tokens, token.equals token = true := by
  induction tokens with
  | nil => simp [equalsAll]
  | cons token rest ih => simp [equalsAll, ih]

theorem equals_self_iff {token : Token} :
    token.equals token = true ↔ .float .nan ∉ token.leaves := by
  induction token using Token.induction with
  | atom token atomic =>
      rw [leaves_of_isAtomic atomic, List.mem_singleton]
      cases token with
      | group => cases atomic
      | float value => simp [equals, Binary64.equals_self_iff, ne_comm]
      | _ => simp [equals]
  | group bracket items ih =>
      simp only [equals, BEq.rfl, Bool.true_and, equalsAll_self, leaves, mem_leavesAll]
      constructor
      · rintro each ⟨item, member, inside⟩
        exact (ih item member).mp (each item member) inside
      · intro free item member
        exact (ih item member).mpr fun inside => free ⟨item, member, inside⟩

theorem equalsAll_self_iff {tokens : List Token} :
    equalsAll tokens tokens = true ↔ .float .nan ∉ leavesAll tokens := by
  simp [equalsAll_self, equals_self_iff, mem_leavesAll]

end Token

end TokenGrammar
