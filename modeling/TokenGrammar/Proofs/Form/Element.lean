import TokenGrammar.Form.Element
/-!
Cutting a body loses and invents nothing: the tokens of its alternatives and elements are tokens of the
body, and so is the group that a form compiles.
-/

namespace TokenGrammar

namespace Body

theorem mem_of_mem_alternatives {body sequence : List Token} {token : Token}
    (cut : sequence ∈ alternatives body) (member : token ∈ sequence) : token ∈ body := by
  induction body generalizing sequence with
  | nil =>
      rw [List.mem_singleton.mp cut] at member
      exact member
  | cons first rest ih =>
      unfold alternatives at cut
      split at cut
      · rcases List.mem_cons.mp cut with empty | later
        · rw [empty] at member
          cases member
        · exact List.mem_cons_of_mem _ (ih later member)
      · split at cut
        next front others found =>
          rcases List.mem_cons.mp cut with same | later
          · rw [same] at member
            rcases List.mem_cons.mp member with here | behind
            · exact here ▸ List.mem_cons_self
            · exact List.mem_cons_of_mem _ (ih (found ▸ List.mem_cons_self) behind)
          · exact List.mem_cons_of_mem _ (ih (found ▸ List.mem_cons_of_mem _ later) member)
        · rw [List.mem_singleton.mp cut] at member
          exact List.mem_singleton.mp member ▸ List.mem_cons_self

theorem suffix_of_nameOf {sequence rest left : List Token} {name : Option String}
    (found : nameOf sequence rest = .ok (name, left)) : left <:+ rest := by
  unfold nameOf at found
  repeat' split at found
  all_goals simp_all
  exact (List.suffix_cons _ _).trans (List.suffix_cons _ _)

theorem parts_of_nextElement {sequence rest left : List Token} {element : Element}
    (found : nextElement sequence rest = .ok (element, left)) :
    (∃ length, element.form = rest.take length) ∧ left <:+ rest := by
  unfold nextElement at found
  cases size : formLength rest with
  | error problem => simp [size, bind, Except.bind] at found
  | ok length =>
      cases named : nameOf sequence (rest.drop length) with
      | error problem => simp [size, named, bind, Except.bind] at found
      | ok outcome =>
          obtain ⟨name, behind⟩ := outcome
          simp only [size, named, bind, Except.bind, pure, Except.pure, Except.ok.injEq,
            Prod.mk.injEq] at found
          obtain ⟨same, left⟩ := found
          subst same left
          exact ⟨⟨length, rfl⟩, (suffix_of_nameOf named).trans (List.drop_suffix _ _)⟩

@[simp] theorem elementsFrom_nil (sequence : List Token) : elementsFrom sequence [] = .ok [] := by
  rw [elementsFrom]
  simp

theorem elementsFrom_cons (sequence : List Token) (token : Token) (rest : List Token) :
    elementsFrom sequence (token :: rest) =
      match nextElement sequence (token :: rest) with
      | .error problem => .error problem
      | .ok (element, left) => (elementsFrom sequence left).map (element :: ·) := by
  rw [elementsFrom, dif_neg (List.cons_ne_nil token rest)]
  split
  next problem wrong => rw [wrong]
  next element left found => rw [found]

theorem elementsFrom_eq_ok {sequence rest left : List Token} {token : Token} {element : Element}
    {elements : List Element} (found : nextElement sequence (token :: rest) = .ok (element, left))
    (later : elementsFrom sequence left = .ok elements) :
    elementsFrom sequence (token :: rest) = .ok (element :: elements) := by
  rw [elementsFrom_cons, found]
  dsimp only
  rw [later]
  rfl

theorem mem_of_mem_elementsFrom {sequence rest : List Token} {elements : List Element}
    (cut : elementsFrom sequence rest = .ok elements) {element : Element}
    (member : element ∈ elements) {token : Token} (inside : token ∈ element.form) :
    token ∈ rest := by
  fun_induction elementsFrom sequence rest generalizing elements with
  | case1 => simp_all
  | case2 => cases cut
  | case3 rest _ next left found ih =>
      obtain ⟨⟨length, form⟩, suffix⟩ := parts_of_nextElement found
      cases later : elementsFrom sequence left with
      | error problem => simp [later, Except.map] at cut
      | ok others =>
          simp only [later, Except.map, Except.ok.injEq] at cut
          rw [← cut] at member
          rcases List.mem_cons.mp member with same | behind
          · rw [same, form] at inside
            exact List.mem_of_mem_take inside
          · exact suffix.subset (ih later behind)

end Body

namespace Form

variable {functions : FunctionTable} {tokens items : List Token}

theorem group_mem_of_atom {token : Token} (found : Atom.ofToken? functions token = some (.group items)) :
    ∃ bracket, token = .group bracket items := by
  unfold Atom.ofToken? at found
  split at found
  · cases found
  · split at found
    · cases found
    · split at found
      · cases found
        exact ⟨_, rfl⟩
      · split at found <;> cases found
      · cases found
      · cases found

theorem group_mem_of_plainOf? {count : Nat}
    (found : plainOf? functions tokens = some (count, .group items)) :
    ∃ bracket, Token.group bracket items ∈ tokens := by
  induction tokens generalizing count with
  | nil => cases found
  | cons token rest ih =>
      cases rest with
      | nil =>
          simp only [plainOf?, Option.map_eq_some_iff, Prod.mk.injEq] at found
          obtain ⟨atom, made, _, same⟩ := found
          subst same
          obtain ⟨bracket, group⟩ := group_mem_of_atom made
          exact ⟨bracket, List.mem_singleton.mpr group.symm⟩
      | cons next rest =>
          unfold plainOf? at found
          split at found
          · simp only [Option.map_eq_some_iff, Prod.mk.injEq] at found
            obtain ⟨⟨inner, atom⟩, made, _, same⟩ := found
            dsimp only at same
            subst same
            obtain ⟨bracket, member⟩ := ih made
            exact ⟨bracket, List.mem_cons_of_mem _ member⟩
          · cases found

theorem group_mem_of_ofTokens? {form : Form} (found : ofTokens? functions tokens = some form)
    (atom : form.atom = .group items) : ∃ bracket, Token.group bracket items ∈ tokens := by
  unfold ofTokens? at found
  split at found
  · obtain ⟨⟨count, inner⟩, made, same⟩ := Option.map_eq_some_iff.mp found
    subst same
    dsimp only at atom
    subst atom
    obtain ⟨bracket, member⟩ := group_mem_of_plainOf? made
    exact ⟨bracket, (List.dropLast_sublist _).subset member⟩
  · obtain ⟨⟨count, inner⟩, made, same⟩ := Option.map_eq_some_iff.mp found
    subst same
    dsimp only at atom
    subst atom
    exact group_mem_of_plainOf? made

end Form

end TokenGrammar
