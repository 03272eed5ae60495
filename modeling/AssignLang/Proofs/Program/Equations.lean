import AssignLang.Program.Statement

namespace AssignLang

variable {σ α β : Type}

abbrev Ending (σ α : Type) := Except Diagnostic α × σ

def Ending.andThen (ending : Ending σ α) (rest : α → σ → Ending σ β) : Ending σ β :=
  match ending with
  | (.ok value, source) => rest value source
  | (.error diagnostic, source) => (.error diagnostic, source)

theorem Ending.andThen_ok (value : α) (source : σ) (rest : α → σ → Ending σ β) :
    Ending.andThen (.ok value, source) rest = rest value source := rfl

theorem Ending.andThen_eq_ok {ending : Ending σ α} {rest : α → σ → Ending σ β} {value : β}
    {after : σ} (h : ending.andThen rest = (.ok value, after)) :
    ∃ first source, ending = (.ok first, source) ∧ rest first source = (.ok value, after) := by
  obtain ⟨result, source⟩ := ending
  cases result with
  | ok first => exact ⟨first, source, rfl, h⟩
  | error diagnostic => cases h

theorem Ending.andThen_eq_error {ending : Ending σ α} {rest : α → σ → Ending σ β}
    {diagnostic : Diagnostic} {after : σ} (h : ending.andThen rest = (.error diagnostic, after)) :
    ending = (.error diagnostic, after) ∨
      ∃ first source, ending = (.ok first, source) ∧ rest first source = (.error diagnostic, after) := by
  obtain ⟨result, source⟩ := ending
  cases result with
  | ok first => exact .inr ⟨first, source, rfl, h⟩
  | error other =>
      cases h
      exact .inl rfl

open Routine

theorem bind_eq_andThen {first : Routine σ α} {rest : α → Routine σ β} {source : σ}
    {ending : Ending σ α} {rest' : α → σ → Ending σ β} (h : first source = some ending)
    (hrest : ∀ value after, ending = (.ok value, after) →
      rest value after = some (rest' value after)) :
    (first >>= rest) source = some (ending.andThen rest') := by
  change andThen first rest source = _
  unfold andThen Ending.andThen
  rw [h]
  obtain ⟨result, after⟩ := ending
  cases result with
  | error diagnostic => rfl
  | ok value => exact hrest value after rfl

def checkedOf (result : Option Value) (operator : Lexeme) (source : σ) : Ending σ Value :=
  match result with
  | some value => (.ok value, source)
  | none => (.error (.atLexeme .overflow operator), source)

theorem checked_eq (result : Option Value) (operator : Lexeme) (source : σ) :
    checked result operator source = some (checkedOf result operator source) := by
  cases result <;> rfl

theorem checkedOf_eq_ok {result : Option Value} {operator : Lexeme} {source after : σ}
    {value : Value} (h : checkedOf result operator source = (.ok value, after)) :
    result = some value ∧ after = source := by
  cases result with
  | none => cases h
  | some total =>
      cases h
      exact ⟨rfl, rfl⟩

theorem checkedOf_eq_error {result : Option Value} {operator : Lexeme} {source after : σ}
    {diagnostic : Diagnostic} (h : checkedOf result operator source = (.error diagnostic, after)) :
    diagnostic = .atLexeme .overflow operator := by
  cases result with
  | none =>
      cases h
      rfl
  | some total => cases h

variable [TokenSource σ]

def nextOf (source : σ) : Ending σ Sight :=
  (ofReading (TokenSource.next source).1, (TokenSource.next source).2)

def peekOf (source : σ) : Ending σ Sight :=
  (ofReading (TokenSource.peek source).1, (TokenSource.peek source).2)

def expectOf (token : Token) (cause : Diagnostic.Cause) (source : σ) : Ending σ Unit :=
  (nextOf source).andThen fun sight after =>
    match sight with
    | .lexeme lexeme =>
      if lexeme.token = token then (.ok (), after) else (.error (.atLexeme cause lexeme), after)
    | .finish line offset => (.error (.atSight cause (.finish line offset)), after)

theorem next_eq (source : σ) : next source = some (nextOf source) := rfl

theorem peek_eq (source : σ) : peek source = some (peekOf source) := rfl

theorem expect_eq (token : Token) (cause : Diagnostic.Cause) (source : σ) :
    expect token cause source = some (expectOf token cause source) := by
  unfold expect expectOf
  refine bind_eq_andThen (next_eq source) fun sight after _ => ?_
  cases sight with
  | finish line offset => rfl
  | lexeme lexeme =>
      dsimp only
      split <;> rfl

theorem size_le_of_peekOf {source after : σ} {sight : Sight}
    (h : peekOf source = (.ok sight, after)) :
    TokenSource.size after ≤ TokenSource.size source := by
  have last : (TokenSource.peek source).2 = after := congrArg Prod.snd h
  rw [← last]
  exact TokenSource.size_peek source

theorem size_lt_of_nextOf {source after : σ} {lexeme : Lexeme}
    (h : nextOf source = (.ok (.lexeme lexeme), after)) :
    TokenSource.size after < TokenSource.size source := by
  simp only [nextOf, Prod.mk.injEq] at h
  rw [← h.2]
  exact TokenSource.size_next (ofReading_eq_ok h.1)

theorem nextOf_of_peekOf {source after : σ} {lexeme : Lexeme}
    (h : peekOf source = (.ok (.lexeme lexeme), after)) :
    (nextOf after).1 = .ok (.lexeme lexeme) := by
  simp only [peekOf, Prod.mk.injEq] at h
  have same := TokenSource.next_peek (ofReading_eq_ok h.1)
  rw [h.2] at same
  rw [nextOf, same]
  rfl

theorem size_lt_of_expectOf {token : Token} {cause : Diagnostic.Cause} {source after : σ}
    (h : expectOf token cause source = (.ok (), after)) :
    TokenSource.size after < TokenSource.size source := by
  have ends : (expect token cause : Routine σ Unit).Ends source fun _ last =>
      TokenSource.size last < TokenSource.size source := ends_expect fun _ less => less
  obtain ⟨result, last, eq, less⟩ := ends
  rw [expect_eq, h] at eq
  cases eq
  exact less () rfl

theorem size_lt_of_takes {routine : Routine σ Value} {source after : σ} {value : Value}
    (takes : Takes routine source) (h : routine source = some (.ok value, after)) :
    TokenSource.size after < TokenSource.size source := by
  obtain ⟨result, last, eq, less⟩ := takes
  cases eq.symm.trans h
  exact less value rfl

variable (store : Store)

theorem size_lt_of_factor {source after : σ} {value : Value}
    (h : factor store source = (.ok value, after)) :
    TokenSource.size after < TokenSource.size source :=
  size_lt_of_takes (takes_factorWithin store source)
    ((factorWithin_eq store (Nat.le_refl _)).trans (congrArg some h))

theorem size_lt_of_term {source after : σ} {value : Value}
    (h : term store source = (.ok value, after)) :
    TokenSource.size after < TokenSource.size source :=
  size_lt_of_takes (takes_termWithin store source)
    ((termWithin_eq store (Nat.le_refl _)).trans (congrArg some h))

theorem keeps_sumWithin (total : Value) (source : σ) :
    Keeps (sumWithin store (budget source) total) source :=
  (within_ends store _).2.1 total source (by simp [budget])

theorem keeps_productWithin (product : Value) (source : σ) :
    Keeps (productWithin store (budget source) product) source :=
  (within_ends store _).2.2.2.1 product source (by simp [budget])

def sumAfter (total : Value) (source : σ) : Ending σ Value :=
  (sumWithin store (budget source) total source).get (keeps_sumWithin store total source).isSome

def productAfter (product : Value) (source : σ) : Ending σ Value :=
  (productWithin store (budget source) product source).get
    (keeps_productWithin store product source).isSome

theorem sumWithin_eq (total : Value) {source : σ} {n : Nat} (enough : budget source ≤ n) :
    sumWithin store n total source = some (sumAfter store total source) :=
  (within_below store enough).2.1 total source _ (Option.some_get _).symm

theorem productWithin_eq (product : Value) {source : σ} {n : Nat} (enough : budget source ≤ n) :
    productWithin store n product source = some (productAfter store product source) :=
  (within_below store enough).2.2.2.1 product source _ (Option.some_get _).symm

theorem budget_le {source after : σ} (h : TokenSource.size after ≤ TokenSource.size source) :
    budget after ≤ budget source := by
  unfold budget
  omega

theorem expression_eq (source : σ) :
    expression store source = Ending.andThen (term store source) (sumAfter store) := by
  apply Option.some.inj
  rw [← expressionWithin_eq store (Nat.le_succ (budget source)), expressionWithin]
  refine bind_eq_andThen (termWithin_eq store (Nat.le_refl _)) fun value after h => ?_
  exact sumWithin_eq store value (budget_le (Nat.le_of_lt (size_lt_of_term store h)))

theorem term_eq (source : σ) :
    term store source = Ending.andThen (factor store source) (productAfter store) := by
  apply Option.some.inj
  rw [← termWithin_eq store (Nat.le_succ (budget source)), termWithin]
  refine bind_eq_andThen (factorWithin_eq store (Nat.le_refl _)) fun value after h => ?_
  exact productWithin_eq store value (budget_le (Nat.le_of_lt (size_lt_of_factor store h)))

def operandOf (operand : σ → Ending σ Value) (fold : Value → Option Value) (operator : Lexeme)
    (rest : Value → σ → Ending σ Value) (source : σ) : Ending σ Value :=
  Ending.andThen (nextOf source) fun _ after =>
    Ending.andThen (operand after) fun value after =>
      Ending.andThen (checkedOf (fold value) operator after) rest

theorem operand_eq {source after : σ} {lexeme : Lexeme} {operand : Routine σ Value}
    {operand' : σ → Ending σ Value} {rest : Value → Routine σ Value}
    {rest' : Value → σ → Ending σ Value} (fold : Value → Option Value)
    (seen : peekOf source = (.ok (.lexeme lexeme), after))
    (hoperand : ∀ s : σ, budget s ≤ budget source → operand s = some (operand' s))
    (less : ∀ (s s' : σ) (value : Value), operand' s = (.ok value, s') →
      TokenSource.size s' < TokenSource.size s)
    (hrest : ∀ value (s : σ), budget s ≤ budget source → rest value s = some (rest' value s)) :
    (next >>= fun _ => operand >>= fun value => checked (fold value) lexeme >>= rest) after =
      some (operandOf operand' fold lexeme rest' after) := by
  have known := nextOf_of_peekOf seen
  have shown := size_le_of_peekOf seen
  refine bind_eq_andThen (next_eq after) fun sight s taken => ?_
  rw [taken] at known
  cases known
  have left := size_lt_of_nextOf taken
  refine bind_eq_andThen (hoperand s (budget_le (by omega))) fun value s' h => ?_
  refine bind_eq_andThen (checked_eq _ _ _) fun value' s'' h' => ?_
  have same : s'' = s' := by
    cases folded : fold value <;> simp_all [checkedOf]
  have less' := less s s' value h
  subst same
  exact hrest value' s'' (budget_le (by omega))

theorem sumAfter_eq (total : Value) (source : σ) :
    sumAfter store total source = Ending.andThen (peekOf source) fun sight after =>
      match sight with
      | .finish _ _ => (.ok total, after)
      | .lexeme lexeme =>
        match lexeme.token with
        | .operator .plus => operandOf (term store) total.add? lexeme (sumAfter store) after
        | .operator .minus => operandOf (term store) total.sub? lexeme (sumAfter store) after
        | _ => (.ok total, after) := by
  apply Option.some.inj
  rw [← sumWithin_eq store total (Nat.le_succ (budget source)), sumWithin]
  refine bind_eq_andThen (peek_eq source) fun sight after seen => ?_
  cases sight with
  | finish line offset => rfl
  | lexeme lexeme =>
      have operand (fold : Value → Option Value) := operand_eq fold seen
        (fun s enough => termWithin_eq store enough)
        (fun s s' value h => size_lt_of_term store h)
        (fun value s enough => sumWithin_eq store value enough)
      obtain ⟨token, line, span⟩ := lexeme
      rcases token with value | name | (_ | _ | _ | _) | _ | _ | _
      case operator.plus => exact operand total.add?
      case operator.minus => exact operand total.sub?
      all_goals rfl

theorem productAfter_eq (product : Value) (source : σ) :
    productAfter store product source = Ending.andThen (peekOf source) fun sight after =>
      match sight with
      | .finish _ _ => (.ok product, after)
      | .lexeme lexeme =>
        match lexeme.token with
        | .operator .star => operandOf (factor store) product.mul? lexeme (productAfter store) after
        | _ => (.ok product, after) := by
  apply Option.some.inj
  rw [← productWithin_eq store product (Nat.le_succ (budget source)), productWithin]
  refine bind_eq_andThen (peek_eq source) fun sight after seen => ?_
  cases sight with
  | finish line offset => rfl
  | lexeme lexeme =>
      obtain ⟨token, line, span⟩ := lexeme
      rcases token with value | name | (_ | _ | _ | _) | _ | _ | _
      case operator.star =>
        exact operand_eq product.mul? seen (fun s enough => factorWithin_eq store enough)
          (fun s s' value h => size_lt_of_factor store h)
          (fun value s enough => productWithin_eq store value enough)
      all_goals rfl

theorem factor_eq (source : σ) :
    factor store source = Ending.andThen (nextOf source) fun sight after =>
      match sight with
      | .finish line offset => (.error (.atSight .unexpectedToken (.finish line offset)), after)
      | .lexeme lexeme =>
        match lexeme.token with
        | .openParen => Ending.andThen (expression store after) fun value after =>
            Ending.andThen (expectOf .closeParen .missingClosingBrace after) fun _ after =>
              (.ok value, after)
        | .operator .plus => factor store after
        | .operator .minus => Ending.andThen (factor store after) fun value after =>
            checkedOf value.neg? lexeme after
        | .number value => (.ok value, after)
        | .identifier name =>
          match store.get? name with
          | some value => (.ok value, after)
          | none => (.error (.atLexeme (.unknownVariable name) lexeme), after)
        | _ => (.error (.atLexeme .unexpectedToken lexeme), after) := by
  apply Option.some.inj
  rw [← factorWithin_eq store (Nat.le_succ (budget source)), factorWithin]
  refine bind_eq_andThen (next_eq source) fun sight after taken => ?_
  cases sight with
  | finish line offset => rfl
  | lexeme lexeme =>
      have left := budget_le (Nat.le_of_lt (size_lt_of_nextOf taken))
      obtain ⟨token, line, span⟩ := lexeme
      rcases token with value | name | (_ | _ | _ | _) | _ | _ | _
      case openParen =>
        refine bind_eq_andThen (expressionWithin_eq store left) fun value s _ => ?_
        exact bind_eq_andThen (expect_eq _ _ _) fun _ s _ => rfl
      case operator.plus => exact factorWithin_eq store left
      case operator.minus =>
        exact bind_eq_andThen (factorWithin_eq store left) fun value s _ => checked_eq _ _ _
      case identifier =>
        dsimp only
        cases store.get? name <;> rfl
      all_goals rfl

theorem statement_eq (source : σ) :
    statement store source = Ending.andThen (nextOf source) fun sight after =>
      match sight with
      | .finish line offset => (.error (.atSight .expectedVariable (.finish line offset)), after)
      | .lexeme lexeme =>
        match lexeme.token with
        | .identifier name =>
          Ending.andThen (expectOf (.operator .assign) .expectedAssignment after) fun _ after =>
            Ending.andThen (expression store after) fun value after =>
              Ending.andThen (expectOf .semicolon .expectedSemicolon after) fun _ after =>
                (.ok ⟨name, value⟩, after)
        | _ => (.error (.atLexeme .expectedVariable lexeme), after) := by
  apply Option.some.inj
  rw [← statementWithin_eq store (Nat.le_refl (budget source)), statementWithin]
  refine bind_eq_andThen (next_eq source) fun sight after taken => ?_
  cases sight with
  | finish line offset => rfl
  | lexeme lexeme =>
      have left := size_lt_of_nextOf taken
      obtain ⟨token, line, span⟩ := lexeme
      cases token with
      | identifier name =>
          refine bind_eq_andThen (expect_eq _ _ _) fun _ s assigned => ?_
          have left' := size_lt_of_expectOf assigned
          have enough : budget s ≤ budget source := budget_le (by omega)
          refine bind_eq_andThen (expressionWithin_eq store enough) fun value s' _ => ?_
          exact bind_eq_andThen (expect_eq _ _ _) fun _ s'' _ => rfl
      | _ => rfl

theorem nextStatement_eq (source : σ) :
    nextStatement store source = Ending.andThen (peekOf source) fun sight after =>
      match sight with
      | .finish _ _ => (.ok none, after)
      | .lexeme lexeme =>
        if lexeme.token.isIdentifier then
          Ending.andThen (statement store after) fun assignment after =>
            (.ok (some assignment), after)
        else (.error (.atLexeme .notStatement lexeme), after) := by
  apply Option.some.inj
  rw [← nextStatementWithin_eq store (Nat.le_refl (budget source)), nextStatementWithin]
  refine bind_eq_andThen (peek_eq source) fun sight after seen => ?_
  cases sight with
  | finish line offset => rfl
  | lexeme lexeme =>
      dsimp only
      split
      · exact bind_eq_andThen (statementWithin_eq store (budget_le (size_le_of_peekOf seen)))
          fun assignment s _ => rfl
      · rfl

theorem peekOf_of_finished {store : Store} {source after : σ}
    (h : nextStatement store source = (.ok none, after)) :
    ∃ line offset, peekOf source = (.ok (.finish line offset), after) := by
  rw [nextStatement_eq] at h
  obtain ⟨sight, shown, seen, ends⟩ := Ending.andThen_eq_ok h
  cases sight with
  | finish line offset =>
      cases ends
      exact ⟨line, offset, seen⟩
  | lexeme lexeme =>
      dsimp only at ends
      split at ends
      · obtain ⟨assignment, last, read, ends⟩ := Ending.andThen_eq_ok ends
        cases ends
      · cases ends

end AssignLang
