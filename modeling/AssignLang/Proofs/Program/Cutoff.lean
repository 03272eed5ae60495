import AssignLang.Proofs.Program.Evaluation

namespace AssignLang

open Routine

/-- The property is kept by the operations that routines are built from. -/
structure Compositional {σ : Type} [TokenSource σ] (property : ∀ {α : Type}, Routine σ α → Prop) :
    Prop where
  pure {α : Type} (value : α) : property (pure value)
  fail {α : Type} (diagnostic : Diagnostic) : property (fail diagnostic : Routine σ α)
  exhausted {α : Type} : property (exhausted : Routine σ α)
  bind {α β : Type} {first : Routine σ α} {rest : α → Routine σ β} :
    property first → (∀ value, property (rest value)) → property (first >>= rest)
  next : property next
  peek : property peek

namespace Compositional

variable {σ : Type} [TokenSource σ] {property : ∀ {α : Type}, Routine σ α → Prop}
  (h : Compositional property)

include h

theorem checked (result : Option Value) (operator : Lexeme) :
    property (checked result operator : Routine σ Value) := by
  cases result with
  | some value => exact h.pure value
  | none => exact h.fail _

theorem expect (token : Token) (cause : Diagnostic.Cause) :
    property (expect token cause : Routine σ Unit) := by
  refine h.bind h.next fun sight => ?_
  cases sight with
  | lexeme lexeme =>
      dsimp only
      split
      · exact h.pure ()
      · exact h.fail _
  | finish line offset => exact h.fail _

theorem operand {operand : Routine σ Value} {rest : Value → Routine σ Value}
    (fold : Value → Option Value) (operator : Lexeme) (hoperand : property operand)
    (hrest : ∀ value, property (rest value)) :
    property (Routine.next >>= fun _ => operand >>= fun value =>
      Routine.checked (fold value) operator >>= rest) :=
  h.bind h.next fun _ => h.bind hoperand fun _ => h.bind (h.checked _ _) hrest

theorem within (store : Store) (n : Nat) :
    property (expressionWithin store n : Routine σ Value) ∧
    (∀ total, property (sumWithin store n total : Routine σ Value)) ∧
    property (termWithin store n : Routine σ Value) ∧
    (∀ product, property (productWithin store n product : Routine σ Value)) ∧
    property (factorWithin store n : Routine σ Value) := by
  -- the routines call each other with a smaller budget, so all five are carried along
  induction n with
  | zero =>
      refine ⟨?_, fun total => ?_, ?_, fun product => ?_, ?_⟩
      · rw [expressionWithin]
        exact h.exhausted
      · rw [sumWithin]
        exact h.exhausted
      · rw [termWithin]
        exact h.exhausted
      · rw [productWithin]
        exact h.exhausted
      · rw [factorWithin]
        exact h.exhausted
  | succ n ih =>
      obtain ⟨ihExpression, ihSum, ihTerm, ihProduct, ihFactor⟩ := ih
      refine ⟨?_, fun total => ?_, ?_, fun product => ?_, ?_⟩
      · rw [expressionWithin]
        exact h.bind ihTerm ihSum
      · rw [sumWithin]
        refine h.bind h.peek fun sight => ?_
        cases sight with
        | finish line offset => exact h.pure total
        | lexeme lexeme =>
            dsimp only
            split
            · exact h.operand _ _ ihTerm ihSum
            · exact h.operand _ _ ihTerm ihSum
            · exact h.pure total
      · rw [termWithin]
        exact h.bind ihFactor ihProduct
      · rw [productWithin]
        refine h.bind h.peek fun sight => ?_
        cases sight with
        | finish line offset => exact h.pure product
        | lexeme lexeme =>
            dsimp only
            split
            · exact h.operand _ _ ihFactor ihProduct
            · exact h.pure product
      · rw [factorWithin]
        refine h.bind h.next fun sight => ?_
        cases sight with
        | finish line offset => exact h.fail _
        | lexeme lexeme =>
            dsimp only
            split
            · exact h.bind ihExpression fun value => h.bind (h.expect _ _) fun _ => h.pure value
            · exact ihFactor
            · exact h.bind ihFactor fun value => h.checked _ _
            · exact h.pure _
            · split
              · exact h.pure _
              · exact h.fail _
            · exact h.fail _

theorem statementWithin (store : Store) (n : Nat) :
    property (statementWithin store n : Routine σ Assignment) := by
  unfold AssignLang.statementWithin
  refine h.bind h.next fun sight => ?_
  cases sight with
  | finish line offset => exact h.fail _
  | lexeme lexeme =>
      dsimp only
      split
      · refine h.bind (h.expect _ _) fun _ => h.bind (h.within store n).1 fun value => ?_
        exact h.bind (h.expect _ _) fun _ => h.pure _
      · exact h.fail _

theorem nextStatementWithin (store : Store) (n : Nat) :
    property (nextStatementWithin store n : Routine σ (Option Assignment)) := by
  unfold AssignLang.nextStatementWithin
  refine h.bind h.peek fun sight => ?_
  cases sight with
  | finish line offset => exact h.pure none
  | lexeme lexeme =>
      dsimp only
      split
      · exact h.bind (h.statementWithin store n) fun assignment => h.pure (some assignment)
      · exact h.fail _

end Compositional

theorem LexFault.error_ne_lexeme (fault : LexFault) (lexeme : Lexeme) :
    (.error fault : Except LexFault Sight) ≠ .ok (.lexeme lexeme) := by
  intro h
  cases h

def Tape.cut (fault : LexFault) (lexemes : List Lexeme) : Tape :=
  ⟨lexemes, .error fault, fault.error_ne_lexeme⟩

def Routine.Unaware (fault : LexFault) (more : Tape) {α : Type} (routine : Routine Tape α) : Prop :=
  ∀ lexemes result after, routine (.cut fault lexemes) = some (result, after) →
    result = .error (.ofFault fault) ∨
      ∃ left, after = .cut fault left ∧
        routine (more.prepend lexemes) = some (result, more.prepend left)

theorem unaware_bind {fault : LexFault} {more : Tape} {α β : Type} {first : Routine Tape α}
    {rest : α → Routine Tape β} (h : first.Unaware fault more)
    (hrest : ∀ value, (rest value).Unaware fault more) :
    (first >>= rest).Unaware fault more := by
  intro lexemes result after ends
  change andThen first rest _ = _ at ends
  change _ ∨ ∃ left, _ ∧ andThen first rest _ = _
  unfold andThen at ends ⊢
  split at ends
  · rename_i value mid began
    rcases h lexemes _ _ began with met | ⟨left, rfl, same⟩
    · cases met
    · rw [same]
      exact hrest value left result after ends
  · rename_i diagnostic mid began
    cases ends
    rcases h lexemes _ _ began with met | ⟨left, rfl, same⟩
    · cases met
      exact .inl rfl
    · exact .inr ⟨left, rfl, by rw [same]⟩
  · cases ends

theorem compositional_unaware (fault : LexFault) (more : Tape) :
    Compositional fun {α : Type} (routine : Routine Tape α) => routine.Unaware fault more where
  pure value := by
    rintro lexemes result after ⟨⟩
    exact .inr ⟨lexemes, rfl, rfl⟩
  fail diagnostic := by
    rintro lexemes result after ⟨⟩
    exact .inr ⟨lexemes, rfl, rfl⟩
  exhausted := by
    rintro _ lexemes result after ⟨⟩
  bind := unaware_bind
  next := by
    rintro (_ | ⟨lexeme, rest⟩) result after ⟨⟩
    · exact .inl rfl
    · exact .inr ⟨rest, rfl, rfl⟩
  peek := by
    rintro (_ | ⟨lexeme, rest⟩) result after ⟨⟩
    · exact .inl rfl
    · exact .inr ⟨lexeme :: rest, rfl, rfl⟩

variable {fault : LexFault} {lexemes : List Lexeme}

theorem nextStatement_cut {store : Store} {result : Except Diagnostic (Option Assignment)}
    {after : Tape} (h : nextStatement store (.cut fault lexemes) = (result, after)) (more : Tape) :
    result = .error (.ofFault fault) ∨
      ∃ left, after = .cut fault left ∧
        nextStatement store (more.prepend lexemes) = (result, more.prepend left) := by
  let limit := max (budget (Tape.cut fault lexemes)) (budget (more.prepend lexemes))
  have unaware := (compositional_unaware fault more).nextStatementWithin store limit lexemes
  rw [nextStatementWithin_eq store (Nat.le_max_left _ _),
    nextStatementWithin_eq store (Nat.le_max_right _ _), h] at unaware
  simpa only [Option.some.injEq] using unaware result after rfl

theorem Session.proceed_cut (session : Session) (fault : LexFault) (lexemes : List Lexeme)
    (more : Tape) :
    (session.proceed (Tape.cut fault lexemes)).1.diagnostics =
        session.diagnostics ++ [.ofFault fault] ∨
      (session.proceed (Tape.cut fault lexemes)).1 =
        (session.proceed (more.prepend lexemes)).1 := by
  generalize cut : Tape.cut fault lexemes = tape
  induction session, tape using proceed_induction generalizing lexemes with
  | assigned session tape assignment after read ih =>
      subst cut
      rcases nextStatement_cut read more with met | ⟨left, rfl, read'⟩
      · cases met
      · rw [proceed_assigned read, proceed_assigned read']
        exact ih left rfl
  | finished session tape after read =>
      subst cut
      obtain ⟨-, line, offset, ending⟩ := nextStatement_none read
      cases ending
  | failed session tape diagnostic after read =>
      subst cut
      rw [proceed_failed read]
      rcases nextStatement_cut read more with met | ⟨left, rfl, read'⟩
      · cases met
        exact .inl rfl
      · rw [proceed_failed read']
        exact .inr rfl

end AssignLang
