import AssignLang.Program.Expression

namespace AssignLang

variable {σ : Type} [TokenSource σ]

open Routine

def statementWithin (store : Store) (n : Nat) : Routine σ Assignment := do
  match ← next with
  | .finish line offset => fail (.atSight .expectedVariable (.finish line offset))
  | .lexeme lexeme =>
    match lexeme.token with
    | .identifier name => do
      expect (.operator .assign) .expectedAssignment
      let value ← expressionWithin store n
      expect .semicolon .expectedSemicolon
      pure ⟨name, value⟩
    | _ => fail (.atLexeme .expectedVariable lexeme)

def nextStatementWithin (store : Store) (n : Nat) : Routine σ (Option Assignment) := do
  match ← peek with
  | .finish _ _ => pure none
  | .lexeme lexeme =>
    if lexeme.token.isIdentifier then do
      let assignment ← statementWithin store n
      pure (some assignment)
    else fail (.atLexeme .notStatement lexeme)

theorem ends_statementWithin (store : Store) {source : σ} {n : Nat} (enough : budget source ≤ n) :
    (statementWithin store n).Ends source fun _ after =>
      TokenSource.size after < TokenSource.size source := by
  unfold statementWithin
  unfold budget at enough
  have taken : (next : Routine σ Sight).Ends source fun sight after =>
      ∀ lexeme, sight = .lexeme lexeme → TokenSource.size after < TokenSource.size source :=
    ends_next (fun _ _ less _ _ => less) (fun _ _ _ _ same => by cases same)
  refine ends_bind taken ?_
  rintro (lexeme | ⟨line, offset⟩) after less
  · have less := less lexeme rfl
    dsimp only
    split
    · have assigned : (expect (.operator .assign) .expectedAssignment : Routine σ Unit).Ends after
          fun _ s => TokenSource.size s < TokenSource.size source :=
        ends_expect fun s less' => Nat.lt_trans less' less
      refine ends_bind assigned fun _ s less' => ?_
      refine ends_bind ((within_ends store n).1 s (by omega)) fun value s' less'' => ?_
      have closed : (expect .semicolon .expectedSemicolon : Routine σ Unit).Ends s'
          fun _ s'' => TokenSource.size s'' < TokenSource.size source :=
        ends_expect fun s'' less''' => by omega
      exact ends_bind closed fun _ s'' less''' => ends_pure less'''
    · exact ends_fail
  · exact ends_fail

theorem ends_nextStatementWithin (store : Store) {source : σ} {n : Nat}
    (enough : budget source ≤ n) :
    (nextStatementWithin store n).Ends source fun result after =>
      result.isSome = true → TokenSource.size after < TokenSource.size source := by
  unfold nextStatementWithin
  refine ends_next_after_peek (fun _ _ after smaller => ends_pure (by simp)) ?_
  intro lexeme after smaller known
  dsimp only
  split
  · have enough' : budget after ≤ n := by
      unfold budget at enough ⊢
      omega
    refine ends_bind (ends_statementWithin store enough') fun assignment s less => ?_
    exact ends_pure fun _ => Nat.lt_of_lt_of_le less smaller
  · exact ends_fail

def statement (store : Store) (source : σ) : Except Diagnostic Assignment × σ :=
  (statementWithin store (budget source) source).get
    (ends_statementWithin store (Nat.le_refl _)).isSome

def nextStatement (store : Store) (source : σ) : Except Diagnostic (Option Assignment) × σ :=
  (nextStatementWithin store (budget source) source).get
    (ends_nextStatementWithin store (Nat.le_refl _)).isSome

theorem statementWithin_below (store : Store) {n m : Nat} (h : n ≤ m) :
    Below (statementWithin store n : Routine σ Assignment) (statementWithin store m) := by
  unfold statementWithin
  refine (Below.refl _).bind ?_
  rintro (lexeme | ⟨line, offset⟩)
  · dsimp only
    split
    · exact (Below.refl _).bind fun _ => (within_below store h).1.bind fun _ => Below.refl _
    · exact Below.refl _
  · exact Below.refl _

theorem nextStatementWithin_below (store : Store) {n m : Nat} (h : n ≤ m) :
    Below (nextStatementWithin store n : Routine σ (Option Assignment))
      (nextStatementWithin store m) := by
  unfold nextStatementWithin
  refine (Below.refl _).bind ?_
  rintro (lexeme | ⟨line, offset⟩)
  · dsimp only
    split
    · exact (statementWithin_below store h).bind fun _ => Below.refl _
    · exact Below.refl _
  · exact Below.refl _

theorem statementWithin_eq (store : Store) {source : σ} {n : Nat} (enough : budget source ≤ n) :
    statementWithin store n source = some (statement store source) :=
  statementWithin_below store enough source _ (Option.some_get _).symm

theorem nextStatementWithin_eq (store : Store) {source : σ} {n : Nat}
    (enough : budget source ≤ n) :
    nextStatementWithin store n source = some (nextStatement store source) :=
  nextStatementWithin_below store enough source _ (Option.some_get _).symm

theorem size_nextStatement {store : Store} {source : σ} {assignment : Assignment}
    (h : (nextStatement store source).1 = .ok (some assignment)) :
    TokenSource.size (nextStatement store source).2 < TokenSource.size source := by
  obtain ⟨result, last, eq, holds⟩ :=
    ends_nextStatementWithin store (Nat.le_refl (budget source))
  have same : nextStatement store source = (result, last) := by
    unfold nextStatement
    simp only [eq, Option.get_some]
  rw [same] at h ⊢
  exact holds _ h rfl

end AssignLang
