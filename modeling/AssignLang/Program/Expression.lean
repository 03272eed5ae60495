import AssignLang.Program.Routine
import AssignLang.Store

/-!
# Expressions

An expression is evaluated while its tokens are read:

    Expression := Term (('+' | '-') Term)*
    Term       := Factor ('*' Factor)*
    Factor     := '(' Expression ')' | ('+' | '-') Factor | Number | Identifier

Operators of one level group to the left. The routines have a budget; three steps for each token
that is left, and three more, are always enough, so `expression`, `term` and `factor` need none.
-/

namespace AssignLang

variable {σ : Type} [TokenSource σ]

open Routine

mutual

def expressionWithin (store : Store) : Nat → Routine σ Value
  | 0 => exhausted
  | n + 1 => do
    let first ← termWithin store n
    sumWithin store n first

def sumWithin (store : Store) : Nat → Value → Routine σ Value
  | 0, _ => exhausted
  | n + 1, total => do
    match ← peek with
    | .finish _ _ => pure total
    | .lexeme lexeme =>
      match lexeme.token with
      | .operator .plus => do
        let _ ← next
        let term ← termWithin store n
        let total ← checked (total.add? term) lexeme
        sumWithin store n total
      | .operator .minus => do
        let _ ← next
        let term ← termWithin store n
        let total ← checked (total.sub? term) lexeme
        sumWithin store n total
      | _ => pure total

def termWithin (store : Store) : Nat → Routine σ Value
  | 0 => exhausted
  | n + 1 => do
    let first ← factorWithin store n
    productWithin store n first

def productWithin (store : Store) : Nat → Value → Routine σ Value
  | 0, _ => exhausted
  | n + 1, product => do
    match ← peek with
    | .finish _ _ => pure product
    | .lexeme lexeme =>
      match lexeme.token with
      | .operator .star => do
        let _ ← next
        let factor ← factorWithin store n
        let product ← checked (product.mul? factor) lexeme
        productWithin store n product
      | _ => pure product

def factorWithin (store : Store) : Nat → Routine σ Value
  | 0 => exhausted
  | n + 1 => do
    match ← next with
    | .finish line offset => fail (.atSight .unexpectedToken (.finish line offset))
    | .lexeme lexeme =>
      match lexeme.token with
      | .openParen => do
        let value ← expressionWithin store n
        expect .closeParen .missingClosingBrace
        pure value
      | .operator .plus => factorWithin store n
      | .operator .minus => do
        let value ← factorWithin store n
        checked value.neg? lexeme
      | .number value => pure value
      | .identifier name =>
        match store.get? name with
        | some value => pure value
        | none => fail (.atLexeme (.unknownVariable name) lexeme)
      | _ => fail (.atLexeme .unexpectedToken lexeme)

end

def budget (source : σ) : Nat := 3 * TokenSource.size source + 3

def Takes (routine : Routine σ Value) (source : σ) : Prop :=
  routine.Ends source fun _ after => TokenSource.size after < TokenSource.size source

def Keeps (routine : Routine σ Value) (source : σ) : Prop :=
  routine.Ends source fun _ after => TokenSource.size after ≤ TokenSource.size source

theorem ends_next_after_peek {α : Type} {source : σ} {rest : Sight → Routine σ α}
    {post : α → σ → Prop}
    (hfinish : ∀ line offset after, TokenSource.size after ≤ TokenSource.size source →
      (rest (.finish line offset)).Ends after post)
    (hlexeme : ∀ lexeme after, TokenSource.size after ≤ TokenSource.size source →
      (TokenSource.next after).1 = .ok (.lexeme lexeme) → (rest (.lexeme lexeme)).Ends after post) :
    (peek >>= rest).Ends source post := by
  have seen : (peek : Routine σ Sight).Ends source fun sight after =>
      TokenSource.size after ≤ TokenSource.size source ∧
      ∀ lexeme, sight = .lexeme lexeme → (TokenSource.next after).1 = .ok (.lexeme lexeme) :=
    ends_peek fun _ _ smaller known => ⟨smaller, known⟩
  refine ends_bind seen ?_
  rintro (lexeme | ⟨line, offset⟩) after ⟨smaller, known⟩
  · exact hlexeme lexeme after smaller (known lexeme rfl)
  · exact hfinish line offset after smaller

theorem keeps_operand {source after : σ} {lexeme : Lexeme} {operand : Routine σ Value}
    {fold : Value → Option Value} {rest : Value → Routine σ Value}
    (smaller : TokenSource.size after ≤ TokenSource.size source)
    (known : (TokenSource.next after).1 = .ok (.lexeme lexeme))
    (hoperand : ∀ s : σ, TokenSource.size s < TokenSource.size source → Takes operand s)
    (hrest : ∀ value, ∀ s : σ, TokenSource.size s < TokenSource.size source →
      Keeps (rest value) s) :
    (next >>= fun _ => operand >>= fun value => checked (fold value) lexeme >>= rest).Ends after
      fun _ last => TokenSource.size last ≤ TokenSource.size source := by
  have taken : (next : Routine σ Sight).Ends after fun _ s =>
      TokenSource.size s < TokenSource.size source :=
    ends_next_of_eq known fun s less => Nat.lt_of_lt_of_le less smaller
  refine ends_bind taken fun _ s less => ?_
  refine ends_bind (hoperand s less) fun value s' less' => ?_
  have folded : (checked (fold value) lexeme : Routine σ Value).Ends s' fun _ s'' =>
      TokenSource.size s'' < TokenSource.size source :=
    ends_checked fun _ => Nat.lt_trans less' less
  refine ends_bind folded fun value' s'' less'' => ?_
  exact (hrest value' s'' less'').imp fun _ _ h => Nat.le_of_lt (Nat.lt_of_le_of_lt h less'')

theorem within_ends (store : Store) (n : Nat) :
    (∀ source : σ, 3 * TokenSource.size source + 3 ≤ n →
      Takes (expressionWithin store n) source) ∧
    (∀ total, ∀ source : σ, 3 * TokenSource.size source + 1 ≤ n →
      Keeps (sumWithin store n total) source) ∧
    (∀ source : σ, 3 * TokenSource.size source + 2 ≤ n → Takes (termWithin store n) source) ∧
    (∀ product, ∀ source : σ, 3 * TokenSource.size source + 1 ≤ n →
      Keeps (productWithin store n product) source) ∧
    (∀ source : σ, 3 * TokenSource.size source + 1 ≤ n →
      Takes (factorWithin store n) source) := by
  induction n with
  | zero => refine ⟨?_, ?_, ?_, ?_, ?_⟩ <;> intros <;> omega
  | succ n ih =>
    obtain ⟨ihExpression, ihSum, ihTerm, ihProduct, ihFactor⟩ := ih
    refine ⟨?_, ?_, ?_, ?_, ?_⟩
    · intro source enough
      rw [expressionWithin]
      refine ends_bind (ihTerm source (by omega)) fun first after less => ?_
      exact (ihSum first after (by omega)).imp fun _ _ h => Nat.lt_of_le_of_lt h less
    · intro total source enough
      rw [sumWithin]
      refine ends_next_after_peek (fun _ _ after smaller => ends_pure smaller) ?_
      intro lexeme after smaller known
      dsimp only
      split
      · exact keeps_operand smaller known (fun s less => ihTerm s (by omega))
          (fun value s less => ihSum value s (by omega))
      · exact keeps_operand smaller known (fun s less => ihTerm s (by omega))
          (fun value s less => ihSum value s (by omega))
      · exact ends_pure smaller
    · intro source enough
      rw [termWithin]
      refine ends_bind (ihFactor source (by omega)) fun first after less => ?_
      exact (ihProduct first after (by omega)).imp fun _ _ h => Nat.lt_of_le_of_lt h less
    · intro product source enough
      rw [productWithin]
      refine ends_next_after_peek (fun _ _ after smaller => ends_pure smaller) ?_
      intro lexeme after smaller known
      dsimp only
      split
      · exact keeps_operand smaller known (fun s less => ihFactor s (by omega))
          (fun value s less => ihProduct value s (by omega))
      · exact ends_pure smaller
    · intro source enough
      rw [factorWithin]
      have taken : (next : Routine σ Sight).Ends source fun sight after =>
          ∀ lexeme, sight = .lexeme lexeme → TokenSource.size after < TokenSource.size source :=
        ends_next (fun _ _ less _ _ => less) (fun _ _ _ _ same => by cases same)
      refine ends_bind taken ?_
      rintro (lexeme | ⟨line, offset⟩) after less
      · have less := less lexeme rfl
        dsimp only
        split
        · refine ends_bind (ihExpression after (by omega)) fun value s less' => ?_
          have closed : (expect .closeParen .missingClosingBrace : Routine σ Unit).Ends s
              fun _ s' => TokenSource.size s' < TokenSource.size source :=
            ends_expect fun s' less'' => by omega
          exact ends_bind closed fun _ s' less'' => ends_pure less''
        · exact (ihFactor after (by omega)).imp fun _ _ h => Nat.lt_trans h less
        · refine ends_bind (ihFactor after (by omega)) fun value s less' => ?_
          exact ends_checked fun _ => Nat.lt_trans less' less
        · exact ends_pure less
        · split
          · exact ends_pure less
          · exact ends_fail
        · exact ends_fail
      · exact ends_fail

theorem takes_expressionWithin (store : Store) (source : σ) :
    Takes (expressionWithin store (budget source)) source :=
  (within_ends store _).1 source (Nat.le_refl _)

theorem takes_termWithin (store : Store) (source : σ) :
    Takes (termWithin store (budget source)) source :=
  (within_ends store _).2.2.1 source (by simp [budget])

theorem takes_factorWithin (store : Store) (source : σ) :
    Takes (factorWithin store (budget source)) source :=
  (within_ends store _).2.2.2.2 source (by simp [budget])

/-- A larger budget never changes an answer. -/
theorem within_below (store : Store) {n m : Nat} (h : n ≤ m) :
    Below (expressionWithin store n : Routine σ Value) (expressionWithin store m) ∧
    (∀ total, Below (sumWithin store n total : Routine σ Value) (sumWithin store m total)) ∧
    Below (termWithin store n : Routine σ Value) (termWithin store m) ∧
    (∀ product, Below (productWithin store n product : Routine σ Value)
      (productWithin store m product)) ∧
    Below (factorWithin store n : Routine σ Value) (factorWithin store m) := by
  induction n generalizing m with
  | zero =>
    refine ⟨?_, fun total => ?_, ?_, fun product => ?_, ?_⟩
    · rw [expressionWithin]
      exact exhausted_below _
    · rw [sumWithin]
      exact exhausted_below _
    · rw [termWithin]
      exact exhausted_below _
    · rw [productWithin]
      exact exhausted_below _
    · rw [factorWithin]
      exact exhausted_below _
  | succ n ih =>
    cases m with
    | zero => omega
    | succ m =>
      obtain ⟨ihExpression, ihSum, ihTerm, ihProduct, ihFactor⟩ := ih (Nat.le_of_succ_le_succ h)
      refine ⟨?_, fun total => ?_, ?_, fun product => ?_, ?_⟩
      · rw [expressionWithin, expressionWithin]
        exact ihTerm.bind ihSum
      · rw [sumWithin, sumWithin]
        refine (Below.refl _).bind ?_
        rintro (lexeme | ⟨line, offset⟩)
        · dsimp only
          split
          · exact (Below.refl _).bind fun _ => ihTerm.bind fun _ => (Below.refl _).bind ihSum
          · exact (Below.refl _).bind fun _ => ihTerm.bind fun _ => (Below.refl _).bind ihSum
          · exact Below.refl _
        · exact Below.refl _
      · rw [termWithin, termWithin]
        exact ihFactor.bind ihProduct
      · rw [productWithin, productWithin]
        refine (Below.refl _).bind ?_
        rintro (lexeme | ⟨line, offset⟩)
        · dsimp only
          split
          · exact (Below.refl _).bind fun _ => ihFactor.bind fun _ => (Below.refl _).bind ihProduct
          · exact Below.refl _
        · exact Below.refl _
      · rw [factorWithin, factorWithin]
        refine (Below.refl _).bind ?_
        rintro (lexeme | ⟨line, offset⟩)
        · dsimp only
          split
          · exact ihExpression.bind fun _ => Below.refl _
          · exact ihFactor
          · exact ihFactor.bind fun _ => Below.refl _
          · exact Below.refl _
          · exact Below.refl _
          · exact Below.refl _
        · exact Below.refl _

def expression (store : Store) (source : σ) : Except Diagnostic Value × σ :=
  (expressionWithin store (budget source) source).get (takes_expressionWithin store source).isSome

def term (store : Store) (source : σ) : Except Diagnostic Value × σ :=
  (termWithin store (budget source) source).get (takes_termWithin store source).isSome

def factor (store : Store) (source : σ) : Except Diagnostic Value × σ :=
  (factorWithin store (budget source) source).get (takes_factorWithin store source).isSome

theorem expressionWithin_eq (store : Store) {source : σ} {n : Nat} (enough : budget source ≤ n) :
    expressionWithin store n source = some (expression store source) :=
  (within_below store enough).1 source _ (Option.some_get _).symm

theorem termWithin_eq (store : Store) {source : σ} {n : Nat} (enough : budget source ≤ n) :
    termWithin store n source = some (term store source) :=
  (within_below store enough).2.2.1 source _ (Option.some_get _).symm

theorem factorWithin_eq (store : Store) {source : σ} {n : Nat} (enough : budget source ≤ n) :
    factorWithin store n source = some (factor store source) :=
  (within_below store enough).2.2.2.2 source _ (Option.some_get _).symm

end AssignLang
