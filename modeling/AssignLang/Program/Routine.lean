import AssignLang.Diagnostic
import AssignLang.Token.Source

/-!
# Routines

A routine reads tokens from a source and ends with a value or with a diagnostic; either way the
source stays where the routine left it. A recursive routine has a budget of steps and gives no
answer once the budget is spent. `Routine.Ends` says that a routine has an answer and what holds
if it ends with a value; `Routine.Below` says that a routine has the same answers as another one as
long as it has any.
-/

namespace AssignLang

/-- Reads from a source of type `σ`; gives no answer if it runs out of its budget. -/
def Routine (σ α : Type) : Type := σ → Option (Except Diagnostic α × σ)

namespace Routine

variable {σ α β : Type}

def give (value : α) : Routine σ α := fun source => some (.ok value, source)

def andThen (first : Routine σ α) (rest : α → Routine σ β) : Routine σ β := fun source =>
  match first source with
  | some (.ok value, source) => rest value source
  | some (.error diagnostic, source) => some (.error diagnostic, source)
  | none => none

instance : Monad (Routine σ) where
  pure := give
  bind := andThen

def fail (diagnostic : Diagnostic) : Routine σ α := fun source => some (.error diagnostic, source)

def exhausted : Routine σ α := fun _ => none

def checked (result : Option Value) (operator : Lexeme) : Routine σ Value :=
  match result with
  | some value => pure value
  | none => fail (.atLexeme .overflow operator)

def ofReading (reading : Except LexFault Sight) : Except Diagnostic Sight :=
  reading.mapError .ofFault

section

variable [TokenSource σ]

def next : Routine σ Sight := fun source =>
  let reading := TokenSource.next source
  some (ofReading reading.1, reading.2)

def peek : Routine σ Sight := fun source =>
  let reading := TokenSource.peek source
  some (ofReading reading.1, reading.2)

def expect (token : Token) (cause : Diagnostic.Cause) : Routine σ Unit := do
  match ← next with
  | .lexeme lexeme =>
    if lexeme.token = token then pure () else fail (.atLexeme cause lexeme)
  | .finish line offset => fail (.atSight cause (.finish line offset))

end

/-- The routine has an answer, and if that is a value, the value and the source after it satisfy
`post`. -/
def Ends (routine : Routine σ α) (source : σ) (post : α → σ → Prop) : Prop :=
  ∃ result after, routine source = some (result, after) ∧
    ∀ value, result = .ok value → post value after

theorem Ends.isSome {routine : Routine σ α} {source : σ} {post : α → σ → Prop}
    (h : routine.Ends source post) : (routine source).isSome = true := by
  obtain ⟨result, after, eq, _⟩ := h
  rw [eq]
  rfl

theorem Ends.imp {routine : Routine σ α} {source : σ} {post post' : α → σ → Prop}
    (h : routine.Ends source post) (weaker : ∀ value after, post value after → post' value after) :
    routine.Ends source post' := by
  obtain ⟨result, after, eq, holds⟩ := h
  exact ⟨result, after, eq, fun value hv => weaker value after (holds value hv)⟩

theorem ends_pure {value : α} {source : σ} {post : α → σ → Prop} (h : post value source) :
    (pure value : Routine σ α).Ends source post := by
  refine ⟨.ok value, source, rfl, ?_⟩
  rintro _ ⟨⟩
  exact h

theorem ends_fail {diagnostic : Diagnostic} {source : σ} {post : α → σ → Prop} :
    (fail diagnostic : Routine σ α).Ends source post := by
  refine ⟨.error diagnostic, source, rfl, ?_⟩
  rintro _ ⟨⟩

theorem ends_bind {first : Routine σ α} {rest : α → Routine σ β} {source : σ}
    {mid : α → σ → Prop} {post : β → σ → Prop} (h : first.Ends source mid)
    (hrest : ∀ value after, mid value after → (rest value).Ends after post) :
    (first >>= rest).Ends source post := by
  obtain ⟨result, after, eq, holds⟩ := h
  have unfolded : (first >>= rest) source = andThen first rest source := rfl
  cases result with
  | ok value =>
    obtain ⟨result', after', eq', holds'⟩ := hrest value after (holds value rfl)
    exact ⟨result', after', by rw [unfolded, andThen, eq]; exact eq', holds'⟩
  | error diagnostic =>
    refine ⟨.error diagnostic, after, by rw [unfolded, andThen, eq], ?_⟩
    rintro _ ⟨⟩

theorem ends_checked {result : Option Value} {operator : Lexeme} {source : σ}
    {post : Value → σ → Prop} (h : ∀ value, post value source) :
    (checked result operator : Routine σ Value).Ends source post := by
  cases result with
  | some value => exact ends_pure (h value)
  | none => exact ends_fail

theorem ofReading_eq_ok {reading : Except LexFault Sight} {sight : Sight}
    (h : ofReading reading = .ok sight) : reading = .ok sight := by
  cases reading with
  | ok seen => exact congrArg Except.ok (Except.ok.inj h)
  | error fault => cases h

section

variable [TokenSource σ]

theorem ends_next {source : σ} {post : Sight → σ → Prop}
    (hlexeme : ∀ lexeme after, TokenSource.size after < TokenSource.size source →
      post (.lexeme lexeme) after)
    (hfinish : ∀ line offset after, post (.finish line offset) after) :
    (next : Routine σ Sight).Ends source post := by
  refine ⟨_, _, rfl, ?_⟩
  intro sight h
  cases sight with
  | lexeme lexeme => exact hlexeme lexeme _ (TokenSource.size_next (ofReading_eq_ok h))
  | finish line offset => exact hfinish line offset _

theorem ends_peek {source : σ} {post : Sight → σ → Prop}
    (h : ∀ sight after, TokenSource.size after ≤ TokenSource.size source →
      (∀ lexeme, sight = .lexeme lexeme → (TokenSource.next after).1 = .ok (.lexeme lexeme)) →
      post sight after) :
    (peek : Routine σ Sight).Ends source post := by
  refine ⟨_, _, rfl, ?_⟩
  intro sight shown
  refine h sight _ (TokenSource.size_peek source) ?_
  rintro lexeme rfl
  exact TokenSource.next_peek (ofReading_eq_ok shown)

theorem ends_next_of_eq {source : σ} {lexeme : Lexeme} {post : Sight → σ → Prop}
    (known : (TokenSource.next source).1 = .ok (.lexeme lexeme))
    (h : ∀ after, TokenSource.size after < TokenSource.size source → post (.lexeme lexeme) after) :
    (next : Routine σ Sight).Ends source post := by
  refine ⟨_, _, rfl, ?_⟩
  intro sight taken
  cases (ofReading_eq_ok taken).symm.trans known
  exact h _ (TokenSource.size_next known)

theorem ends_expect {token : Token} {cause : Diagnostic.Cause} {source : σ}
    {post : Unit → σ → Prop}
    (h : ∀ after, TokenSource.size after < TokenSource.size source → post () after) :
    (expect token cause : Routine σ Unit).Ends source post := by
  have taken : (next : Routine σ Sight).Ends source fun sight after =>
      ∀ lexeme, sight = .lexeme lexeme → TokenSource.size after < TokenSource.size source :=
    ends_next (fun _ _ smaller _ _ => smaller) (fun _ _ _ _ same => by cases same)
  refine ends_bind taken ?_
  intro sight after smaller
  cases sight with
  | lexeme lexeme =>
    dsimp only
    split
    · exact ends_pure (h after (smaller lexeme rfl))
    · exact ends_fail
  | finish line offset => exact ends_fail

end

def Below (small large : Routine σ α) : Prop :=
  ∀ source result, small source = some result → large source = some result

theorem Below.refl (routine : Routine σ α) : Below routine routine := fun _ _ h => h

theorem exhausted_below (routine : Routine σ α) : Below exhausted routine := by
  intro source result h
  cases h

theorem Below.bind {small large : Routine σ α} {smallRest largeRest : α → Routine σ β}
    (h : Below small large) (hrest : ∀ value, Below (smallRest value) (largeRest value)) :
    Below (small >>= smallRest) (large >>= largeRest) := by
  intro source result eq
  have unfolded : andThen small smallRest source = some result := eq
  unfold andThen at unfolded
  have goal : andThen large largeRest source = some result := by
    unfold andThen
    split at unfolded
    · rename_i value after first
      rw [h source _ first]
      exact hrest value after result unfolded
    · rename_i diagnostic after first
      rw [h source _ first]
      exact unfolded
    · cases unfolded
  exact goal

end Routine

end AssignLang
