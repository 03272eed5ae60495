import AssignLang.Session

namespace AssignLang.Session

theorem succeeded_iff {session : Session} :
    session.succeeded = true ↔ session.diagnostics = [] := List.isEmpty_iff

variable {σ : Type} [TokenSource σ]

theorem size_lt_of_assigned {store : Store} {source after : σ} {assignment : Assignment}
    (h : nextStatement store source = (.ok (some assignment), after)) :
    TokenSource.size after < TokenSource.size source := by
  have less := size_nextStatement (congrArg Prod.fst h)
  rwa [h] at less

theorem executeWithin_eq_of_enough {limit limit' n m : Nat} (session : Session) {source : σ}
    (budgeted : budget source ≤ limit) (budgeted' : budget source ≤ limit')
    (enough : TokenSource.size source < n) (enough' : TokenSource.size source < m) :
    executeWithin limit n session source = executeWithin limit' m session source := by
  induction n generalizing m session source with
  | zero => omega
  | succ n ih =>
      cases m with
      | zero => omega
      | succ m =>
          unfold executeWithin
          rw [nextStatementWithin_eq session.store budgeted,
            nextStatementWithin_eq session.store budgeted']
          split
          · rename_i assignment after eq
            have less := size_lt_of_assigned (Option.some.inj eq)
            have budgets : budget after ≤ budget source := by
              unfold budget
              omega
            exact ih _ (by omega) (by omega) (by omega) (by omega)
          · rfl
          · rfl
          · rfl

theorem executeWithin_eq {limit n : Nat} (session : Session) {source : σ}
    (budgeted : budget source ≤ limit) (enough : TokenSource.size source < n) :
    executeWithin limit n session source = some (session.proceed source) := by
  rw [proceed, Option.some_get]
  exact executeWithin_eq_of_enough session budgeted (Nat.le_refl _) enough (Nat.lt_succ_self _)

theorem proceed_assigned {session : Session} {source after : σ} {assignment : Assignment}
    (h : nextStatement session.store source = (.ok (some assignment), after)) :
    session.proceed source =
      { session with store := session.store.assign assignment }.proceed after := by
  have less := size_lt_of_assigned h
  apply Option.some.inj
  rw [← executeWithin_eq session (Nat.le_refl (budget source)) (Nat.lt_succ_self _)]
  simp only [executeWithin, nextStatementWithin_eq session.store (Nat.le_refl (budget source)), h]
  apply executeWithin_eq
  · unfold budget
    omega
  · exact less

theorem proceed_finished {session : Session} {source after : σ}
    (h : nextStatement session.store source = (.ok none, after)) :
    session.proceed source = (session, after) := by
  apply Option.some.inj
  rw [← executeWithin_eq session (Nat.le_refl (budget source)) (Nat.lt_succ_self _)]
  simp only [executeWithin, nextStatementWithin_eq session.store (Nat.le_refl (budget source)), h]

theorem proceed_failed {session : Session} {source after : σ} {diagnostic : Diagnostic}
    (h : nextStatement session.store source = (.error diagnostic, after)) :
    session.proceed source =
      ({ session with diagnostics := session.diagnostics ++ [diagnostic] }, after) := by
  apply Option.some.inj
  rw [← executeWithin_eq session (Nat.le_refl (budget source)) (Nat.lt_succ_self _)]
  simp only [executeWithin, nextStatementWithin_eq session.store (Nat.le_refl (budget source)), h]

@[elab_as_elim]
theorem proceed_induction {motive : Session → σ → Prop}
    (assigned : ∀ session source assignment after,
      nextStatement session.store source = (.ok (some assignment), after) →
      motive { session with store := session.store.assign assignment } after →
      motive session source)
    (finished : ∀ session source after,
      nextStatement session.store source = (.ok none, after) → motive session source)
    (failed : ∀ session source diagnostic after,
      nextStatement session.store source = (.error diagnostic, after) → motive session source)
    (session : Session) (source : σ) : motive session source := by
  cases h : nextStatement session.store source with
  | mk result after =>
      rcases result with diagnostic | _ | assignment
      · exact failed session source diagnostic after h
      · exact finished session source after h
      · have less := size_lt_of_assigned h
        exact assigned session source assignment after h
          (proceed_induction assigned finished failed _ after)
termination_by TokenSource.size source

end AssignLang.Session
