import AssignLang.Proofs.Session
import Mathlib.Data.List.Forall2

/-!
# Simulations between token sources

Two token sources may show the same tokens at different places. A simulation says how what they
show corresponds and is kept by looking and by taking; then every routine ends on both sources in
the same way: with the same value, or with a diagnostic of the same cause at corresponding places.
A failed routine may leave the sources in states that no longer correspond; what is then still
known of them is a relation of its own.
-/

namespace AssignLang

def Diagnostic.Cause.isLexical : Diagnostic.Cause → Bool
  | lexical _ => true
  | _ => false

/-- How the states of two sources and what they show correspond. -/
structure Matching (σ τ : Type) where
  source : σ → τ → Prop
  ended : σ → τ → Prop
  lexeme : Lexeme → Lexeme → Prop
  finish : Nat → Nat → Nat → Nat → Prop
  fault : LexFault → LexFault → Prop

namespace Matching

variable {σ τ α β : Type}

inductive Reads (m : Matching σ τ) :
    Except LexFault Sight × σ → Except LexFault Sight × τ → Prop
  | lexeme {a b s t} (shown : m.lexeme a b) (states : m.source s t) :
      Reads m (.ok (.lexeme a), s) (.ok (.lexeme b), t)
  | finish {l o l' o' s t} (shown : m.finish l o l' o') (states : m.source s t) :
      Reads m (.ok (.finish l o), s) (.ok (.finish l' o'), t)
  | fault {a b s t} (shown : m.fault a b) (states : m.ended s t) :
      Reads m (.error a, s) (.error b, t)

inductive Same (m : Matching σ τ) : Diagnostic → Diagnostic → Prop
  | lexeme {cause a b} (plain : cause.isLexical = false) (shown : m.lexeme a b) :
      Same m (.atLexeme cause a) (.atLexeme cause b)
  | finish {cause l o l' o'} (plain : cause.isLexical = false) (shown : m.finish l o l' o') :
      Same m (.atSight cause (.finish l o)) (.atSight cause (.finish l' o'))
  | fault {a b} (shown : m.fault a b) : Same m (.ofFault a) (.ofFault b)

inductive Agree (m : Matching σ τ) (value : α → β → Prop) :
    Option (Except Diagnostic α × σ) → Option (Except Diagnostic β × τ) → Prop
  | value {a b s t} (same : value a b) (states : m.source s t) :
      Agree m value (some (.ok a, s)) (some (.ok b, t))
  | failure {d e s t} (same : m.Same d e) (states : m.ended s t) :
      Agree m value (some (.error d, s)) (some (.error e, t))
  | exhausted : Agree m value none none

inductive Sights (m : Matching σ τ) : Sight → Sight → Prop
  | lexeme {a b} (shown : m.lexeme a b) : Sights m (.lexeme a) (.lexeme b)
  | finish {l o l' o'} (shown : m.finish l o l' o') : Sights m (.finish l o) (.finish l' o')

end Matching

structure Simulation (σ τ : Type) [TokenSource σ] [TokenSource τ] extends Matching σ τ where
  token_eq : ∀ {a b}, lexeme a b → a.token = b.token
  ended_of_source : ∀ {s t}, source s t → ended s t
  reads_next : ∀ {s t}, source s t → toMatching.Reads (TokenSource.next s) (TokenSource.next t)
  reads_peek : ∀ {s t}, source s t → toMatching.Reads (TokenSource.peek s) (TokenSource.peek t)

namespace Simulation

variable {σ τ α β γ δ : Type} [TokenSource σ] [TokenSource τ] (sim : Simulation σ τ)

def Matches (value : α → β → Prop) (first : Routine σ α) (second : Routine τ β) : Prop :=
  ∀ s t, sim.source s t → sim.Agree value (first s) (second t)

variable {sim} {value : α → β → Prop} {result : γ → δ → Prop}

open Routine

theorem matches_pure {a : α} {b : β} (h : value a b) :
    sim.Matches value (pure a : Routine σ α) (pure b : Routine τ β) :=
  fun _ _ states => .value h states

theorem matches_fail {d e : Diagnostic} (h : sim.Same d e) :
    sim.Matches value (fail d : Routine σ α) (fail e : Routine τ β) :=
  fun _ _ states => .failure h (sim.ended_of_source states)

theorem matches_exhausted :
    sim.Matches value (exhausted : Routine σ α) (exhausted : Routine τ β) :=
  fun _ _ _ => .exhausted

theorem matches_bind {first : Routine σ α} {second : Routine τ β} {firstRest : α → Routine σ γ}
    {secondRest : β → Routine τ δ} (h : sim.Matches value first second)
    (rest : ∀ a b, value a b → sim.Matches result (firstRest a) (secondRest b)) :
    sim.Matches result (first >>= firstRest) (second >>= secondRest) := by
  intro s t states
  have unfolded := h s t states
  change sim.Agree result (andThen first firstRest s) (andThen second secondRest t)
  unfold andThen
  generalize first s = left at unfolded ⊢
  generalize second t = right at unfolded ⊢
  cases unfolded with
  | value same states => exact rest _ _ same _ _ states
  | failure same states => exact .failure same states
  | exhausted => exact .exhausted

theorem matches_next :
    sim.Matches sim.Sights (next : Routine σ Sight) (next : Routine τ Sight) := by
  intro s t states
  have read := sim.reads_next states
  unfold Routine.next
  generalize TokenSource.next s = left at read ⊢
  generalize TokenSource.next t = right at read ⊢
  cases read with
  | lexeme shown states => exact .value (.lexeme shown) states
  | finish shown states => exact .value (.finish shown) states
  | fault shown states => exact .failure (.fault shown) states

theorem matches_peek :
    sim.Matches sim.Sights (peek : Routine σ Sight) (peek : Routine τ Sight) := by
  intro s t states
  have read := sim.reads_peek states
  unfold Routine.peek
  generalize TokenSource.peek s = left at read ⊢
  generalize TokenSource.peek t = right at read ⊢
  cases read with
  | lexeme shown states => exact .value (.lexeme shown) states
  | finish shown states => exact .value (.finish shown) states
  | fault shown states => exact .failure (.fault shown) states

theorem matches_checked {a b : Lexeme} (shown : sim.lexeme a b) (folded : Option Value) :
    sim.Matches Eq (checked folded a : Routine σ Value) (checked folded b : Routine τ Value) := by
  cases folded with
  | some value => exact matches_pure rfl
  | none => exact matches_fail (.lexeme rfl shown)

theorem matches_expect (token : Token) {cause : Diagnostic.Cause}
    (plain : cause.isLexical = false) :
    sim.Matches Eq (expect token cause : Routine σ Unit) (expect token cause : Routine τ Unit) := by
  refine matches_bind matches_next ?_
  intro first second shown
  cases shown with
  | lexeme shown =>
      dsimp only
      rw [sim.token_eq shown]
      split
      · exact matches_pure rfl
      · exact matches_fail (.lexeme plain shown)
  | finish shown => exact matches_fail (.finish plain shown)

theorem matches_operand {operand : Routine σ Value} {operand' : Routine τ Value}
    {rest : Value → Routine σ Value} {rest' : Value → Routine τ Value} {a b : Lexeme}
    (shown : sim.lexeme a b) (fold : Value → Option Value) (h : sim.Matches Eq operand operand')
    (hrest : ∀ value, sim.Matches Eq (rest value) (rest' value)) :
    sim.Matches Eq (next >>= fun _ => operand >>= fun value => checked (fold value) a >>= rest)
      (next >>= fun _ => operand' >>= fun value => checked (fold value) b >>= rest') := by
  refine matches_bind matches_next fun _ _ _ => ?_
  refine matches_bind h fun value _ same => ?_
  subst same
  refine matches_bind (matches_checked shown (fold value)) fun folded _ same => ?_
  subst same
  exact hrest folded

theorem within_matches (sim : Simulation σ τ) (store : Store) (n : Nat) :
    sim.Matches Eq (expressionWithin store n) (expressionWithin store n) ∧
    (∀ total, sim.Matches Eq (sumWithin store n total) (sumWithin store n total)) ∧
    sim.Matches Eq (termWithin store n) (termWithin store n) ∧
    (∀ product, sim.Matches Eq (productWithin store n product) (productWithin store n product)) ∧
    sim.Matches Eq (factorWithin store n) (factorWithin store n) := by
  -- the routines call each other with a smaller budget, so all five are carried along
  induction n with
  | zero =>
      refine ⟨?_, fun total => ?_, ?_, fun product => ?_, ?_⟩
      · rw [expressionWithin, expressionWithin]
        exact matches_exhausted
      · rw [sumWithin, sumWithin]
        exact matches_exhausted
      · rw [termWithin, termWithin]
        exact matches_exhausted
      · rw [productWithin, productWithin]
        exact matches_exhausted
      · rw [factorWithin, factorWithin]
        exact matches_exhausted
  | succ n ih =>
      obtain ⟨ihExpression, ihSum, ihTerm, ihProduct, ihFactor⟩ := ih
      refine ⟨?_, fun total => ?_, ?_, fun product => ?_, ?_⟩
      · rw [expressionWithin, expressionWithin]
        refine matches_bind ihTerm fun first _ same => ?_
        subst same
        exact ihSum first
      · rw [sumWithin, sumWithin]
        refine matches_bind matches_peek fun _ _ shown => ?_
        cases shown with
        | finish shown => exact matches_pure rfl
        | lexeme shown =>
            dsimp only
            rw [sim.token_eq shown]
            split
            · exact matches_operand shown _ ihTerm ihSum
            · exact matches_operand shown _ ihTerm ihSum
            · exact matches_pure rfl
      · rw [termWithin, termWithin]
        refine matches_bind ihFactor fun first _ same => ?_
        subst same
        exact ihProduct first
      · rw [productWithin, productWithin]
        refine matches_bind matches_peek fun _ _ shown => ?_
        cases shown with
        | finish shown => exact matches_pure rfl
        | lexeme shown =>
            dsimp only
            rw [sim.token_eq shown]
            split
            · exact matches_operand shown _ ihFactor ihProduct
            · exact matches_pure rfl
      · rw [factorWithin, factorWithin]
        refine matches_bind matches_next fun _ _ shown => ?_
        cases shown with
        | finish shown => exact matches_fail (.finish rfl shown)
        | lexeme shown =>
            dsimp only
            rw [sim.token_eq shown]
            split
            · refine matches_bind ihExpression fun value _ same => ?_
              subst same
              exact matches_bind (matches_expect _ rfl) fun _ _ _ => matches_pure rfl
            · exact ihFactor
            · refine matches_bind ihFactor fun value _ same => ?_
              subst same
              exact matches_checked shown _
            · exact matches_pure rfl
            · split
              · exact matches_pure rfl
              · exact matches_fail (.lexeme rfl shown)
            · exact matches_fail (.lexeme rfl shown)

theorem matches_statementWithin (sim : Simulation σ τ) (store : Store) (n : Nat) :
    sim.Matches Eq (statementWithin store n) (statementWithin store n) := by
  unfold statementWithin
  refine matches_bind matches_next fun _ _ shown => ?_
  cases shown with
  | finish shown => exact matches_fail (.finish rfl shown)
  | lexeme shown =>
      dsimp only
      rw [sim.token_eq shown]
      split
      · refine matches_bind (matches_expect _ rfl) fun _ _ _ => ?_
        refine matches_bind (sim.within_matches store n).1 fun value _ same => ?_
        subst same
        exact matches_bind (matches_expect _ rfl) fun _ _ _ => matches_pure rfl
      · exact matches_fail (.lexeme rfl shown)

theorem matches_nextStatementWithin (sim : Simulation σ τ) (store : Store) (n : Nat) :
    sim.Matches Eq (nextStatementWithin store n) (nextStatementWithin store n) := by
  unfold nextStatementWithin
  refine matches_bind matches_peek fun _ _ shown => ?_
  cases shown with
  | finish shown => exact matches_pure rfl
  | lexeme shown =>
      dsimp only
      rw [sim.token_eq shown]
      split
      · refine matches_bind (sim.matches_statementWithin store n) fun assignment _ same => ?_
        subst same
        exact matches_pure rfl
      · exact matches_fail (.lexeme rfl shown)

theorem agree_nextStatement (sim : Simulation σ τ) (store : Store) {s : σ} {t : τ}
    (states : sim.source s t) :
    sim.Agree Eq (some (nextStatement store s)) (some (nextStatement store t)) := by
  have agree := sim.matches_nextStatementWithin store (max (budget s) (budget t)) s t states
  rwa [nextStatementWithin_eq store (Nat.le_max_left _ _),
    nextStatementWithin_eq store (Nat.le_max_right _ _)] at agree

structure SameSession (sim : Simulation σ τ) (first second : Session) : Prop where
  store : first.store = second.store
  diagnostics : List.Forall₂ sim.Same first.diagnostics second.diagnostics

theorem sameSession_of_nil (sim : Simulation σ τ) {session : Session}
    (clean : session.diagnostics = []) : sim.SameSession session session :=
  ⟨rfl, by rw [clean]; exact .nil⟩

theorem sameSession_proceed (sim : Simulation σ τ) {first second : Session} {s : σ} {t : τ}
    (sessions : sim.SameSession first second) (states : sim.source s t) :
    sim.SameSession (first.proceed s).1 (second.proceed t).1 ∧
      sim.ended (first.proceed s).2 (second.proceed t).2 := by
  -- the stores stay equal, so both runs ask for the same statement each time
  induction first, s using Session.proceed_induction generalizing second t with
  | assigned first s assignment after step ih =>
      have agree := sim.agree_nextStatement first.store states
      rw [step, sessions.store] at agree
      generalize stepped : nextStatement second.store t = other at agree
      cases agree with
      | value same states =>
          subst same
          rw [Session.proceed_assigned step, Session.proceed_assigned stepped]
          exact ih ⟨by rw [sessions.store], sessions.diagnostics⟩ states
  | finished first s after step =>
      have agree := sim.agree_nextStatement first.store states
      rw [step, sessions.store] at agree
      generalize stepped : nextStatement second.store t = other at agree
      cases agree with
      | value same states =>
          subst same
          rw [Session.proceed_finished step, Session.proceed_finished stepped]
          exact ⟨sessions, sim.ended_of_source states⟩
  | failed first s diagnostic after step =>
      have agree := sim.agree_nextStatement first.store states
      rw [step, sessions.store] at agree
      generalize stepped : nextStatement second.store t = other at agree
      cases agree with
      | failure same states =>
          rw [Session.proceed_failed step, Session.proceed_failed stepped]
          exact ⟨⟨sessions.store, List.rel_append sessions.diagnostics (.cons same .nil)⟩, states⟩

end Simulation

end AssignLang
