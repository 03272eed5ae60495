import AssignLang.Proofs.Program.Concatenation
import AssignLang.Proofs.Token.Recognition

namespace AssignLang

namespace Matching

variable {σ τ α : Type} {m : Matching σ τ} {first : Except Diagnostic α × σ}
  {second : Except Diagnostic α × τ}

end Matching

theorem Session.proceed_interrupted {session : Session} {tape : Tape}
    (h : (session.proceed tape).1.diagnostics ≠ session.diagnostics) :
    ∃ (program : Program) (rest : Tape) (store : Store) (diagnostic : Diagnostic),
      tape = rest.prepend program.lexemes ∧ program.eval session.store = .ok store ∧
      (nextStatement store rest).1 = .error diagnostic ∧
      (session.proceed tape).1 = ⟨store, session.diagnostics ++ [diagnostic]⟩ := by
  induction session, tape using proceed_induction with
  | assigned session tape assignment after read ih =>
      rw [proceed_assigned read] at h ⊢
      obtain ⟨program, rest, store, diagnostic, rfl, eval, failed, ends⟩ := ih h
      obtain ⟨statement, rfl, name, body⟩ := nextStatement_sound read
      refine ⟨statement :: program, rest, store, diagnostic, ?_, ?_, failed, ends⟩
      · rw [Program.lexemes_cons, Tape.prepend_append]
      · exact Except.bind_eq_ok.2 ⟨assignment.value, body, name ▸ eval⟩
  | finished session tape after read =>
      rw [proceed_finished read] at h
      exact absurd rfl h
  | failed session tape diagnostic after read =>
      refine ⟨[], tape, session.store, diagnostic, rfl, rfl, ?_, ?_⟩
      · rw [read]
      · rw [proceed_failed read]

theorem Tokenised.lexes {text : String} {lexemes : List Lexeme} {stop : List Char}
    (h : Tokenised [] text.toList lexemes stop []) : Lexes text lexemes := by
  rw [lexes_iff, Spot.ofString_eq_behind, h.tape_eq, Spot.tape_nil]
  exact ⟨by simp [Tape.prepend], _, _, rfl⟩

end AssignLang
