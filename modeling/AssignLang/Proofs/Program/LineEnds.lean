import AssignLang.Proofs.Program.Cutoff
import AssignLang.Proofs.Program.Layout
import AssignLang.Proofs.Token.LineEnds

namespace AssignLang

theorem Lexeme.Alike.refl (lexeme : Lexeme) : lexeme.Alike lexeme := ⟨rfl, rfl⟩

theorem Tape.endAlike_refl (tape : Tape) : EndAlike tape.ending tape.ending := by
  obtain ⟨lexemes, ending, ending_ne⟩ := tape
  rcases ending with fault | lexeme | ⟨line, offset⟩
  · exact ⟨rfl, rfl⟩
  · exact absurd rfl (ending_ne lexeme)
  · exact rfl

def Matching.alike : Matching Tape Tape where
  source := fun tape other =>
    List.Forall₂ Lexeme.Alike tape.lexemes other.lexemes ∧ EndAlike tape.ending other.ending
  ended := fun _ _ => True
  lexeme := Lexeme.Alike
  finish := fun line _ line' _ => line = line'
  fault := LexFault.Alike

theorem Tape.reads_alike {tape other : Tape} (states : Matching.alike.source tape other) :
    Matching.alike.Reads tape.next other.next := by
  obtain ⟨alike, ends⟩ := states
  obtain ⟨lexemes, ending, ending_ne⟩ := tape
  obtain ⟨lexemes', ending', ending_ne'⟩ := other
  cases alike with
  | cons shown rest => exact .lexeme shown ⟨rest, ends⟩
  | nil =>
      rcases ending with fault | lexeme | ⟨line, offset⟩
      · rcases ending' with fault' | sight
        · exact .fault ends trivial
        · cases ends
      · exact absurd rfl (ending_ne lexeme)
      · rcases ending' with fault' | lexeme' | ⟨line', offset'⟩
        · cases ends
        · cases ends
        · exact .finish ends ⟨.nil, ends⟩

def alikeSimulation : Simulation Tape Tape where
  toMatching := .alike
  token_eq := fun alike => alike.1
  ended_of_source := fun _ => trivial
  reads_next := Tape.reads_alike
  reads_peek := fun states => Tape.reads_peek states trivial (Tape.reads_alike states)

def Diagnostic.Cause.Alike : Diagnostic.Cause → Diagnostic.Cause → Prop
  | lexical fault, lexical fault' => fault.cause = fault'.cause
  | cause, cause' => cause = cause'

theorem Diagnostic.Cause.Alike.refl (cause : Diagnostic.Cause) : cause.Alike cause := by
  cases cause <;> rfl

theorem Matching.of_same_alike {d e : Diagnostic} (same : alike.Same d e) :
    d.cause.Alike e.cause ∧ d.line = e.line := by
  cases same with
  | lexeme plain shown => exact ⟨.refl _, shown.2⟩
  | finish plain shown => exact ⟨.refl _, shown⟩
  | fault shown => exact shown

def plainLines (text : String) : String := .ofList (plainEnds text.toList)

theorem Session.sameSession_plainLines (session other : Session) {text : String}
    (kept : ∀ fault : LexFault, fault.AtReturn text.toList →
      (session.run text).diagnostics ≠ [.ofFault fault]) :
    alikeSimulation.SameSession (session.run text) (other.run (plainLines text)) := by
  have alike_of {tape tape' : Tape} (states : alikeSimulation.source tape tape') :
      alikeSimulation.SameSession (session.clear.proceed tape).1 (other.clear.proceed tape').1 :=
    (alikeSimulation.sameSession_proceed (alikeSimulation.sameSession_of_nil rfl) states).1
  obtain ⟨lexemes, more, tape_eq, alike, ends⟩ := Spot.tape_plainEnds text.toList
  have plain_eq : (Spot.ofString (plainLines text)).tape = more.prepend lexemes := by
    rw [Spot.ofString_eq_behind, plainLines, String.toList_ofList, tape_eq]
  rw [run_eq_proceed_tape other, plain_eq]
  rw [run_eq_proceed_tape] at kept ⊢
  rw [Spot.ofString_eq_behind] at kept ⊢
  generalize (Spot.behind [] text.toList).tape = tape at kept alike ends ⊢
  rcases ends with ⟨fault, ending, returned⟩ | ⟨nil, ends⟩
  · obtain ⟨front, last, last_ne⟩ := tape
    subst ending
    rcases session.clear.proceed_cut fault front more with met | same
    · exact absurd met (kept fault returned)
    · -- what follows the zero is not known to the run, so it may be taken from the other text
      have further : List.Forall₂ Lexeme.Alike more.lexemes more.lexemes :=
        List.forall₂_same.2 fun lexeme _ => .refl lexeme
      have states : alikeSimulation.source (more.prepend front) (more.prepend lexemes) :=
        ⟨List.rel_append alike further, more.endAlike_refl⟩
      have ran := alike_of states
      rw [← same] at ran
      exact ran
  · refine alike_of ⟨?_, ends⟩
    simpa [Tape.prepend, nil] using alike

/-- A run that does not fail at a zero before a carriage return is the same without the carriage
returns before line feeds: it has the same bindings, and both runs succeed or both fail, for causes
of one kind on the same line. -/
theorem Session.run_plainLines (session other : Session) {text : String}
    (kept : ∀ fault : LexFault, fault.AtReturn text.toList →
      (session.run text).diagnostics ≠ [.ofFault fault]) :
    (session.run text).store = (other.run (plainLines text)).store ∧
    ((session.run text).diagnostics = [] ∧ (other.run (plainLines text)).diagnostics = [] ∨
      ∃ d e, (session.run text).diagnostics = [d] ∧
        (other.run (plainLines text)).diagnostics = [e] ∧
        d.cause.Alike e.cause ∧ d.line = e.line) := by
  obtain ⟨store, diagnostics⟩ := sameSession_plainLines session other kept
  refine ⟨store, ?_⟩
  rcases session.diagnostics_run text with clean | ⟨d, recorded⟩
  · rw [clean, List.forall₂_nil_left_iff] at diagnostics
    exact .inl ⟨clean, diagnostics⟩
  · rw [recorded, List.forall₂_cons_left_iff] at diagnostics
    obtain ⟨e, rest, same, none, recorded'⟩ := diagnostics
    rw [List.forall₂_nil_left_iff.1 none] at recorded'
    exact .inr ⟨d, e, recorded, recorded', Matching.of_same_alike same⟩

theorem Session.run_plainLines_unmet_zero :
    let text := "a = 1;\r\nb = zz +\r\n0\r\n;"
    plainLines text = "a = 1;\nb = zz +\n0\n;" ∧
      (∀ fault : LexFault, fault.AtReturn text.toList →
        (new.run text).diagnostics ≠ [.ofFault fault]) ∧
      (new.run text).diagnostics = [⟨.unknownVariable "zz", 2, ⟨12, 14⟩⟩] ∧
      ∃ e, (new.run (plainLines text)).diagnostics = [e] ∧
        e.cause = .unknownVariable "zz" ∧ e.line = 2 := by
  intro text
  have diagnostics : (new.run text).diagnostics = [⟨.unknownVariable "zz", 2, ⟨12, 14⟩⟩] := by
    rw [run, TokenStream.ofString_eq]
    decide +kernel
  have kept (fault : LexFault) (_ : fault.AtReturn text.toList) :
      (new.run text).diagnostics ≠ [.ofFault fault] := by
    rw [diagnostics]
    intro failed
    cases failed
  refine ⟨by decide +kernel, kept, diagnostics, ?_⟩
  obtain ⟨-, ⟨clean, -⟩ | ⟨d, e, recorded, recorded', cause, line⟩⟩ := run_plainLines new new kept
  · rw [diagnostics] at clean
    cases clean
  · rw [diagnostics] at recorded
    cases recorded
    exact ⟨e, recorded', cause.symm, line.symm⟩

end AssignLang
