import AssignLang.Proofs.Program.Blame

namespace AssignLang

def Diagnostic.IsAtToken (diagnostic : Diagnostic) (lexemes : List Lexeme) (index : Nat) : Prop :=
  ∃ lexeme, lexemes[index]? = some lexeme ∧ diagnostic.line = lexeme.line ∧
    diagnostic.span = lexeme.span

def Diagnostic.IsAtEnd (diagnostic : Diagnostic) (text : String) : Prop :=
  diagnostic.line = 1 + text.toList.count '\n' ∧ diagnostic.span = .atOffset text.utf8ByteSize

theorem Tape.reads_peek {m : Matching Tape Tape} {tape other : Tape}
    (states : m.source tape other) (ended : m.ended tape other)
    (reads : m.Reads tape.next other.next) : m.Reads tape.peek other.peek := by
  unfold peek
  generalize tape.next = left at reads ⊢
  generalize other.next = right at reads ⊢
  cases reads with
  | lexeme shown _ => exact .lexeme shown states
  | finish shown _ => exact .finish shown states
  | fault shown _ => exact .fault shown ended

/-- The lexemes are the same token, at the same number of two lists. -/
def Lexeme.Pairs (first second : List Lexeme) (a b : Lexeme) : Prop :=
  a.token = b.token ∧ ∃ index : Nat, first[index]? = some a ∧ second[index]? = some b

theorem forall₂_pairs {first second : List Lexeme} (tokens : tokensOf first = tokensOf second) :
    List.Forall₂ (Lexeme.Pairs first second) first second := by
  have lengths : first.length = second.length := by
    simpa [tokensOf] using congrArg List.length tokens
  rw [List.forall₂_iff_get]
  refine ⟨lengths, fun index inside inside' => ⟨?_, index, by simp, by simp⟩⟩
  have same := congrArg (·[index]?) tokens
  simpa [tokensOf, inside, inside'] using same

def Matching.layout (first second : Tape) : Matching Tape Tape where
  source := fun tape other =>
    List.Forall₂ (Lexeme.Pairs first.lexemes second.lexemes) tape.lexemes other.lexemes ∧
      tape.ending = first.ending ∧ other.ending = second.ending
  ended := fun _ _ => True
  lexeme := Lexeme.Pairs first.lexemes second.lexemes
  finish := fun line offset line' offset' =>
    first.ending = .ok (.finish line offset) ∧ second.ending = .ok (.finish line' offset')
  fault := fun _ _ => False

section

variable {first second : Tape} {line offset line' offset' : Nat}
  (ending : first.ending = .ok (.finish line offset))
  (ending' : second.ending = .ok (.finish line' offset'))

include ending ending'

theorem Tape.reads_layout {tape other : Tape}
    (states : (Matching.layout first second).source tape other) :
    (Matching.layout first second).Reads tape.next other.next := by
  obtain ⟨pairs, ends, ends'⟩ := states
  obtain ⟨lexemes, last, _⟩ := tape
  obtain ⟨lexemes', last', _⟩ := other
  cases pairs with
  | nil =>
      obtain rfl : last = .ok (.finish line offset) := ends.trans ending
      obtain rfl : last' = .ok (.finish line' offset') := ends'.trans ending'
      exact .finish ⟨ending, ending'⟩ ⟨.nil, ends, ends'⟩
  | cons shown rest => exact .lexeme shown ⟨rest, ends, ends'⟩

def layoutSimulation : Simulation Tape Tape where
  toMatching := .layout first second
  token_eq := fun pairs => pairs.1
  ended_of_source := fun _ => trivial
  reads_next := fun states => Tape.reads_layout ending ending' states
  reads_peek := fun states =>
    Tape.reads_peek states trivial (Tape.reads_layout ending ending' states)

end

theorem Matching.of_same_layout {text text' : String} {d e : Diagnostic}
    (same : (layout (Spot.ofString text).tape (Spot.ofString text').tape).Same d e) :
    d.cause = e.cause ∧
      ((∃ index, d.IsAtToken (Spot.ofString text).tape.lexemes index ∧
          e.IsAtToken (Spot.ofString text').tape.lexemes index) ∨
        d.IsAtEnd text ∧ e.IsAtEnd text') := by
  cases same with
  | lexeme plain shown =>
      obtain ⟨-, index, found, found'⟩ := shown
      exact ⟨rfl, .inl ⟨index, ⟨_, found, rfl, rfl⟩, ⟨_, found', rfl, rfl⟩⟩⟩
  | finish plain shown =>
      obtain ⟨rfl, rfl⟩ := Spot.ending_ofString shown.1
      obtain ⟨rfl, rfl⟩ := Spot.ending_ofString shown.2
      exact ⟨rfl, .inr ⟨⟨rfl, rfl⟩, ⟨rfl, rfl⟩⟩⟩
  | fault shown => exact shown.elim

theorem Session.diagnostics_run (session : Session) (text : String) :
    (session.run text).diagnostics = [] ∨ ∃ d, (session.run text).diagnostics = [d] := by
  rw [run_eq_proceed_tape]
  by_cases clean : (session.clear.proceed (Spot.ofString text).tape).1.diagnostics = []
  · exact .inl clean
  · obtain ⟨program, rest, store, diagnostic, -, -, -, ends⟩ := proceed_interrupted clean
    exact .inr ⟨diagnostic, by rw [ends]; rfl⟩

theorem Session.sameSession_layout (session other : Session) {text text' : String}
    {line offset line' offset' : Nat}
    (ending : (Spot.ofString text).tape.ending = .ok (.finish line offset))
    (ending' : (Spot.ofString text').tape.ending = .ok (.finish line' offset'))
    (tokens : tokensOf (Spot.ofString text).tape.lexemes =
      tokensOf (Spot.ofString text').tape.lexemes) :
    (layoutSimulation ending ending').SameSession (session.run text) (other.run text') := by
  let sim := layoutSimulation ending ending'
  have states : sim.source (Spot.ofString text).tape (Spot.ofString text').tape :=
    ⟨forall₂_pairs tokens, rfl, rfl⟩
  have started : sim.SameSession session.clear other.clear := sim.sameSession_of_nil rfl
  rw [run_eq_proceed_tape, run_eq_proceed_tape]
  exact (sim.sameSession_proceed started states).1

/-- Texts with the same tokens are run in the same way, by any sessions: with the same bindings, and
both runs succeed, or both fail for the same cause at tokens of the same number or at the end. -/
theorem Session.run_layout (session other : Session) {text text' : String}
    {lexemes lexemes' : List Lexeme} (lexes : Lexes text lexemes) (lexes' : Lexes text' lexemes')
    (tokens : tokensOf lexemes = tokensOf lexemes') :
    (session.run text).store = (other.run text').store ∧
    ((session.run text).diagnostics = [] ∧ (other.run text').diagnostics = [] ∨
      ∃ d e, (session.run text).diagnostics = [d] ∧ (other.run text').diagnostics = [e] ∧
        d.cause = e.cause ∧
        ((∃ index, d.IsAtToken lexemes index ∧ e.IsAtToken lexemes' index) ∨
          d.IsAtEnd text ∧ e.IsAtEnd text')) := by
  obtain ⟨rfl, line, offset, ending⟩ := lexes_iff.1 lexes
  obtain ⟨rfl, line', offset', ending'⟩ := lexes_iff.1 lexes'
  obtain ⟨store, diagnostics⟩ := sameSession_layout session other ending ending' tokens
  refine ⟨store, ?_⟩
  rcases session.diagnostics_run text with clean | ⟨d, recorded⟩
  · rw [clean, List.forall₂_nil_left_iff] at diagnostics
    exact .inl ⟨clean, diagnostics⟩
  · rw [recorded, List.forall₂_cons_left_iff] at diagnostics
    obtain ⟨e, rest, same, none, recorded'⟩ := diagnostics
    rw [List.forall₂_nil_left_iff.1 none] at recorded'
    exact .inr ⟨d, e, recorded, recorded', Matching.of_same_layout same⟩

theorem Session.run_layout_unknown :
    let text := "a = 01;\nb = a +\n  zz;"
    let text' := "a=1;b=a+zz\t;"
    let lexemes := (TokenStream.ofString text).pullAll.1
    let lexemes' := (TokenStream.ofString text').pullAll.1
    Lexes text lexemes ∧ Lexes text' lexemes' ∧ tokensOf lexemes = tokensOf lexemes' ∧
      (new.run text).store = (new.run text').store ∧
      (new.run text).diagnostics = [⟨.unknownVariable "zz", 3, ⟨18, 20⟩⟩] ∧
      ∃ e, (new.run text').diagnostics = [e] ∧ e.cause = .unknownVariable "zz" := by
  intro text text' lexemes lexemes'
  have lexes : Lexes text lexemes := by
    refine ⟨_, Prod.ext rfl (Prod.ext ?_ rfl)⟩
    rw [TokenStream.ofString_eq]
    decide +kernel
  have lexes' : Lexes text' lexemes' := by
    refine ⟨_, Prod.ext rfl (Prod.ext ?_ rfl)⟩
    rw [TokenStream.ofString_eq]
    decide +kernel
  have tokens : tokensOf lexemes = tokensOf lexemes' := by
    simp only [lexemes, lexemes', TokenStream.ofString_eq]
    decide +kernel
  have diagnostics : (new.run text).diagnostics = [⟨.unknownVariable "zz", 3, ⟨18, 20⟩⟩] := by
    rw [run, TokenStream.ofString_eq]
    decide +kernel
  obtain ⟨store, ⟨clean, -⟩ | ⟨d, e, recorded, recorded', cause, -⟩⟩ :=
    run_layout new new lexes lexes' tokens
  · rw [diagnostics] at clean
    cases clean
  · rw [diagnostics] at recorded
    cases recorded
    exact ⟨lexes, lexes', tokens, store, diagnostics, e, recorded', cause.symm⟩

end AssignLang
