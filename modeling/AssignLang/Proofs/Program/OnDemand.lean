import AssignLang.Proofs.Program.Simulation
import AssignLang.Proofs.Token.Stream

namespace AssignLang

namespace Matching

def exactly {σ τ : Type} (source : σ → τ → Prop) : Matching σ τ where
  source := source
  ended := source
  lexeme := Eq
  finish := fun line offset line' offset' => line = line' ∧ offset = offset'
  fault := Eq

theorem reads_exactly {σ τ : Type} {source : σ → τ → Prop} {reading : Except LexFault Sight × σ}
    {reading' : Except LexFault Sight × τ} (same : reading.1 = reading'.1)
    (states : source reading.2 reading'.2) : (exactly source).Reads reading reading' := by
  obtain ⟨shown, s⟩ := reading
  obtain ⟨shown', t⟩ := reading'
  cases same
  rcases shown with fault | lexeme | ⟨line, offset⟩
  · exact .fault rfl states
  · exact .lexeme rfl states
  · exact .finish ⟨rfl, rfl⟩ states

theorem eq_of_same_exactly {σ τ : Type} {source : σ → τ → Prop} {d e : Diagnostic}
    (same : (exactly source).Same d e) : d = e := by
  cases same with
  | lexeme plain shown => cases shown; rfl
  | finish plain shown => obtain ⟨rfl, rfl⟩ := shown; rfl
  | fault shown => cases shown; rfl

end Matching

theorem Session.eq_of_forall₂ {first second : Session} (store : first.store = second.store)
    (diagnostics : List.Forall₂ Eq first.diagnostics second.diagnostics) : first = second := by
  rw [List.forall₂_eq_eq_eq] at diagnostics
  cases first
  cases second
  cases store
  cases diagnostics
  rfl

section

variable {ν : Type} [Counter ν Id]

def streamSimulation (total : Nat) : Simulation (TokenStream ν) Spot where
  toMatching := .exactly fun stream spot => stream.IsAt spot total
  token_eq := fun same => by rw [same]
  ended_of_source := id
  reads_next := fun states => Matching.reads_exactly states.next.1 states.next.2
  reads_peek := fun states => Matching.reads_exactly states.peek.1 states.peek.2

theorem Session.proceed_stream {session : Session} (clean : session.diagnostics = [])
    {stream : TokenStream ν} {spot : Spot} {total : Nat} (h : stream.IsAt spot total) :
    (session.proceed stream).1 = (session.proceed spot).1 ∧
      (session.proceed stream).2.IsAt (session.proceed spot).2 total := by
  let sim : Simulation (TokenStream ν) Spot := streamSimulation total
  obtain ⟨sessions, states⟩ := sim.sameSession_proceed (sim.sameSession_of_nil clean) h
  exact ⟨Session.eq_of_forall₂ sessions.store
    (sessions.diagnostics.imp fun _ _ => Matching.eq_of_same_exactly), states⟩

end

/-- With words for offsets and lines a run ends as with exact numbers, if the text has at least two
bytes less than there are words. -/
theorem Session.run_words (session : Session) {text : String}
    (small : text.utf8ByteSize + 1 < UInt32.size) :
    (session.execute (Id.run (TokenStream.ofStringM text) : TokenStream UInt32)).1 =
      session.run text := by
  have clean : session.clear.diagnostics = [] := rfl
  have fits : (Spot.ofChars text.toList).Fits UInt32 :=
    Spot.fits_ofChars (fun _ => Counter.holds_word_iff.2) (by rwa [byteLength_toList])
  obtain ⟨stream, started, held, -, there⟩ := TokenStream.isAt_ofCharsM fits
  rw [TokenStream.ofStringM_eq, started]
  exact (proceed_stream clean (.bare held there)).1.trans
    (proceed_stream clean (TokenStream.isAt_ofString text)).1.symm

theorem Spot.read_last (spot : Spot) :
    spot.last.read = (.ok (.finish spot.last.line spot.last.offset), spot.last) := rfl

theorem Spot.next_tape_lexeme {spot after : Spot} {lexeme : Lexeme}
    (h : spot.read = (.ok (.lexeme lexeme), after)) :
    spot.tape.next = (.ok (.lexeme lexeme), after.tape) := by
  rw [tape_lexeme h]
  rfl

theorem Spot.next_tape_finish {spot after : Spot} {line offset : Nat}
    (h : spot.read = (.ok (.finish line offset), after)) :
    spot.tape.next = (.ok (.finish line offset), after.tape) := by
  obtain ⟨rfl, rfl, rfl⟩ := read_finish h
  rw [tape_finish h, tape_finish spot.read_last]
  rfl

theorem Spot.next_tape_fault {spot after : Spot} {fault : LexFault}
    (h : spot.read = (.error fault, after)) : spot.tape.next = (.error fault, spot.tape) := by
  rw [tape_fault h]
  rfl

theorem Tape.ending_next (tape : Tape) : tape.next.2.ending = tape.ending := by
  unfold next
  split <;> rfl

def tapeSimulation (ending : Except LexFault Sight) : Simulation Spot Tape where
  source := fun spot tape => tape = spot.tape ∧ tape.ending = ending
  ended := fun _ _ => True
  lexeme := Eq
  finish := fun line offset line' offset' => line = line' ∧ offset = offset'
  fault := fun fault fault' => fault = fault' ∧ ending = .error fault
  token_eq := fun same => by rw [same]
  ended_of_source := fun _ => trivial
  reads_next := by
    rintro spot _ ⟨rfl, rfl⟩
    have kept := spot.tape.ending_next
    simp only [TokenSource.next]
    cases h : spot.read with
    | mk reading after =>
        rcases reading with fault | lexeme | ⟨line, offset⟩
        · rw [Spot.next_tape_fault h]
          exact .fault ⟨rfl, by rw [Spot.tape_fault h]⟩ trivial
        · rw [Spot.next_tape_lexeme h] at kept ⊢
          exact .lexeme rfl ⟨rfl, kept⟩
        · rw [Spot.next_tape_finish h] at kept ⊢
          exact .finish ⟨rfl, rfl⟩ ⟨rfl, kept⟩
  reads_peek := by
    rintro spot _ ⟨rfl, rfl⟩
    simp only [TokenSource.peek, Tape.peek, Spot.peek]
    cases h : spot.read with
    | mk reading after =>
        rcases reading with fault | lexeme | ⟨line, offset⟩
        · rw [Spot.next_tape_fault h]
          exact .fault ⟨rfl, by rw [Spot.tape_fault h]⟩ trivial
        · rw [Spot.next_tape_lexeme h]
          exact .lexeme rfl ⟨rfl, rfl⟩
        · rw [Spot.next_tape_finish h]
          obtain ⟨rfl, rfl, rfl⟩ := Spot.read_finish h
          exact .finish ⟨rfl, rfl⟩ ⟨by rw [Spot.tape_finish h, Spot.tape_finish spot.read_last], rfl⟩

theorem eq_of_same_tape {ending : Except LexFault Sight} {d e : Diagnostic}
    (same : (tapeSimulation ending).Same d e) :
    d = e ∧ ∀ fault, d.cause = .lexical fault → ending = .error fault ∧ d = .ofFault fault := by
  cases same with
  | lexeme plain shown =>
      cases shown
      exact ⟨rfl, fun fault lexical => by simp_all [Diagnostic.atLexeme, Diagnostic.Cause.isLexical]⟩
  | finish plain shown =>
      obtain ⟨rfl, rfl⟩ := shown
      exact ⟨rfl, fun fault lexical => by simp_all [Diagnostic.atSight, Diagnostic.Cause.isLexical]⟩
  | fault shown =>
      obtain ⟨rfl, ends⟩ := shown
      refine ⟨rfl, fun fault lexical => ?_⟩
      cases lexical
      exact ⟨ends, rfl⟩

theorem Session.proceed_spot {session : Session} (clean : session.diagnostics = []) (spot : Spot) :
    (session.proceed spot).1 = (session.proceed spot.tape).1 ∧
      ∀ diagnostic ∈ (session.proceed spot).1.diagnostics, ∀ fault,
        diagnostic.cause = .lexical fault →
        spot.tape.ending = .error fault ∧ diagnostic = .ofFault fault := by
  let sim := tapeSimulation spot.tape.ending
  obtain ⟨sessions, -⟩ := sim.sameSession_proceed (sim.sameSession_of_nil clean) ⟨rfl, rfl⟩
  have eq : (session.proceed spot).1 = (session.proceed spot.tape).1 :=
    eq_of_forall₂ sessions.store (sessions.diagnostics.imp fun _ _ same => (eq_of_same_tape same).1)
  refine ⟨eq, fun diagnostic member => ?_⟩
  have same := sessions.diagnostics
  rw [eq, List.forall₂_same] at same
  exact (eq_of_same_tape (same diagnostic (eq ▸ member))).2

end AssignLang
