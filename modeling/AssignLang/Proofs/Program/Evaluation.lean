import AssignLang.Proofs.Program.Derivation
import AssignLang.Proofs.Program.OnDemand

namespace AssignLang

def Store.integers (store : Store) : Bindings Int :=
  store.toList.map fun binding => (binding.1, binding.2.toInt)

namespace Store

variable {store : Store}

theorem get?_set (valid : store.Valid) (name other : String) (value : Value) :
    (store.set name value).get? other = if other = name then some value else store.get? other := by
  rw [get?_eq_lookup (valid_set valid name value), toList_set valid, Bindings.lookup_assign,
    get?_eq_lookup valid]

theorem integers_set (valid : store.Valid) (name : String) (value : Value) :
    (store.set name value).integers = store.integers.assign name value.toInt := by
  rw [integers, toList_set valid, Bindings.map_assign]
  rfl

theorem integer_eq (valid : store.Valid) : store.integer = Program.integer store.integers := by
  funext name
  rw [integer, get?_eq_lookup valid, Program.integer, integers, Bindings.lookup_map]
  cases store.toList.lookup name <;> rfl

end Store

def Program.eval (store : Store) : Program → Except Diagnostic Store
  | [] => .ok store
  | statement :: rest => do
    let value ← statement.body.eval store
    eval (store.set statement.name value) rest

structure Store.Holds (store : Store) (names : List String) (bindings : Bindings Int) : Prop where
  valid : store.Valid
  names_iff : ∀ name, name ∈ names ↔ (store.get? name).isSome = true
  integers_eq : store.integers = bindings

theorem Store.holds_empty : empty.Holds [] [] where
  valid := valid_empty
  names_iff := by simp [get?, empty]
  integers_eq := rfl

theorem Store.Holds.set {store : Store} {names : List String} {bindings : Bindings Int}
    (holds : store.Holds names bindings) (name : String) (value : Value) :
    (store.set name value).Holds (name :: names) (bindings.assign name value.toInt) where
  valid := valid_set holds.valid name value
  names_iff := by
    intro other
    rw [get?_set holds.valid, List.mem_cons, holds.names_iff]
    by_cases h : other = name <;> simp [h]
  integers_eq := by rw [integers_set holds.valid, holds.integers_eq]

namespace Program

variable {store : Store} {names : List String} {bindings : Bindings Int}

theorem eval_ok {program : Program} {final : Store} (holds : store.Holds names bindings)
    (h : program.eval store = .ok final) :
    program.Closed names ∧ program.InRange bindings ∧ final.integers = program.exact bindings := by
  induction program generalizing store names bindings with
  | nil =>
      cases h
      exact ⟨trivial, trivial, holds.integers_eq⟩
  | cons statement rest ih =>
      obtain ⟨value, body, h⟩ := Except.bind_eq_ok.1 h
      -- a value is its exact integer, so the bindings agree again after the statement
      obtain ⟨reads, range, same⟩ := Tree.eval_ok body
      rw [Store.integer_eq holds.valid, holds.integers_eq] at range same
      obtain ⟨closed, ranges, final_eq⟩ := ih (holds.set statement.name value) h
      rw [← same] at ranges final_eq
      exact ⟨⟨fun name member => (holds.names_iff name).2 (reads name member), closed⟩,
        ⟨range, ranges⟩, final_eq⟩

theorem eval_of_inRange {program : Program} (holds : store.Holds names bindings)
    (closed : program.Closed names) (range : program.InRange bindings) :
    ∃ final, program.eval store = .ok final := by
  induction program generalizing store names bindings with
  | nil => exact ⟨store, rfl⟩
  | cons statement rest ih =>
      obtain ⟨reads, closed⟩ := closed
      obtain ⟨range, ranges⟩ := range
      have integer_eq : Program.integer bindings = store.integer := by
        rw [Store.integer_eq holds.valid, holds.integers_eq]
      rw [integer_eq] at range ranges
      obtain ⟨value, body⟩ := Tree.eval_of_inRange
        (fun name member => (holds.names_iff name).1 (reads name member)) range
      rw [(Tree.eval_ok body).2.2] at ranges
      obtain ⟨final, eval⟩ := ih (holds.set statement.name value) closed ranges
      exact ⟨final, Except.bind_eq_ok.2 ⟨value, body, eval⟩⟩

theorem lexemes_cons (statement : Statement) (rest : Program) :
    lexemes (statement :: rest) = statement.lexemes ++ lexemes rest := rfl

end Program

namespace Session

theorem proceed_program {program : Program} (session : Session) {store : Store}
    (h : program.eval session.store = .ok store) (tape : Tape) :
    session.proceed (tape.prepend program.lexemes) = { session with store }.proceed tape := by
  induction program generalizing session with
  | nil =>
      cases h
      rfl
  | cons statement rest ih =>
      obtain ⟨value, body, h⟩ := Except.bind_eq_ok.1 h
      have read := statement.follows_nextStatement session.store
        (tape.prepend (Program.lexemes rest))
      rw [body] at read
      rw [Program.lexemes_cons, Tape.prepend_append, proceed_assigned read]
      exact ih _ h

theorem diagnostics_proceed_program {program : Program} (session : Session)
    {diagnostic : Diagnostic} (h : program.eval session.store = .error diagnostic) (tape : Tape) :
    (session.proceed (tape.prepend program.lexemes)).1.diagnostics =
      session.diagnostics ++ [diagnostic] := by
  induction program generalizing session with
  | nil => cases h
  | cons statement rest ih =>
      have read := statement.follows_nextStatement session.store
        (tape.prepend (Program.lexemes rest))
      rw [Program.lexemes_cons, Tape.prepend_append]
      cases body : statement.body.eval session.store with
      | error failure =>
          rw [Program.eval, body] at h
          rw [body] at read
          cases h
          rw [proceed_failed (Prod.ext read rfl)]
      | ok value =>
          rw [Program.eval, body] at h
          rw [body] at read
          rw [proceed_assigned read]
          exact ih _ h

theorem proceed_sound {session : Session} {tape : Tape}
    (h : (session.proceed tape).1.diagnostics = []) :
    ∃ program : Program, tape.lexemes = program.lexemes ∧
      (∃ line offset, tape.ending = .ok (.finish line offset)) ∧
      program.eval session.store = .ok (session.proceed tape).1.store := by
  induction session, tape using proceed_induction with
  | assigned session tape assignment after read ih =>
      rw [proceed_assigned read] at h ⊢
      obtain ⟨program, lexemes, ending, eval⟩ := ih h
      obtain ⟨statement, rfl, name, body⟩ := nextStatement_sound read
      refine ⟨statement :: program, ?_, ending, ?_⟩
      · simp [Tape.prepend, lexemes, Program.lexemes]
      · exact Except.bind_eq_ok.2 ⟨assignment.value, body, name ▸ eval⟩
  | finished session tape after read =>
      rw [proceed_finished read]
      obtain ⟨lexemes, ending⟩ := nextStatement_none read
      exact ⟨[], lexemes, ending, rfl⟩
  | failed session tape diagnostic after read =>
      rw [proceed_failed read] at h
      simp at h

theorem proceed_end (session : Session) {tape : Tape} {line offset : Nat}
    (lexemes : tape.lexemes = []) (ending : tape.ending = .ok (.finish line offset)) :
    (session.proceed tape).1 = session := by
  have seen : peekOf tape = (.ok (.finish line offset), tape) :=
    Tape.peekOf_of_next (by simp [Tape.next, lexemes, ending])
  have read : nextStatement session.store tape = (.ok none, tape) := by
    rw [nextStatement_eq, seen, Ending.andThen_ok]
  rw [proceed_finished read]

end Session

/-- Pulling all tokens of the text gives these tokens and no fault. -/
def Lexes (text : String) (lexemes : List Lexeme) : Prop :=
  ∃ after, (TokenStream.ofString text).pullAll = (lexemes, none, after)

theorem lexes_iff {text : String} {lexemes : List Lexeme} :
    Lexes text lexemes ↔ (Spot.ofString text).tape.lexemes = lexemes ∧
      ∃ line offset, (Spot.ofString text).tape.ending = .ok (.finish line offset) := by
  unfold Lexes
  rcases (TokenStream.isAt_ofString text).pullAll rfl with
    ⟨fault, after, pulled, ending⟩ | ⟨after, pulled, ending⟩
  · simp [pulled, ending]
  · simp [pulled, ending]

theorem Session.proceed_eq_proceed_tape {session : Session} (clean : session.diagnostics = [])
    (text : String) :
    (session.proceed (TokenStream.ofString text)).1 =
      (session.proceed (Spot.ofString text).tape).1 :=
  (proceed_stream clean (TokenStream.isAt_ofString text)).1.trans (proceed_spot clean _).1

theorem Session.run_eq_proceed_tape (session : Session) (text : String) :
    session.run text = (session.clear.proceed (Spot.ofString text).tape).1 :=
  proceed_eq_proceed_tape rfl text

theorem Session.run_program (session : Session) {text : String} {program : Program}
    (lexes : Lexes text program.lexemes) :
    match program.eval .empty with
    | .ok store => session.run text = ⟨store, []⟩
    | .error diagnostic => (session.run text).diagnostics = [diagnostic] := by
  obtain ⟨lexemes, line, offset, ending⟩ := lexes_iff.1 lexes
  let last : Tape := { lexemes := [], ending := .ok (.finish line offset) }
  have tape_eq : (Spot.ofString text).tape = last.prepend program.lexemes := by
    generalize (Spot.ofString text).tape = tape at lexemes ending
    obtain ⟨_, _, _⟩ := tape
    subst lexemes ending
    simp only [last, Tape.prepend, List.append_nil]
  rw [run_eq_proceed_tape, tape_eq]
  cases eval : program.eval .empty with
  | ok store =>
      simp only [proceed_program session.clear eval]
      exact proceed_end _ rfl rfl
  | error diagnostic => exact diagnostics_proceed_program session.clear eval last

theorem Session.exists_program {session : Session} {text : String}
    (succeeded : (session.run text).succeeded = true) :
    ∃ program : Program, Lexes text program.lexemes ∧
      program.eval .empty = .ok (session.run text).store := by
  rw [succeeded_iff, run_eq_proceed_tape] at succeeded
  obtain ⟨program, lexemes, ending, eval⟩ := proceed_sound succeeded
  rw [← run_eq_proceed_tape] at eval
  exact ⟨program, lexes_iff.2 ⟨lexemes, ending⟩, eval⟩

/-- A run succeeds exactly if its text is a program that reads assigned names only and all of whose
operations stay in range. Then it ends with the bindings that the program has in unbounded
integers. -/
theorem Session.succeeded_run_iff (session : Session) (text : String) :
    ((session.run text).succeeded = true ↔
      ∃ program : Program, Lexes text program.lexemes ∧ program.Closed [] ∧ program.InRange []) ∧
    ∀ program : Program, Lexes text program.lexemes → (session.run text).succeeded = true →
      (session.run text).store.integers = program.exact [] := by
  refine ⟨⟨fun succeeded => ?_, ?_⟩, fun program lexes succeeded => ?_⟩
  · obtain ⟨program, lexes, eval⟩ := exists_program succeeded
    obtain ⟨closed, range, -⟩ := Program.eval_ok Store.holds_empty eval
    exact ⟨program, lexes, closed, range⟩
  · rintro ⟨program, lexes, closed, range⟩
    obtain ⟨store, eval⟩ := Program.eval_of_inRange Store.holds_empty closed range
    have outcome := session.run_program lexes
    rw [eval] at outcome
    rw [outcome]
    rfl
  · -- another derivation of the tokens would have failed on the same run
    have outcome := session.run_program lexes
    cases eval : program.eval .empty with
    | error diagnostic =>
        simp only [eval] at outcome
        simp [succeeded_iff, outcome] at succeeded
    | ok store =>
        rw [eval] at outcome
        rw [outcome]
        exact (Program.eval_ok Store.holds_empty eval).2.2

theorem Session.succeeded_run_product :
    (new.run "a = 2;\nb = -(a + 3) * a;").succeeded = true ∧
      ∃ program : Program, Lexes "a = 2;\nb = -(a + 3) * a;" program.lexemes ∧
        program.exact [] = [("a", 2), ("b", -10)] := by
  have run_eq : new.run "a = 2;\nb = -(a + 3) * a;" =
      (new.execute (TokenStream.ofChars "a = 2;\nb = -(a + 3) * a;".toList)).1 := by
    rw [run, TokenStream.ofString_eq]
  have succeeded : (new.run "a = 2;\nb = -(a + 3) * a;").succeeded = true := by
    rw [run_eq]
    decide +kernel
  obtain ⟨program, lexes, -, -⟩ := (succeeded_run_iff new _).1.1 succeeded
  refine ⟨succeeded, program, lexes, ?_⟩
  rw [← (succeeded_run_iff new _).2 program lexes succeeded, run_eq]
  decide +kernel

end AssignLang
