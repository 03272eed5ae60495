import AssignLang.Proofs.Command.Collection
import AssignLang.Proofs.Store.History
import AssignLang.Proofs.Token.RoundTrip
import Std.Data.String.ToInt

namespace AssignLang

theorem Program.exists_history {program : Program} {store final : Store}
    (h : program.eval store = .ok final) :
    ∃ history : Bindings Value, history.map (·.1) = program.map (·.name) ∧
      final = store.setAll history := by
  induction program generalizing store with
  | nil =>
      cases h
      exact ⟨[], rfl, rfl⟩
  | cons statement rest ih =>
      obtain ⟨value, -, h⟩ := Except.bind_eq_ok.1 h
      obtain ⟨history, names, rfl⟩ := ih h
      exact ⟨(statement.name, value) :: history, by simp [names], rfl⟩

theorem Program.map_fst_eval {program : Program} {final : Store}
    (h : program.eval .empty = .ok final) :
    final.toList.map (·.1) = (program.map (·.name)).eraseDups := by
  obtain ⟨history, names, rfl⟩ := exists_history h
  rw [Store.map_fst_setAll, Bindings.firstNames, names]

namespace Session

variable {session : Session} {text : String}

theorem eval_of_lexes (succeeded : (session.run text).succeeded = true) {program : Program}
    (lexes : Lexes text program.lexemes) :
    program.eval .empty = .ok (session.run text).store := by
  have outcome := session.run_program lexes
  cases eval : program.eval .empty with
  | ok store =>
      rw [eval] at outcome
      rw [outcome]
  | error diagnostic =>
      simp only [eval] at outcome
      simp [succeeded_iff, outcome] at succeeded

theorem writable_of_bound (succeeded : (session.run text).succeeded = true)
    {binding : String × Value} (member : binding ∈ (session.run text).store.toList) :
    (Token.identifier binding.1).Writable := by
  obtain ⟨program, lexes, eval⟩ := exists_program succeeded
  have assigned : binding.1 ∈ program.map (·.name) := by
    rw [← List.mem_eraseDups, ← Program.map_fst_eval eval]
    exact List.mem_map_of_mem member
  obtain ⟨statement, listed, same⟩ := List.mem_map.1 assigned
  have spelt : statement.namePlace.lexeme (.identifier statement.name) ∈
      (TokenStream.ofString text).pullAll.1 := by
    obtain ⟨after, pulled⟩ := lexes
    rw [pulled]
    exact List.mem_flatMap.2 ⟨statement, listed, List.mem_cons_self⟩
  rw [← same]
  exact TokenStream.writable_of_pulled spelt

end Session

def bindingLine (binding : String × Value) : List Char :=
  binding.1.toList ++ (" = ".toList ++ binding.2.text.toList)

theorem toList_shown (binding : String × Value) :
    s!"{binding.1} = {binding.2.text}\n".toList = bindingLine binding ++ ['\n'] := by
  simp [bindingLine, toString]

theorem toList_report (bindings : Bindings Value) :
    (Report.bindings bindings).text.toList =
      bindings.flatMap fun binding => bindingLine binding ++ ['\n'] := by
  rw [Report.text, String.toList_join, List.flatMap_map]
  exact List.flatMap_congr fun binding _ => toList_shown binding

theorem Session.report_of_succeeded {session : Session} (h : session.succeeded = true) :
    session.report = .bindings session.store.toList := if_pos h

theorem Value.mem_text {value : Value} {ch : Char} (member : ch ∈ value.text.toList) :
    ch = '-' ∨ ch.isDigit = true := by
  have digits {number : Nat} (member : ch ∈ number.repr.toList) : ch.isDigit = true := by
    rw [Nat.toList_repr] at member
    exact Nat.isDigit_of_mem_toDigits (by decide) (by decide) member
  rw [text, Int.toString_eq_repr, Int.repr_eq_if] at member
  split at member
  · exact .inr (digits member)
  · rw [String.toList_append, List.mem_append] at member
    exact member.imp (by simp) digits

theorem lineFeed_notMem_bindingLine {binding : String × Value}
    (writable : (Token.identifier binding.1).Writable) : '\n' ∉ bindingLine binding := by
  intro member
  rcases List.mem_append.1 member with name | rest
  · exact absurd (writable.2 _ name) (by decide)
  rcases List.mem_append.1 rest with sign | value
  · revert sign
    decide
  · rcases Value.mem_text value with minus | digit
    · cases minus
    · cases digit

theorem cutLines_report {bindings : Bindings Value}
    (writable : ∀ binding ∈ bindings, (Token.identifier binding.1).Writable) :
    cutLines '\n' (Report.bindings bindings).text.toList =
      bindings.map fun binding => bindingLine binding ++ ['\n'] := by
  rw [toList_report]
  induction bindings with
  | nil => rfl
  | cons binding rest ih =>
      rw [List.forall_mem_cons] at writable
      rw [List.flatMap_cons, List.append_assoc, List.singleton_append,
        cutLines_line (lineFeed_notMem_bindingLine writable.1), ih writable.2, List.map_cons]

theorem takeWhile_bindingLine {binding : String × Value}
    (writable : (Token.identifier binding.1).Writable) :
    (bindingLine binding).takeWhile isNamePart = binding.1.toList := by
  refine LongestRun.takeWhile_eq ⟨writable.2, fun ch head => ?_⟩
  obtain rfl : ' ' = ch := Option.some.inj head
  decide

theorem bindingLine_inj {first second : String × Value}
    (writable : (Token.identifier first.1).Writable)
    (writable' : (Token.identifier second.1).Writable)
    (same : bindingLine first = bindingLine second) : first = second := by
  have names : first.1.toList = second.1.toList := by
    rw [← takeWhile_bindingLine writable, same, takeWhile_bindingLine writable']
  rw [bindingLine, bindingLine, names, List.append_cancel_left_eq, List.append_cancel_left_eq,
    String.toList_inj] at same
  have values : first.2.toInt = second.2.toInt := Int.repr_inj.1 same
  exact Prod.ext (String.toList_inj.1 names) (Value.ext values)

theorem report_inj {bindings bindings' : Bindings Value}
    (writable : ∀ binding ∈ bindings, (Token.identifier binding.1).Writable)
    (writable' : ∀ binding ∈ bindings', (Token.identifier binding.1).Writable)
    (same : (Report.bindings bindings).text = (Report.bindings bindings').text) :
    bindings = bindings' := by
  have lines := cutLines_report writable
  rw [same, cutLines_report writable'] at lines
  clear same
  induction bindings generalizing bindings' with
  | nil => exact (List.map_eq_nil_iff.1 lines).symm
  | cons binding rest ih =>
      cases bindings' with
      | nil => cases lines
      | cons binding' rest' =>
          rw [List.forall_mem_cons] at writable writable'
          rw [List.map_cons, List.map_cons, List.cons.injEq, List.append_cancel_right_eq] at lines
          rw [bindingLine_inj writable.1 writable'.1 lines.1.symm,
            ih writable.2 writable'.2 lines.2]

theorem report_ne_error (bindings : Bindings Value) :
    (Report.bindings bindings).text ≠ Report.error.text := by
  intro same
  have shown := congrArg String.toList same
  rw [toList_report] at shown
  cases bindings with
  | nil => cases shown
  | cons binding rest =>
      have blank : ' ' ∈ Report.error.text.toList := by
        rw [← shown]
        simp [bindingLine]
      revert blank
      decide

/-- The reports of two successful runs have the same text exactly if the runs have the same bindings
in the same order. The lines of such a report are the bindings, whose names are those that the text
assigns, each once and in the order in which it assigns them first. No failed run has the report of
a successful one. -/
theorem Session.report_unambiguous (session other : Session) {text text' : String}
    (succeeded : (session.run text).succeeded = true)
    (succeeded' : (other.run text').succeeded = true) :
    ((session.run text).report.text = (other.run text').report.text ↔
      (session.run text).store.toList = (other.run text').store.toList) ∧
    ((cutLines '\n' (session.run text).report.text.toList).map String.ofList =
        (session.run text).store.toList.map (fun binding => s!"{binding.1} = {binding.2.text}\n") ∧
      ∀ program : Program, Lexes text program.lexemes →
        (session.run text).store.toList.map (·.1) = (program.map (·.name)).eraseDups) ∧
    (session.run text).report.text ≠ "error\n" ∧
    ∀ failed : Session, failed.succeeded = false → failed.report.text = "error\n" := by
  have writable (binding : String × Value) (member : binding ∈ (session.run text).store.toList) :
      (Token.identifier binding.1).Writable := writable_of_bound succeeded member
  rw [report_of_succeeded succeeded, report_of_succeeded succeeded']
  refine ⟨⟨fun same => ?_, fun same => by rw [same]⟩, ⟨?_, fun program lexes => ?_⟩,
    report_ne_error _, fun failed h => ?_⟩
  · exact report_inj writable (fun binding => writable_of_bound succeeded') same
  · rw [cutLines_report writable, List.map_map]
    refine List.map_congr_left fun binding _ => ?_
    rw [Function.comp_apply, ← toList_shown, String.ofList_toList]
  · exact Program.map_fst_eval (eval_of_lexes succeeded lexes)
  · rw [report, h]
    rfl

theorem Session.report_unambiguous_reassigned :
    let text := "error = 7;\n_b = -error;\nerror = _b * _b;"
    let text' := "error=7*7;_b=0-7;"
    (new.run text).succeeded = true ∧ (new.run text').succeeded = true ∧
      (new.run text).report.text = (new.run text').report.text ∧
      (new.run text).report.text ≠ "error\n" ∧
      ∃ program : Program, Lexes text program.lexemes ∧
        ["error", "_b"] = (program.map (·.name)).eraseDups := by
  intro text text'
  have run_eq (text : String) :
      new.run text = (new.execute (TokenStream.ofChars text.toList)).1 := by
    rw [run, TokenStream.ofString_eq]
  have succeeded : (new.run text).succeeded = true := by
    rw [run_eq]
    decide +kernel
  have succeeded' : (new.run text').succeeded = true := by
    rw [run_eq]
    decide +kernel
  have bindings : (new.run text).store.toList = (new.run text').store.toList := by
    rw [run_eq, run_eq]
    decide +kernel
  have names : (new.run text).store.toList.map (·.1) = ["error", "_b"] := by
    rw [run_eq]
    decide +kernel
  obtain ⟨same, ⟨-, assigned⟩, clear, -⟩ := report_unambiguous new new succeeded succeeded'
  obtain ⟨program, lexes, -⟩ := exists_program succeeded
  exact ⟨succeeded, succeeded', same.2 bindings, clear, program, lexes,
    names.symm.trans (assigned program lexes)⟩

end AssignLang
