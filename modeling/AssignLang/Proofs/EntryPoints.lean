import AssignLang.Command.Respond
import AssignLang.Proofs.Command.Collection
import AssignLang.Proofs.Program.Delimiter
import AssignLang.Proofs.Program.Source

namespace AssignLang

inductive Submission where
  | whole (text : String)
  | streamed (text : String)
deriving DecidableEq, Repr

def Submission.text : Submission → String
  | whole text => text
  | streamed text => text

namespace Session

def submit (session : Session) : Submission → Session
  | .whole text => session.run text
  | .streamed text => session.runChars text.toList

theorem run_forgets (session : Session) (text : String) : session.run text = AssignLang.run text :=
  rfl

theorem runChars_toList (session : Session) (text : String) :
    session.runChars text.toList = session.run text := by
  rw [run, TokenStream.ofString_eq]
  rfl

theorem submit_eq_run (session : Session) (submission : Submission) :
    session.submit submission = AssignLang.run submission.text := by
  cases submission with
  | whole text => exact run_forgets session text
  | streamed text => exact (runChars_toList session text).trans (run_forgets session text)

/-- After any programs a session is left as a new one by the last of them, run as a whole. -/
theorem submit_last (session : Session) (history : List Submission) (last : Submission) :
    (history ++ [last]).foldl submit session = AssignLang.run last.text := by
  rw [List.foldl_append]
  exact submit_eq_run _ last

end Session

inductive SameOutcome : Except Failure Session → Except Failure Session → Prop
  | ok (session : Session) : SameOutcome (.ok session) (.ok session)
  | failed {path path' text text' : String} {diagnostic diagnostic' : Diagnostic}
      (cause : diagnostic.cause = diagnostic'.cause) :
      SameOutcome (.error (.run path text diagnostic)) (.error (.run path' text' diagnostic'))

theorem sameOutcome_runText {text text' : String} (path path' : String)
    (store : (run text).store = (run text').store)
    (diagnostics : List.Forall₂ (fun d e => d.cause = e.cause) (run text).diagnostics
      (run text').diagnostics) : SameOutcome (runText path text) (runText path' text') := by
  simp only [runText]
  generalize first : (run text).diagnostics = left at diagnostics
  generalize second : (run text').diagnostics = right at diagnostics
  cases diagnostics with
  | nil =>
      have same : run text = run text' :=
        Session.eq_of_forall₂ store (by rw [first, second]; exact .nil)
      rw [same]
      exact .ok _
  | cons cause rest => exact .failed cause

theorem sameOutcome_endedLines (path path' text : String) :
    SameOutcome (runText path (String.ofList (endedLines text.toList))) (runText path' text) := by
  unfold endedLines
  split
  · rw [String.ofList_toList]
    exact sameOutcome_runText path path' rfl (List.forall₂_same.2 fun _ _ => rfl)
  · have ended : String.ofList (text.toList ++ ['\n']) = text ++ String.singleton '\n' := by
      apply String.toList_inj.1
      simp
    obtain ⟨store, diagnostics⟩ := run_delimited delimits_lineFeed text
    rw [ended]
    exact sameOutcome_runText path path' store diagnostics

namespace Command

def printed : Except Failure Session → String
  | .ok session => session.report.text
  | .error (.run _ _ _) => Report.error.text
  | .error (.io _) => ""

def exitCode : Except Failure Session → Nat
  | .ok _ => 0
  | .error _ => 1

theorem conclude_eq (greeting : String) (explain quiet : Bool)
    (outcome : Styled × Except Failure Session) (elapsed : String) :
    (conclude greeting explain quiet outcome elapsed).stdout = greeting ++ printed outcome.2 ∧
      (conclude greeting explain quiet outcome elapsed).code = exitCode outcome.2 := by
  obtain ⟨started, result⟩ := outcome
  rcases result with (⟨path, text, diagnostic⟩ | fault) | session
  · exact ⟨rfl, rfl⟩
  · exact ⟨(String.append_empty).symm, rfl⟩
  · exact ⟨rfl, rfl⟩

theorem written_run (path : Option String) (explain quiet : Bool) (input : Input)
    (elapsed : String) (setting : Option String) :
    (((run path explain quiet).respond input elapsed).written setting).stdout =
        (run path false false).greeting ++ printed (outcome path input).2 ∧
      (((run path explain quiet).respond input elapsed).written setting).code =
        exitCode (outcome path input).2 := by
  have greeting : (run path explain quiet).greeting = (run path false false).greeting := by
    cases path <;> rfl
  simp only [Transcript.written, respond, conclude_eq, greeting, and_self]

end Command

theorem SameOutcome.printed {first second : Except Failure Session} (h : SameOutcome first second) :
    Command.printed first = Command.printed second ∧
      Command.exitCode first = Command.exitCode second := by
  cases h with
  | ok session => exact ⟨rfl, rfl⟩
  | failed cause => exact ⟨rfl, rfl⟩

theorem sameOutcome_typed_stored {text : String} (plain : PlainLines text.toList)
    {typed stored : Input} {path : String} (stdin : typed.stdin = text.toUTF8.data.toList)
    (file : stored.file path = .ok text.toUTF8.data.toList) :
    SameOutcome (Command.outcome none typed).2 (Command.outcome (some path) stored).2 := by
  have collected : collectLines typed.stdin = .ok (String.ofList (endedLines text.toList)) := by
    rw [stdin, Utf8.toUTF8_eq_encode, collectLines_encode plain]
  simp only [Command.outcome, collected, file, runFile_ok,
    runBytes_of_sound path (Utf8.decode_toUTF8 text)]
  exact sameOutcome_endedLines _ path text

/-- A text without blank lines, and without carriage returns before line feeds, is run in the same
way from the standard input and from a file, with any flags and colours: after the banner the same
is printed, the exit codes are equal, and both runs succeed or both fail for the same cause. Flags
and colours change neither what is printed nor the exit code, whatever is run. -/
theorem run_typed_eq_run_stored :
    (∀ (text path : String) (typed stored : Input) (explain quiet explain' quiet' : Bool)
      (elapsed elapsed' : String) (setting setting' : Option String),
      PlainLines text.toList → typed.stdin = text.toUTF8.data.toList →
      stored.file path = .ok text.toUTF8.data.toList →
      let fromInput :=
        ((Command.run none explain quiet).respond typed elapsed).written setting
      let fromFile :=
        ((Command.run (some path) explain' quiet').respond stored elapsed').written setting'
      fromInput.stdout = Command.banner ++ fromFile.stdout ∧ fromInput.code = fromFile.code ∧
        SameOutcome (Command.outcome none typed).2 (Command.outcome (some path) stored).2) ∧
    ∀ (path : Option String) (input : Input) (explain quiet explain' quiet' : Bool)
      (elapsed elapsed' : String) (setting setting' : Option String),
      let first := ((Command.run path explain quiet).respond input elapsed).written setting
      let second := ((Command.run path explain' quiet').respond input elapsed').written setting'
      first.stdout = second.stdout ∧ first.code = second.code := by
  constructor
  · intro text path typed stored explain quiet explain' quiet' elapsed elapsed' setting setting'
      plain stdin file
    have same := sameOutcome_typed_stored plain stdin file
    obtain ⟨stdout, code⟩ := Command.written_run none explain quiet typed elapsed setting
    obtain ⟨stdout', code'⟩ :=
      Command.written_run (some path) explain' quiet' stored elapsed' setting'
    refine ⟨?_, ?_, same⟩
    · rw [stdout, stdout', same.printed.1]
      simp [Command.greeting]
    · rw [code, code', same.printed.2]
  · intro path input explain quiet explain' quiet' elapsed elapsed' setting setting'
    obtain ⟨stdout, code⟩ := Command.written_run path explain quiet input elapsed setting
    obtain ⟨stdout', code'⟩ := Command.written_run path explain' quiet' input elapsed' setting'
    exact ⟨stdout.trans stdout'.symm, code.trans code'.symm⟩

theorem run_typed_eq_run_stored_unended :
    let text := "a = 5;\nb = 0"
    let typed : Input := ⟨fun _ => .error .notFound, text.toUTF8.data.toList⟩
    let stored : Input := ⟨fun _ => .ok text.toUTF8.data.toList, []⟩
    PlainLines text.toList ∧
      let fromInput := ((Command.run none true true).respond typed "0.00s").written (some "1")
      let fromFile :=
        ((Command.run (some "b.txt") false true).respond stored "0.01s").written none
      fromInput.stdout = Command.banner ++ fromFile.stdout ∧ fromInput.code = fromFile.code ∧
        SameOutcome (Command.outcome none typed).2 (Command.outcome (some "b.txt") stored).2 := by
  intro text typed stored
  have plain : PlainLines text.toList := by
    constructor <;> decide +kernel
  exact ⟨plain, run_typed_eq_run_stored.1 text "b.txt" typed stored true true false true "0.00s"
    "0.01s" (some "1") none plain rfl rfl⟩

end AssignLang
