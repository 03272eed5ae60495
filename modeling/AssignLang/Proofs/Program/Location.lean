import AssignLang.Proofs.Program.Blame
import AssignLang.Proofs.Program.Source

namespace AssignLang

theorem findLine_of_le {target number offset position : Nat} {line : List Char}
    (h : target ≤ position) (chars : List Char) :
    (findLine target number offset line position chars).number = number := by
  induction chars generalizing line position with
  | nil => rfl
  | cons ch rest ih =>
      rw [findLine]
      split
      · rfl
      · exact ih (Nat.le_add_right_of_le h)

theorem number_findLine {target number offset position : Nat} {line : List Char}
    (before after : List Char) (h : target = position + byteLength before) :
    (findLine target number offset line position (before ++ after)).number =
      number + lineFeeds before := by
  induction before generalizing number offset position line with
  | nil => exact findLine_of_le (Nat.le_of_eq h) after
  | cons ch rest ih =>
      rw [byteLength_cons] at h
      rw [List.cons_append, findLine, lineFeeds_cons]
      split
      · rename_i feed
        subst feed
        -- the target lies behind this line feed
        have size : '\n'.utf8Size = 1 := rfl
        rw [if_neg (by omega), ih (by omega)]
        simp [lineFeeds, Nat.add_assoc]
      · rename_i other
        rw [ih (by omega)]
        simp [lineFeeds, other]

theorem TextLine.number_ofOffset {text : String} {before after : List Char}
    (h : text.toList = before ++ after) :
    (ofOffset text (byteLength before)).number = 1 + lineFeeds before := by
  rw [ofOffset, h]
  exact number_findLine before after (Nat.zero_add _).symm

/-- The diagnostic points at `body`, which stands between `before` and `after`: at a token, at the
lexeme of a fault, or at the end of the text. -/
inductive Diagnostic.PointsAt (tape : Tape) :
    Diagnostic → (before body after : List Char) → Prop
  | token {cause : Diagnostic.Cause} {token : Token} {before body after : List Char}
      (plain : cause.isLexical = false) (member : lexemeAfter before body token ∈ tape.lexemes)
      (spelt : token.Spelt body after) :
      PointsAt tape (.atLexeme cause (lexemeAfter before body token)) before body after
  | fault {cause : LexFault.Cause} {before body after : List Char}
      (ending : tape.ending = .error (faultAfter before body cause))
      (explained : cause.Explained body after)
      (solid : ∀ ch, (body ++ after).head? = some ch → isBlank ch = false) :
      PointsAt tape (.ofFault (faultAfter before body cause)) before body after
  | finish {cause : Diagnostic.Cause} {before : List Char} (plain : cause.isLexical = false)
      (ending : tape.ending = .ok (.finish (1 + lineFeeds before) (byteLength before))) :
      PointsAt tape (.atSight cause (.finish (1 + lineFeeds before) (byteLength before)))
        before [] []

namespace Diagnostic.PointsAt

variable {tape : Tape} {diagnostic : Diagnostic} {before body after : List Char}

theorem span_eq (h : diagnostic.PointsAt tape before body after) :
    diagnostic.span = ⟨byteLength before, byteLength before + byteLength body⟩ := by
  cases h <;> rfl

theorem line_eq (h : diagnostic.PointsAt tape before body after) :
    diagnostic.line = 1 + lineFeeds before := by
  cases h <;> rfl

theorem no_lineFeed (h : diagnostic.PointsAt tape before body after) : '\n' ∉ body := by
  cases h with
  | token plain member spelt =>
      exact fun inside => absurd (spelt.not_isBlank inside) (by decide)
  | fault ending explained solid =>
      exact fun inside => absurd (explained.not_isBlank solid inside) (by decide)
  | finish plain ending => exact List.not_mem_nil

theorem message_eq (h : diagnostic.PointsAt tape before body after) :
    diagnostic.message = s!"{diagnostic.cause.summary} at line {diagnostic.line}" := by
  have spoken {cause : Cause} {line : Nat} {span : Span} (plain : cause.isLexical = false) :
      message ⟨cause, line, span⟩ = s!"{cause.summary} at line {line}" := by
    cases cause with
    | lexical fault => cases plain
    | _ => rfl
  cases h with
  | token plain member spelt => exact spoken plain
  | fault ending explained solid => rfl
  | finish plain ending => exact spoken plain

theorem body_eq_nil_iff (h : diagnostic.PointsAt tape before body after) :
    body = [] ↔ ∃ line offset, tape.ending = .ok (.finish line offset) ∧
      diagnostic = .atSight diagnostic.cause (.finish line offset) := by
  cases h with
  | token plain member spelt =>
      refine ⟨fun nil => absurd nil spelt.ne_nil, ?_⟩
      rintro ⟨line, offset, -, same⟩
      have pos := byteLength_pos spelt.ne_nil
      simp only [atSight, atLexeme, lexemeAfter, Span.atOffset, mk.injEq, Span.mk.injEq] at same
      omega
  | fault ending explained solid =>
      refine ⟨fun nil => absurd nil explained.ne_nil, ?_⟩
      rintro ⟨line, offset, ended, -⟩
      rw [ending] at ended
      cases ended
  | finish plain ending => exact ⟨fun _ => ⟨_, _, ending, rfl⟩, fun _ => rfl⟩

end Diagnostic.PointsAt

theorem Expectation.Blames.pointsAt {expected : Expectation} {text : String}
    {diagnostic : Diagnostic} (h : expected.Blames (Spot.ofString text).tape diagnostic) :
    ∃ before body after, text.toList = before ++ body ++ after ∧
      diagnostic.PointsAt (Spot.ofString text).tape before body after := by
  obtain ⟨stop, unread, tokenised, ended⟩ := Spot.tokenised_tape [] text.toList
  rw [← Spot.ofString_eq_behind] at tokenised ended
  have token {cause : Diagnostic.Cause} {lexeme : Lexeme} (plain : cause.isLexical = false)
      (member : lexeme ∈ (Spot.ofString text).tape.lexemes) :
      ∃ before body after, text.toList = before ++ body ++ after ∧
        (Diagnostic.atLexeme cause lexeme).PointsAt (Spot.ofString text).tape before body
          after := by
    obtain ⟨before, body, after, token, same, spelt, rfl, -⟩ := tokenised.exists_of_mem member
    exact ⟨before, body, after, same, .token plain member spelt⟩
  cases h with
  | refused front rest syntactic split took refuses =>
      exact token (Diagnostic.Cause.of_isSyntactic syntactic).2.1 (by simp [split])
  | evaluation front rest evaluation split took =>
      exact token (Diagnostic.Cause.of_isEvaluation evaluation).2.1 (by simp [split])
  | missing syntactic ending took more =>
      obtain ⟨rfl, rfl⟩ := Spot.ending_ofString ending
      rw [← byteLength_toList] at ending ⊢
      exact ⟨text.toList, [], [], by simp,
        .finish (Diagnostic.Cause.of_isSyntactic syntactic).2.1 ending⟩
  | fault ending took =>
      simp only [Tape.fault?, ending] at ended
      obtain ⟨cause, body, after, rfl, rfl, explained⟩ := ended
      refine ⟨stop, body, after, ?_, .fault ending explained tokenised.head?_rest⟩
      rw [List.append_assoc]
      exact tokenised.append_eq

def Failure.Raised (failure : Failure) : Prop :=
  ∃ path, (∃ text, runText path text = .error failure) ∨
    ∃ content, runFile path content = .error failure

theorem mem_of_runText {path shown text source : String} {diagnostic : Diagnostic}
    (h : runText path source = .error (.run shown text diagnostic)) :
    diagnostic ∈ (run text).diagnostics := by
  rw [runText] at h
  split at h
  · rename_i first others recorded
    cases h
    simp [recorded]
  · cases h

theorem mem_of_runFile {path shown text : String} {content : Except IoFault (List UInt8)}
    {diagnostic : Diagnostic}
    (h : runFile path content = .error (.run shown text diagnostic)) :
    diagnostic ∈ (run text).diagnostics := by
  cases content with
  | error fault => cases h
  | ok bytes =>
      rw [runFile_ok] at h
      rcases flawed : (Utf8.decode bytes).flaw with _ | flaw
      · have sound : Utf8.decode bytes =
            ⟨(String.ofList (Utf8.decode bytes).chars).toList, none⟩ := by
          rw [String.toList_ofList, ← flawed]
        rw [runBytes_of_sound path sound] at h
        exact mem_of_runText h
      · obtain ⟨fault, failed⟩ := runBytes_of_flaw path flawed
        rw [failed] at h
        cases h

theorem mem_of_raised {path text : String} {diagnostic : Diagnostic}
    (h : (Failure.run path text diagnostic).Raised) : diagnostic ∈ (run text).diagnostics := by
  obtain ⟨path, ⟨source, raised⟩ | ⟨content, raised⟩⟩ := h
  · exact mem_of_runText raised
  · exact mem_of_runFile raised

namespace Notice

theorem plain_headline (message : String) :
    (headline message).plain = s!"error: {message}\n" := by
  have joined : "error: " = "error" ++ ": " := rfl
  simp only [headline, Styled.plain_text_cons, Styled.plain_style_cons, Styled.plain_reset_cons,
    Styled.plain_nil, joined, String.append_assoc]
  rfl

theorem plain_place (path : String) (snippet : Snippet) (message : String) :
    ∃ indent more : String, (place path snippet message).plain =
      s!"{indent} ┌─ {path}:{snippet.number}:{snippet.column}\n" ++ more := by
  let width := (toString snippet.number).length
  let indent := repeated ' ' width
  let head : Styled :=
    border width "┌─" ++ [.text s!" {path}:{snippet.number}:{snippet.column}\n"]
  have joined : " ┌─ " = " " ++ "┌─" ++ " " := rfl
  have header : head.plain =
      s!"{indent} ┌─ {path}:{snippet.number}:{snippet.column}\n" := by
    simp only [head, border, Styled.plain_append, Styled.plain_text_cons, Styled.plain_painted,
      Styled.plain_nil, joined, String.append_assoc]
    rfl
  obtain ⟨rest, parts⟩ : ∃ rest, place path snippet message = head ++ rest :=
    ⟨_, by simp only [place, List.append_assoc]; rfl⟩
  exact ⟨indent, rest.plain, by rw [parts, Styled.plain_append, header]⟩

theorem plain_laidOut (message : String) (label : Label) (notes : List String) :
    let snippet := Snippet.ofSpan label.source label.span
    ∃ indent more : String, (laidOut ⟨message, some label, notes⟩).plain =
      s!"error: {message}\n" ++
        s!"{indent} ┌─ {label.path}:{snippet.number}:{snippet.column}\n" ++ more := by
  intro snippet
  obtain ⟨indent, more, placed⟩ := plain_place label.path snippet label.message
  let below := noteBlock (toString snippet.number).length true notes ++ [.text "\n"]
  have whole : laidOut ⟨message, some label, notes⟩ =
      headline message ++ (place label.path snippet label.message ++ below) := by
    simp only [laidOut, List.append_assoc, below, snippet]
  refine ⟨indent, more ++ below.plain, ?_⟩
  rw [whole, Styled.plain_append, Styled.plain_append, plain_headline, placed]
  simp only [String.append_assoc]

end Notice

theorem Span.clamp_of_le {span : Span} {length : Nat} (ordered : span.start ≤ span.stop)
    (inside : span.stop ≤ length) : span.clamp length = span := by
  rw [clamp, Nat.min_eq_left inside, Nat.min_eq_left (Nat.le_trans ordered inside)]

namespace Diagnostic.PointsAt

variable {text : String} {tape : Tape} {diagnostic : Diagnostic} {before body after : List Char}

theorem span_le (h : diagnostic.PointsAt tape before body after)
    (split : text.toList = before ++ body ++ after) :
    diagnostic.span.start ≤ diagnostic.span.stop ∧
      diagnostic.span.stop ≤ text.utf8ByteSize := by
  rw [h.span_eq, ← byteLength_toList, split, byteLength_append, byteLength_append]
  exact ⟨Nat.le_add_right _ _, Nat.le_add_right _ _⟩

theorem number_snippet (h : diagnostic.PointsAt tape before body after)
    (split : text.toList = before ++ body ++ after) :
    (Snippet.ofSpan text (diagnostic.span.clamp text.utf8ByteSize)).number = diagnostic.line := by
  obtain ⟨ordered, inside⟩ := h.span_le split
  rw [List.append_assoc] at split
  rw [Span.clamp_of_le ordered inside, Snippet.ofSpan, h.span_eq, h.line_eq]
  exact TextLine.number_ofOffset split

theorem start_eq_stop_iff (h : diagnostic.PointsAt tape before body after) :
    diagnostic.span.start = diagnostic.span.stop ↔ body = [] := by
  rw [h.span_eq]
  cases body with
  | nil => simp
  | cons ch rest =>
      have := byteLength_pos (List.cons_ne_nil ch rest)
      simp only [reduceCtorEq, iff_false]
      omega

end Diagnostic.PointsAt

/-- A diagnostic that a run records, or that a failure of a text or a file carries, points at a part
of the text: at one token, at the lexeme of the fault, or at nothing, and then it was raised at the
end of the text and points there. Its line is the one where that part starts, so the place of its
span is rendered with the line that its message tells. -/
theorem Diagnostic.located (text : String) (diagnostic : Diagnostic)
    (reported : (∃ session : Session, diagnostic ∈ (session.run text).diagnostics) ∨
      ∃ path, (Failure.run path text diagnostic).Raised) :
    (∃ before body after : String, text = before ++ body ++ after ∧
      diagnostic.span = ⟨before.utf8ByteSize, (before ++ body).utf8ByteSize⟩ ∧
      diagnostic.line = 1 + before.toList.count '\n' ∧ '\n' ∉ body.toList ∧
      diagnostic.PointsAt (Tape.ofString text) before.toList body.toList after.toList) ∧
    diagnostic.span.start ≤ diagnostic.span.stop ∧
    diagnostic.span.stop ≤ text.utf8ByteSize ∧
    (diagnostic.span.start = diagnostic.span.stop ↔
      ∃ line offset, (Tape.ofString text).ending = .ok (.finish line offset) ∧
        diagnostic = .atSight diagnostic.cause (.finish line offset)) ∧
    (diagnostic.span.start = diagnostic.span.stop →
      diagnostic.span = .atOffset text.utf8ByteSize) ∧
    diagnostic.span.clamp text.utf8ByteSize = diagnostic.span ∧
    diagnostic.message = s!"{diagnostic.cause.summary} at line {diagnostic.line}" ∧
    ∀ path, ∃ (indent more : String) (column : Nat),
      (Failure.run path text diagnostic).render.plain =
        s!"error: {diagnostic.cause.title}: {diagnostic.message}\n" ++
          s!"{indent} ┌─ {path}:{diagnostic.line}:{column}\n" ++ more := by
  obtain ⟨session, member⟩ : ∃ session : Session, diagnostic ∈ (session.run text).diagnostics := by
    rcases reported with recorded | ⟨path, raised⟩
    · exact recorded
    · exact ⟨Session.new, mem_of_raised raised⟩
  obtain ⟨before, body, after, split, points⟩ := (session.blames_run text member).pointsAt
  obtain ⟨ordered, inside⟩ := points.span_le split
  have atEnd := points.start_eq_stop_iff.trans points.body_eq_nil_iff
  rw [Tape.ofString_eq]
  refine ⟨⟨.ofList before, .ofList body, .ofList after, ?_, ?_, ?_, ?_, ?_⟩, ordered, inside, atEnd,
    ?_, Span.clamp_of_le ordered inside, points.message_eq, ?_⟩
  · rw [← String.ofList_append, ← String.ofList_append, ← split, String.ofList_toList]
  · rw [points.span_eq, ← String.ofList_append, ← byteLength_toList, ← byteLength_toList,
      String.toList_ofList, String.toList_ofList, byteLength_append]
  · rw [String.toList_ofList]
    exact points.line_eq
  · rw [String.toList_ofList]
    exact points.no_lineFeed
  · simpa only [String.toList_ofList] using points
  · intro empty
    obtain ⟨line, offset, ending, same⟩ := atEnd.1 empty
    rw [← (Spot.ending_ofString ending).2]
    exact congrArg Diagnostic.span same
  · intro path
    let failure := Failure.run path text diagnostic
    obtain ⟨indent, more, rendered⟩ : ∃ indent more : String, failure.render.plain = _ :=
      Notice.plain_laidOut _ _ _
    rw [points.number_snippet split] at rendered
    exact ⟨indent, more, _, rendered⟩

theorem Diagnostic.located_missing_semicolon :
    ⟨.expectedSemicolon, 2, .atOffset 10⟩ ∈ (Session.new.run "été = 1\n").diagnostics ∧
      ∃ (indent more : String) (column : Nat),
        (Failure.run "program" "été = 1\n" ⟨.expectedSemicolon, 2, .atOffset 10⟩).render.plain =
          "error: Syntax error: expected semicolon at line 2\n" ++
            (indent ++ " ┌─ " ++ "program" ++ ":" ++ "2" ++ ":" ++ toString column ++ "\n") ++
            more := by
  have member : ⟨.expectedSemicolon, 2, .atOffset 10⟩ ∈
      (Session.new.run "été = 1\n").diagnostics := by
    rw [Session.run, TokenStream.ofString_eq]
    decide +kernel
  obtain ⟨-, -, -, -, -, -, -, rendered⟩ := located _ _ (.inl ⟨_, member⟩)
  obtain ⟨indent, more, column, shown⟩ := rendered "program"
  exact ⟨member, indent, more, column, shown⟩

end AssignLang
