import AssignLang.Proofs.Command.Collection
import AssignLang.Proofs.Program.Location

namespace AssignLang

/-- The characters without control sequences. A sequence starts with an escape character and an
opening bracket and goes up to the next `m`. -/
def eraseSequences : List Char → List Char
  | [] => []
  | ch :: rest =>
    if ch = '\x1b' ∧ rest.head? = some '[' ∧ 'm' ∈ rest then
      eraseSequences (rest.dropWhile (· ≠ 'm')).tail
    else ch :: eraseSequences rest
termination_by chars => chars.length
decreasing_by
  · have shorter := (List.dropWhile_suffix (l := rest) (· ≠ 'm')).length_le
    simp only [List.length_tail, List.length_cons]
    omega
  · exact Nat.lt_succ_self _

theorem eraseSequences_append {front : List Char} (h : '\x1b' ∉ front) (back : List Char) :
    eraseSequences (front ++ back) = front ++ eraseSequences back := by
  induction front with
  | nil => rfl
  | cons ch front ih =>
      rw [List.mem_cons, not_or] at h
      rw [List.cons_append, eraseSequences, if_neg fun start => h.1 start.1.symm, ih h.2,
        List.cons_append]

theorem eraseSequences_controlSequence {parameters : String} (h : 'm' ∉ parameters.toList)
    (back : List Char) :
    eraseSequences ((controlSequence parameters).toList ++ back) = eraseSequences back := by
  have spelt : (controlSequence parameters).toList ++ back =
      '\x1b' :: (('[' :: parameters.toList) ++ 'm' :: back) := by
    simp [controlSequence]
  have inside : ∀ ch ∈ '[' :: parameters.toList, decide (ch ≠ 'm') = true := by
    rw [List.forall_mem_cons]
    refine ⟨by decide, fun ch member => ?_⟩
    simpa using ne_of_mem_of_not_mem member h
  rw [spelt, eraseSequences, if_pos (by simp), List.dropWhile_append_of_pos inside]
  simp

def ControlSequences (text : String) : Prop :=
  ∃ parameters : List String, text = String.join (parameters.map controlSequence) ∧
    ∀ parameter ∈ parameters, 'm' ∉ parameter.toList

theorem eraseSequences_controls {text : String} (h : ControlSequences text) (back : List Char) :
    eraseSequences (text.toList ++ back) = eraseSequences back := by
  obtain ⟨parameters, rfl, free⟩ := h
  induction parameters with
  | nil => simp
  | cons parameter rest ih =>
      rw [List.forall_mem_cons] at free
      have parts : String.join ((parameter :: rest).map controlSequence) =
          controlSequence parameter ++ String.join (rest.map controlSequence) := by
        simp
      rw [parts, String.toList_append, List.append_assoc,
        eraseSequences_controlSequence free.1, ih free.2]

/-- All that a terminal is sent for styles are control sequences. -/
structure Terminal.Controls {σ : Type} (terminal : Terminal σ) : Prop where
  set : ∀ style, ControlSequences (terminal.set style)
  reset : ControlSequences terminal.reset

theorem Terminal.controls_ansi : Terminal.ansi.Controls where
  set := by
    rintro ⟨bold, colour⟩
    refine ⟨"0" :: (if bold then ["1"] else []) ++ (colour.map Colour.code).toList, ?_, ?_⟩
    · cases bold <;> cases colour <;> simp [ansi, Style.sequence, resetSequence, String.append_assoc]
    · cases bold <;> rcases colour with _ | _ | _ <;> decide
  reset := ⟨["0"], by simp [ansi, resetSequence], by decide⟩

def Unescaped (text : String) : Prop := '\x1b' ∉ text.toList

instance (text : String) : Decidable (Unescaped text) :=
  inferInstanceAs (Decidable ('\x1b' ∉ text.toList))

theorem eraseSequences_written {σ : Type} {terminal : Terminal σ} (controls : terminal.Controls)
    {styled : Styled σ} (h : Unescaped styled.plain) :
    eraseSequences (styled.written terminal).toList = styled.plain.toList := by
  induction styled with
  | nil => simp [eraseSequences]
  | cons mark rest ih =>
      rw [Styled.written_cons, String.toList_append]
      cases mark with
      | text content =>
          rw [Styled.plain_text_cons] at h ⊢
          rw [Unescaped, String.toList_append, List.mem_append, not_or] at h
          rw [Mark.written, eraseSequences_append h.1, ih h.2, String.toList_append]
      | style chosen =>
          rw [Styled.plain_style_cons] at h ⊢
          exact (eraseSequences_controls (controls.set chosen) _).trans (ih h)
      | reset =>
          rw [Styled.plain_reset_cons] at h ⊢
          exact (eraseSequences_controls controls.reset _).trans (ih h)

@[simp]
theorem unescaped_append {front back : String} :
    Unescaped (front ++ back) ↔ Unescaped front ∧ Unescaped back := by
  simp [Unescaped]

@[simp]
theorem unescaped_toString {text : String} : Unescaped (toString text) ↔ Unescaped text := Iff.rfl

@[simp]
theorem unescaped_ofList {chars : List Char} : Unescaped (String.ofList chars) ↔ '\x1b' ∉ chars := by
  simp [Unescaped]

theorem unescaped_join {texts : List String} :
    Unescaped (String.join texts) ↔ ∀ text ∈ texts, Unescaped text := by
  simp [Unescaped]

@[simp]
theorem unescaped_repr (number : Nat) : Unescaped number.repr := by
  intro member
  rw [Nat.toList_repr] at member
  have digit := Nat.isDigit_of_mem_toDigits (by decide) (by decide) member
  exact absurd digit (by decide)

theorem unescaped_repeated {ch : Char} (other : ch ≠ '\x1b') (count : Nat) :
    Unescaped (repeated ch count) := by
  rw [repeated, unescaped_ofList, List.mem_replicate]
  exact fun ⟨_, same⟩ => other same.symm

theorem unescaped_hexDigits (code : Nat) : Unescaped (hexDigits code) := by
  have table : ∀ digit < 16, Nat.digitChar digit ≠ '\x1b' := by decide
  rw [hexDigits, unescaped_ofList]
  induction code using Nat.strongRecOn with
  | ind code ih =>
      rw [Nat.toDigits_eq_if (by decide)]
      split
      · rename_i small
        rw [List.mem_singleton]
        exact (table code small).symm
      · rename_i large
        rw [List.mem_append, List.mem_singleton, not_or]
        exact ⟨ih (code / 16) (by omega), (table _ (by omega)).symm⟩

theorem unescaped_quoted (ch : Char) : Unescaped (quoted ch) := by
  have inner : Unescaped (escaped ch) := by
    unfold escaped
    repeat' split
    case isFalse.isFalse.isFalse.isFalse.isFalse.isFalse.isFalse shows =>
      -- an escape character is not printable, so it is not written as itself
      intro member
      have same : '\x1b' = ch := by simpa using member
      subst same
      exact shows (by decide +kernel)
    all_goals simp +decide [unescaped_hexDigits]
  simp +decide [quoted, inner]

-- a fixed word is taken as the list of its characters, since decoding its bytes is slow
theorem unescaped_faultSummary (cause : LexFault.Cause) : Unescaped cause.summary := by
  cases cause <;> exact unescaped_ofList.2 (by decide)

theorem unescaped_summary (cause : Diagnostic.Cause) : Unescaped cause.summary := by
  cases cause with
  | lexical fault => exact unescaped_faultSummary fault.cause
  | _ => exact unescaped_ofList.2 (by decide)

theorem unescaped_message (diagnostic : Diagnostic) : Unescaped diagnostic.message := by
  have place : Unescaped " at line " := unescaped_ofList.2 (by decide)
  obtain ⟨cause, line, span⟩ := diagnostic
  cases cause with
  | lexical fault =>
      simp [Diagnostic.message, LexFault.message, unescaped_faultSummary, place]
  | _ => simp [Diagnostic.message, unescaped_summary, place]

theorem unescaped_label (cause : Diagnostic.Cause) : Unescaped cause.label := by
  cases cause with
  | lexical fault =>
      obtain ⟨cause, line, span⟩ := fault
      cases cause <;> exact unescaped_ofList.2 (by decide)
  | _ => exact unescaped_ofList.2 (by decide)

theorem unescaped_title (cause : Diagnostic.Cause) : Unescaped cause.title := by
  cases cause <;> exact unescaped_ofList.2 (by decide)

theorem unescaped_limits {words : String} (h : Unescaped words) :
    Unescaped s!"{words}{Value.lowest} ..= {Value.highest}" := by
  have lowest : Unescaped (toString Value.lowest) := by decide
  have highest : Unescaped (toString Value.highest) := by decide
  have between : Unescaped " ..= " := unescaped_ofList.2 (by decide)
  simp only [unescaped_append, unescaped_toString]
  exact ⟨⟨⟨h, lowest⟩, between⟩, highest⟩

theorem unescaped_notes {cause : Diagnostic.Cause}
    (h : ∀ name, cause = .unknownVariable name → Unescaped name) :
    ∀ note ∈ cause.notes, Unescaped note := by
  cases cause with
  | unknownVariable name =>
      refine List.forall_mem_singleton.2 (unescaped_append.2 ⟨unescaped_append.2 ⟨?_, ?_⟩, ?_⟩)
      case refine_2 => exact h name rfl
      all_goals exact unescaped_ofList.2 (by decide)
  | unexpectedToken =>
      simp only [Diagnostic.Cause.notes, List.forall_mem_cons]
      refine ⟨?_, ?_, ?_, ?_, ?_, List.forall_mem_nil _⟩
      all_goals exact unescaped_ofList.2 (by decide)
  | overflow =>
      exact List.forall_mem_singleton.2 (unescaped_limits (unescaped_ofList.2 (by decide)))
  | lexical fault =>
      obtain ⟨cause, line, span⟩ := fault
      cases cause with
      | invalidNumberFormat =>
          simp only [Diagnostic.Cause.notes, LexFault.Cause.notes, List.forall_mem_cons]
          refine ⟨?_, ?_, List.forall_mem_nil _⟩
          all_goals exact unescaped_ofList.2 (by decide)
      | unexpectedCharacter ch =>
          refine List.forall_mem_singleton.2 (unescaped_append.2 ⟨?_, unescaped_quoted ch⟩)
          exact unescaped_ofList.2 (by decide)
      | numberTooLarge =>
          exact List.forall_mem_singleton.2 (unescaped_limits (unescaped_ofList.2 (by decide)))
  | _ => exact List.forall_mem_nil _

theorem dropLastIf_subset {α : Type} [DecidableEq α] (last : α) (list : List α) :
    dropLastIf last list ⊆ list := by
  unfold dropLastIf
  split
  · exact List.dropLast_subset list
  · exact List.Subset.refl list

theorem subset_of_mem_cutLines {α : Type} [DecidableEq α] {feed : α} {line list : List α}
    (h : line ∈ cutLines feed list) : line ⊆ list := by
  induction list using lines_induction feed with
  | nil => simp [cutLines] at h
  | last body free nonempty =>
      rw [cutLines_last free nonempty, List.mem_singleton] at h
      rw [h]
      exact List.Subset.refl body
  | line body rest free ih =>
      rw [cutLines_line free, List.mem_cons] at h
      have whole : body ++ feed :: rest = (body ++ [feed]) ++ rest := by simp
      rw [whole]
      rcases h with rfl | later
      · exact List.subset_append_left _ _
      · exact List.subset_append_of_subset_right _ (ih later)

theorem unescaped_textLines {text : String} (h : Unescaped text) :
    ∀ line ∈ textLines text, Unescaped line := by
  intro shown member
  obtain ⟨line, cut, rfl⟩ := List.mem_map.1 member
  rw [unescaped_ofList]
  intro escape
  apply h
  apply subset_of_mem_cutLines cut
  unfold withoutEnd at escape
  split at escape
  · exact List.dropLast_subset line (dropLastIf_subset _ _ escape)
  · exact escape

theorem plain_paint (style : Style) (painting : Bool) (pieces : List (Bool × String)) :
    (Snippet.paint style painting pieces).plain = String.join (pieces.map (·.2)) := by
  induction pieces generalizing painting with
  | nil => cases painting <;> rfl
  | cons piece rest ih =>
      obtain ⟨pointed, shown⟩ := piece
      cases pointed <;> cases painting <;> simp [Snippet.paint, ih]

theorem findLine_subset (target number offset position : Nat) (line rest : List Char) :
    (findLine target number offset line position rest).chars ⊆ line.reverse ++ rest := by
  induction rest generalizing number offset position line with
  | nil => simp [findLine]
  | cons ch rest ih =>
      unfold findLine
      split
      · split
        · simp
        · refine List.Subset.trans (ih _ _ _ []) ?_
          simp
      · refine List.Subset.trans (ih _ _ _ (ch :: line)) ?_
        simp

theorem trimEnd_subset (chars : List Char) : trimEnd chars ⊆ chars := by
  intro ch member
  rw [trimEnd, List.mem_reverse] at member
  exact List.mem_reverse.1 ((List.dropWhile_suffix _).subset member)

theorem unescaped_cellsFrom (offset column : Nat) {chars : List Char} (h : '\x1b' ∉ chars) :
    ∀ cell ∈ cellsFrom offset column chars, Unescaped cell.shown := by
  induction chars generalizing offset column with
  | nil => simp [cellsFrom]
  | cons ch rest ih =>
      rw [List.mem_cons, not_or] at h
      unfold cellsFrom
      split
      · rw [List.forall_mem_cons]
        exact ⟨unescaped_repeated (by decide) _, ih _ _ h.2⟩
      · rw [List.forall_mem_cons]
        refine ⟨?_, ih _ _ h.2⟩
        simpa [Unescaped] using h.1

theorem unescaped_source {text : String} (h : Unescaped text) (span : Span) :
    Unescaped (Snippet.ofSpan text span).source.plain := by
  rw [Snippet.source, plain_paint, unescaped_join]
  intro shown member
  simp only [List.map_map, List.mem_map, Function.comp_apply] at member
  obtain ⟨cell, inside, rfl⟩ := member
  refine unescaped_cellsFrom _ _ ?_ cell inside
  intro escape
  apply h
  have line := findLine_subset _ _ _ _ _ _ (trimEnd_subset _ escape)
  simpa using line

theorem unescaped_carets (snippet : Snippet) : Unescaped snippet.carets.plain := by
  rw [Snippet.carets, plain_paint, unescaped_join]
  intro shown member
  simp only [List.map_map, List.mem_map, Function.comp_apply] at member
  obtain ⟨cell, -, rfl⟩ := member
  repeat' split
  · exact unescaped_repeated (by decide) _
  · exact unescaped_repeated (by decide) _
  · decide

namespace Notice

structure EscapeFree (notice : Notice) : Prop where
  message : Unescaped notice.message
  label : ∀ label, notice.label = some label →
    Unescaped label.path ∧ Unescaped label.source ∧
      Unescaped label.message
  notes : ∀ note ∈ notice.notes, Unescaped note

theorem unescaped_border (indent : Nat) {sign : String} (h : Unescaped sign) :
    Unescaped (border indent sign).plain := by
  simp +decide [border, unescaped_repeated, h]

theorem unescaped_note (indent : Nat) {text : String} (h : Unescaped text) :
    Unescaped (note indent text).plain := by
  have lines := unescaped_textLines h
  unfold note
  split
  · decide
  · rename_i first rest cut
    rw [cut, List.forall_mem_cons] at lines
    have more : Unescaped (Styled.plain (rest.map fun line =>
        (.text (repeated ' ' indent ++ s!"   {line}\n") : Mark Style))) := by
      rw [Styled.plain, Styled.written, unescaped_join]
      intro shown member
      simp only [List.map_map, List.mem_map, Function.comp_apply] at member
      obtain ⟨line, inside, rfl⟩ := member
      simp +decide [Mark.written, unescaped_repeated, lines.2 line inside]
    simp +decide [unescaped_border, lines.1, more]

theorem unescaped_noteBlock (indent : Nat) (bordered : Bool) {texts : List String}
    (h : ∀ text ∈ texts, Unescaped text) :
    Unescaped (noteBlock indent bordered texts).plain := by
  have below : Unescaped (Styled.plain (texts.flatMap (note indent))) := by
    induction texts with
    | nil => simp +decide
    | cons text rest ih =>
        rw [List.forall_mem_cons] at h
        rw [List.flatMap_cons, Styled.plain_append, unescaped_append]
        exact ⟨unescaped_note indent h.1, ih h.2⟩
  have bar : Unescaped (Styled.plain
      (if bordered && !texts.isEmpty then border indent "│" ++ [.text "\n"] else [])) := by
    split
    · simp +decide [unescaped_border]
    · decide
  rw [noteBlock, Styled.plain_append, unescaped_append]
  exact ⟨bar, below⟩

theorem unescaped_place {path source message : String} (span : Span)
    (hpath : Unescaped path) (hsource : Unescaped source)
    (hmessage : Unescaped message) :
    Unescaped (place path (Snippet.ofSpan source span) message).plain := by
  simp +decide [place, unescaped_border, unescaped_source hsource, unescaped_carets, hpath,
    hmessage]

theorem EscapeFree.laidOut {notice : Notice} (h : notice.EscapeFree) :
    Unescaped notice.laidOut.plain := by
  obtain ⟨message, label, notes⟩ := notice
  have head : Unescaped (headline message).plain := by
    simp +decide [plain_headline, h.message]
  cases label with
  | none => simp +decide [Notice.laidOut, head, unescaped_noteBlock _ _ h.notes]
  | some label =>
      obtain ⟨path, source, shown⟩ := h.label label rfl
      simp +decide [Notice.laidOut, head, unescaped_place label.span path source shown,
        unescaped_noteBlock _ _ h.notes]

end Notice

namespace Failure

/-- No escape character stands in what a failure takes from outside: its path, its text, and the
name that is not bound. -/
def QuotesUnescaped : Failure → Prop
  | run path text diagnostic =>
    Unescaped path ∧ Unescaped text ∧
      ∀ name, diagnostic.cause = .unknownVariable name → Unescaped name
  | io _ => True

theorem QuotesUnescaped.notice {failure : Failure} (h : failure.QuotesUnescaped) :
    failure.notice.EscapeFree := by
  cases failure with
  | io fault =>
      have message : Unescaped "Standard IO error" := by decide
      refine ⟨message, nofun, List.forall_mem_singleton.2 ?_⟩
      cases fault <;> exact unescaped_ofList.2 (by decide)
  | run path text diagnostic =>
      obtain ⟨hpath, htext, hname⟩ := h
      refine ⟨?_, ?_, unescaped_notes hname⟩
      · simp +decide [Failure.notice, unescaped_title, unescaped_message]
      · rintro label ⟨⟩
        exact ⟨hpath, htext, unescaped_label diagnostic.cause⟩

theorem erase_output {failure : Failure} (quotes : failure.QuotesUnescaped) :
    String.ofList (eraseSequences (failure.render.output true).toList) =
      failure.render.output false := by
  have erased := eraseSequences_written Terminal.controls_ansi quotes.notice.laidOut
  simp [Styled.output, render, rendered, erased]

end Failure

end AssignLang
