import AssignLang.Proofs.Token.Recognition
import Mathlib.Data.List.Forall2

namespace AssignLang

def plainEnds : List Char → List Char
  | '\r' :: '\n' :: rest => '\n' :: plainEnds rest
  | ch :: rest => ch :: plainEnds rest
  | [] => []

theorem plainEnds_cons {ch : Char} {rest : List Char}
    (apart : ch = '\r' → rest.head? ≠ some '\n') :
    plainEnds (ch :: rest) = ch :: plainEnds rest := by
  rw [plainEnds]
  rintro after rfl rfl
  exact apart rfl rfl

theorem plainEnds_append (front : List Char) {back : List Char}
    (apart : back.head? ≠ some '\n') :
    plainEnds (front ++ back) = plainEnds front ++ plainEnds back := by
  fun_induction plainEnds front with
  | case1 rest ih => simp [plainEnds, ih]
  | case2 ch rest other ih =>
      rw [List.cons_append, plainEnds_cons, ih, List.cons_append]
      rintro rfl
      cases rest with
      | nil => exact apart
      | cons next rest =>
          intro feed
          cases feed
          exact other rest rfl rfl
  | case3 => rfl

theorem plainEnds_solid {body : List Char} (solid : ∀ ch ∈ body, isBlank ch = false)
    (after : List Char) : plainEnds (body ++ after) = body ++ plainEnds after := by
  induction body with
  | nil => rfl
  | cons ch rest ih =>
      rw [List.forall_mem_cons] at solid
      rw [List.cons_append, plainEnds_cons, ih solid.2, List.cons_append]
      rintro rfl
      cases solid.1

theorem plainEnds_sublist (chars : List Char) : (plainEnds chars).Sublist chars := by
  fun_induction plainEnds chars with
  | case1 rest ih => exact (ih.cons_cons '\n').cons '\r'
  | case2 ch rest other ih => exact ih.cons_cons ch
  | case3 => exact .slnil

theorem lineFeeds_plainEnds (chars : List Char) :
    lineFeeds (plainEnds chars) = lineFeeds chars := by
  fun_induction plainEnds chars with
  | case1 rest ih => simpa [lineFeeds] using ih
  | case2 ch rest other ih => rw [lineFeeds_cons, ih, ← lineFeeds_cons]
  | case3 => rfl

theorem head?_plainEnds (chars : List Char) :
    (plainEnds chars).head? = chars.head? ∨
      chars.head? = some '\r' ∧ (plainEnds chars).head? = some '\n' := by
  fun_induction plainEnds chars with
  | case1 rest ih => exact .inr ⟨rfl, rfl⟩
  | case2 ch rest other ih => exact .inl rfl
  | case3 => exact .inl rfl

theorem LongestRun.plain {p : Char → Bool} {run after : List Char} (h : LongestRun p run after)
    (feed : p '\n' = false) : LongestRun p run (plainEnds after) where
  inside := h.inside
  stops := fun ch head => by
    rcases head?_plainEnds after with same | ⟨-, first⟩
    · exact h.stops ch (same ▸ head)
    · cases first.symm.trans head
      exact feed

theorem LongestRun.plain_blanks {blanks rest : List Char} (gap : LongestRun isBlank blanks rest) :
    plainEnds (blanks ++ rest) = plainEnds blanks ++ plainEnds rest ∧
      LongestRun isBlank (plainEnds blanks) (plainEnds rest) := by
  refine ⟨plainEnds_append blanks fun feed => absurd (gap.stops '\n' feed) (by decide), ?_, ?_⟩
  · exact fun ch member => gap.inside ch ((plainEnds_sublist blanks).subset member)
  · intro ch head
    rcases head?_plainEnds rest with same | ⟨first, -⟩
    · exact gap.stops ch (same ▸ head)
    · exact absurd (gap.stops '\r' first) (by decide)

theorem Token.Spelt.plain {token : Token} {body after : List Char} (h : token.Spelt body after) :
    token.Spelt body (plainEnds after) := by
  cases token with
  | number value =>
      obtain ⟨nonempty, run, same, zeros⟩ := h
      refine ⟨nonempty, run.plain rfl, same, fun bad => zeros ?_⟩
      refine bad.imp id fun ⟨zero, unended⟩ => ⟨zero, ?_⟩
      -- a line feed ends a zero, so it does not stand in the place of a carriage return
      rcases head?_plainEnds after with same | ⟨-, first⟩
      · rwa [same] at unended
      · rw [first] at unended
        cases unended
  | identifier name =>
      obtain ⟨starts, run, same⟩ := h
      exact ⟨starts, run.plain (by decide), same⟩
  | operator op => exact h
  | semicolon | openParen | closeParen => exact h

theorem LexFault.Cause.Explained.plain {cause : LexFault.Cause} {body after : List Char}
    (h : cause.Explained body after)
    (kept : cause = .invalidNumberFormat → decimal body = 0 → after.head? ≠ some '\r') :
    cause.Explained body (plainEnds after) := by
  cases cause with
  | unexpectedCharacter ch => exact h
  | numberTooLarge =>
      obtain ⟨nonempty, run, large⟩ := h
      exact ⟨nonempty, run.plain rfl, large⟩
  | invalidNumberFormat =>
      obtain ⟨nonempty, run, small, zeros⟩ := h
      refine ⟨nonempty, run.plain rfl, small, zeros.imp id fun ⟨zero, unended⟩ => ⟨zero, ?_⟩⟩
      rcases head?_plainEnds after with same | ⟨first, -⟩
      · rwa [same]
      · exact absurd first (kept rfl zero)

def Lexeme.Alike (a b : Lexeme) : Prop := a.token = b.token ∧ a.line = b.line

def LexFault.Alike (a b : LexFault) : Prop := a.cause = b.cause ∧ a.line = b.line

theorem Tokenised.plain {before before' chars stop rest : List Char} {lexemes : List Lexeme}
    (h : Tokenised before chars lexemes stop rest) (lines : lineFeeds before' = lineFeeds before) :
    ∃ lexemes' stop', Tokenised before' (plainEnds chars) lexemes' stop' (plainEnds rest) ∧
      List.Forall₂ Lexeme.Alike lexemes lexemes' ∧ lineFeeds stop' = lineFeeds stop := by
  induction h generalizing before' with
  | @stop before blanks rest gap =>
      obtain ⟨split, gap'⟩ := gap.plain_blanks
      rw [split]
      refine ⟨[], before' ++ plainEnds blanks, .stop gap', .nil, ?_⟩
      simp [lines, lineFeeds_plainEnds]
  | @lexeme before blanks body after stop rest token lexemes gap spelt others ih =>
      obtain ⟨split, gap'⟩ := gap.plain_blanks
      have body_eq : plainEnds (body ++ after) = body ++ plainEnds after :=
        plainEnds_solid (fun ch => spelt.not_isBlank) after
      have lines' : lineFeeds (before' ++ plainEnds blanks) = lineFeeds (before ++ blanks) := by
        simp [lines, lineFeeds_plainEnds]
      obtain ⟨lexemes', stop', cut, alike, last⟩ :=
        @ih (before' ++ plainEnds blanks ++ body) (by simp [lines, lineFeeds_plainEnds])
      rw [body_eq] at split gap'
      rw [split]
      refine ⟨_, stop', .lexeme gap' spelt.plain cut, .cons ⟨rfl, ?_⟩ alike, last⟩
      simp only [lexemeAfter, lines']

/-- Both texts end on the same line, or with faults of the same cause on the same line. -/
def EndAlike : (first second : Except LexFault Sight) → Prop
  | .ok (.finish line _), .ok (.finish line' _) => line = line'
  | .error fault, .error fault' => fault.Alike fault'
  | _, _ => False

/-- The fault is a bad format of a number of value zero that a carriage return follows. -/
def LexFault.AtReturn (fault : LexFault) (chars : List Char) : Prop :=
  ∃ before digits after, chars = before ++ (digits ++ '\r' :: after) ∧ digits ≠ [] ∧
    (∀ ch ∈ digits, ch.isDigit = true) ∧ decimal digits = 0 ∧
    fault = faultAfter before digits .invalidNumberFormat

theorem Spot.tape_plainEnds (chars : List Char) :
    ∃ (lexemes : List Lexeme) (more : Tape),
      (behind [] (plainEnds chars)).tape = more.prepend lexemes ∧
      List.Forall₂ Lexeme.Alike (behind [] chars).tape.lexemes lexemes ∧
      ((∃ fault, (behind [] chars).tape.ending = .error fault ∧ fault.AtReturn chars) ∨
        more.lexemes = [] ∧ EndAlike (behind [] chars).tape.ending more.ending) := by
  obtain ⟨stop, rest, tokenised, ended⟩ := tokenised_tape [] chars
  obtain ⟨lexemes, stop', tokenised', alike, lines⟩ :=
    tokenised.plain (rfl : lineFeeds [] = lineFeeds [])
  have ending : (behind [] chars).tape.ending = (behind stop rest).tape.ending :=
    (congrArg Tape.ending tokenised.tape_eq).trans rfl
  refine ⟨lexemes, (behind stop' (plainEnds rest)).tape, tokenised'.tape_eq, alike, ?_⟩
  cases fault : (behind [] chars).tape.fault? with
  | none =>
      rw [fault] at ended
      obtain rfl : rest = [] := ended
      rw [ending, plainEnds, tape_nil, tape_nil]
      exact .inr ⟨rfl, by simp only [EndAlike, lines]⟩
  | some fault =>
      rw [fault] at ended
      obtain ⟨cause, body, after, rfl, rfl, explained⟩ := ended
      have solid := tokenised.head?_rest
      rw [tape_of_explained explained solid] at ending
      by_cases returned : cause = .invalidNumberFormat ∧ decimal body = 0 ∧ after.head? = some '\r'
      · obtain ⟨rfl, zero, first⟩ := returned
        obtain ⟨left, rfl⟩ := List.head?_eq_some_iff.1 first
        obtain ⟨nonempty, run, -⟩ := explained
        exact .inl ⟨_, ending, stop, body, left, tokenised.append_eq, nonempty, run.inside, zero,
          rfl⟩
      · have split : plainEnds (body ++ after) = body ++ plainEnds after :=
          plainEnds_solid (fun ch => explained.not_isBlank solid) after
        have explained' := explained.plain fun format zero first =>
          returned ⟨format, zero, first⟩
        have solid' := tokenised'.head?_rest
        rw [split] at solid' ⊢
        rw [ending, tape_of_explained explained' solid']
        exact .inr ⟨rfl, rfl, by simp only [faultAfter, lines]⟩

end AssignLang
