import AssignLang.Proofs.Text.CharClass
import AssignLang.Proofs.Token.Decomposition

namespace AssignLang

section

variable {p : Char → Bool} {run after : List Char}

theorem LongestRun.takeWhile_eq (h : LongestRun p run after) :
    (run ++ after).takeWhile p = run := by
  rw [List.takeWhile_append_of_pos h.inside]
  cases after with
  | nil => simp
  | cons ch rest => simp [h.stops ch rfl]

theorem LongestRun.dropWhile_eq (h : LongestRun p run after) :
    (run ++ after).dropWhile p = after := by
  rw [List.dropWhile_append_of_pos h.inside]
  cases after with
  | nil => simp
  | cons ch rest => simp [h.stops ch rfl]

theorem LongestRun.of_append {more : List Char} (h : LongestRun p run (after ++ more)) :
    LongestRun p run after where
  inside := h.inside
  stops := fun ch head => h.stops ch (by simp [List.head?_append, head])

end

theorem BadZeros.append {digits after : List Char} (h : BadZeros digits after.head?)
    (more : List Char) : BadZeros digits (after ++ more).head? := by
  refine h.imp id fun ⟨zero, open'⟩ => ⟨zero, ?_⟩
  cases after with
  | nil => simp [endsZero] at open'
  | cons ch rest => exact open'

theorem Token.Spelt.of_append {token : Token} {body after more : List Char}
    (h : token.Spelt body (after ++ more)) : token.Spelt body after := by
  cases token with
  | number value =>
      obtain ⟨some, run, same, zeros⟩ := h
      exact ⟨some, run.of_append, same, fun bad => zeros (bad.append more)⟩
  | identifier name =>
      obtain ⟨starts, run, same⟩ := h
      exact ⟨starts, run.of_append, same⟩
  | operator op => exact h
  | semicolon | openParen | closeParen => exact h

theorem Token.ofChar?_eq_none_of_isDigit {ch : Char} (digit : ch.isDigit = true) :
    Token.ofChar? ch = none := by
  unfold ofChar?
  split
  all_goals first | rfl | cases digit

theorem Token.ofChar?_eq_none_of_isNameStart {ch : Char} (starts : isNameStart ch = true) :
    Token.ofChar? ch = none := by
  unfold ofChar?
  split
  all_goals first | rfl | (revert starts; decide)

theorem not_isDigit_of_isNameStart {ch : Char} (starts : isNameStart ch = true) :
    ch.isDigit = false := by
  rw [← Bool.not_eq_true]
  intro digit
  have most : ch.toNat ≤ 57 := (Char.isDigit_iff_toNat.1 digit).2
  have ascii : ch.toNat < 0x80 := by omega
  simp only [isNameStart, Unicode.isAlphabetic, ascii, if_true, Bool.or_eq_true,
    beq_iff_eq] at starts
  rcases starts with letter | rfl
  · have least : 65 ≤ ch.toNat := by
      rcases Bool.or_eq_true_iff.1 letter with upper | lower
      · have range : 'A'.val ≤ ch.val ∧ ch.val ≤ 'Z'.val := of_decide_eq_true upper
        exact range.1
      · have least : 'a'.val ≤ ch.val := of_decide_eq_true (Bool.and_eq_true_iff.1 lower).1
        exact Nat.le_trans (by decide) least
    omega
  · cases digit

theorem not_isBlank_of_isNamePart {ch : Char} (part : isNamePart ch = true) :
    isBlank ch = false := by
  rw [← Bool.not_eq_true]
  intro blank
  rw [isNamePart_of_isBlank blank] at part
  cases part

theorem not_isBlank_of_isDigit {ch : Char} (digit : ch.isDigit = true) : isBlank ch = false :=
  not_isBlank_of_isNamePart (isNamePart_of_isDigit digit)

theorem Token.Spelt.not_isBlank {token : Token} {body after : List Char} {ch : Char}
    (h : token.Spelt body after) (member : ch ∈ body) : isBlank ch = false := by
  cases token with
  | number value =>
      obtain ⟨-, run, -⟩ := h
      exact not_isBlank_of_isDigit (run.inside ch member)
  | identifier name =>
      obtain ⟨-, run, -⟩ := h
      exact not_isBlank_of_isNamePart (run.inside ch member)
  | operator op =>
      obtain rfl : body = op.literal.toList := h
      cases op
      all_goals
        obtain rfl : ch = _ := by simpa [Operator.literal] using member
        rfl
  | semicolon | openParen | closeParen =>
      cases h
      obtain rfl := List.mem_singleton.1 member
      rfl

theorem Token.Spelt.head_not_isBlank {token : Token} {body after : List Char} {ch : Char}
    (h : token.Spelt body after) (head : (body ++ after).head? = some ch) : isBlank ch = false := by
  obtain ⟨first, rest, rfl⟩ := List.exists_cons_of_ne_nil h.ne_nil
  cases head
  exact h.not_isBlank List.mem_cons_self

theorem LexFault.Cause.Explained.not_isBlank {cause : LexFault.Cause} {body after : List Char}
    {ch : Char} (h : cause.Explained body after)
    (solid : ∀ ch, (body ++ after).head? = some ch → isBlank ch = false) (member : ch ∈ body) :
    isBlank ch = false := by
  cases cause with
  | unexpectedCharacter other =>
      obtain ⟨rfl, -⟩ := h
      obtain rfl := List.mem_singleton.1 member
      exact solid ch rfl
  | numberTooLarge | invalidNumberFormat =>
      obtain ⟨-, run, -⟩ := h
      exact not_isBlank_of_isDigit (run.inside ch member)

theorem Piece.first?_of_digits {body after : List Char} (nonempty : body ≠ [])
    (run : LongestRun Char.isDigit body after) :
    first? (body ++ after) =
      some ⟨((NumberScan.ofDigits body).finish after.head?).map .number, body, after⟩ := by
  have numbered : number (body ++ after) =
      ⟨((NumberScan.ofDigits body).finish after.head?).map .number, body, after⟩ := by
    simp only [number, run.takeWhile_eq, run.dropWhile_eq]
  obtain ⟨ch, rest, rfl⟩ := List.exists_cons_of_ne_nil nonempty
  have digit := run.inside ch List.mem_cons_self
  rw [← numbered]
  simp [first?, Token.ofChar?_eq_none_of_isDigit digit, digit]

theorem Piece.first?_of_spelt {token : Token} {body after : List Char}
    (h : token.Spelt body after) :
    first? (body ++ after) = some ⟨.ok token, body, after⟩ := by
  cases token with
  | number value =>
      obtain ⟨nonempty, run, same, zeros⟩ := h
      rw [first?_of_digits nonempty run]
      rcases NumberScan.finish_ofDigits run.inside after.head? with
        ⟨large, -⟩ | ⟨-, bad, -⟩ | ⟨other, same', -, ends⟩
      · exact absurd (same ▸ value.bounds.2) (by omega)
      · exact absurd bad zeros
      · rw [ends, Value.ext (same'.trans same.symm)]
        rfl
  | identifier name =>
      obtain ⟨⟨ch, head, starts⟩, run, rfl⟩ := h
      have named : identifier (body ++ after) = ⟨.ok (.identifier (.ofList body)), body, after⟩ := by
        simp only [identifier, run.takeWhile_eq, run.dropWhile_eq]
      rw [← named]
      obtain ⟨rest, rfl⟩ := List.head?_eq_some_iff.1 head
      simp [first?, Token.ofChar?_eq_none_of_isNameStart starts, starts,
        not_isDigit_of_isNameStart starts]
  | operator op =>
      obtain rfl : body = op.literal.toList := h
      cases op <;> rfl
  | semicolon | openParen | closeParen =>
      cases h
      rfl

theorem Spot.skip_behind {blanks left : List Char} (gap : LongestRun isBlank blanks left)
    (before : List Char) :
    (behind before (blanks ++ left)).skip isBlank = behind (before ++ blanks) left := by
  have passed : (behind before (blanks ++ left)).chars = blanks ++ left := rfl
  rw [skip, passed, gap.takeWhile_eq, gap.dropWhile_eq, move_behind]

theorem Spot.read_of_spelt {blanks body after : List Char} {token : Token}
    (gap : LongestRun isBlank blanks (body ++ after)) (spelt : token.Spelt body after)
    (before : List Char) :
    (behind before (blanks ++ (body ++ after))).read =
      (.ok (.lexeme (lexemeAfter (before ++ blanks) body token)),
        behind (before ++ blanks ++ body) after) := by
  have found : Piece.first? (behind (before ++ blanks) (body ++ after)).chars =
      some ⟨.ok token, body, after⟩ := Piece.first?_of_spelt spelt
  rw [read, skip_behind gap, take, found]
  simp only [place, Spot.after, move_behind]
  rfl

theorem Spot.tape_nil (before : List Char) :
    (behind before []).tape =
      { lexemes := [], ending := .ok (.finish (1 + lineFeeds before) (byteLength before)) } :=
  tape_finish rfl

theorem Token.exists_spelt_of_isDigit {ch : Char} (digit : ch.isDigit = true) :
    ∃ value : Value, (Token.number value).Spelt [ch] [] := by
  have most : ch.toNat ≤ 57 := (Char.isDigit_iff_toNat.1 digit).2
  have small : digitValue ch ≤ 9 := by
    change ch.toNat - 48 ≤ 9
    omega
  have decimal_eq : decimal [ch] = digitValue ch := by simpa using decimal_concat [] ch
  have fits : Value.lowest ≤ (decimal [ch] : Int) ∧ (decimal [ch] : Int) ≤ Value.highest := by
    rw [decimal_eq, Value.lowest, Value.highest]
    omega
  refine ⟨⟨_, fits⟩, by simp, ⟨by simpa using digit, nofun⟩, rfl, ?_⟩
  rintro (⟨zeros, -⟩ | ⟨-, unended⟩)
  · simpa using zeros.length_le
  · cases unended

theorem LexFault.Cause.Explained.starts_nothing {ch : Char} {body after : List Char}
    (h : (unexpectedCharacter ch).Explained body after) :
    Token.ofChar? ch = none ∧ ch.isDigit = false ∧ isNameStart ch = false := by
  obtain ⟨-, starts⟩ := h
  refine ⟨?_, ?_, ?_⟩
  · cases single : Token.ofChar? ch with
    | none => rfl
    | some token => exact absurd rfl (starts token [ch] [] (Token.spelt_ofChar? single []))
  · rw [← Bool.not_eq_true]
    intro digit
    obtain ⟨value, spelt⟩ := Token.exists_spelt_of_isDigit digit
    exact starts _ [ch] [] spelt rfl
  · rw [← Bool.not_eq_true]
    intro start
    have parts : LongestRun isNamePart [ch] [] :=
      ⟨by simpa using isNamePart_of_isNameStart start, nofun⟩
    exact starts (.identifier (.ofList [ch])) [ch] [] ⟨⟨ch, rfl, start⟩, parts, rfl⟩ rfl

theorem Piece.first?_of_explained {cause : LexFault.Cause} {body after : List Char}
    (h : cause.Explained body after) :
    first? (body ++ after) = some ⟨.error cause, body, after⟩ := by
  cases cause with
  | unexpectedCharacter ch =>
      obtain ⟨single, digit, start⟩ := h.starts_nothing
      obtain ⟨rfl, -⟩ := h
      simp [first?, single, digit, start]
  | numberTooLarge =>
      obtain ⟨nonempty, run, large⟩ := h
      rw [first?_of_digits nonempty run]
      rcases NumberScan.finish_ofDigits run.inside after.head? with
        ⟨-, ends⟩ | ⟨small, -⟩ | ⟨value, same, -⟩
      · rw [ends]
        rfl
      · omega
      · exact absurd value.bounds.2 (by omega)
  | invalidNumberFormat =>
      obtain ⟨nonempty, run, small, zeros⟩ := h
      rw [first?_of_digits nonempty run]
      rcases NumberScan.finish_ofDigits run.inside after.head? with
        ⟨large, -⟩ | ⟨-, -, ends⟩ | ⟨-, -, fine, -⟩
      · omega
      · rw [ends]
        rfl
      · exact absurd zeros fine

theorem Spot.tape_of_explained {cause : LexFault.Cause} {body after : List Char}
    (explained : cause.Explained body after)
    (solid : ∀ ch, (body ++ after).head? = some ch → isBlank ch = false) (before : List Char) :
    (behind before (body ++ after)).tape =
      { lexemes := [], ending := .error (faultAfter before body cause) } := by
  let spot := behind before (body ++ after)
  have found : Piece.first? spot.chars = some ⟨.error cause, body, after⟩ :=
    Piece.first?_of_explained explained
  have skipped : spot.skip isBlank = spot := by
    simpa using skip_behind (⟨nofun, solid⟩ : LongestRun isBlank [] (body ++ after)) before
  have read : spot.read = (.error (faultAfter before body cause), spot.read.2) := by
    refine Prod.ext ?_ rfl
    rw [Spot.read, skipped, take, found]
    rfl
  exact tape_fault read

namespace Tokenised

variable {before chars stop rest : List Char} {lexemes : List Lexeme}

theorem tape_eq (h : Tokenised before chars lexemes stop rest) :
    (Spot.behind before chars).tape = (Spot.behind stop rest).tape.prepend lexemes := by
  induction h with
  | @stop before blanks rest gap =>
      have none : LongestRun isBlank [] rest := ⟨by simp, gap.stops⟩
      refine Spot.tape_eq_of_read_eq ?_
      rw [Spot.read, Spot.read, Spot.skip_behind gap]
      simpa using congrArg Spot.take (Spot.skip_behind none (before ++ blanks)).symm
  | lexeme gap spelt others ih =>
      rw [Spot.tape_lexeme (Spot.read_of_spelt gap spelt _), ih]
      rfl

theorem nil (before : List Char) : Tokenised before [] [] before [] := by
  have empty : LongestRun isBlank [] [] := ⟨by simp, by simp⟩
  simpa using Tokenised.stop empty

theorem split {front back : List Lexeme} (h : Tokenised before chars (front ++ back) stop rest) :
    ∃ passed left, chars = passed ++ left ∧ Tokenised before passed front (before ++ passed) [] ∧
      Tokenised (before ++ passed) left back stop rest ∧ (front = [] → passed = []) ∧
      ∀ lexeme, front.getLast? = some lexeme → lexeme.span.stop = byteLength (before ++ passed) := by
  induction front generalizing before chars with
  | nil =>
      refine ⟨[], chars, rfl, ?_, ?_, fun _ => rfl, by simp⟩
      · simpa using nil before
      · simpa using h
  | cons first front ih =>
      cases h with
      | @lexeme _ blanks body after _ _ token _ gap spelt others =>
          obtain ⟨passed, left, rfl, cut, further, empty, last⟩ := ih others
          have regroup : before ++ (blanks ++ (body ++ passed)) =
              before ++ blanks ++ body ++ passed := by simp
          rw [← List.append_assoc] at gap
          refine ⟨blanks ++ (body ++ passed), left, by simp, ?_, ?_, nofun, ?_⟩
          · rw [regroup]
            exact .lexeme gap.of_append spelt.of_append cut
          · rwa [regroup]
          · intro lexeme found
            rw [regroup]
            cases front with
            | nil =>
                cases found
                simp [empty rfl, lexemeAfter, Nat.add_assoc]
            | cons second others => exact last lexeme (by simpa using found)

end Tokenised

end AssignLang
