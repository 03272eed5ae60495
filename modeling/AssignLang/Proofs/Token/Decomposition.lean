import AssignLang.Proofs.Token.Number
import AssignLang.Proofs.Token.Stream

namespace AssignLang

/-- All of `run` is of the class, and what comes after it does not go on with the class. -/
structure LongestRun (p : Char → Bool) (run after : List Char) : Prop where
  inside : ∀ ch ∈ run, p ch = true
  stops : ∀ ch, after.head? = some ch → p ch = false

theorem longestRun_takeWhile (p : Char → Bool) (chars : List Char) :
    LongestRun p (chars.takeWhile p) (chars.dropWhile p) where
  inside := List.all_eq_true.1 List.all_takeWhile
  stops := fun ch head => by
    have stopped := List.head?_dropWhile_not p chars
    rwa [head] at stopped

/-- The characters spell the token, if `after` follows them. -/
def Token.Spelt : Token → (body after : List Char) → Prop
  | number value, body, after =>
    body ≠ [] ∧ LongestRun Char.isDigit body after ∧ value.toInt = decimal body ∧
      ¬ BadZeros body after.head?
  | identifier name, body, after =>
    (∃ ch, body.head? = some ch ∧ isNameStart ch = true) ∧ LongestRun isNamePart body after ∧
      name = String.ofList body
  | operator op, body, _ => body = op.literal.toList
  | semicolon, body, _ => body = [';']
  | openParen, body, _ => body = ['(']
  | closeParen, body, _ => body = [')']

/-- The characters are no token, for the given cause: one of them starts none, or they are digits
that are no number. -/
def LexFault.Cause.Explained : LexFault.Cause → (body after : List Char) → Prop
  | unexpectedCharacter ch, body, _ =>
    body = [ch] ∧ ∀ (token : Token) (spelling after : List Char),
      token.Spelt spelling after → spelling.head? ≠ some ch
  | numberTooLarge, body, after =>
    body ≠ [] ∧ LongestRun Char.isDigit body after ∧ Value.highest < decimal body
  | invalidNumberFormat, body, after =>
    body ≠ [] ∧ LongestRun Char.isDigit body after ∧ decimal body ≤ Value.highest ∧
      BadZeros body after.head?

theorem Token.Spelt.ne_nil {token : Token} {body after : List Char} (h : token.Spelt body after) :
    body ≠ [] := by
  rintro rfl
  rcases token with value | name | (_ | _ | _ | _) | _ | _ | _ <;> simp_all [Spelt, Operator.literal]

theorem LexFault.Cause.Explained.ne_nil {cause : LexFault.Cause} {body after : List Char}
    (h : cause.Explained body after) : body ≠ [] := by
  rintro rfl
  cases cause <;> simp_all [Explained]

theorem Token.spelt_ofChar? {ch : Char} {token : Token} (h : Token.ofChar? ch = some token)
    (after : List Char) : token.Spelt [ch] after := by
  unfold ofChar? at h
  split at h
  all_goals cases h
  all_goals rfl

theorem Token.Spelt.start {token : Token} {body after : List Char} {ch : Char}
    (h : token.Spelt body after) (head : body.head? = some ch) :
    (Token.ofChar? ch).isSome = true ∨ ch.isDigit = true ∨ isNameStart ch = true := by
  cases token with
  | number value =>
      obtain ⟨-, run, -⟩ := h
      exact .inr (.inl (run.inside ch (List.mem_of_mem_head? head)))
  | identifier name =>
      obtain ⟨⟨first, same, starts⟩, -⟩ := h
      cases head.symm.trans same
      exact .inr (.inr starts)
  | operator op =>
      have same : body = op.literal.toList := h
      subst same
      cases op <;> cases head <;> exact .inl rfl
  | semicolon | openParen | closeParen =>
      cases h
      cases head
      exact .inl rfl

def Piece.Judged (piece : Piece) : Prop :=
  match piece.content with
  | .ok token => token.Spelt piece.chars piece.rest
  | .error cause => cause.Explained piece.chars piece.rest

theorem Piece.judged_number {chars : List Char} {ch : Char} (head : chars.head? = some ch)
    (digit : ch.isDigit = true) : (number chars).Judged := by
  have run := longestRun_takeWhile Char.isDigit chars
  have some : chars.takeWhile Char.isDigit ≠ [] := by
    cases chars with
    | nil => cases head
    | cons first rest =>
        cases head
        simp [digit]
  simp only [Judged, number]
  rcases NumberScan.finish_ofDigits run.inside (chars.dropWhile Char.isDigit).head? with
    ⟨large, ends⟩ | ⟨small, zeros, ends⟩ | ⟨value, same, zeros, ends⟩
  all_goals simp only [ends, Except.map]
  · exact ⟨some, run, large⟩
  · exact ⟨some, run, small, zeros⟩
  · exact ⟨some, run, same, zeros⟩

theorem Piece.judged_identifier {ch : Char} (rest : List Char) (starts : isNameStart ch = true) :
    (identifier (ch :: rest)).Judged := by
  refine ⟨⟨ch, ?_, starts⟩, longestRun_takeWhile isNamePart _, rfl⟩
  simp [identifier, isNamePart_of_isNameStart starts]

theorem Piece.judged_first {chars : List Char} {piece : Piece} (h : first? chars = some piece) :
    piece.Judged := by
  cases chars with
  | nil => cases h
  | cons ch rest =>
      simp only [first?] at h
      split at h
      · rename_i token single
        cases h
        exact Token.spelt_ofChar? single rest
      · rename_i single
        split at h
        · rename_i digit
          cases h
          exact judged_number rfl digit
        · rename_i digit
          split at h
          · rename_i starts
            cases h
            exact judged_identifier rest starts
          · rename_i starts
            cases h
            refine ⟨rfl, fun token spelling after spelt head => ?_⟩
            rcases spelt.start head with single' | digit' | starts'
            · simp [single] at single'
            · exact digit digit'
            · exact starts starts'

def lexemeAfter (before body : List Char) (token : Token) : Lexeme :=
  ⟨token, 1 + lineFeeds before, ⟨byteLength before, byteLength before + byteLength body⟩⟩

def faultAfter (before body : List Char) (cause : LexFault.Cause) : LexFault :=
  ⟨cause, 1 + lineFeeds before, ⟨byteLength before, byteLength before + byteLength body⟩⟩

/-- The characters `chars`, which come after `before`, are blanks and tokens up to `rest`, which
comes after `stop`. Blanks are longest runs too, so that a lexeme starts where they stop. -/
inductive Tokenised :
    (before chars : List Char) → List Lexeme → (stop rest : List Char) → Prop
  | stop {before blanks rest : List Char} (gap : LongestRun isBlank blanks rest) :
      Tokenised before (blanks ++ rest) [] (before ++ blanks) rest
  | lexeme {before blanks body after stop rest : List Char} {token : Token}
      {lexemes : List Lexeme} (gap : LongestRun isBlank blanks (body ++ after))
      (spelt : token.Spelt body after)
      (others : Tokenised (before ++ blanks ++ body) after lexemes stop rest) :
      Tokenised before (blanks ++ (body ++ after))
        (lexemeAfter (before ++ blanks) body token :: lexemes) stop rest

def Ended (ending : Option LexFault) (stop rest : List Char) : Prop :=
  match ending with
  | none => rest = []
  | some fault => ∃ cause body after, rest = body ++ after ∧
      fault = faultAfter stop body cause ∧ cause.Explained body after

namespace Tokenised

variable {before chars stop rest : List Char} {lexemes : List Lexeme}

theorem append_eq (h : Tokenised before chars lexemes stop rest) :
    before ++ chars = stop ++ rest := by
  induction h with
  | stop gap => simp
  | lexeme gap spelt others ih => simpa using ih

theorem head?_rest (h : Tokenised before chars lexemes stop rest) (ch : Char)
    (head : rest.head? = some ch) : isBlank ch = false := by
  induction h with
  | stop gap => exact gap.stops ch head
  | lexeme gap spelt others ih => exact ih head

theorem exists_of_mem (h : Tokenised before chars lexemes stop rest) {lexeme : Lexeme}
    (member : lexeme ∈ lexemes) :
    ∃ front body after token, before ++ chars = front ++ body ++ after ∧
      Token.Spelt token body after ∧ lexeme = lexemeAfter front body token ∧
      byteLength before ≤ byteLength front := by
  induction h with
  | stop gap => cases member
  | @lexeme before blanks body after stop rest token lexemes gap spelt others ih =>
      rcases List.mem_cons.1 member with rfl | member
      · exact ⟨before ++ blanks, body, after, token, by simp, spelt, rfl, by simp⟩
      · obtain ⟨front, body', after', token', same, spelt', placed, further⟩ := ih member
        refine ⟨front, body', after', token', by simpa using same, spelt', placed, ?_⟩
        simp only [byteLength_append] at further
        omega

end Tokenised

theorem byteLength_pos {chars : List Char} (h : chars ≠ []) : 0 < byteLength chars := by
  obtain ⟨ch, rest, rfl⟩ := List.exists_cons_of_ne_nil h
  have := ch.utf8Size_pos
  simp only [byteLength_cons]
  omega

namespace Tokenised

variable {before chars stop rest : List Char} {lexemes : List Lexeme}

theorem start_lt_stop (h : Tokenised before chars lexemes stop rest) {lexeme : Lexeme}
    (member : lexeme ∈ lexemes) : lexeme.span.start < lexeme.span.stop := by
  obtain ⟨front, body, after, token, -, spelt, rfl, -⟩ := h.exists_of_mem member
  have := byteLength_pos spelt.ne_nil
  simp only [lexemeAfter]
  omega

theorem pairwise_spans (h : Tokenised before chars lexemes stop rest) :
    lexemes.Pairwise fun first second => first.span.stop ≤ second.span.start := by
  induction h with
  | stop gap => exact .nil
  | lexeme gap spelt others ih =>
      refine .cons (fun second member => ?_) ih
      obtain ⟨front, body, after, token, -, -, rfl, further⟩ := others.exists_of_mem member
      simpa [lexemeAfter, Nat.add_assoc] using further

end Tokenised

namespace Spot

/-- The spot at `chars` in a text in which `before` comes before it. -/
def behind (before chars : List Char) : Spot := ⟨chars, byteLength before, 1 + lineFeeds before⟩

theorem move_behind (before chars passed left : List Char) :
    (behind before chars).move passed left = behind (before ++ passed) left := by
  simp [behind, move, Nat.add_assoc]

theorem read_behind (before chars : List Char) :
    ∃ blanks left, chars = blanks ++ left ∧ LongestRun isBlank blanks left ∧
      (behind before chars).read = (behind (before ++ blanks) left).take := by
  refine ⟨chars.takeWhile isBlank, chars.dropWhile isBlank, ?_, longestRun_takeWhile isBlank chars, ?_⟩
  · rw [List.takeWhile_append_dropWhile]
  · rw [read, skip, move_behind]
    rfl

theorem take_fault {spot after : Spot} {fault : LexFault}
    (h : spot.take = (.error fault, after)) :
    ∃ piece cause, Piece.first? spot.chars = some piece ∧ piece.content = .error cause ∧
      fault = ⟨cause, spot.line, ⟨spot.offset, spot.offset + byteLength piece.chars⟩⟩ := by
  unfold take at h
  split at h
  · cases h
  · rename_i piece found
    cases content : piece.content with
    | ok token => simp only [place, Piece.shown, content, Prod.mk.injEq, reduceCtorEq, false_and] at h
    | error cause =>
        simp only [place, Piece.shown, content, Prod.mk.injEq, Except.error.injEq] at h
        exact ⟨piece, cause, found, content, h.1.symm⟩

end Spot

def Tape.fault? (tape : Tape) : Option LexFault :=
  match tape.ending with
  | .ok _ => none
  | .error fault => some fault

theorem Spot.tokenised_tape (before chars : List Char) :
    ∃ stop rest, Tokenised before chars (behind before chars).tape.lexemes stop rest ∧
      Ended (behind before chars).tape.fault? stop rest := by
  generalize same : behind before chars = spot
  induction spot using read_induction generalizing before chars with
  | lexeme spot lexeme after read ih =>
      obtain ⟨blanks, left, rfl, gap, passed⟩ := read_behind before chars
      rw [same, read] at passed
      obtain ⟨piece, token, found, content, placed, moved⟩ := take_lexeme passed.symm
      have judged := Piece.judged_first found
      obtain rfl : piece.chars ++ piece.rest = left := Piece.chars_append_rest found
      simp only [Piece.Judged, content] at judged
      obtain ⟨stop, rest, tokenised, ended⟩ := ih _ _ ((move_behind _ _ _ _).symm.trans moved.symm)
      rw [tape_lexeme read]
      exact ⟨stop, rest, placed ▸ .lexeme gap judged tokenised, ended⟩
  | finish spot line offset after read =>
      obtain ⟨blanks, left, rfl, gap, passed⟩ := read_behind before chars
      rw [same, read] at passed
      obtain ⟨nil, -⟩ := take_finish passed.symm
      rw [tape_finish read]
      exact ⟨_, left, .stop gap, nil⟩
  | fault spot fault after read =>
      obtain ⟨blanks, left, rfl, gap, passed⟩ := read_behind before chars
      rw [same, read] at passed
      obtain ⟨piece, cause, found, content, placed⟩ := take_fault passed.symm
      have judged := Piece.judged_first found
      simp only [Piece.Judged, content] at judged
      rw [tape_fault read]
      exact ⟨_, left, .stop gap, cause, piece.chars, piece.rest,
        (Piece.chars_append_rest found).symm, placed, judged⟩

theorem Spot.ofString_eq_behind (text : String) : Spot.ofString text = behind [] text.toList := rfl

theorem TokenStream.pullAll_eq_tape (text : String) :
    (ofString text).pullAll.1 = (Spot.ofString text).tape.lexemes ∧
      (ofString text).pullAll.2.1 = (Spot.ofString text).tape.fault? := by
  rcases (isAt_ofString text).pullAll rfl with
    ⟨fault, after, pulled, ending⟩ | ⟨after, pulled, ending⟩
  · simp [pulled, Tape.fault?, ending]
  · simp [pulled, Tape.fault?, ending]

theorem Ended.eq_none_iff {ending : Option LexFault} {stop rest : List Char}
    (h : Ended ending stop rest) : ending = none ↔ rest = [] := by
  cases ending with
  | none => exact ⟨fun _ => h, fun _ => rfl⟩
  | some fault =>
      obtain ⟨cause, body, after, rfl, -, explained⟩ := h
      simp [explained.ne_nil]

/-- Pulling all tokens of a text cuts the text into blanks and lexemes, up to its end or up to the
lexeme of the fault. The spans of the tokens are not empty and come one after the other. -/
theorem pullAll_tokenised (text : String) :
    ∃ stop rest,
      Tokenised [] text.toList (TokenStream.ofString text).pullAll.1 stop rest ∧
      text.toList = stop ++ rest ∧
      ((TokenStream.ofString text).pullAll.2.1 = none ↔ rest = []) ∧
      Ended (TokenStream.ofString text).pullAll.2.1 stop rest ∧
      (∀ ch, rest.head? = some ch → isBlank ch = false) ∧
      (∀ lexeme ∈ (TokenStream.ofString text).pullAll.1, lexeme.span.start < lexeme.span.stop) ∧
      (TokenStream.ofString text).pullAll.1.Pairwise fun first second =>
        first.span.stop ≤ second.span.start := by
  obtain ⟨stop, rest, tokenised, ended⟩ := Spot.tokenised_tape [] text.toList
  rw [← Spot.ofString_eq_behind] at tokenised ended
  rw [(TokenStream.pullAll_eq_tape text).1, (TokenStream.pullAll_eq_tape text).2]
  exact ⟨stop, rest, tokenised, tokenised.append_eq, ended.eq_none_iff, ended,
    tokenised.head?_rest, fun lexeme => tokenised.start_lt_stop, tokenised.pairwise_spans⟩

end AssignLang
