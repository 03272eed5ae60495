import AssignLang.Proofs.Program.Evaluation

namespace AssignLang

section

variable {p : Char → Bool} {chars : List Char}

theorem takeWhile_append_of_stops (h : chars.dropWhile p ≠ []) (more : List Char) :
    (chars ++ more).takeWhile p = chars.takeWhile p := by
  rw [List.takeWhile_append, if_neg]
  intro all
  have length := congrArg List.length (List.takeWhile_append_dropWhile (p := p) (l := chars))
  rw [List.length_append, all] at length
  exact h (List.length_eq_zero_iff.1 (by omega))

theorem dropWhile_append_of_stops (h : chars.dropWhile p ≠ []) (more : List Char) :
    (chars ++ more).dropWhile p = chars.dropWhile p ++ more := by
  rw [List.dropWhile_append, if_neg]
  simpa using h

theorem head?_append_of_ne_nil (h : chars ≠ []) (more : List Char) :
    (chars ++ more).head? = chars.head? := by
  obtain ⟨first, rest, rfl⟩ := List.exists_cons_of_ne_nil h
  rfl

end

namespace Piece

def extend (piece : Piece) (more : List Char) : Piece :=
  { piece with rest := piece.rest ++ more }

theorem number_append {chars : List Char} (h : (number chars).rest ≠ []) (more : List Char) :
    number (chars ++ more) = (number chars).extend more := by
  have stops : chars.dropWhile Char.isDigit ≠ [] := h
  simp only [number, extend, takeWhile_append_of_stops stops, dropWhile_append_of_stops stops,
    head?_append_of_ne_nil stops]

theorem identifier_append {chars : List Char} (h : (identifier chars).rest ≠ [])
    (more : List Char) : identifier (chars ++ more) = (identifier chars).extend more := by
  have stops : chars.dropWhile isNamePart ≠ [] := h
  simp only [identifier, extend, takeWhile_append_of_stops stops, dropWhile_append_of_stops stops]

theorem content_number_ne_semicolon (chars : List Char) :
    (number chars).content ≠ .ok .semicolon := by
  simp only [number]
  cases (NumberScan.ofDigits (chars.takeWhile Char.isDigit)).finish
    (chars.dropWhile Char.isDigit).head? <;> simp [Except.map]

theorem first?_append {chars : List Char} {piece : Piece} (h : first? chars = some piece)
    (ends : piece.rest ≠ [] ∨ piece.content = .ok .semicolon) (more : List Char) :
    first? (chars ++ more) = some (piece.extend more) := by
  cases chars with
  | nil => cases h
  | cons ch rest =>
      rw [List.cons_append, first?]
      rw [first?] at h
      cases token : Token.ofChar? ch with
      | some token' =>
          rw [token] at h
          cases h
          rfl
      | none =>
          simp only [token] at h
          dsimp only
          split at h
          · rename_i digit
            cases h
            have stops := ends.resolve_right (content_number_ne_semicolon _)
            rw [if_pos digit, ← List.cons_append, number_append stops]
          · rename_i digit
            rw [if_neg digit]
            split at h
            · rename_i start
              cases h
              have stops := ends.resolve_right (by simp [identifier])
              rw [if_pos start, ← List.cons_append, identifier_append stops]
            · rename_i start
              cases h
              rw [if_neg start]
              rfl

end Piece

namespace Spot

def extend (spot : Spot) (more : List Char) : Spot := { spot with chars := spot.chars ++ more }

theorem skip_extend {spot : Spot} {p : Char → Bool} (h : (spot.skip p).chars ≠ [])
    (more : List Char) : (spot.extend more).skip p = (spot.skip p).extend more := by
  have stops : spot.chars.dropWhile p ≠ [] := h
  simp only [skip, extend, move, takeWhile_append_of_stops stops, dropWhile_append_of_stops stops]

theorem read_extend {spot after : Spot} {lexeme : Lexeme}
    (h : spot.read = (.ok (.lexeme lexeme), after))
    (ends : after.chars ≠ [] ∨ lexeme.token = .semicolon) (more : List Char) :
    (spot.extend more).read = (.ok (.lexeme lexeme), after.extend more) := by
  obtain ⟨piece, token, found, content, rfl, rfl⟩ := take_lexeme h
  have some : (spot.skip isBlank).chars ≠ [] := by
    intro nil
    rw [Piece.first?_eq_none.2 nil] at found
    cases found
  have ends' : piece.rest ≠ [] ∨ piece.content = .ok .semicolon :=
    ends.imp id fun semicolon => by rw [content, ← semicolon]
  rw [read, skip_extend some, take]
  simp only [extend, Piece.first?_append found ends' more]
  simp only [place, Piece.shown, Piece.extend, content, Spot.after, move]

theorem read_extend_of_finish {spot after : Spot} {line offset : Nat}
    (h : spot.read = (.ok (.finish line offset), after)) (more : List Char) :
    (spot.extend more).read = (spot.last.extend more).read := by
  obtain ⟨nil, -⟩ := take_finish h
  have blank : spot.chars.dropWhile isBlank = [] := nil
  have all : spot.chars.takeWhile isBlank = spot.chars := by
    simpa [blank] using List.takeWhile_append_dropWhile (p := isBlank) (l := spot.chars)
  have skipped : (spot.extend more).skip isBlank = (spot.last.extend more).skip isBlank := by
    simp [skip, extend, move, last, List.takeWhile_append, List.dropWhile_append, blank, all,
      Nat.add_assoc]
  rw [read, read, skipped]

theorem tape_append {spot : Spot} {line offset : Nat}
    (finished : spot.tape.ending = .ok (.finish line offset))
    (closed : ∀ lexeme, spot.tape.lexemes.getLast? = some lexeme → lexeme.token = .semicolon)
    (more : List Char) :
    (spot.extend more).tape = (spot.last.extend more).tape.prepend spot.tape.lexemes := by
  induction spot using read_induction with
  | lexeme spot lexeme after read ih =>
      rw [tape_lexeme read] at finished closed ⊢
      have ends : after.chars ≠ [] ∨ lexeme.token = .semicolon := by
        -- with no characters left the token is the last one
        by_cases nil : after.chars = []
        · have finish : after.read = (.ok (.finish after.line after.offset), after) := by
            obtain ⟨chars, offset, line⟩ := after
            cases nil
            rfl
          refine .inr (closed lexeme ?_)
          rw [tape_finish finish]
          rfl
        · exact .inl nil
      have rest := ih finished fun found last => by
        refine closed found ?_
        simp [Tape.prepend, List.getLast?_cons, last]
      rw [tape_lexeme (read_extend read ends more), rest, last_read read]
      rfl
  | finish spot line' offset' after read =>
      rw [tape_finish read]
      exact tape_eq_of_read_eq (read_extend_of_finish read more)
  | fault spot fault after read =>
      rw [tape_fault read] at finished
      cases finished

end Spot

def Lexeme.shift (bytes lines : Nat) (lexeme : Lexeme) : Lexeme :=
  { lexeme with line := lexeme.line + lines, span := lexeme.span.shift bytes }

def LexFault.shift (bytes lines : Nat) (fault : LexFault) : LexFault :=
  { fault with line := fault.line + lines, span := fault.span.shift bytes }

def Diagnostic.Cause.shift (bytes lines : Nat) : Diagnostic.Cause → Diagnostic.Cause
  | lexical fault => lexical (fault.shift bytes lines)
  | cause => cause

/-- The diagnostic further down in a longer text; so is the fault in it. -/
def Diagnostic.shift (bytes lines : Nat) (diagnostic : Diagnostic) : Diagnostic :=
  ⟨diagnostic.cause.shift bytes lines, diagnostic.line + lines, diagnostic.span.shift bytes⟩

def Spot.shift (bytes lines : Nat) (spot : Spot) : Spot :=
  ⟨spot.chars, spot.offset + bytes, spot.line + lines⟩

def Matching.shifted (bytes lines : Nat) : Matching Spot Spot where
  source := fun spot other => spot = other.shift bytes lines
  ended := fun spot other => spot = other.shift bytes lines
  lexeme := fun lexeme other => lexeme = other.shift bytes lines
  finish := fun line offset line' offset' => line = line' + lines ∧ offset = offset' + bytes
  fault := fun fault other => fault = other.shift bytes lines

namespace Spot

variable (bytes lines : Nat)

theorem move_shift (spot : Spot) (passed left : List Char) :
    (spot.shift bytes lines).move passed left = (spot.move passed left).shift bytes lines := by
  simp only [shift, move, mk.injEq, true_and]
  omega

theorem skip_shift (spot : Spot) (p : Char → Bool) :
    (spot.shift bytes lines).skip p = (spot.skip p).shift bytes lines :=
  move_shift bytes lines spot _ _

theorem after_shift (spot : Spot) (piece : Piece) :
    (spot.shift bytes lines).after piece = (spot.after piece).shift bytes lines := by
  unfold after
  split
  · rfl
  · exact move_shift bytes lines spot _ _

theorem reads_take_shift (spot : Spot) :
    (Matching.shifted bytes lines).Reads (spot.shift bytes lines).take spot.take := by
  unfold take
  have same : (spot.shift bytes lines).chars = spot.chars := rfl
  rw [same]
  cases Piece.first? spot.chars with
  | none => exact .finish ⟨rfl, rfl⟩ rfl
  | some piece =>
      have states := after_shift bytes lines spot piece
      have span : (⟨spot.offset + bytes, spot.offset + bytes + byteLength piece.chars⟩ : Span) =
          Span.shift ⟨spot.offset, spot.offset + byteLength piece.chars⟩ bytes := by
        simp only [Span.shift, Span.mk.injEq, true_and]
        omega
      cases content : piece.content with
      | ok token =>
          simp only [place, Piece.shown, content]
          exact .lexeme (congrArg (Lexeme.mk token (spot.line + lines)) span) states
      | error cause =>
          simp only [place, Piece.shown, content]
          exact .fault (congrArg (LexFault.mk cause (spot.line + lines)) span) states

theorem reads_read_shift (spot : Spot) :
    (Matching.shifted bytes lines).Reads (spot.shift bytes lines).read spot.read := by
  rw [read, skip_shift]
  exact reads_take_shift bytes lines _

theorem reads_peek {m : Matching Spot Spot} {spot other : Spot} (states : m.source spot other)
    (reads : m.Reads spot.read other.read) : m.Reads spot.peek other.peek := by
  unfold peek
  generalize spot.read = left at reads ⊢
  generalize other.read = right at reads ⊢
  cases reads with
  | lexeme shown _ => exact .lexeme shown states
  | finish shown states => exact .finish shown states
  | fault shown states => exact .fault shown states

end Spot

def shiftSimulation (bytes lines : Nat) : Simulation Spot Spot where
  toMatching := .shifted bytes lines
  token_eq := by
    rintro _ lexeme rfl
    rfl
  ended_of_source := id
  reads_next := by
    rintro _ spot rfl
    exact spot.reads_read_shift bytes lines
  reads_peek := by
    rintro _ spot rfl
    exact Spot.reads_peek rfl (spot.reads_read_shift bytes lines)

theorem eq_of_same_shifted {bytes lines : Nat} {d e : Diagnostic}
    (same : (Matching.shifted bytes lines).Same d e) : d = e.shift bytes lines := by
  cases same with
  | lexeme plain shown =>
      cases shown
      rename_i cause lexeme
      cases cause <;> first | rfl | cases plain
  | finish plain shown =>
      obtain ⟨rfl, rfl⟩ := shown
      rename_i cause line offset
      cases cause <;> first | rfl | cases plain
  | fault shown =>
      cases shown
      rfl

theorem Session.proceed_shift {session : Session} (clean : session.diagnostics = [])
    (bytes lines : Nat) (spot : Spot) :
    (session.proceed (spot.shift bytes lines)).1 =
      ⟨(session.proceed spot).1.store,
        (session.proceed spot).1.diagnostics.map (.shift bytes lines)⟩ := by
  let sim := shiftSimulation bytes lines
  obtain ⟨sessions, -⟩ := sim.sameSession_proceed (sim.sameSession_of_nil clean)
    (rfl : sim.source (spot.shift bytes lines) spot)
  refine eq_of_forall₂ sessions.store ?_
  rw [List.forall₂_map_right_iff]
  exact sessions.diagnostics.imp fun _ _ => eq_of_same_shifted

theorem Statement.getLast?_lexemes (statement : Statement) :
    statement.lexemes.getLast? = some (statement.semicolonPlace.lexeme .semicolon) := by
  simp [lexemes, List.getLast?_cons, List.getLast?_append]

theorem Program.token_getLast {program : Program} {lexeme : Lexeme}
    (h : program.lexemes.getLast? = some lexeme) : lexeme.token = .semicolon := by
  induction program with
  | nil => cases h
  | cons statement rest ih =>
      rw [lexemes_cons, List.getLast?_append] at h
      cases last : (lexemes rest).getLast? with
      | some found =>
          rw [last] at h
          cases h
          exact ih last
      | none =>
          rw [last, Statement.getLast?_lexemes] at h
          cases h
          rfl

theorem Spot.ofString_append (first second : String) :
    Spot.ofString (first ++ second) = (Spot.ofString first).extend second.toList := by
  simp [Spot.ofString, Spot.ofChars, Spot.extend]

theorem Spot.last_extend (first second : String) :
    (Spot.ofString first).last.extend second.toList =
      (Spot.ofString second).shift first.utf8ByteSize (first.toList.count '\n') := by
  simp [Spot.ofString, Spot.ofChars, Spot.extend, Spot.shift, Spot.last, Spot.move,
    byteLength_toList, lineFeeds]

/-- A run over a text on which it succeeds and a further text goes on with the further text as if
that stood alone; the diagnostics are moved by the length and the line feeds of the first text. -/
theorem Session.run_append (session : Session) (first second : String)
    (h : (session.run first).succeeded = true) :
    (session.run (first ++ second)).store =
        ((session.run first).proceed (TokenStream.ofString second)).1.store ∧
      (session.run (first ++ second)).diagnostics =
        ((session.run first).proceed (TokenStream.ofString second)).1.diagnostics.map
          (.shift first.utf8ByteSize (first.toList.count '\n')) := by
  have clean := succeeded_iff.1 h
  obtain ⟨program, lexes, eval⟩ := exists_program h
  obtain ⟨lexemes, line, offset, ending⟩ := lexes_iff.1 lexes
  have closed (lexeme : Lexeme)
      (last : (Spot.ofString first).tape.lexemes.getLast? = some lexeme) :
      lexeme.token = .semicolon := Program.token_getLast (lexemes ▸ last)
  -- the run over the first text leaves its store and no token behind
  have carried : { session.clear with store := (session.run first).store } = session.run first :=
    eq_of_forall₂ rfl (by rw [clean]; exact .nil)
  have further : session.run (first ++ second) = ((session.run first).proceed
      ((Spot.ofString second).shift first.utf8ByteSize (first.toList.count '\n'))).1 := by
    rw [run_eq_proceed_tape, Spot.ofString_append, Spot.tape_append ending closed, lexemes,
      proceed_program session.clear eval, carried, Spot.last_extend,
      (proceed_spot clean _).1]
  rw [further, proceed_shift clean, (proceed_stream clean (TokenStream.isAt_ofString second)).1]
  exact ⟨rfl, rfl⟩

theorem Session.run_append_unexpected :
    (new.run "été = 0;\n").succeeded = true ∧
      (new.run ("été = 0;\n" ++ "b = été +\n ?;")).diagnostics =
        [.ofFault ⟨.unexpectedCharacter '?', 3, ⟨24, 25⟩⟩] := by
  have succeeded : (new.run "été = 0;\n").succeeded = true := by
    rw [run, TokenStream.ofString_eq]
    decide +kernel
  refine ⟨succeeded, ?_⟩
  rw [(run_append new _ _ succeeded).2, run, TokenStream.ofString_eq, TokenStream.ofString_eq]
  decide +kernel

end AssignLang
