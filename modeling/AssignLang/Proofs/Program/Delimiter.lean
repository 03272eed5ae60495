import AssignLang.Proofs.Program.Concatenation

namespace AssignLang

/-- The character stands in no token but may follow every token. -/
structure Delimits (ch : Char) : Prop where
  blank : isBlank ch = true
  digit : ch.isDigit = false
  part : isNamePart ch = false
  zero : endsZero (some ch) = true

theorem delimits_lineFeed : Delimits '\n' := by
  constructor <;> decide

section

variable {p : Char → Bool} {ch : Char} (stops : p ch = false)

include stops

theorem takeWhile_append_stop (chars more : List Char) :
    (chars ++ ch :: more).takeWhile p = chars.takeWhile p := by
  induction chars with
  | nil => simp [stops]
  | cons first rest ih => simp [List.takeWhile_cons, ih]

theorem dropWhile_append_stop (chars more : List Char) :
    (chars ++ ch :: more).dropWhile p = chars.dropWhile p ++ ch :: more := by
  induction chars with
  | nil => simp [stops]
  | cons first rest ih =>
      by_cases inside : p first = true
      · simp [inside, ih]
      · simp [inside]

end

variable {ch : Char}

theorem NumberScan.finish_delimited (h : Delimits ch) (scan : NumberScan)
    (after more : List Char) :
    scan.finish (after ++ ch :: more).head? = scan.finish after.head? := by
  cases after with
  | nil =>
      have none : endsZero none = true := rfl
      simp [finish, h.zero, none]
  | cons first rest => rfl

namespace Piece

theorem number_delimited (h : Delimits ch) (chars more : List Char) :
    number (chars ++ ch :: more) = (number chars).extend (ch :: more) := by
  simp only [number, extend, takeWhile_append_stop h.digit, dropWhile_append_stop h.digit,
    NumberScan.finish_delimited h]

theorem identifier_delimited (h : Delimits ch) (chars more : List Char) :
    identifier (chars ++ ch :: more) = (identifier chars).extend (ch :: more) := by
  simp only [identifier, extend, takeWhile_append_stop h.part, dropWhile_append_stop h.part]

theorem first?_delimited (h : Delimits ch) {chars : List Char} (nonempty : chars ≠ [])
    (more : List Char) :
    first? (chars ++ ch :: more) = (first? chars).map fun piece => piece.extend (ch :: more) := by
  obtain ⟨first, rest, rfl⟩ := List.exists_cons_of_ne_nil nonempty
  have number := number_delimited h (first :: rest) more
  have identifier := identifier_delimited h (first :: rest) more
  rw [List.cons_append] at number identifier ⊢
  rw [first?, first?, number, identifier]
  cases Token.ofChar? first with
  | some token => rfl
  | none =>
      dsimp only
      split
      · rfl
      · split
        · rfl
        · rfl

end Piece

namespace Spot

theorem move_extend (spot : Spot) (passed left more : List Char) :
    (spot.extend more).move passed (left ++ more) = (spot.move passed left).extend more := rfl

theorem after_extend (spot : Spot) (piece : Piece) (more : List Char) :
    (spot.extend more).after (piece.extend more) = (spot.after piece).extend more := by
  unfold after
  simp only [Piece.extend]
  split
  · rfl
  · exact move_extend spot piece.chars piece.rest more

theorem take_delimited (h : Delimits ch) {spot : Spot} (nonempty : spot.chars ≠ [])
    (more : List Char) :
    (spot.extend (ch :: more)).take = (spot.take.1, spot.take.2.extend (ch :: more)) := by
  have extended : (spot.extend (ch :: more)).chars = spot.chars ++ ch :: more := rfl
  have found : Piece.first? spot.chars ≠ none := fun none => nonempty (Piece.first?_eq_none.1 none)
  obtain ⟨piece, first⟩ := Option.ne_none_iff_exists'.1 found
  simp only [take, extended, Piece.first?_delimited h nonempty, first, Option.map_some,
    after_extend]
  rfl

theorem read_delimited (h : Delimits ch) {spot : Spot} (nonempty : (spot.skip isBlank).chars ≠ [])
    (more : List Char) :
    (spot.extend (ch :: more)).read = (spot.read.1, spot.read.2.extend (ch :: more)) := by
  rw [read, skip_extend nonempty, take_delimited h nonempty]
  rfl

theorem read_of_nil {spot : Spot} (h : spot.chars = []) :
    spot.read = (.ok (.finish spot.line spot.offset), spot) := by
  obtain ⟨chars, offset, line⟩ := spot
  cases h
  rfl

theorem read_delimited_of_finish (h : Delimits ch) {spot after : Spot} {line offset : Nat}
    (finish : spot.read = (.ok (.finish line offset), after)) :
    (spot.extend [ch]).read = (spot.last.move [ch] []).take := by
  have skipped : (spot.last.extend [ch]).skip isBlank = spot.last.move [ch] [] := by
    simp [skip, extend, last, move, h.blank]
  rw [read_extend_of_finish finish, read, skipped]

theorem chars_skip_ne_nil {spot after : Spot} {reading : Except LexFault Sight}
    (h : spot.read = (reading, after))
    (unfinished : ∀ line offset, reading ≠ .ok (.finish line offset)) :
    (spot.skip isBlank).chars ≠ [] := by
  intro nil
  rw [read, take, nil] at h
  cases h
  exact unfinished _ _ rfl

end Spot

def Matching.delimited (ch : Char) : Matching Spot Spot where
  -- once the end of the text was seen nothing is left of the delimiter either
  source := fun spot other => spot = other.extend [ch] ∨ spot.chars = [] ∧ other.chars = []
  ended := fun _ _ => True
  lexeme := Eq
  finish := fun _ _ _ _ => True
  fault := Eq

theorem Spot.reads_delimited (h : Delimits ch) {spot other : Spot}
    (states : (Matching.delimited ch).source spot other) :
    (Matching.delimited ch).Reads spot.read other.read := by
  rcases states with rfl | ⟨nil, nil'⟩
  · cases read : other.read with
    | mk reading after =>
        rcases reading with fault | lexeme | ⟨line, offset⟩
        · rw [read_delimited h (chars_skip_ne_nil read nofun), read]
          exact .fault rfl trivial
        · rw [read_delimited h (chars_skip_ne_nil read nofun), read]
          exact .lexeme rfl (.inl rfl)
        · have empty : after.chars = [] := by
            rw [(read_finish read).1]
            rfl
          rw [read_delimited_of_finish h read]
          exact .finish trivial (.inr ⟨rfl, empty⟩)
  · rw [read_of_nil nil, read_of_nil nil']
    exact .finish trivial (.inr ⟨nil, nil'⟩)

def delimiterSimulation (h : Delimits ch) : Simulation Spot Spot where
  toMatching := .delimited ch
  token_eq := fun same => congrArg Lexeme.token same
  ended_of_source := fun _ => trivial
  reads_next := fun states => Spot.reads_delimited h states
  reads_peek := fun states => Spot.reads_peek states (Spot.reads_delimited h states)

theorem cause_eq_of_same_delimited {d e : Diagnostic} (same : (Matching.delimited ch).Same d e) :
    d.cause = e.cause := by
  cases same with
  | lexeme plain shown => rfl
  | finish plain shown => rfl
  | fault shown =>
      cases shown
      rfl

theorem run_delimited (h : Delimits ch) (text : String) :
    (run (text ++ String.singleton ch)).store = (run text).store ∧
      List.Forall₂ (fun d e => d.cause = e.cause) (run (text ++ String.singleton ch)).diagnostics
        (run text).diagnostics := by
  have clean : Session.new.clear.diagnostics = [] := rfl
  have same (text : String) : run text = (Session.new.clear.proceed (Spot.ofString text)).1 :=
    (Session.proceed_stream clean (TokenStream.isAt_ofString text)).1
  let sim := delimiterSimulation h
  have states : sim.source (Spot.ofString (text ++ String.singleton ch)) (Spot.ofString text) := by
    rw [Spot.ofString_append]
    exact .inl (by simp)
  obtain ⟨sessions, -⟩ := sim.sameSession_proceed (sim.sameSession_of_nil clean) states
  rw [same, same]
  exact ⟨sessions.store, sessions.diagnostics.imp fun _ _ => cause_eq_of_same_delimited⟩

end AssignLang
