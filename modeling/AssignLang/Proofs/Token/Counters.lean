import AssignLang.Proofs.Token.Decomposition
import AssignLang.Proofs.Token.Interleaving

namespace AssignLang

def Cursor.left {ν : Type} (cursor : Cursor ν) : List Char :=
  cursor.current.toList ++ cursor.unread.map (·.2)

namespace Spot

theorem left_cursor {ν : Type} {m : Type → Type} [Monad m] [Counter ν m] (spot : Spot)
    (requests : Nat) : (spot.cursor requests : Cursor ν).left = spot.chars := by
  cases chars : spot.chars with
  | nil => simp [cursor, Cursor.left, chars]
  | cons ch rest => simp [cursor, Cursor.left, chars, map_snd_offsetsFrom]

theorem take_snd_behind (before chars : List Char) :
    ∃ passed left, chars = passed ++ left ∧
      (behind before chars).take.2 = behind (before ++ passed) left := by
  have stays : ∃ passed left, chars = passed ++ left ∧
      behind before chars = behind (before ++ passed) left := ⟨[], chars, rfl, by simp⟩
  unfold take
  split
  · exact stays
  · rename_i piece found
    unfold after
    split
    · exact stays
    · exact ⟨piece.chars, piece.rest, (Piece.chars_append_rest found).symm, move_behind _ _ _ _⟩

theorem read_snd_behind (before chars : List Char) :
    ∃ passed left, chars = passed ++ left ∧
      (behind before chars).read.2 = behind (before ++ passed) left := by
  obtain ⟨blanks, solid, rfl, -, read⟩ := read_behind before chars
  obtain ⟨passed, left, rfl, taken⟩ := take_snd_behind (before ++ blanks) solid
  refine ⟨blanks ++ passed, left, ?_, ?_⟩
  · rw [List.append_assoc]
  · rw [read, taken, List.append_assoc]

end Spot

def Scanner.IsWithin (scanner : Scanner) (text : List Char) : Prop :=
  ∃ before rest, text = before ++ rest ∧ scanner.IsAt (.behind before rest) text.length

theorem Scanner.IsWithin.scan {scanner : Scanner} {text : List Char}
    (h : scanner.IsWithin text) : scanner.scan.2.IsWithin text := by
  obtain ⟨before, rest, rfl, at'⟩ := h
  obtain ⟨passed, left, rfl, read⟩ := Spot.read_snd_behind before rest
  have scanned := at'.scan.2
  rw [read] at scanned
  exact ⟨before ++ passed, left, (List.append_assoc _ _ _).symm, scanned⟩

namespace TokenStream

section

variable {ν : Type} {m : Type → Type} [Monad m] [Counter ν m]

/-- Both streams are at one place of a text, and hold the same token. -/
structure Mirrors (stream : TokenStream ν) (exact : TokenStream) : Prop where
  scanner : ∃ spot total, stream.scanner.IsAt spot total ∧ exact.scanner.IsAt spot total
  peeked : stream.peeked = exact.peeked
  finished : stream.finished = exact.finished

def Agrees {α : Type} (result : m (α × TokenStream ν)) (given : α × TokenStream) : Prop :=
  ∃ after, result = pure (given.1, after) ∧ after.Mirrors given.2

variable {stream : TokenStream ν} {exact : TokenStream}

theorem Mirrors.counters (h : stream.Mirrors exact) :
    Counter.toNat stream.offset = exact.offset ∧ Counter.toNat stream.line = exact.line ∧
      stream.scanner.cursor.requests = exact.scanner.cursor.requests := by
  obtain ⟨spot, total, at', exactAt⟩ := h.scanner
  have counted := at'.requests.trans exactAt.requests.symm
  exact ⟨at'.offset.trans exactAt.offset.symm, at'.line.trans exactAt.line.symm,
    Nat.add_right_cancel counted⟩

variable [LawfulMonad m]

theorem mirrors_ofChars {chars : List Char} (fits : (Spot.ofChars chars).Fits ν) :
    ∃ stream : TokenStream ν, (ofCharsM chars : m (TokenStream ν)) = pure stream ∧
      stream.Mirrors (ofChars chars) := by
  obtain ⟨stream, started, held, finished, there⟩ := isAt_ofCharsM fits
  exact ⟨stream, started, ⟨_, _, there, Scanner.isAt_ofChars chars⟩, held, finished⟩

theorem Mirrors.scanM (h : stream.Mirrors exact) :
    ∃ after, stream.scanner.scanM = pure (exact.scanner.scan.1, after) ∧
      ∃ spot total, after.IsAt spot total ∧ exact.scanner.scan.2.IsAt spot total := by
  obtain ⟨spot, total, at', exactAt⟩ := h.scanner
  obtain ⟨after, scanned, moved⟩ := at'.scanM
  obtain ⟨same, exactMoved⟩ := exactAt.scan
  exact ⟨after, by rw [scanned, same], _, _, moved, exactMoved⟩

theorem Mirrors.nextM (h : stream.Mirrors exact) : Agrees stream.nextM exact.next := by
  rw [TokenStream.nextM, next_eq, h.peeked]
  cases held : exact.peeked with
  | some lexeme => exact ⟨_, rfl, h.scanner, rfl, h.finished⟩
  | none =>
      obtain ⟨after, scanned, moved⟩ := h.scanM
      dsimp only
      rw [scanned, pure_bind]
      exact ⟨_, rfl, moved, rfl, h.finished⟩

theorem Mirrors.peekM (h : stream.Mirrors exact) : Agrees stream.peekM exact.peek := by
  rw [TokenStream.peekM, peek_eq, h.peeked]
  cases held : exact.peeked with
  | some lexeme => exact ⟨_, rfl, h⟩
  | none =>
      obtain ⟨after, scanned, moved⟩ := h.scanM
      dsimp only
      rw [scanned, pure_bind]
      cases found : exact.scanner.scan with
      | mk shown exactAfter =>
          rw [found] at moved
          rcases shown with fault | lexeme | ⟨line, offset⟩
          all_goals exact ⟨_, rfl, moved, rfl, h.finished⟩

theorem Mirrors.pullM (h : stream.Mirrors exact) : Agrees stream.pullM exact.pull := by
  rw [TokenStream.pullM, pull_eq, h.finished]
  cases finished : exact.finished with
  | true => exact ⟨_, rfl, h⟩
  | false =>
      obtain ⟨after, given, mirrors⟩ := h.nextM
      simp only [Bool.false_eq_true, if_false, given, pure_bind]
      cases found : exact.next with
      | mk shown exactAfter =>
          rw [found] at mirrors
          rcases shown with fault | lexeme | ⟨line, offset⟩
          · exact ⟨_, rfl, mirrors.scanner, mirrors.peeked, rfl⟩
          · exact ⟨_, rfl, mirrors⟩
          · exact ⟨_, rfl, mirrors.scanner, mirrors.peeked, rfl⟩

theorem Mirrors.answerM (h : stream.Mirrors exact) (request : Request) :
    Agrees (stream.answerM request) (exact.answer request) := by
  rw [answer_eq]
  cases request with
  | peek =>
      obtain ⟨after, shown, mirrors⟩ := h.peekM
      exact ⟨after, by rw [TokenStream.answerM, shown, pure_bind], mirrors⟩
  | next =>
      obtain ⟨after, given, mirrors⟩ := h.nextM
      exact ⟨after, by rw [TokenStream.answerM, given, pure_bind], mirrors⟩
  | pull =>
      obtain ⟨after, given, mirrors⟩ := h.pullM
      exact ⟨after, by rw [TokenStream.answerM, given, pure_bind], mirrors⟩

theorem Mirrors.answersM (h : stream.Mirrors exact) (requests : List Request) :
    Agrees (stream.answersM requests) (exact.answers requests, exact.afterAll requests) := by
  induction requests generalizing stream exact with
  | nil => exact ⟨stream, rfl, h⟩
  | cons request rest ih =>
      obtain ⟨between, first, mirrors⟩ := h.answerM request
      obtain ⟨after, others, mirrors'⟩ := ih mirrors
      refine ⟨after, ?_, mirrors'⟩
      rw [TokenStream.answersM, first, pure_bind, others, pure_bind]
      rfl

end

theorem exists_of_isWithin {stream : TokenStream} {text : String}
    (h : stream.scanner.IsWithin text.toList) :
    ∃ before rest : String, text = before ++ rest ∧
      stream.scanner.cursor.left = rest.toList ∧
      stream.offset = before.utf8ByteSize ∧
      stream.line = 1 + before.toList.count '\n' ∧
      stream.scanner.cursor.requests = before.length + 1 := by
  obtain ⟨before, rest, split, at'⟩ := h
  refine ⟨.ofList before, .ofList rest, ?_, ?_, ?_, ?_, ?_⟩
  · rw [← String.ofList_append, ← split, String.ofList_toList]
  · rw [at'.cursor, Spot.left_cursor, String.toList_ofList]
    rfl
  · rw [← byteLength_toList, String.toList_ofList]
    exact at'.offset
  · rw [String.toList_ofList]
    exact at'.line
  · have counted := at'.requests
    have length := congrArg List.length split
    simp only [Spot.behind, List.length_append] at counted length
    rw [String.length_ofList]
    omega

/-- Between any two requests the offset of a stream is that of the first character that it has not
passed, and the length of the text if it has passed all; its line is one more than the number of
line feeds before that offset; and it has asked for the characters up to that one, at most once more
than there are characters, so not again after it was told that there are no more. If the text has at
most 2^32 - 2 bytes, a stream of checked words comes to the same answers and counters: none of its
computations fails. It does not matter how the stream came by the offsets. -/
theorem counters_exact (text : String) (requests : List Request) :
    (∀ stream, stream = ofString text ∨ stream = ofChars text.toList →
      let after := stream.afterAll requests
      ∃ before rest : String, text = before ++ rest ∧
        after.scanner.cursor.left = rest.toList ∧
        after.offset = before.utf8ByteSize ∧
        after.line = 1 + before.toList.count '\n' ∧
        after.scanner.cursor.requests = before.length + 1 ∧
        after.scanner.cursor.requests ≤ text.length + 1) ∧
    (text.utf8ByteSize ≤ UInt32.size - 2 →
      ∀ start : Option (TokenStream CheckedWord),
        start = ofStringM text ∨ start = ofCharsM text.toList →
        let after := (ofString text).afterAll requests
        ∃ checked : TokenStream CheckedWord,
          start.bind (·.answersM requests) = some ((ofString text).answers requests, checked) ∧
          checked.offset.toNat = after.offset ∧ checked.line.toNat = after.line ∧
          checked.scanner.cursor.requests = after.scanner.cursor.requests) := by
  constructor
  · intro stream built after
    have start : stream.scanner.IsWithin text.toList := by
      have opened := Scanner.isAt_ofChars text.toList
      rcases built with rfl | rfl
      · rw [ofString_eq]
        exact ⟨[], text.toList, rfl, opened⟩
      · exact ⟨[], text.toList, rfl, opened⟩
    have within : after.scanner.IsWithin text.toList :=
      stream.scanner_afterAll (·.IsWithin text.toList) (fun _ h => h.scan) start requests
    obtain ⟨before, rest, rfl, left, offset, line, asked⟩ := exists_of_isWithin within
    refine ⟨before, rest, rfl, left, offset, line, asked, ?_⟩
    rw [asked, String.length_append]
    omega
  · intro bound start built after
    have fits : (Spot.ofChars text.toList).Fits CheckedWord := by
      apply Spot.fits_ofChars fun n => Counter.holds_checkedWord_iff.2
      rw [byteLength_toList]
      have : 2 ≤ UInt32.size := by decide
      omega
    obtain ⟨opened, started, mirrors⟩ := mirrors_ofChars fits
    have same : start = some opened := by
      rcases built with rfl | rfl
      · rw [ofStringM_eq, started]
        rfl
      · exact started
    obtain ⟨checked, answered, mirrors'⟩ := mirrors.answersM requests
    rw [← ofString_eq] at answered mirrors'
    exact ⟨checked, by rw [same]; exact answered, mirrors'.counters⟩

theorem counters_exact_refused :
    let text := "é\n= 007 §"
    let requests : List Request := [.next, .peek, .next, .peek, .pull]
    text.utf8ByteSize ≤ UInt32.size - 2 ∧
      (∃ before rest : String, text = before ++ rest ∧ rest.toList = ['§'] ∧
        before.utf8ByteSize = 9 ∧ 1 + before.toList.count '\n' = 2 ∧ before.length + 1 = 9) ∧
      ∃ checked : TokenStream CheckedWord,
        (ofCharsM text.toList : Option (TokenStream CheckedWord)).bind (·.answersM requests) =
          some ((ofString text).answers requests, checked) ∧
        checked.offset.toNat = 9 ∧ checked.line.toNat = 2 ∧
        checked.scanner.cursor.requests = 9 := by
  intro text requests
  have bound : text.utf8ByteSize ≤ UInt32.size - 2 := by decide +kernel
  obtain ⟨states, words⟩ := counters_exact text requests
  obtain ⟨before, rest, split, left, offset, line, asked, -⟩ := states _ (.inl rfl)
  obtain ⟨checked, given, offset', line', asked'⟩ := words bound _ (.inr rfl)
  have cursor : ((ofString text).afterAll requests).scanner.cursor =
      ⟨some '§', [], 9, 2, 9⟩ := by
    rw [ofString_eq]
    decide +kernel
  simp only [TokenStream.offset, TokenStream.line, cursor] at left offset line asked offset' line' asked'
  exact ⟨bound, ⟨before, rest, split, left.symm, offset.symm, line.symm, asked.symm⟩, checked,
    given, offset', line', asked'⟩

end TokenStream

theorem byteLength_replicate (n : Nat) (ch : Char) :
    byteLength (List.replicate n ch) = n * ch.utf8Size := by
  induction n with
  | zero => simp
  | succ n ih => rw [List.replicate_succ, byteLength_cons, ih, Nat.succ_mul, Nat.add_comm]

namespace Cursor

variable {cursor next : Cursor CheckedWord}

theorem of_advanceM (h : cursor.advanceM = some next) :
    cursor.nextLineM = some next.line ∧ next.current = (cursor.unread.map (·.2)).head? ∧
      next.unread.map (·.2) = (cursor.unread.map (·.2)).tail := by
  obtain ⟨line, feeds, polled⟩ := Option.bind_eq_some_iff.1 h
  cases unread : cursor.unread with
  | nil =>
      rw [unread] at polled
      obtain ⟨offset, -, ends⟩ := Option.bind_eq_some_iff.1 polled
      cases ends
      exact ⟨feeds, rfl, rfl⟩
  | cons given rest =>
      rw [unread] at polled
      obtain ⟨offset, -, ends⟩ := Option.bind_eq_some_iff.1 polled
      cases ends
      exact ⟨feeds, rfl, rfl⟩

theorem of_nextLineM {line : CheckedWord} {ch : Char} (current : cursor.current = some ch)
    (h : cursor.nextLineM = some line) : line.toNat = cursor.line.toNat + lineFeeds [ch] := by
  rw [nextLineM, current] at h
  by_cases feed : ch = '\n'
  · rw [if_pos (congrArg some feed)] at h
    rw [feed]
    exact CheckedWord.toNat_of_ofNat? h
  · rw [if_neg (by simpa using feed)] at h
    cases h
    simp [lineFeeds, feed]

theorem of_advanceByM {passed rest : List Char} (current : cursor.current = (passed ++ rest).head?)
    (unread : cursor.unread.map (·.2) = (passed ++ rest).tail)
    (h : cursor.advanceByM passed.length = some next) :
    next.line.toNat = cursor.line.toNat + lineFeeds passed := by
  induction passed generalizing cursor with
  | nil =>
      cases h
      rfl
  | cons ch passed ih =>
      obtain ⟨mid, advanced, more⟩ := Option.bind_eq_some_iff.1 h
      obtain ⟨feeds, current', unread'⟩ := of_advanceM advanced
      rw [unread] at current' unread'
      rw [ih current' unread' more, of_nextLineM current feeds, lineFeeds_cons ch passed,
        Nat.add_assoc]

end Cursor

/-- A text of line feeds alone can be read with checked words if it has at most two bytes less than
there are words: with one line feed more, the line after all of them is no word. -/
theorem TokenStream.isSome_nextM_lineFeeds (n : Nat) :
    let text := String.ofList (List.replicate n '\n')
    ((ofStringM text : Option (TokenStream CheckedWord)).bind (·.nextM)).isSome = true ↔
      n + 1 < UInt32.size := by
  intro text
  have chars : text.toList = List.replicate n '\n' := String.toList_ofList
  rw [ofStringM_eq, chars]
  constructor
  · intro answered
    obtain ⟨given, read⟩ := Option.isSome_iff_exists.1 answered
    obtain ⟨stream, built, taken⟩ := Option.bind_eq_some_iff.1 read
    obtain ⟨cursor, started, opened⟩ := Option.bind_eq_some_iff.1 built
    cases opened
    obtain ⟨line, current, unread⟩ := Cursor.of_advanceM started
    obtain ⟨scanned, scan, -⟩ := Option.bind_eq_some_iff.1 taken
    obtain ⟨solid, skipped, -⟩ := Option.bind_eq_some_iff.1 scan
    obtain ⟨after, passed, -⟩ := Option.bind_eq_some_iff.1 skipped
    have first : cursor.line.toNat = 1 := by
      rw [← Option.some.inj line]
      rfl
    have blank : isBlank '\n' = true := by decide
    rw [map_snd_offsetsFrom, ← List.append_nil (List.replicate n '\n')] at current unread
    have blanks : cursor.run isBlank = List.replicate n '\n' := by
      rw [Cursor.run_eq current unread, List.append_nil, List.takeWhile_replicate, if_pos blank]
    rw [← blanks] at current unread
    -- the line after the last line feed was computed, so it is a word
    have counted := Cursor.of_advanceByM current unread passed
    have small := after.line.word.toNat_lt_size
    change after.line.toNat < UInt32.size at small
    rw [counted, first, blanks, lineFeeds, List.count_replicate_self] at small
    exact Nat.add_comm 1 n ▸ small
  · intro small
    have fits : (Spot.ofChars (List.replicate n '\n')).Fits CheckedWord := by
      apply Spot.fits_ofChars fun n => Counter.holds_checkedWord_iff.2
      rw [byteLength_replicate, show '\n'.utf8Size = 1 from rfl, Nat.mul_one]
      exact small
    obtain ⟨opened, started, mirrors⟩ := mirrors_ofChars fits
    obtain ⟨after, given, -⟩ := mirrors.nextM
    rw [started]
    exact Option.isSome_iff_exists.2 ⟨_, given⟩

end AssignLang
