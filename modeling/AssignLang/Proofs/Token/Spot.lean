import AssignLang.Proofs.Token.NameTable
import AssignLang.Proofs.Token.Number
import AssignLang.Token.Stream

/-!
# Spots

A spot is a place in a text: the characters from there on, with the byte offset and the line at
which they start. What is read at a spot is a piece of its characters, which does not depend on
where the spot is, put at its place. The scanner reads the same (`Scanner.IsAt.scan`), whatever
names it met before, and the token stream with its held token does too (`TokenStream.IsAt.next`,
`TokenStream.IsAt.peek`). So a spot is all that has to be known of a token stream.
-/

namespace AssignLang

def byteLength : List Char → Nat
  | [] => 0
  | ch :: rest => ch.utf8Size + byteLength rest

def lineFeeds (chars : List Char) : Nat := chars.count '\n'

@[simp]
theorem byteLength_nil : byteLength [] = 0 := rfl

@[simp]
theorem byteLength_cons (ch : Char) (rest : List Char) :
    byteLength (ch :: rest) = ch.utf8Size + byteLength rest := rfl

@[simp]
theorem byteLength_append (front back : List Char) :
    byteLength (front ++ back) = byteLength front + byteLength back := by
  induction front with
  | nil => simp
  | cons ch front ih => simp [ih, Nat.add_assoc]

theorem length_le_byteLength (chars : List Char) : chars.length ≤ byteLength chars := by
  induction chars with
  | nil => exact Nat.le_refl _
  | cons ch rest ih =>
      have := ch.utf8Size_pos
      simp only [List.length_cons, byteLength_cons]
      omega

theorem byteLength_toList (text : String) : byteLength text.toList = text.utf8ByteSize := by
  induction h : text.toList generalizing text with
  | nil => simp [String.toList_eq_nil_iff.1 h]
  | cons ch rest ih =>
      have split : text = String.singleton ch ++ String.ofList rest := by
        apply String.toList_inj.1
        simp [h]
      rw [byteLength_cons, ih (String.ofList rest) String.toList_ofList, split,
        String.utf8ByteSize_append, String.utf8ByteSize_singleton]

@[simp]
theorem lineFeeds_nil : lineFeeds [] = 0 := rfl

theorem lineFeeds_cons (ch : Char) (rest : List Char) :
    lineFeeds (ch :: rest) = lineFeeds [ch] + lineFeeds rest := by
  simp [lineFeeds, List.count_cons, Nat.add_comm]

@[simp]
theorem lineFeeds_append (front back : List Char) :
    lineFeeds (front ++ back) = lineFeeds front + lineFeeds back := by
  simp [lineFeeds]

/-! ## Pieces -/

structure Piece where
  -- the token, or why there is none
  content : Except LexFault.Cause Token
  chars : List Char
  rest : List Char

namespace Piece

def number (chars : List Char) : Piece :=
  let digits := chars.takeWhile Char.isDigit
  let rest := chars.dropWhile Char.isDigit
  ⟨((NumberScan.ofDigits digits).finish rest.head?).map .number, digits, rest⟩

def identifier (chars : List Char) : Piece :=
  let name := chars.takeWhile isNamePart
  ⟨.ok (.identifier (String.ofList name)), name, chars.dropWhile isNamePart⟩

theorem content_number_ne (chars : List Char) (ch : Char) :
    (number chars).content ≠ .error (.unexpectedCharacter ch) := by
  simp only [number, NumberScan.finish]
  repeat' split
  all_goals simp [Except.map]

def shown (piece : Piece) (line : Nat) (span : Span) : Except LexFault Sight :=
  match piece.content with
  | .ok token => .ok (.lexeme ⟨token, line, span⟩)
  | .error cause => .error ⟨cause, line, span⟩

/-- The piece at the start of characters that do not start with a blank. -/
def first? : List Char → Option Piece
  | [] => none
  | ch :: rest =>
    match Token.ofChar? ch with
    | some token => some ⟨.ok token, [ch], rest⟩
    | none =>
      if ch.isDigit then some (number (ch :: rest))
      else if isNameStart ch then some (identifier (ch :: rest))
      else some ⟨.error (.unexpectedCharacter ch), [ch], rest⟩

theorem first?_eq_none {chars : List Char} : first? chars = none ↔ chars = [] := by
  cases chars with
  | nil => simp [first?]
  | cons ch rest =>
      simp only [first?, reduceCtorEq, iff_false]
      repeat' split
      all_goals simp

theorem chars_append_rest {chars : List Char} {piece : Piece} (h : first? chars = some piece) :
    piece.chars ++ piece.rest = chars := by
  cases chars with
  | nil => cases h
  | cons ch rest =>
      simp only [first?] at h
      repeat' split at h
      all_goals cases h
      all_goals simp [number, identifier, List.takeWhile_append_dropWhile]

theorem chars_ne_nil {chars : List Char} {piece : Piece} (h : first? chars = some piece) :
    piece.chars ≠ [] := by
  cases chars with
  | nil => cases h
  | cons ch rest =>
      simp only [first?] at h
      repeat' split at h
      all_goals cases h
      · simp
      · rename_i digit
        simp [number, digit]
      · rename_i start
        simp [identifier, isNamePart_of_isNameStart start]
      · simp

end Piece

/-! ## Reading at a spot -/

structure Spot where
  chars : List Char
  offset : Nat
  line : Nat
deriving DecidableEq

namespace Spot

def ofChars (chars : List Char) : Spot := ⟨chars, 0, 1⟩

def ofString (text : String) : Spot := ofChars text.toList

def move (spot : Spot) (passed left : List Char) : Spot :=
  ⟨left, spot.offset + byteLength passed, spot.line + lineFeeds passed⟩

def skip (spot : Spot) (p : Char → Bool) : Spot :=
  spot.move (spot.chars.takeWhile p) (spot.chars.dropWhile p)

def place (spot : Spot) (piece : Piece) : Except LexFault Sight :=
  piece.shown spot.line ⟨spot.offset, spot.offset + byteLength piece.chars⟩

/-- Where reading goes on after a piece: an unexpected character is not passed. -/
def after (spot : Spot) (piece : Piece) : Spot :=
  match piece.content with
  | .error (.unexpectedCharacter _) => spot
  | _ => spot.move piece.chars piece.rest

def take (spot : Spot) : Except LexFault Sight × Spot :=
  match Piece.first? spot.chars with
  | none => (.ok (.finish spot.line spot.offset), spot)
  | some piece => (spot.place piece, spot.after piece)

def read (spot : Spot) : Except LexFault Sight × Spot := (spot.skip isBlank).take

theorem after_number (spot : Spot) :
    spot.after (.number spot.chars) = spot.skip Char.isDigit := by
  simp only [after, Piece.number]
  split
  · rename_i ch h
    exact absurd h (Piece.content_number_ne _ ch)
  · rfl

theorem move_move (spot : Spot) (first second between left : List Char) :
    (spot.move first between).move second left = spot.move (first ++ second) left := by
  simp [move, Nat.add_assoc]

def last (spot : Spot) : Spot := spot.move spot.chars []

theorem last_move {spot : Spot} {passed left : List Char} (h : passed ++ left = spot.chars) :
    (spot.move passed left).last = spot.last := by
  rw [last, last, move_move, ← h]
  rfl

theorem last_skip (spot : Spot) (p : Char → Bool) : (spot.skip p).last = spot.last :=
  last_move List.takeWhile_append_dropWhile

end Spot

theorem Cursor.run_eq {ν : Type} {cursor : Cursor ν} {chars : List Char}
    (current : cursor.current = chars.head?) (unread : cursor.unread.map (·.2) = chars.tail)
    (p : Char → Bool) : cursor.run p = chars.takeWhile p := by
  cases chars with
  | nil => rw [run, current, List.head?_nil, List.takeWhile_nil]
  | cons ch rest =>
      have same : cursor.unread.map (·.2) = rest := unread
      have after : (cursor.unread.takeWhile fun c => p c.2).map (·.2) = rest.takeWhile p := by
        rw [← same, List.takeWhile_map]
        rfl
      simp [run, current, after, List.takeWhile_cons]

namespace Spot

/-- Offset and line are counted with `ν` up to the end of the text. -/
structure Fits (ν : Type) {m : Type → Type} [Monad m] [Counter ν m] (spot : Spot) : Prop where
  offset : Counter.Holds ν spot.last.offset
  line : Counter.Holds ν spot.last.line

section

variable {ν : Type} {m : Type → Type} [Monad m] [Counter ν m] {spot : Spot}

theorem Fits.move (h : spot.Fits ν) {passed left : List Char} (split : passed ++ left = spot.chars) :
    (spot.move passed left).Fits ν := by
  have same := last_move split
  exact ⟨same ▸ h.offset, same ▸ h.line⟩

theorem Fits.holds_offset (h : spot.Fits ν) {passed left : List Char}
    (split : passed ++ left = spot.chars) :
    Counter.Holds ν (spot.offset + byteLength passed) := by
  refine h.offset.of_le (Nat.add_le_add_left ?_ spot.offset)
  rw [← split, byteLength_append]
  exact Nat.le_add_right _ _

theorem Fits.holds_line (h : spot.Fits ν) {passed left : List Char}
    (split : passed ++ left = spot.chars) : Counter.Holds ν (spot.line + lineFeeds passed) := by
  refine h.line.of_le (Nat.add_le_add_left ?_ spot.line)
  rw [← split, lineFeeds_append]
  exact Nat.le_add_right _ _

/-- The end of a text is counted in words if the text has at least two bytes less than there are
words: the line is counted from one. -/
theorem fits_ofChars {ν : Type} {m : Type → Type} [Monad m] [Counter ν m]
    (words : ∀ n < UInt32.size, Counter.Holds ν n) {chars : List Char}
    (small : byteLength chars + 1 < UInt32.size) : (ofChars chars).Fits ν := by
  have feeds : lineFeeds chars ≤ byteLength chars :=
    Nat.le_trans List.count_le_length (length_le_byteLength chars)
  constructor
  · apply words
    change 0 + byteLength chars < UInt32.size
    omega
  · apply words
    change 1 + lineFeeds chars < UInt32.size
    omega

/-- Counting with `ν` gets past some characters at the spot and past one more, which is looked
at. -/
structure Passes (ν : Type) {m : Type → Type} [Monad m] [Counter ν m] (spot : Spot)
    (passed left : List Char) : Prop where
  split : passed ++ left = spot.chars
  offset : Counter.Reaches ν (spot.offset + byteLength (passed ++ left.take 1))
  line : Counter.Reaches ν (spot.line + lineFeeds passed)

theorem Fits.passes (h : spot.Fits ν) {passed left : List Char}
    (split : passed ++ left = spot.chars) : spot.Passes ν passed left where
  split := split
  offset := by
    have further : (passed ++ left.take 1) ++ left.drop 1 = spot.chars := by
      rw [List.append_assoc, List.take_append_drop, split]
    exact (h.holds_offset further).reaches
  line := (h.holds_line split).reaches

theorem Passes.first {ch : Char} {passed left : List Char} (h : spot.Passes ν (ch :: passed) left) :
    spot.Passes ν [ch] (passed ++ left) where
  split := h.split
  offset := by
    refine Counter.reaches_of_le (Nat.add_le_add_left ?_ spot.offset) h.offset
    cases passed with
    | nil => exact Nat.le_refl _
    | cons next passed => simp
  line := by
    refine Counter.reaches_of_le (Nat.add_le_add_left ?_ spot.line) h.line
    rw [lineFeeds_cons ch passed]
    exact Nat.le_add_right _ _

theorem Passes.rest {ch : Char} {passed left : List Char} (h : spot.Passes ν (ch :: passed) left) :
    (spot.move [ch] (passed ++ left)).Passes ν passed left where
  split := rfl
  offset := by
    have reaches := h.offset
    simpa [Spot.move, Nat.add_assoc] using reaches
  line := by
    have reaches := h.line
    rw [lineFeeds_cons ch passed, ← Nat.add_assoc] at reaches
    exact reaches

def cursor (spot : Spot) (requests : Nat) : Cursor ν :=
  let offset := Counter.ofNat spot.offset
  let line := Counter.ofNat spot.line
  match spot.chars with
  | [] => ⟨none, [], offset, line, requests⟩
  | ch :: rest => ⟨some ch, offsetsFrom (spot.offset + ch.utf8Size) rest, offset, line, requests⟩

variable {requests : Nat}

@[simp]
theorem current_cursor : (spot.cursor requests : Cursor ν).current = spot.chars.head? := by
  unfold cursor
  split <;> simp_all

@[simp]
theorem offset_cursor : (spot.cursor requests : Cursor ν).offset = Counter.ofNat spot.offset := by
  unfold cursor
  split <;> rfl

@[simp]
theorem line_cursor : (spot.cursor requests : Cursor ν).line = Counter.ofNat spot.line := by
  unfold cursor
  split <;> rfl

@[simp]
theorem requests_cursor : (spot.cursor requests : Cursor ν).requests = requests := by
  unfold cursor
  split <;> rfl

theorem run_cursor (p : Char → Bool) :
    (spot.cursor requests : Cursor ν).run p = spot.chars.takeWhile p := by
  refine Cursor.run_eq current_cursor ?_ p
  cases h : spot.chars <;> simp [cursor, h, map_snd_offsetsFrom]

theorem Fits.lineNumber_cursor (h : spot.Fits ν) :
    (spot.cursor requests : Cursor ν).lineNumber = spot.line := by
  rw [Cursor.lineNumber, line_cursor]
  exact h.holds_line (List.nil_append spot.chars)

theorem Fits.toNat_offset (h : spot.Fits ν) :
    Counter.toNat (Counter.ofNat spot.offset : ν) = spot.offset :=
  h.holds_offset (List.nil_append spot.chars)

theorem Fits.spanTo_cursor (h : spot.Fits ν) {passed left : List Char} {requests' : Nat}
    (split : passed ++ left = spot.chars) :
    (spot.cursor requests : Cursor ν).spanTo ((spot.move passed left).cursor requests') =
      ⟨spot.offset, spot.offset + byteLength passed⟩ := by
  rw [Cursor.spanTo, offset_cursor, offset_cursor, h.toNat_offset, (h.move split).toNat_offset]
  rfl

theorem Passes.nextLineM_cursor {ch : Char} {rest : List Char} (h : spot.Passes ν [ch] rest) :
    (spot.cursor requests : Cursor ν).nextLineM =
      pure (Counter.ofNat (spot.line + lineFeeds [ch])) := by
  rw [Cursor.nextLineM, current_cursor, line_cursor, ← h.split]
  by_cases feed : ch = '\n'
  · subst feed
    exact Counter.add_ofNat h.line
  · have none : lineFeeds [ch] = 0 := by simp [lineFeeds, feed]
    rw [none, if_neg (by simpa using feed), Nat.add_zero]

theorem Passes.nextOffsetM_cursor {ch : Char} (h : spot.Passes ν [ch] []) :
    (spot.cursor requests : Cursor ν).nextOffsetM =
      pure (Counter.ofNat (spot.offset + byteLength [ch])) := by
  rw [Cursor.nextOffsetM, current_cursor, offset_cursor, ← h.split]
  exact Counter.add_ofNat h.offset

variable [LawfulMonad m]

theorem Passes.advanceM_cursor {ch : Char} {rest : List Char} (h : spot.Passes ν [ch] rest) :
    (spot.cursor requests : Cursor ν).advanceM =
      pure ((spot.move [ch] rest).cursor (requests + 1)) := by
  have chars := h.split.symm
  rw [Cursor.advanceM, h.nextLineM_cursor, pure_bind]
  cases rest with
  | nil =>
      have unread : (spot.cursor requests : Cursor ν).unread = [] := by
        simp [cursor, chars, offsetsFrom]
      simp only [unread, h.nextOffsetM_cursor, pure_bind, requests_cursor]
      rfl
  | cons next rest =>
      have unread : (spot.cursor requests : Cursor ν).unread =
          offsetsFrom (spot.offset + ch.utf8Size) (next :: rest) := by
        simp [cursor, chars]
      have reaches : Counter.Reaches ν (spot.offset + ch.utf8Size + next.utf8Size) := by
        simpa [Nat.add_assoc] using h.offset
      simp only [unread, offsetsFrom, Counter.arrive_eq reaches, pure_bind, requests_cursor]
      rfl

theorem Passes.advanceByM_cursor {passed left : List Char} (h : spot.Passes ν passed left) :
    (spot.cursor requests : Cursor ν).advanceByM passed.length =
      pure ((spot.move passed left).cursor (requests + passed.length)) := by
  induction passed generalizing spot requests with
  | nil =>
      have stays : spot.move [] left = spot := by
        rw [show left = spot.chars from h.split]
        rfl
      rw [stays]
      rfl
  | cons ch rest ih =>
      rw [List.length_cons, Cursor.advanceByM, h.first.advanceM_cursor, pure_bind, ih h.rest,
        move_move, Nat.add_assoc, Nat.add_comm 1]
      rfl

theorem Passes.skipM_cursor {p : Char → Bool}
    (h : spot.Passes ν (spot.chars.takeWhile p) (spot.chars.dropWhile p)) :
    (spot.cursor requests : Cursor ν).skipM p =
      pure ((spot.skip p).cursor (requests + (spot.chars.takeWhile p).length)) := by
  rw [Cursor.skipM, run_cursor]
  exact h.advanceByM_cursor

theorem Fits.skipM_cursor (h : spot.Fits ν) (p : Char → Bool) :
    (spot.cursor requests : Cursor ν).skipM p =
      pure ((spot.skip p).cursor (requests + (spot.chars.takeWhile p).length)) :=
  (h.passes List.takeWhile_append_dropWhile).skipM_cursor

theorem startM_eq {chars : List Char} (h : (ofChars chars).Passes ν [] chars) :
    (Cursor.startM (offsetsFrom 0 chars) : m (Cursor ν)) = pure ((ofChars chars).cursor 1) := by
  cases chars with
  | nil =>
      simp only [Cursor.startM, Cursor.advanceM, Cursor.nextLineM, Cursor.nextOffsetM, offsetsFrom,
        reduceCtorEq, if_false, pure_bind]
      rfl
  | cons ch rest =>
      have reaches : Counter.Reaches ν (0 + ch.utf8Size) := h.offset
      simp only [Cursor.startM, Cursor.advanceM, Cursor.nextLineM, offsetsFrom, reduceCtorEq,
        if_false, pure_bind, Counter.arrive_eq reaches]
      rfl

end

end Spot

section

variable {ν : Type} {m : Type → Type} [Monad m] [Counter ν m]

/-- The scanner is at a spot of a text of `total` characters: it has asked for the characters
before the spot and for the one at it, and no further. -/
structure Scanner.IsAt (scanner : Scanner ν) (spot : Spot) (total : Nat) : Prop where
  cursor : scanner.cursor = spot.cursor scanner.cursor.requests
  requests : scanner.cursor.requests + spot.chars.length = total + 1
  names : scanner.names.Valid
  fits : spot.Fits ν

def Scanner.Reads (result : m (Except LexFault Sight × Scanner ν))
    (reading : Except LexFault Sight × Spot) (total : Nat) : Prop :=
  ∃ after, result = pure (reading.1, after) ∧ after.IsAt reading.2 total

namespace Scanner

variable {scanner : Scanner ν} {spot : Spot} {total : Nat}

theorem isAt_cursor {requests : Nat} {names : NameTable}
    (counted : requests + spot.chars.length = total + 1) (valid : names.Valid)
    (fits : spot.Fits ν) : IsAt (⟨spot.cursor requests, names⟩ : Scanner ν) spot total :=
  ⟨by simp, by simpa using counted, valid, fits⟩

theorem IsAt.current (h : scanner.IsAt spot total) :
    scanner.cursor.current = spot.chars.head? := by
  rw [h.cursor, Spot.current_cursor]

theorem IsAt.offset (h : scanner.IsAt spot total) :
    Counter.toNat scanner.cursor.offset = spot.offset := by
  rw [h.cursor, Spot.offset_cursor, h.fits.toNat_offset]

theorem IsAt.line (h : scanner.IsAt spot total) : scanner.cursor.lineNumber = spot.line := by
  rw [h.cursor, h.fits.lineNumber_cursor]

theorem IsAt.run (h : scanner.IsAt spot total) (p : Char → Bool) :
    scanner.cursor.run p = spot.chars.takeWhile p := by
  rw [h.cursor, Spot.run_cursor]

theorem IsAt.moved (h : scanner.IsAt spot total) {passed left : List Char}
    (split : passed ++ left = spot.chars) {names : NameTable} (valid : names.Valid) :
    IsAt (⟨(spot.move passed left).cursor (scanner.cursor.requests + passed.length), names⟩ :
      Scanner ν) (spot.move passed left) total := by
  have counted := h.requests
  rw [← split, List.length_append] at counted
  exact isAt_cursor ((Nat.add_assoc _ _ _).trans counted) valid (h.fits.move split)

theorem IsAt.spanTo (h : scanner.IsAt spot total) (requests : Nat) {passed left : List Char}
    (split : passed ++ left = spot.chars) :
    scanner.cursor.spanTo ((spot.move passed left).cursor requests) =
      ⟨spot.offset, spot.offset + byteLength passed⟩ := by
  rw [h.cursor]
  exact h.fits.spanTo_cursor split

variable [LawfulMonad m]

theorem IsAt.advanceM (h : scanner.IsAt spot total) {ch : Char} {rest : List Char}
    (chars : spot.chars = ch :: rest) :
    scanner.cursor.advanceM =
      pure ((spot.move [ch] rest).cursor (scanner.cursor.requests + 1)) := by
  have split : [ch] ++ rest = spot.chars := chars.symm
  conv_lhs => rw [h.cursor]
  exact (h.fits.passes split).advanceM_cursor

theorem IsAt.skipM (h : scanner.IsAt spot total) (p : Char → Bool) :
    scanner.cursor.skipM p = pure ((spot.skip p).cursor
      (scanner.cursor.requests + (spot.chars.takeWhile p).length)) := by
  conv_lhs => rw [h.cursor]
  exact h.fits.skipM_cursor p

theorem IsAt.singleM (h : scanner.IsAt spot total) {ch : Char} {rest : List Char}
    (chars : spot.chars = ch :: rest) (token : Token) :
    Reads (scanner.singleM token)
      (spot.place ⟨.ok token, [ch], rest⟩, spot.after ⟨.ok token, [ch], rest⟩) total := by
  have split : [ch] ++ rest = spot.chars := chars.symm
  have span := h.spanTo (scanner.cursor.requests + 1) split
  refine ⟨_, ?_, h.moved split h.names⟩
  rw [Scanner.singleM, h.advanceM chars, pure_bind, span, h.line]
  rfl

theorem numberM_cursor (requests : Nat) (names : NameTable)
    (passes : spot.Passes ν (spot.chars.takeWhile Char.isDigit) (spot.chars.dropWhile Char.isDigit))
    (holds : Counter.Holds ν (spot.chars.takeWhile Char.isDigit).length) :
    let before : Cursor ν := spot.cursor requests
    let after : Cursor ν := (spot.skip Char.isDigit).cursor
      (requests + (spot.chars.takeWhile Char.isDigit).length)
    numberM ⟨before, names⟩ =
      pure ((Piece.number spot.chars).shown before.lineNumber (before.spanTo after),
        ⟨after, names⟩) := by
  intro before after
  rw [Scanner.numberM, Spot.run_cursor, NumberScan.ofDigitsM_eq holds, pure_bind,
    passes.skipM_cursor, pure_bind, Spot.current_cursor]
  simp only [NumberScan.finish_counted, Piece.shown, Piece.number, Spot.skip, Spot.move]
  cases (NumberScan.ofDigits (spot.chars.takeWhile Char.isDigit)).finish
    (spot.chars.dropWhile Char.isDigit).head? <;> rfl

theorem IsAt.numberM (h : scanner.IsAt spot total) :
    Reads scanner.numberM
      (spot.place (.number spot.chars), spot.after (.number spot.chars)) total := by
  let digits := spot.chars.takeWhile Char.isDigit
  have split : digits ++ spot.chars.dropWhile Char.isDigit = spot.chars :=
    List.takeWhile_append_dropWhile
  have holds : Counter.Holds ν digits.length := by
    refine (h.fits.holds_offset split).of_le ?_
    exact Nat.le_trans (length_le_byteLength digits) (Nat.le_add_left _ _)
  have span := h.spanTo (scanner.cursor.requests + digits.length) split
  have read := numberM_cursor scanner.cursor.requests scanner.names
    (h.fits.passes split) holds
  rw [← h.cursor] at read
  rw [Spot.after_number]
  refine ⟨_, ?_, h.moved split h.names⟩
  rw [read, Spot.skip, span, h.line]
  rfl

theorem IsAt.identifierM (h : scanner.IsAt spot total) :
    Reads scanner.identifierM
      (spot.place (.identifier spot.chars), spot.after (.identifier spot.chars)) total := by
  let name := spot.chars.takeWhile isNamePart
  have split : name ++ spot.chars.dropWhile isNamePart = spot.chars :=
    List.takeWhile_append_dropWhile
  have span := h.spanTo (scanner.cursor.requests + name.length) split
  refine ⟨_, ?_, h.moved split (NameTable.valid_intern h.names (String.ofList name))⟩
  rw [Scanner.identifierM, h.skipM, pure_bind, Spot.skip, span, h.line, h.run]
  simp only [NameTable.intern_name h.names]
  rfl

theorem IsAt.refuseM (h : scanner.IsAt spot total) {ch : Char} {rest : List Char}
    (chars : spot.chars = ch :: rest) :
    Reads (scanner.refuseM ch)
      (spot.place ⟨.error (.unexpectedCharacter ch), [ch], rest⟩,
        spot.after ⟨.error (.unexpectedCharacter ch), [ch], rest⟩) total := by
  have split : [ch] ++ rest = spot.chars := chars.symm
  have holds : Counter.Holds ν (spot.offset + ch.utf8Size) := h.fits.holds_offset split
  have stop : Counter.add scanner.cursor.offset (Counter.ofNat ch.utf8Size) =
      pure (Counter.ofNat (spot.offset + ch.utf8Size) : ν) := by
    rw [h.cursor, Spot.offset_cursor]
    exact Counter.add_ofNat holds.reaches
  have stopped : Counter.toNat (Counter.ofNat (spot.offset + ch.utf8Size) : ν) = _ := holds
  refine ⟨scanner, ?_, h⟩
  rw [Scanner.refuseM, stop, pure_bind, h.offset, h.line, stopped]
  rfl

theorem IsAt.takeM (h : scanner.IsAt spot total) : Reads scanner.takeM spot.take total := by
  cases chars : spot.chars with
  | nil =>
      have current : scanner.cursor.current = none := by rw [h.current, chars]; rfl
      refine ⟨scanner, ?_, by simpa only [Spot.take, Piece.first?, chars] using h⟩
      simp only [Scanner.takeM, Spot.take, Piece.first?, chars, current, h.line, h.offset]
  | cons ch rest =>
      have current : scanner.cursor.current = some ch := by rw [h.current, chars]; rfl
      simp only [Scanner.takeM, Spot.take, Piece.first?, chars, current]
      rw [← chars]
      cases Token.ofChar? ch with
      | some token => exact h.singleM chars token
      | none =>
          by_cases digit : ch.isDigit = true
          · simpa [digit] using h.numberM
          · by_cases start : isNameStart ch = true
            · simpa [digit, start] using h.identifierM
            · simpa [digit, start] using h.refuseM chars

theorem IsAt.scanM (h : scanner.IsAt spot total) : Reads scanner.scanM spot.read total := by
  have there := h.moved (List.takeWhile_append_dropWhile (p := isBlank)) h.names
  rw [Scanner.scanM, Scanner.skipBlanksM, h.skipM, pure_bind, pure_bind]
  exact there.takeM

end Scanner

end

namespace Scanner

theorem isAt_ofChars (chars : List Char) :
    IsAt ⟨.ofChars chars, .empty⟩ (.ofChars chars) chars.length := by
  have fits : (Spot.ofChars chars).Fits Nat := ⟨rfl, rfl⟩
  rw [Cursor.ofChars, Cursor.start, Spot.startM_eq (fits.passes (List.nil_append chars))]
  exact isAt_cursor (Nat.add_comm _ _) NameTable.valid_empty fits

theorem IsAt.scan {ν : Type} [Counter ν Id] {scanner : Scanner ν} {spot : Spot} {total : Nat}
    (h : scanner.IsAt spot total) :
    scanner.scan.1 = spot.read.1 ∧ scanner.scan.2.IsAt spot.read.2 total := by
  obtain ⟨after, scanned, at'⟩ := h.scanM
  have same : scanner.scan = (spot.read.1, after) := congrArg Id.run scanned
  rw [same]
  exact ⟨rfl, at'⟩

end Scanner

end AssignLang
