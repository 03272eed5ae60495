import AssignLang.Proofs.Token.Recognition

namespace AssignLang

section

variable {digits : List Char} (all : ∀ ch ∈ digits, ch.isDigit = true)

include all

theorem byteLength_of_isDigit : byteLength digits = digits.length := by
  induction digits with
  | nil => rfl
  | cons ch rest ih =>
      rw [List.forall_mem_cons] at all
      have ascii : ch.toNat ≤ 57 := (Char.isDigit_iff_toNat.1 all.1).2
      have one : ch.utf8Size = 1 := Char.utf8Size_eq_one_iff.2 (by
        rw [UInt32.le_iff_toNat_le]
        exact Nat.le_trans ascii (by decide))
      rw [byteLength_cons, ih all.2, one, List.length_cons, Nat.add_comm]

theorem lineFeeds_of_isDigit : lineFeeds digits = 0 := by
  rw [lineFeeds, List.count_eq_zero]
  intro feed
  exact absurd (all _ feed) (by decide)

theorem zerosFollowed_iff :
    ['0', '0'] <+: digits ∧ decimal digits ≠ 0 ↔
      ∃ rest, digits = '0' :: '0' :: rest ∧ ∃ ch ∈ rest, ch ≠ '0' := by
  have other : decimal digits ≠ 0 ↔ ∃ ch ∈ digits, ch ≠ '0' := by
    simp [decimal_eq_zero all]
  rw [other]
  constructor
  · rintro ⟨⟨rest, rfl⟩, ch, member, different⟩
    exact ⟨rest, rfl, ch, by simpa [different] using member, different⟩
  · rintro ⟨rest, rfl, ch, member, different⟩
    exact ⟨⟨rest, rfl⟩, ch, by simp [member], different⟩

end

theorem endsZero_eq_false_iff {after : Option Char} :
    endsZero after = false ↔
      ∃ ch, after = some ch ∧ ch ∉ [' ', '\t', '\n', ';', '+', '-', '*', ')'] := by
  cases after with
  | none => simp [endsZero]
  | some ch => simp [endsZero, and_assoc]

/-- What a run of digits is. It is too large a number if its decimal value is out of range; else it
is malformed if at least two zeros start it and another digit follows them, or if it is zero and the
character after it does not end a zero; else it is its decimal value. -/
theorem Piece.shown_number {digits after : List Char} (run : LongestRun Char.isDigit digits after)
    (line : Nat) (span : Span) :
    let shown := (number (digits ++ after)).shown line span
    let malformed : Prop :=
      (∃ rest, digits = '0' :: '0' :: rest ∧ ∃ ch ∈ rest, ch ≠ '0') ∨
        (decimal digits = 0 ∧
          ∃ ch, after.head? = some ch ∧ ch ∉ [' ', '\t', '\n', ';', '+', '-', '*', ')'])
    (shown = .error ⟨.numberTooLarge, line, span⟩ ↔ Value.highest < decimal digits) ∧
    (shown = .error ⟨.invalidNumberFormat, line, span⟩ ↔
      decimal digits ≤ Value.highest ∧ malformed) ∧
    ∀ value : Value, shown = .ok (.lexeme ⟨.number value, line, span⟩) ↔
      value.toInt = decimal digits ∧ ¬ malformed := by
  intro shown malformed
  have judged : BadZeros digits after.head? ↔ malformed :=
    or_congr (zerosFollowed_iff run.inside) (and_congr_right fun _ => endsZero_eq_false_iff)
  have content : (number (digits ++ after)).content =
      ((NumberScan.ofDigits digits).finish after.head?).map .number := by
    rw [number, run.takeWhile_eq, run.dropWhile_eq]
  rw [← judged]
  simp only [shown, Piece.shown, content]
  rcases NumberScan.finish_ofDigits run.inside after.head? with
    ⟨large, ends⟩ | ⟨small, zeros, ends⟩ | ⟨found, same, zeros, ends⟩
  · rw [ends]
    have beyond : ¬ decimal digits ≤ Value.highest := Int.not_le.2 large
    refine ⟨⟨fun _ => large, fun _ => rfl⟩, ⟨by rintro ⟨⟩, ?_⟩, fun value => ⟨by rintro ⟨⟩, ?_⟩⟩
    · rintro ⟨small, -⟩
      exact absurd small beyond
    · rintro ⟨same, -⟩
      exact absurd (same ▸ value.bounds.2) beyond
  · rw [ends]
    refine ⟨⟨by rintro ⟨⟩, fun large => ?_⟩, ⟨fun _ => ⟨small, zeros⟩, fun _ => rfl⟩,
      fun value => ⟨by rintro ⟨⟩, ?_⟩⟩
    · exact absurd large (Int.not_lt.2 small)
    · rintro ⟨-, good⟩
      exact absurd zeros good
  · rw [ends]
    refine ⟨⟨by rintro ⟨⟩, fun large => ?_⟩, ⟨by rintro ⟨⟩, ?_⟩, fun value => ⟨?_, ?_⟩⟩
    · exact absurd large (Int.not_lt.2 (same ▸ found.bounds.2))
    · rintro ⟨-, bad⟩
      exact absurd bad zeros
    · intro read
      cases read
      exact ⟨same, zeros⟩
    · rintro ⟨same', -⟩
      rw [Value.ext (same'.trans same.symm)]
      rfl

namespace NumberScan

theorem ofDigitsM_zeros {ν : Type} {m : Type → Type} [Monad m] [Counter ν m] [LawfulMonad m] {n : Nat}
    (reaches : Counter.Reaches ν n) :
    (ofDigitsM (List.replicate n '0') : m (NumberScan ν)) =
      pure ⟨some .zero, Counter.ofNat n, false⟩ := by
  induction n with
  | zero => rfl
  | succ n ih =>
      have zero : appendDigit .zero 0 = some .zero := by decide
      rw [List.replicate_succ', ofDigitsM_concat, ih (Counter.reaches_of_le (Nat.le_succ n) reaches),
        pure_bind]
      simp [pushM, Counter.add_ofNat reaches, digitValue, zero]

theorem isSome_ofDigitsM_iff (digits : List Char) :
    (ofDigitsM digits : Option (NumberScan CheckedWord)).isSome = true ↔
      digits.length < UInt32.size := by
  constructor
  · intro counted
    induction digits using List.reverseRecOn with
    | nil => decide
    | append_singleton digits ch ih =>
        obtain ⟨scan, same⟩ := Option.isSome_iff_exists.1 counted
        rw [ofDigitsM_concat] at same
        obtain ⟨before, first, push⟩ := Option.bind_eq_some_iff.1 same
        have shorter := ih (Option.isSome_iff_exists.2 ⟨_, first⟩)
        have known := ofDigitsM_eq (Counter.holds_checkedWord_iff.2 shorter)
        obtain rfl : (ofDigits digits).counted = before := Option.some.inj (known.symm.trans first)
        obtain ⟨count, more, -⟩ := Option.bind_eq_some_iff.1 push
        have last : CheckedWord.toNat (.ofNat (ofDigits digits).digits) = digits.length := by
          rw [digits_ofDigits]
          exact CheckedWord.toNat_ofNat_iff.2 shorter
        have next : count.toNat = digits.length + 1 := by
          rw [← last]
          exact CheckedWord.toNat_of_ofNat? more
        rw [List.length_append, List.length_singleton, ← next]
        exact count.word.toNat_lt_size
  · intro short
    rw [ofDigitsM_eq (Counter.holds_checkedWord_iff.2 short)]
    rfl

end NumberScan

namespace Scanner

variable {spot : Spot} {digits after : List Char}

theorem numberM_run {ν : Type} {m : Type → Type} [Monad m] [Counter ν m] [LawfulMonad m]
    (names : NameTable) (requests : Nat) (passes : spot.Passes ν digits after)
    (run : LongestRun Char.isDigit digits after) (holds : Counter.Holds ν digits.length) :
    let stop : Spot := ⟨after, spot.offset + digits.length, spot.line⟩
    numberM (⟨spot.cursor requests, names⟩ : Scanner ν) =
      pure ((Piece.number (digits ++ after)).shown (Counter.toNat (Counter.ofNat spot.line : ν))
          ⟨Counter.toNat (Counter.ofNat spot.offset : ν),
            Counter.toNat (Counter.ofNat (spot.offset + digits.length) : ν)⟩,
        ⟨stop.cursor (requests + digits.length), names⟩) := by
  intro stop
  have taken : spot.chars.takeWhile Char.isDigit = digits := by
    rw [← passes.split, run.takeWhile_eq]
  have dropped : spot.chars.dropWhile Char.isDigit = after := by
    rw [← passes.split, run.dropWhile_eq]
  have skipped : spot.skip Char.isDigit = stop := by
    rw [Spot.skip, Spot.move, taken, dropped, byteLength_of_isDigit run.inside,
      lineFeeds_of_isDigit run.inside, Nat.add_zero]
  have counts : Counter.Holds ν (spot.chars.takeWhile Char.isDigit).length := by rwa [taken]
  have read := numberM_cursor requests names (by rwa [taken, dropped]) counts
  dsimp only at read
  rw [taken, skipped] at read
  rw [read, passes.split]
  simp only [Cursor.lineNumber, Cursor.spanTo, Spot.line_cursor, Spot.offset_cursor, stop]

/-- The scanner is at some spot. Every scanner that starts with a text and goes on scanning is. -/
def Stands (scanner : Scanner UInt32) : Prop :=
  ∃ (spot : Spot) (requests : Nat), scanner.cursor = spot.cursor requests

theorem stands_start (chars : List Char) : Stands ⟨.start (offsetsFrom 0 chars), .empty⟩ :=
  ⟨.ofChars chars, 1, congrArg Id.run (Spot.startM_eq ⟨rfl, trivial, trivial⟩)⟩

theorem Stands.skip {scanner : Scanner UInt32} (h : scanner.Stands) (p : Char → Bool)
    (names : NameTable) : Stands ⟨scanner.cursor.skip p, names⟩ := by
  obtain ⟨spot, requests, at'⟩ := h
  have passes : spot.Passes UInt32 (spot.chars.takeWhile p) (spot.chars.dropWhile p) :=
    ⟨List.takeWhile_append_dropWhile, trivial, trivial⟩
  refine ⟨spot.skip p, requests + (spot.chars.takeWhile p).length, ?_⟩
  rw [at']
  exact congrArg Id.run passes.skipM_cursor

theorem Stands.take {scanner : Scanner UInt32} (h : scanner.Stands) : scanner.take.2.Stands := by
  rw [take_eq]
  split
  · exact h
  · rename_i ch found
    split
    · obtain ⟨spot, requests, at'⟩ := h
      rw [at', Spot.current_cursor] at found
      obtain ⟨rest, chars⟩ := List.head?_eq_some_iff.1 found
      have passes : spot.Passes UInt32 [ch] rest := ⟨chars.symm, trivial, trivial⟩
      refine ⟨spot.move [ch] rest, requests + 1, ?_⟩
      change scanner.cursor.advance = _
      rw [at']
      exact congrArg Id.run passes.advanceM_cursor
    · split
      · exact h.skip _ _
      · split
        · exact h.skip _ _
        · exact h

theorem Stands.scan {scanner : Scanner UInt32} (h : scanner.Stands) : scanner.scan.2.Stands :=
  (h.skip isBlank scanner.names).take

/-- What a scanner that counts with words, at any spot of a text (`Scanner.Stands`), makes of a run
of fewer digits than there are words. The run is too large a number, malformed, or its decimal
value, as `Piece.shown_number` tells. In every case the scanner takes the run and nothing else, and
the run is the span, as words tell offsets and lines. With checked words the outcome is the same,
unless the run or the character after it goes beyond the last word. -/
theorem number_rule (names : NameTable) (requests : Nat) (split : digits ++ after = spot.chars)
    (run : LongestRun Char.isDigit digits after) (short : digits.length < UInt32.size) :
    let scanner : Scanner UInt32 := ⟨spot.cursor requests, names⟩
    let line := spot.line % UInt32.size
    let span : Span := ⟨spot.offset % UInt32.size, (spot.offset + digits.length) % UInt32.size⟩
    let stop : Spot := ⟨after, spot.offset + digits.length, spot.line⟩
    let malformed : Prop :=
      (∃ rest, digits = '0' :: '0' :: rest ∧ ∃ ch ∈ rest, ch ≠ '0') ∨
        (decimal digits = 0 ∧
          ∃ ch, after.head? = some ch ∧ ch ∉ [' ', '\t', '\n', ';', '+', '-', '*', ')'])
    (scanner.number.1 = .error ⟨.numberTooLarge, line, span⟩ ↔
      Value.highest < decimal digits) ∧
    (scanner.number.1 = .error ⟨.invalidNumberFormat, line, span⟩ ↔
      decimal digits ≤ Value.highest ∧ malformed) ∧
    (∀ value : Value, scanner.number.1 = .ok (.lexeme ⟨.number value, line, span⟩) ↔
      value.toInt = decimal digits ∧ ¬ malformed) ∧
    scanner.number.2 = ⟨stop.cursor (requests + digits.length), names⟩ ∧
    (spot.line < UInt32.size → spot.offset + byteLength (digits ++ after.take 1) < UInt32.size →
      numberM (⟨spot.cursor requests, names⟩ : Scanner CheckedWord) =
        some (scanner.number.1, ⟨stop.cursor (requests + digits.length), names⟩)) := by
  intro scanner line span stop malformed
  have passes : spot.Passes UInt32 digits after := ⟨split, trivial, trivial⟩
  have read : scanner.number = ((Piece.number (digits ++ after)).shown line span,
      ⟨stop.cursor (requests + digits.length), names⟩) :=
    congrArg Id.run (numberM_run names requests passes run (Counter.holds_word_iff.2 short))
  obtain ⟨large, bad, good⟩ := Piece.shown_number run line span
  rw [read]
  refine ⟨large, bad, good, rfl, fun inLine inText => ?_⟩
  have passesChecked : spot.Passes CheckedWord digits after := by
    refine ⟨split, inText, ?_⟩
    rwa [lineFeeds_of_isDigit run.inside, Nat.add_zero]
  have inRun : spot.offset + digits.length < UInt32.size := by
    rw [byteLength_append, byteLength_of_isDigit run.inside] at inText
    omega
  have tells {n : Nat} (inWords : n < UInt32.size) :
      Counter.toNat (Counter.ofNat n : CheckedWord) = n % UInt32.size := by
    rw [Nat.mod_eq_of_lt inWords]
    exact Counter.holds_checkedWord_iff.2 inWords
  have read := numberM_run names requests passesChecked run (Counter.holds_checkedWord_iff.2 short)
  rw [tells inLine, tells (Nat.lt_of_le_of_lt (Nat.le_add_right _ _) inRun), tells inRun] at read
  exact read

theorem numberM_checked_eq_none (names : NameTable) (requests : Nat)
    (split : digits ++ after = spot.chars) (run : LongestRun Char.isDigit digits after)
    (long : UInt32.size ≤ digits.length) :
    numberM (⟨spot.cursor requests, names⟩ : Scanner CheckedWord) = none := by
  have uncounted : (NumberScan.ofDigitsM digits : Option (NumberScan CheckedWord)) = none := by
    rw [← Option.not_isSome_iff_eq_none, NumberScan.isSome_ofDigitsM_iff]
    exact Nat.not_lt.2 long
  rw [numberM, Spot.run_cursor, ← split, run.takeWhile_eq, uncounted]
  rfl

section

variable (n : Nat)

def zerosSeven : List Char := List.replicate n '0' ++ ['7']

theorem zerosSeven_longestRun : LongestRun Char.isDigit (zerosSeven n) [';'] := by
  refine ⟨?_, by simp⟩
  rw [zerosSeven, List.forall_mem_append, List.forall_mem_singleton]
  refine ⟨fun ch zero => ?_, by decide⟩
  rw [List.eq_of_mem_replicate zero]
  decide

theorem length_zerosSeven : (zerosSeven n).length = n + 1 := by
  rw [zerosSeven, List.length_append, List.length_replicate, List.length_singleton]

theorem decimal_zerosSeven : decimal (zerosSeven n) = 7 := by
  have digits := (zerosSeven_longestRun n).inside
  have zeros : decimal (List.replicate n '0') = 0 :=
    (decimal_eq_zero fun ch zero => digits ch (List.mem_append_left _ zero)).2
      fun ch zero => List.eq_of_mem_replicate zero
  rw [zerosSeven, decimal_concat, zeros]
  rfl

theorem zerosSeven_succ : zerosSeven (n + 1) = '0' :: zerosSeven n := by
  rw [zerosSeven, List.replicate_succ]
  rfl

theorem zerosSeven_add_two :
    ∃ rest, zerosSeven (n + 2) = '0' :: '0' :: rest ∧ ∃ ch ∈ rest, ch ≠ '0' :=
  ⟨zerosSeven n, by rw [zerosSeven_succ, zerosSeven_succ], '7', by simp [zerosSeven], by decide⟩

theorem number_zerosSeven (uncounted : UInt32.ofNat n = 0) :
    let scanner : Scanner UInt32 := ⟨.start (offsetsFrom 0 (zerosSeven n ++ [';'])), .empty⟩
    scanner.number.1 = .ok (.lexeme ⟨.number ⟨7, by decide⟩, 1, ⟨0, 1⟩⟩) := by
  intro scanner
  let spot : Spot := .ofChars (zerosSeven n ++ [';'])
  have run := zerosSeven_longestRun n
  have taken : spot.chars.takeWhile Char.isDigit = zerosSeven n := run.takeWhile_eq
  have dropped : spot.chars.dropWhile Char.isDigit = [';'] := run.dropWhile_eq
  have started : scanner.cursor = spot.cursor 1 :=
    congrArg Id.run (Spot.startM_eq ⟨rfl, trivial, trivial⟩)
  have moved : (spot.cursor 1 : Cursor UInt32).skip Char.isDigit =
      (spot.skip Char.isDigit).cursor (1 + (spot.chars.takeWhile Char.isDigit).length) :=
    congrArg Id.run
      (Spot.Passes.skipM_cursor ⟨List.takeWhile_append_dropWhile, trivial, trivial⟩)
  have scanned : Id.run (NumberScan.ofDigitsM (zerosSeven n)) =
      (⟨some ⟨7, by decide⟩, 1, false⟩ : NumberScan UInt32) := by
    rw [zerosSeven, NumberScan.ofDigitsM_concat, NumberScan.ofDigitsM_zeros trivial]
    change Id.run (NumberScan.pushM ⟨_, UInt32.ofNat n, _⟩ _) = _
    rw [uncounted]
    rfl
  have stop : Counter.toNat (Counter.ofNat (spot.offset + byteLength (zerosSeven n)) : UInt32) = 1 := by
    rw [byteLength_of_isDigit run.inside, length_zerosSeven]
    change (UInt32.ofNat (0 + (n + 1))).toNat = 1
    rw [Nat.zero_add, UInt32.ofNat_add, uncounted]
    rfl
  rw [number_eq, started]
  simp only [Spot.run_cursor, taken, scanned, moved, Spot.current_cursor, Spot.skip, dropped,
    Cursor.spanTo, Cursor.lineNumber, Spot.line_cursor, Spot.offset_cursor, Spot.move, stop]
  rfl

theorem checked_zerosSeven (long : UInt32.size ≤ n) :
    (Cursor.startM (offsetsFrom 0 (zerosSeven n ++ [';'])) >>= fun cursor : Cursor CheckedWord =>
      numberM ⟨cursor, .empty⟩) = none := by
  obtain ⟨rest, rfl⟩ : ∃ rest, n = rest + 1 := Nat.exists_eq_succ_of_ne_zero (by
    rintro rfl
    exact absurd long (by decide))
  have first : 0 + byteLength ['0'] < UInt32.size := by decide
  have line : 1 + lineFeeds [] < UInt32.size := by decide
  have started : (Cursor.startM (offsetsFrom 0 (zerosSeven (rest + 1) ++ [';'])) :
      Option (Cursor CheckedWord)) = _ :=
    Spot.startM_eq ⟨rfl, by rwa [zerosSeven_succ], line⟩
  rw [started]
  refine numberM_checked_eq_none .empty 1 rfl (zerosSeven_longestRun _) ?_
  rw [length_zerosSeven]
  exact Nat.le_succ_of_le long

end

/-- As many zeros as there are words are counted as none, so that a seven after them is a number. -/
theorem number_rule_wraps :
    let digits := zerosSeven UInt32.size
    let chars := offsetsFrom 0 (digits ++ [';'])
    let scanner : Scanner UInt32 := ⟨.start chars, .empty⟩
    LongestRun Char.isDigit digits [';'] ∧ decimal digits ≤ Value.highest ∧
    (∃ rest, digits = '0' :: '0' :: rest ∧ ∃ ch ∈ rest, ch ≠ '0') ∧
    scanner.number.1 = .ok (.lexeme ⟨.number ⟨7, by decide⟩, 1, ⟨0, 1⟩⟩) ∧
    (Cursor.startM chars >>= fun cursor : Cursor CheckedWord => numberM ⟨cursor, .empty⟩) = none := by
  have small : (decimal (zerosSeven UInt32.size) : Int) ≤ Value.highest := by
    rw [decimal_zerosSeven]
    decide
  exact ⟨zerosSeven_longestRun _, small, zerosSeven_add_two (UInt32.size - 2),
    number_zerosSeven _ rfl, checked_zerosSeven _ (Nat.le_refl _)⟩

theorem number_rule_zeros_too_large :
    let digits := "009223372036854775808".toList
    let spot : Spot := .ofChars (digits ++ ['x'])
    let scanner : Scanner UInt32 := ⟨spot.cursor 1, .empty⟩
    LongestRun Char.isDigit digits ['x'] ∧ digits.length < UInt32.size ∧
      scanner.number.1 = .error ⟨.numberTooLarge, 1, ⟨0, 21⟩⟩ := by
  intro digits spot scanner
  have inside : digits.all Char.isDigit = true := by decide +kernel
  have run : LongestRun Char.isDigit digits ['x'] := by
    refine ⟨List.all_eq_true.1 inside, ?_⟩
    rintro ch ⟨⟩
    decide
  have short : digits.length < UInt32.size := by decide +kernel
  have split : digits ++ ['x'] = spot.chars := rfl
  exact ⟨run, short, (number_rule .empty 1 split run short).1.2 (by decide +kernel)⟩

end Scanner

end AssignLang
