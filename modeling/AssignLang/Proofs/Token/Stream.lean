import AssignLang.Proofs.Token.Spot
import AssignLang.Token.Tape

namespace AssignLang

namespace Spot

theorem take_lexeme {spot after : Spot} {lexeme : Lexeme}
    (h : spot.take = (.ok (.lexeme lexeme), after)) :
    ∃ piece token, Piece.first? spot.chars = some piece ∧ piece.content = .ok token ∧
      lexeme = ⟨token, spot.line, ⟨spot.offset, spot.offset + byteLength piece.chars⟩⟩ ∧
      after = spot.move piece.chars piece.rest := by
  unfold take at h
  split at h
  · cases h
  · rename_i piece found
    cases content : piece.content with
    | ok token =>
        simp only [place, Piece.shown, Spot.after, content, Prod.mk.injEq, Except.ok.injEq,
          Sight.lexeme.injEq] at h
        exact ⟨piece, token, found, content, h.1.symm, h.2.symm⟩
    | error cause =>
        simp only [place, Piece.shown, content, Prod.mk.injEq, reduceCtorEq, false_and] at h

theorem take_finish {spot after : Spot} {line offset : Nat}
    (h : spot.take = (.ok (.finish line offset), after)) :
    spot.chars = [] ∧ line = spot.line ∧ offset = spot.offset ∧ after = spot := by
  unfold take at h
  split at h
  · rename_i found
    cases h
    exact ⟨Piece.first?_eq_none.1 found, rfl, rfl, rfl⟩
  · rename_i piece found
    cases content : piece.content <;>
      simp only [place, Piece.shown, content, Prod.mk.injEq, Except.ok.injEq, reduceCtorEq, false_and] at h

theorem length_skip_le (spot : Spot) (p : Char → Bool) :
    (spot.skip p).chars.length ≤ spot.chars.length :=
  (List.dropWhile_suffix p).length_le

theorem length_take_le (spot : Spot) : spot.take.2.chars.length ≤ spot.chars.length := by
  unfold take
  split
  · exact Nat.le_refl _
  · rename_i piece found
    have length := congrArg List.length (Piece.chars_append_rest found)
    rw [List.length_append] at length
    unfold after
    split
    · exact Nat.le_refl _
    · simp only [move]
      omega

theorem length_read_lt {spot after : Spot} {lexeme : Lexeme}
    (h : spot.read = (.ok (.lexeme lexeme), after)) :
    after.chars.length < spot.chars.length := by
  obtain ⟨piece, token, found, -, -, rfl⟩ := take_lexeme h
  have length := congrArg List.length (Piece.chars_append_rest found)
  have some := List.length_pos_iff.2 (Piece.chars_ne_nil found)
  have skipped := length_skip_le spot isBlank
  simp only [move, List.length_append] at length ⊢
  omega

def peek (spot : Spot) : Except LexFault Sight × Spot :=
  match spot.read with
  | (.ok (.lexeme lexeme), _) => (.ok (.lexeme lexeme), spot)
  | reading => reading

theorem peek_fst (spot : Spot) : spot.peek.1 = spot.read.1 := by
  unfold peek
  split <;> simp_all

theorem peek_lexeme {spot : Spot} {lexeme : Lexeme} (h : spot.peek.1 = .ok (.lexeme lexeme)) :
    spot.peek.2 = spot := by
  rw [peek_fst] at h
  unfold peek
  split
  · rfl
  · rename_i other
    exact absurd (Prod.ext h rfl : spot.read = (_, spot.read.2)) (other lexeme _)

theorem length_peek_le (spot : Spot) : spot.peek.2.chars.length ≤ spot.chars.length := by
  unfold peek
  split
  · exact Nat.le_refl _
  · exact Nat.le_trans (length_take_le _) (length_skip_le spot isBlank)

instance : TokenSource Spot where
  next := read
  peek := peek
  size := fun spot => spot.chars.length
  size_next := fun h => length_read_lt (Prod.ext h rfl)
  size_peek := length_peek_le
  next_peek := fun h => by rwa [peek_lexeme h, ← peek_fst]

end Spot

/-- The stream gives what is read at a spot: it holds nothing and its scanner is there, or it holds
the token at the spot and its scanner is after that. -/
inductive TokenStream.IsAt {ν : Type} {m : Type → Type} [Monad m] [Counter ν m]
    (stream : TokenStream ν) (spot : Spot) (total : Nat) : Prop
  | bare (held : stream.peeked = none) (scanner : stream.scanner.IsAt spot total)
  | held (lexeme : Lexeme) (after : Spot) (held : stream.peeked = some lexeme)
      (read : spot.read = (.ok (.lexeme lexeme), after)) (scanner : stream.scanner.IsAt after total)

namespace TokenStream

theorem ofStringM_eq {ν : Type} {m : Type → Type} [Monad m] [Counter ν m] (text : String) :
    (ofStringM text : m (TokenStream ν)) = ofCharsM text.toList := by
  rw [ofStringM, ofCharsM, offsetsOf_eq]

theorem ofString_eq (text : String) : ofString text = ofChars text.toList :=
  congrArg Id.run (ofStringM_eq text)

theorem isAt_ofCharsM {ν : Type} {m : Type → Type} [Monad m] [Counter ν m] [LawfulMonad m]
    {chars : List Char} (fits : (Spot.ofChars chars).Fits ν) :
    ∃ stream : TokenStream ν, (ofCharsM chars : m (TokenStream ν)) = pure stream ∧
      stream.peeked = none ∧ stream.finished = false ∧
      stream.scanner.IsAt (.ofChars chars) chars.length := by
  refine ⟨ofCursor ((Spot.ofChars chars).cursor 1), ?_, rfl, rfl,
    Scanner.isAt_cursor (Nat.add_comm _ _) NameTable.valid_empty fits⟩
  rw [ofCharsM, Spot.startM_eq (fits.passes (List.nil_append chars)), pure_bind]

theorem isAt_ofChars (chars : List Char) :
    (ofChars chars).IsAt (.ofChars chars) chars.length :=
  .bare rfl (Scanner.isAt_ofChars chars)

theorem isAt_ofString (text : String) :
    (ofString text).IsAt (.ofString text) text.toList.length := by
  rw [ofString_eq]
  exact isAt_ofChars _

section

variable {ν : Type} [Counter ν Id] {stream : TokenStream ν} {spot : Spot} {total : Nat}

theorem IsAt.next (h : stream.IsAt spot total) :
    stream.next.1 = spot.read.1 ∧ stream.next.2.IsAt spot.read.2 total := by
  cases h with
  | bare held scanner =>
      simp only [next_eq, held]
      exact ⟨scanner.scan.1, .bare rfl scanner.scan.2⟩
  | held lexeme after held read scanner =>
      simp only [next_eq, held, read]
      exact ⟨trivial, .bare rfl scanner⟩

theorem IsAt.peek (h : stream.IsAt spot total) :
    stream.peek.1 = spot.peek.1 ∧ stream.peek.2.IsAt spot.peek.2 total := by
  cases h with
  | bare held scanner =>
      obtain ⟨same, moved⟩ := scanner.scan
      cases hread : spot.read with
      | mk reading after =>
          cases hscan : stream.scanner.scan with
          | mk scanned scanner' =>
              rw [hread, hscan] at same moved
              cases same
              rcases reading with fault | lexeme | ⟨line, offset⟩ <;>
                simp only [peek_eq, Spot.peek, held, hread, hscan, true_and]
              · exact .bare rfl moved
              · exact .held lexeme after rfl hread moved
              · exact .bare rfl moved
  | held lexeme after held read scanner =>
      simp only [peek_eq, Spot.peek, held, read, true_and]
      exact .held lexeme after held read scanner

end

end TokenStream

def Tape.prepend (lexemes : List Lexeme) (tape : Tape) : Tape :=
  { tape with lexemes := lexemes ++ tape.lexemes }

namespace Spot

theorem last_read {spot after : Spot} {lexeme : Lexeme}
    (h : spot.read = (.ok (.lexeme lexeme), after)) : after.last = spot.last := by
  obtain ⟨piece, token, found, -, -, rfl⟩ := take_lexeme h
  rw [last_move (Piece.chars_append_rest found), last_skip]

theorem read_finish {spot after : Spot} {line offset : Nat}
    (h : spot.read = (.ok (.finish line offset), after)) :
    after = spot.last ∧ line = spot.last.line ∧ offset = spot.last.offset := by
  obtain ⟨empty, rfl, rfl, rfl⟩ := take_finish h
  have same : (spot.skip isBlank).last = spot.skip isBlank := by
    simp [last, move, empty]
    rw [← empty]
  rw [← last_skip spot isBlank, same]
  exact ⟨rfl, rfl, rfl⟩

@[elab_as_elim]
theorem read_induction {motive : Spot → Prop}
    (lexeme : ∀ spot lexeme after, spot.read = (.ok (.lexeme lexeme), after) → motive after →
      motive spot)
    (finish : ∀ spot line offset after, spot.read = (.ok (.finish line offset), after) →
      motive spot)
    (fault : ∀ spot fault after, spot.read = (.error fault, after) → motive spot)
    (spot : Spot) : motive spot := by
  cases h : spot.read with
  | mk reading after =>
      rcases reading with cause | found | ⟨line, offset⟩
      · exact fault spot cause after h
      · have shorter := length_read_lt h
        exact lexeme spot found after h (read_induction lexeme finish fault after)
      · exact finish spot line offset after h
termination_by spot.chars.length

def tape (spot : Spot) : Tape :=
  match _h : spot.read with
  | (.ok (.lexeme lexeme), after) => (tape after).prepend [lexeme]
  | (.ok (.finish line offset), _) => { lexemes := [], ending := .ok (.finish line offset) }
  | (.error fault, _) => { lexemes := [], ending := .error fault }
termination_by spot.chars.length
decreasing_by exact length_read_lt _h

theorem tape_lexeme {spot after : Spot} {lexeme : Lexeme}
    (h : spot.read = (.ok (.lexeme lexeme), after)) :
    spot.tape = after.tape.prepend [lexeme] := by
  rw [tape]
  split <;> simp_all

theorem tape_finish {spot after : Spot} {line offset : Nat}
    (h : spot.read = (.ok (.finish line offset), after)) :
    spot.tape = { lexemes := [], ending := .ok (.finish line offset) } := by
  rw [tape]
  split <;> simp_all

theorem tape_fault {spot after : Spot} {fault : LexFault}
    (h : spot.read = (.error fault, after)) :
    spot.tape = { lexemes := [], ending := .error fault } := by
  rw [tape]
  split <;> simp_all

theorem tape_eq_of_read_eq {spot other : Spot} (h : spot.read = other.read) :
    spot.tape = other.tape := by
  cases hread : spot.read with
  | mk reading after =>
      have hother := h.symm.trans hread
      rcases reading with fault | lexeme | ⟨line, offset⟩
      · rw [tape_fault hread, tape_fault hother]
      · rw [tape_lexeme hread, tape_lexeme hother]
      · rw [tape_finish hread, tape_finish hother]

theorem tape_ending {spot : Spot} {line offset : Nat}
    (h : spot.tape.ending = .ok (.finish line offset)) :
    line = spot.last.line ∧ offset = spot.last.offset := by
  induction spot using read_induction with
  | lexeme spot lexeme after read ih =>
      rw [tape_lexeme read] at h
      rw [← last_read read]
      exact ih h
  | finish spot line' offset' after read =>
      rw [tape_finish read] at h
      cases h
      exact (read_finish read).2
  | fault spot fault after read =>
      rw [tape_fault read] at h
      cases h

end Spot

namespace TokenStream

variable {stream : TokenStream} {spot : Spot} {total : Nat}

theorem IsAt.scanner_of_nil (h : stream.IsAt spot total) (empty : spot.chars = []) :
    stream.scanner.IsAt spot total := by
  cases h with
  | bare held scanner => exact scanner
  | held lexeme after held read scanner =>
      -- a held token was read, so there were characters for it
      have shorter := Spot.length_read_lt read
      simp [empty] at shorter

theorem finished_next (stream : TokenStream) : stream.next.2.finished = stream.finished := by
  rw [next_eq]
  split <;> rfl

theorem pullAll_lexeme {after : TokenStream} {lexeme : Lexeme}
    (unfinished : stream.finished = false) (h : stream.next = (.ok (.lexeme lexeme), after)) :
    stream.pullAll = (lexeme :: after.pullAll.1, after.pullAll.2) := by
  have pulled : stream.pull = (some (.ok lexeme), after) := by simp [pull_eq, unfinished, h]
  rw [pullAll]
  split <;> simp_all

theorem pullAll_finish {after : TokenStream} {line offset : Nat}
    (unfinished : stream.finished = false) (h : stream.next = (.ok (.finish line offset), after)) :
    stream.pullAll = ([], none, { after with finished := true }) := by
  have pulled : stream.pull = (none, { after with finished := true }) := by
    simp [pull_eq, unfinished, h]
  rw [pullAll]
  split <;> simp_all

theorem pullAll_fault {after : TokenStream} {fault : LexFault}
    (unfinished : stream.finished = false) (h : stream.next = (.error fault, after)) :
    stream.pullAll = ([], some fault, { after with finished := true }) := by
  have pulled : stream.pull = (some (.error fault), { after with finished := true }) := by
    simp [pull_eq, unfinished, h]
  rw [pullAll]
  split <;> simp_all

theorem IsAt.pullAll (h : stream.IsAt spot total) (unfinished : stream.finished = false) :
    (∃ fault after, stream.pullAll = (spot.tape.lexemes, some fault, after) ∧
      spot.tape.ending = .error fault) ∨
    (∃ after, stream.pullAll = (spot.tape.lexemes, none, after) ∧
      spot.tape.ending = .ok (.finish after.line after.offset)) := by
  induction spot using Spot.read_induction generalizing stream with
  | lexeme spot lexeme after read ih =>
      obtain ⟨same, moved⟩ := h.next
      rw [read] at same moved
      have rest := ih moved ((finished_next stream).trans unfinished)
      rw [Spot.tape_lexeme read, pullAll_lexeme unfinished (Prod.ext same rfl)]
      rcases rest with ⟨fault, final, pulled, ending⟩ | ⟨final, pulled, ending⟩
      · exact .inl ⟨fault, final, by simp [pulled, Tape.prepend], ending⟩
      · exact .inr ⟨final, by simp [pulled, Tape.prepend], ending⟩
  | finish spot line offset after read =>
      obtain ⟨same, moved⟩ := h.next
      rw [read] at same moved
      obtain ⟨rfl, rfl, rfl⟩ := Spot.read_finish read
      have scanner := moved.scanner_of_nil rfl
      rw [Spot.tape_finish read, pullAll_finish unfinished (Prod.ext same rfl)]
      have line : stream.next.2.line = spot.last.line := scanner.line
      have offset : stream.next.2.offset = spot.last.offset := scanner.offset
      rw [← line, ← offset]
      exact .inr ⟨_, rfl, rfl⟩
  | fault spot fault after read =>
      obtain ⟨same, moved⟩ := h.next
      rw [read] at same
      rw [Spot.tape_fault read, pullAll_fault unfinished (Prod.ext same rfl)]
      exact .inl ⟨fault, _, rfl, rfl⟩

end TokenStream

theorem Tape.ofString_eq (text : String) : ofString text = (Spot.ofString text).tape := by
  have pulled := (TokenStream.isAt_ofString text).pullAll rfl
  unfold ofString
  rcases pulled with ⟨fault, after, pulled, ending⟩ | ⟨after, pulled, ending⟩
  · simp only [pulled, ← ending]
  · simp only [pulled, ← ending]

end AssignLang
