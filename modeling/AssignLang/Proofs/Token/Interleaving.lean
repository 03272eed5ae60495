import AssignLang.Proofs.Token.Stream
import Mathlib.Data.List.DropRight

namespace AssignLang

inductive Request where
  | peek
  | next
  | pull
deriving DecidableEq, Repr

inductive Answer where
  | reading (shown : Except LexFault Sight)
  | pulled (given : Option (Except LexFault Lexeme))

namespace TokenStream

section

variable {ν : Type} {m : Type → Type} [Monad m] [Counter ν m]

def answerM (stream : TokenStream ν) : Request → m (Answer × TokenStream ν)
  | .peek => do
    let shown ← stream.peekM
    return (.reading shown.1, shown.2)
  | .next => do
    let given ← stream.nextM
    return (.reading given.1, given.2)
  | .pull => do
    let given ← stream.pullM
    return (.pulled given.1, given.2)

def answersM (stream : TokenStream ν) : List Request → m (List Answer × TokenStream ν)
  | [] => pure ([], stream)
  | request :: rest => do
    let first ← stream.answerM request
    let others ← first.2.answersM rest
    return (first.1 :: others.1, others.2)

end

def answer (stream : TokenStream) (request : Request) : Answer × TokenStream :=
  Id.run (stream.answerM request)

def answers (stream : TokenStream) (requests : List Request) : List Answer :=
  (Id.run (stream.answersM requests)).1

def afterAll (stream : TokenStream) (requests : List Request) : TokenStream :=
  (Id.run (stream.answersM requests)).2

/-- The answer to the request of number `n`, counted from zero, if all requests are for the next
token. -/
def reading (stream : TokenStream) : Nat → Except LexFault Sight
  | 0 => stream.next.1
  | n + 1 => stream.next.2.reading n

theorem answer_eq (stream : TokenStream) (request : Request) :
    stream.answer request = match request with
      | .peek => (.reading stream.peek.1, stream.peek.2)
      | .next => (.reading stream.next.1, stream.next.2)
      | .pull => (.pulled stream.pull.1, stream.pull.2) := by
  cases request <;> rfl

theorem answers_cons (stream : TokenStream) (request : Request) (rest : List Request) :
    stream.answers (request :: rest) =
      (stream.answer request).1 :: (stream.answer request).2.answers rest := rfl

theorem afterAll_cons (stream : TokenStream) (request : Request) (rest : List Request) :
    stream.afterAll (request :: rest) = (stream.answer request).2.afterAll rest := rfl

end TokenStream

/-- A mark in a sequence of readings, and whether pulling has come to its end. -/
structure Playback where
  index : Nat
  done : Bool
deriving DecidableEq, Repr

namespace Playback

def start : Playback := ⟨0, false⟩

def answer (readings : Nat → Except LexFault Sight) (playback : Playback) :
    Request → Answer × Playback
  | .next => (.reading (readings playback.index), { playback with index := playback.index + 1 })
  | .peek =>
    match readings playback.index with
    | .ok sight => (.reading (.ok sight), playback)
    | .error fault => (.reading (.error fault), { playback with index := playback.index + 1 })
  | .pull =>
    if playback.done then (.pulled none, playback)
    else
      match readings playback.index with
      | .ok (.lexeme lexeme) => (.pulled (some (.ok lexeme)), ⟨playback.index + 1, false⟩)
      | .ok (.finish _ _) => (.pulled none, ⟨playback.index + 1, true⟩)
      | .error fault => (.pulled (some (.error fault)), ⟨playback.index + 1, true⟩)

def answers (readings : Nat → Except LexFault Sight) (playback : Playback) :
    List Request → List Answer
  | [] => []
  | request :: rest =>
    (playback.answer readings request).1 ::
      (playback.answer readings request).2.answers readings rest

def afterAll (readings : Nat → Except LexFault Sight) (playback : Playback) :
    List Request → Playback
  | [] => playback
  | request :: rest => (playback.answer readings request).2.afterAll readings rest

end Playback

namespace TokenStream

variable (stream : TokenStream)

theorem scanner_next : stream.next.2.scanner = stream.scanner ∨
    stream.next.2.scanner = stream.scanner.scan.2 := by
  rw [next_eq]
  split
  · exact .inl rfl
  · exact .inr rfl

theorem scanner_peek : stream.peek.2.scanner = stream.scanner ∨
    stream.peek.2.scanner = stream.scanner.scan.2 := by
  rw [peek_eq]
  split
  · exact .inl rfl
  · split
    all_goals
      rename_i scanned
      exact .inr (by rw [scanned])

theorem scanner_pull : stream.pull.2.scanner = stream.scanner ∨
    stream.pull.2.scanner = stream.scanner.scan.2 := by
  have given := stream.scanner_next
  rw [pull_eq]
  split
  · exact .inl rfl
  · split
    all_goals
      rename_i taken
      rwa [taken] at given

theorem scanner_answer (request : Request) :
    (stream.answer request).2.scanner = stream.scanner ∨
      (stream.answer request).2.scanner = stream.scanner.scan.2 := by
  cases request with
  | peek => exact stream.scanner_peek
  | next => exact stream.scanner_next
  | pull => exact stream.scanner_pull

theorem scanner_afterAll (holds : Scanner → Prop)
    (step : ∀ scanner, holds scanner → holds scanner.scan.2) (h : holds stream.scanner)
    (requests : List Request) : holds (stream.afterAll requests).scanner := by
  induction requests generalizing stream with
  | nil => exact h
  | cons request rest ih =>
      rw [afterAll_cons]
      apply ih
      rcases stream.scanner_answer request with same | scanned
      · rwa [same]
      · rw [scanned]
        exact step _ h

end TokenStream

namespace Spot

def reading (spot : Spot) : Nat → Except LexFault Sight
  | 0 => spot.read.1
  | n + 1 => spot.read.2.reading n

theorem reading_of_repeats {spot after : Spot} {shown : Except LexFault Sight}
    (first : spot.read = (shown, after)) (again : after.read = (shown, after)) (n : Nat) :
    spot.reading n = shown := by
  have repeats (m : Nat) : after.reading m = shown := by
    induction m with
    | zero => simp [reading, again]
    | succ m ih => simp [reading, again, ih]
  cases n with
  | zero => simp [reading, first]
  | succ n => simp [reading, first, repeats]

theorem read_again_of_finish {spot after : Spot} {line offset : Nat}
    (h : spot.read = (.ok (.finish line offset), after)) :
    after.read = (.ok (.finish line offset), after) := by
  obtain ⟨rfl, rfl, rfl⟩ := read_finish h
  rfl

theorem skip_skip (spot : Spot) (p : Char → Bool) : (spot.skip p).skip p = spot.skip p := by
  have rest := List.dropWhile_idempotent p spot.chars
  have none : (spot.chars.dropWhile p).takeWhile p = [] := by
    have parts := List.takeWhile_append_dropWhile (p := p) (l := spot.chars.dropWhile p)
    rw [rest] at parts
    simpa using parts
  simp [skip, move, none, rest]

theorem read_fault {spot after : Spot} {fault : LexFault} (h : spot.read = (.error fault, after)) :
    ((∃ ch, fault.cause = .unexpectedCharacter ch) ∧ after.read = (.error fault, after)) ∨
      after.chars.length < spot.chars.length := by
  have taken : (spot.skip isBlank).take = (.error fault, after) := h
  unfold take at taken
  split at taken
  · cases taken
  · rename_i piece found
    have shorter : (spot.move piece.chars piece.rest).chars.length < spot.chars.length := by
      have length := congrArg List.length (Piece.chars_append_rest found)
      have some := List.length_pos_iff.2 (Piece.chars_ne_nil found)
      have skipped := length_skip_le spot isBlank
      simp only [move, List.length_append] at length ⊢
      omega
    obtain ⟨placed, passed⟩ := Prod.mk.inj taken
    cases content : piece.content with
    | ok token => simp [place, Piece.shown, content] at placed
    | error cause =>
        cases cause with
        | unexpectedCharacter ch =>
            have stays : spot.skip isBlank = after := by rw [← passed, Spot.after, content]
            refine .inl ⟨⟨ch, ?_⟩, ?_⟩
            · simp only [place, Piece.shown, content, Except.error.injEq] at placed
              rw [← placed]
            · rw [← stays] at h ⊢
              rw [read, skip_skip]
              exact h
        | invalidNumberFormat | numberTooLarge =>
            refine .inr ?_
            rw [← passed, Spot.after, content]
            exact shorter

end Spot

def Settled (shown : Except LexFault Sight) : Prop :=
  (∃ line offset, shown = .ok (.finish line offset)) ∨
    ∃ ch line span, shown = .error ⟨.unexpectedCharacter ch, line, span⟩

theorem Spot.exists_settled (spot : Spot) :
    ∃ n shown, Settled shown ∧ ∀ m, n ≤ m → spot.reading m = shown := by
  have later {after : Spot} (passed : spot.read.2 = after)
      (settled : ∃ n shown, Settled shown ∧ ∀ m, n ≤ m → after.reading m = shown) :
      ∃ n shown, Settled shown ∧ ∀ m, n ≤ m → spot.reading m = shown := by
    obtain ⟨n, shown, final, constant⟩ := settled
    refine ⟨n + 1, shown, final, fun m large => ?_⟩
    obtain ⟨m, rfl⟩ := Nat.exists_eq_add_of_lt large
    rw [reading, passed]
    exact constant _ (by omega)
  cases h : spot.read with
  | mk shown after =>
      rw [h] at later
      rcases shown with fault | lexeme | ⟨line, offset⟩
      · rcases read_fault h with ⟨⟨ch, cause⟩, again⟩ | shorter
        · obtain ⟨_, line, span⟩ := fault
          cases cause
          exact ⟨0, _, .inr ⟨ch, line, span, rfl⟩, fun m _ => reading_of_repeats h again m⟩
        · exact later rfl (exists_settled after)
      · have shorter := length_read_lt h
        exact later rfl (exists_settled after)
      · exact ⟨0, _, .inl ⟨line, offset, rfl⟩,
          fun m _ => reading_of_repeats h (read_again_of_finish h) m⟩
termination_by spot.chars.length

theorem TokenStream.IsAt.reading {stream : TokenStream} {spot : Spot} {total : Nat}
    (h : stream.IsAt spot total) (n : Nat) : stream.reading n = spot.reading n := by
  induction n generalizing stream spot with
  | zero => exact h.next.1
  | succ n ih => exact ih h.next.2

/-- The stream gives, from now on, the readings after the mark. -/
structure TokenStream.Plays (stream : TokenStream) (readings : Nat → Except LexFault Sight)
    (playback : Playback) : Prop where
  isAt : ∃ spot total, stream.IsAt spot total ∧
    ∀ n, spot.reading n = readings (playback.index + n)
  finished : stream.finished = playback.done

namespace TokenStream

variable {stream : TokenStream} {readings : Nat → Except LexFault Sight} {playback : Playback}

theorem Plays.next (h : stream.Plays readings playback) :
    stream.next.1 = readings playback.index ∧
      stream.next.2.Plays readings { playback with index := playback.index + 1 } := by
  obtain ⟨⟨spot, total, at', same⟩, finished⟩ := h
  refine ⟨at'.next.1.trans (same 0), ⟨_, total, at'.next.2, ?_⟩, ?_⟩
  · intro n
    have later := same (n + 1)
    rw [← Nat.add_assoc, Nat.add_right_comm] at later
    exact later
  · rw [finished_next]
    exact finished

theorem finished_peek (stream : TokenStream) : stream.peek.2.finished = stream.finished := by
  rw [peek_eq]
  split
  · rfl
  · split <;> rfl

theorem Plays.peek (h : stream.Plays readings playback) :
    (stream.answer .peek).1 = (playback.answer readings .peek).1 ∧
      (stream.answer .peek).2.Plays readings (playback.answer readings .peek).2 := by
  obtain ⟨⟨spot, total, at', same⟩, finished⟩ := h
  obtain ⟨shown, moved⟩ := at'.peek
  have finished' := (finished_peek stream).trans finished
  have current : readings playback.index = spot.read.1 := (same 0).symm
  simp only [answer_eq, Playback.answer, current, shown, Spot.peek_fst]
  cases read : spot.read with
  | mk reading after =>
      rw [Spot.peek, read] at moved
      rcases reading with fault | lexeme | ⟨line, offset⟩
      · refine ⟨rfl, ⟨after, total, moved, fun n => ?_⟩, finished'⟩
        have later := same (n + 1)
        rw [Spot.reading, read, ← Nat.add_assoc, Nat.add_right_comm] at later
        exact later
      · exact ⟨rfl, ⟨spot, total, moved, same⟩, finished'⟩
      · -- the mark stays, and the stream has moved to the end, where it reads the same
        have again := Spot.read_again_of_finish read
        refine ⟨rfl, ⟨after, total, moved, fun n => ?_⟩, finished'⟩
        rw [Spot.reading_of_repeats again again, ← same, Spot.reading_of_repeats read again]

theorem Plays.finish (h : stream.Plays readings playback) :
    { stream with finished := true }.Plays readings { playback with done := true } := by
  obtain ⟨⟨spot, total, at', same⟩, -⟩ := h
  refine ⟨⟨spot, total, ?_, same⟩, rfl⟩
  cases at' with
  | bare held scanner => exact .bare held scanner
  | held lexeme after held read scanner => exact .held lexeme after held read scanner

theorem Plays.pull (h : stream.Plays readings playback) :
    (stream.answer .pull).1 = (playback.answer readings .pull).1 ∧
      (stream.answer .pull).2.Plays readings (playback.answer readings .pull).2 := by
  obtain ⟨given, moved⟩ := h.next
  obtain ⟨index, done⟩ := playback
  cases done with
  | true =>
      have finished : stream.finished = true := h.finished
      simp only [answer_eq, Playback.answer, pull_eq, finished, if_true]
      exact ⟨trivial, h⟩
  | false =>
      have unfinished : stream.finished = false := h.finished
      simp only [answer_eq, Playback.answer, pull_eq, unfinished, ← given]
      cases taken : stream.next with
      | mk reading after =>
          rw [taken] at moved
          rcases reading with fault | lexeme | ⟨line, offset⟩
          · exact ⟨rfl, moved.finish⟩
          · exact ⟨rfl, moved⟩
          · exact ⟨rfl, moved.finish⟩

theorem Plays.answer (h : stream.Plays readings playback) (request : Request) :
    (stream.answer request).1 = (playback.answer readings request).1 ∧
      (stream.answer request).2.Plays readings (playback.answer readings request).2 := by
  cases request with
  | peek => exact h.peek
  | next => exact ⟨congrArg Answer.reading h.next.1, h.next.2⟩
  | pull => exact h.pull

theorem Plays.answers (h : stream.Plays readings playback) (requests : List Request) :
    stream.answers requests = playback.answers readings requests := by
  induction requests generalizing stream playback with
  | nil => rfl
  | cons request rest ih =>
      obtain ⟨same, moved⟩ := h.answer request
      rw [answers_cons, Playback.answers, same, ih moved]

theorem Plays.afterAll (h : stream.Plays readings playback) (requests : List Request) :
    (stream.afterAll requests).Plays readings (playback.afterAll readings requests) := by
  induction requests generalizing stream playback with
  | nil => exact h
  | cons request rest ih => exact ih (h.answer request).2

theorem Plays.reading (h : stream.Plays readings playback) (n : Nat) :
    stream.reading n = readings (playback.index + n) := by
  obtain ⟨spot, total, at', same⟩ := h.isAt
  rw [at'.reading, same]

theorem plays_ofString (text : String) :
    (ofString text).Plays (ofString text).reading .start where
  isAt := by
    refine ⟨_, _, isAt_ofString text, fun n => ?_⟩
    rw [← (isAt_ofString text).reading, Playback.start, Nat.zero_add]
  finished := rfl

/-- The answers of a stream to any requests are those of a mark that moves over its readings, and
these stay the same from some point on: all of them are the end of the text, or all of them are one
character that starts no token. It does not matter how the stream came by the offsets. -/
theorem answers_eq_playback (text : String) :
    (∀ requests, (ofString text).answers requests =
      Playback.start.answers (ofString text).reading requests) ∧
    (∀ requests, (ofChars text.toList).answers requests =
      Playback.start.answers (ofString text).reading requests) ∧
    ∃ n, (∃ line offset, ∀ m, n ≤ m → (ofString text).reading m = .ok (.finish line offset)) ∨
      ∃ ch line span, ∀ m, n ≤ m →
        (ofString text).reading m = .error ⟨.unexpectedCharacter ch, line, span⟩ := by
  have played := (plays_ofString text).answers
  refine ⟨played, ?_, ?_⟩
  · rw [← ofString_eq]
    exact played
  · obtain ⟨n, shown, settled, constant⟩ := (Spot.ofString text).exists_settled
    simp only [← (isAt_ofString text).reading] at constant
    refine ⟨n, ?_⟩
    rcases settled with ⟨line, offset, rfl⟩ | ⟨ch, line, span, rfl⟩
    · exact .inl ⟨line, offset, constant⟩
    · exact .inr ⟨ch, line, span, constant⟩

end TokenStream

end AssignLang
