import AssignLang.Span
import AssignLang.Token.Counter

namespace AssignLang

def offsetsFrom (start : Nat) : List Char → List (Nat × Char)
  | [] => []
  | c :: rest => (start, c) :: offsetsFrom (start + c.utf8Size) rest

def offsetsOf (text : String) : List (Nat × Char) :=
  text.positions.toList.map fun position => (position.1.offset.byteIdx, position.1.get position.2)

/-- A place in a text with one character of look-ahead. Its offset and its line are counted with
`ν`; the unread characters come with the number of bytes before them. -/
structure Cursor (ν : Type := Nat) where
  current : Option Char
  unread : List (Nat × Char)
  offset : ν
  line : ν
  requests : Nat
deriving DecidableEq, Repr, Inhabited

namespace Cursor

section

variable {ν : Type} {m : Type → Type} [Monad m] [Counter ν m]

def lineNumber (cursor : Cursor ν) : Nat := Counter.toNat cursor.line

def spanTo (cursor after : Cursor ν) : Span :=
  ⟨Counter.toNat cursor.offset, Counter.toNat after.offset⟩

def nextLineM (cursor : Cursor ν) : m ν :=
  if cursor.current = some '\n' then Counter.add cursor.line (Counter.ofNat 1)
  else pure cursor.line

def nextOffsetM (cursor : Cursor ν) : m ν :=
  match cursor.current with
  | some ch => Counter.add cursor.offset (Counter.ofNat ch.utf8Size)
  | none => pure cursor.offset

def advanceM (cursor : Cursor ν) : m (Cursor ν) := do
  let line ← cursor.nextLineM
  match cursor.unread with
  | (start, ch) :: unread =>
    let offset ← Counter.arrive start ch
    return { current := some ch, unread, offset, line, requests := cursor.requests + 1 }
  | [] =>
    -- only the end of the text is found by what the last character takes
    let offset ← cursor.nextOffsetM
    return { current := none, unread := [], offset, line, requests := cursor.requests + 1 }

def startM (chars : List (Nat × Char)) : m (Cursor ν) :=
  advanceM
    { current := none
      unread := chars
      offset := Counter.ofNat 0
      line := Counter.ofNat 1
      requests := 0 }

def advanceByM : Nat → Cursor ν → m (Cursor ν)
  | 0, cursor => pure cursor
  | n + 1, cursor => do advanceByM n (← cursor.advanceM)

def run (cursor : Cursor ν) (p : Char → Bool) : List Char :=
  match cursor.current with
  | some ch => if p ch then ch :: (cursor.unread.takeWhile fun c => p c.2).map (·.2) else []
  | none => []

def skipM (cursor : Cursor ν) (p : Char → Bool) : m (Cursor ν) :=
  cursor.advanceByM (cursor.run p).length

def size (cursor : Cursor ν) : Nat :=
  cursor.unread.length + (if cursor.current.isSome then 1 else 0)

end

section

variable {ν : Type} [Counter ν Id]

def start (chars : List (Nat × Char)) : Cursor ν := Id.run (startM chars)

def advance (cursor : Cursor ν) : Cursor ν := Id.run cursor.advanceM

def advanceBy (n : Nat) (cursor : Cursor ν) : Cursor ν := Id.run (cursor.advanceByM n)

def skip (cursor : Cursor ν) (p : Char → Bool) : Cursor ν := Id.run (cursor.skipM p)

theorem size_advance_le (cursor : Cursor ν) : cursor.advance.size ≤ cursor.size := by
  unfold advance advanceM size
  cases cursor.unread <;> simp

theorem size_advance_lt {cursor : Cursor ν} {ch : Char} (h : cursor.current = some ch) :
    cursor.advance.size < cursor.size := by
  unfold advance advanceM size
  cases cursor.unread <;> simp [h]

theorem size_advanceBy_le (n : Nat) (cursor : Cursor ν) :
    (cursor.advanceBy n).size ≤ cursor.size := by
  induction n generalizing cursor with
  | zero => exact Nat.le_refl _
  | succ n ih => exact Nat.le_trans (ih cursor.advance) (size_advance_le cursor)

theorem size_advanceBy_lt {n : Nat} {cursor : Cursor ν} {ch : Char}
    (h : cursor.current = some ch) (hn : 0 < n) : (cursor.advanceBy n).size < cursor.size := by
  cases n with
  | zero => cases hn
  | succ n => exact Nat.lt_of_le_of_lt (size_advanceBy_le n cursor.advance) (size_advance_lt h)

theorem size_skip_le (cursor : Cursor ν) (p : Char → Bool) : (cursor.skip p).size ≤ cursor.size :=
  size_advanceBy_le _ _

theorem size_skip_lt {cursor : Cursor ν} {p : Char → Bool} {ch : Char}
    (h : cursor.current = some ch) (hp : p ch = true) : (cursor.skip p).size < cursor.size := by
  apply size_advanceBy_lt h
  simp [run, h, hp]

end

def ofChars (chars : List Char) : Cursor := start (offsetsFrom 0 chars)

end Cursor

theorem map_snd_offsetsFrom (start : Nat) (chars : List Char) :
    (offsetsFrom start chars).map (·.2) = chars := by
  induction chars generalizing start with
  | nil => rfl
  | cons c rest ih => simp [offsetsFrom, ih]

theorem map_positionsFrom {text : String} {position : text.Pos} {before after : String}
    (h : position.Splits before after) :
    (String.Model.positionsFrom position).map (fun p => (p.1.offset.byteIdx, p.1.get p.2)) =
      offsetsFrom position.offset.byteIdx after.toList := by
  induction position using String.Pos.next_induction generalizing before after with
  | next position hp ih =>
    obtain ⟨rest, rfl⟩ := h.exists_eq_singleton_append hp
    rw [String.Model.positionsFrom_eq_cons hp, List.map_cons, ih h.next, String.toList_append,
      String.toList_singleton, List.singleton_append, offsetsFrom]
    simp
  | endPos =>
    rw [String.Model.positionsFrom_endPos, (String.splits_endPos_iff.1 h).2]
    simp [offsetsFrom]

theorem offsetsOf_eq (text : String) : offsetsOf text = offsetsFrom 0 text.toList := by
  rw [offsetsOf, String.toList_positions]
  exact map_positionsFrom (String.splits_startPos text)

end AssignLang
