import AssignLang.Token.Cursor
import AssignLang.Token.NameTable
import AssignLang.Token.Number

namespace AssignLang

inductive Sight where
  | lexeme (lexeme : Lexeme)
  | finish (line offset : Nat)
deriving DecidableEq, Repr, Inhabited

def Token.ofChar? : Char → Option Token
  | '=' => some (.operator .assign)
  | '+' => some (.operator .plus)
  | '-' => some (.operator .minus)
  | '*' => some (.operator .star)
  | ';' => some .semicolon
  | '(' => some .openParen
  | ')' => some .closeParen
  | _ => none

structure Scanner (ν : Type := Nat) where
  cursor : Cursor ν
  names : NameTable
deriving Inhabited

namespace Scanner

section

variable {ν : Type} {m : Type → Type} [Monad m] [Counter ν m]

def singleM (scanner : Scanner ν) (token : Token) : m (Except LexFault Sight × Scanner ν) := do
  let after ← scanner.cursor.advanceM
  return (.ok (.lexeme ⟨token, scanner.cursor.lineNumber, scanner.cursor.spanTo after⟩),
    { scanner with cursor := after })

def numberM (scanner : Scanner ν) : m (Except LexFault Sight × Scanner ν) := do
  let scan : NumberScan ν ← NumberScan.ofDigitsM (scanner.cursor.run Char.isDigit)
  let after ← scanner.cursor.skipM Char.isDigit
  let line := scanner.cursor.lineNumber
  let span := scanner.cursor.spanTo after
  return (match scan.finish after.current with
    | .ok value => .ok (.lexeme ⟨.number value, line, span⟩)
    | .error cause => .error ⟨cause, line, span⟩,
    { scanner with cursor := after })

def identifierM (scanner : Scanner ν) : m (Except LexFault Sight × Scanner ν) := do
  let after ← scanner.cursor.skipM isNamePart
  let interned := scanner.names.intern (String.ofList (scanner.cursor.run isNamePart))
  return (.ok (.lexeme ⟨.identifier interned.1.name, scanner.cursor.lineNumber,
      scanner.cursor.spanTo after⟩),
    { cursor := after, names := interned.2 })

def refuseM (scanner : Scanner ν) (ch : Char) : m (Except LexFault Sight × Scanner ν) := do
  let stop ← Counter.add scanner.cursor.offset (Counter.ofNat ch.utf8Size)
  return (.error ⟨.unexpectedCharacter ch, scanner.cursor.lineNumber,
    ⟨Counter.toNat scanner.cursor.offset, Counter.toNat stop⟩⟩, scanner)

def takeM (scanner : Scanner ν) : m (Except LexFault Sight × Scanner ν) :=
  match scanner.cursor.current with
  | none =>
    pure (.ok (.finish scanner.cursor.lineNumber (Counter.toNat scanner.cursor.offset)), scanner)
  | some ch =>
    match Token.ofChar? ch with
    | some token => scanner.singleM token
    | none =>
      if ch.isDigit then scanner.numberM
      else if isNameStart ch then scanner.identifierM
      else scanner.refuseM ch

def skipBlanksM (scanner : Scanner ν) : m (Scanner ν) := do
  return { scanner with cursor := ← scanner.cursor.skipM isBlank }

def scanM (scanner : Scanner ν) : m (Except LexFault Sight × Scanner ν) := do
  takeM (← scanner.skipBlanksM)

end

variable {ν : Type} [Counter ν Id]

def number (scanner : Scanner ν) : Except LexFault Sight × Scanner ν := Id.run scanner.numberM

def take (scanner : Scanner ν) : Except LexFault Sight × Scanner ν := Id.run scanner.takeM

def skipBlanks (scanner : Scanner ν) : Scanner ν := Id.run scanner.skipBlanksM

def scan (scanner : Scanner ν) : Except LexFault Sight × Scanner ν := Id.run scanner.scanM

theorem number_eq (scanner : Scanner ν) :
    scanner.number =
      let scan : NumberScan ν := Id.run (.ofDigitsM (scanner.cursor.run Char.isDigit))
      let after := scanner.cursor.skip Char.isDigit
      (match scan.finish after.current with
        | .ok value =>
          .ok (.lexeme ⟨.number value, scanner.cursor.lineNumber, scanner.cursor.spanTo after⟩)
        | .error cause =>
          .error ⟨cause, scanner.cursor.lineNumber, scanner.cursor.spanTo after⟩,
        { scanner with cursor := after }) := rfl

theorem take_eq (scanner : Scanner ν) :
    scanner.take = match scanner.cursor.current with
      | none =>
        (.ok (.finish scanner.cursor.lineNumber (Counter.toNat scanner.cursor.offset)), scanner)
      | some ch =>
        match Token.ofChar? ch with
        | some token => Id.run (scanner.singleM token)
        | none =>
          if ch.isDigit then scanner.number
          else if isNameStart ch then Id.run scanner.identifierM
          else Id.run (scanner.refuseM ch) := by
  unfold take takeM
  repeat' split
  all_goals rfl

theorem size_take_le (scanner : Scanner ν) :
    scanner.take.2.cursor.size ≤ scanner.cursor.size := by
  rw [take_eq]
  split
  · exact Nat.le_refl _
  · split
    · exact Cursor.size_advance_le _
    · split
      · exact Cursor.size_skip_le _ _
      · split
        · exact Cursor.size_skip_le _ _
        · exact Nat.le_refl _

theorem size_take_lt {scanner : Scanner ν} {lexeme : Lexeme}
    (h : scanner.take.1 = .ok (.lexeme lexeme)) :
    scanner.take.2.cursor.size < scanner.cursor.size := by
  rw [take_eq] at h ⊢
  split at h
  · cases h
  · rename_i ch hch
    split at h
    · exact Cursor.size_advance_lt hch
    · split at h
      · rename_i hdigit
        rw [if_pos hdigit]
        exact Cursor.size_skip_lt hch hdigit
      · rename_i hdigit
        rw [if_neg hdigit]
        split at h
        · rename_i hname
          rw [if_pos hname]
          exact Cursor.size_skip_lt hch (isNamePart_of_isNameStart hname)
        · cases h

theorem size_scan_le (scanner : Scanner ν) :
    scanner.scan.2.cursor.size ≤ scanner.cursor.size :=
  Nat.le_trans (size_take_le scanner.skipBlanks) (Cursor.size_skip_le scanner.cursor isBlank)

theorem size_scan_lt {scanner : Scanner ν} {lexeme : Lexeme}
    (h : scanner.scan.1 = .ok (.lexeme lexeme)) :
    scanner.scan.2.cursor.size < scanner.cursor.size :=
  Nat.lt_of_lt_of_le (size_take_lt (show scanner.skipBlanks.take.1 = _ from h))
    (Cursor.size_skip_le scanner.cursor isBlank)

end Scanner

end AssignLang
