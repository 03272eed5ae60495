import AssignLang.Unicode.Alphabetic
import AssignLang.Unicode.Numeric

namespace AssignLang

def blankRanges : Unicode.Ranges :=
  [(0x9, 0xd), (0x20, 0x20), (0x85, 0x85), (0xa0, 0xa0), (0x1680, 0x1680), (0x2000, 0x200a),
   (0x2028, 0x2029), (0x202f, 0x202f), (0x205f, 0x205f), (0x3000, 0x3000)]

def isBlank (c : Char) : Bool :=
  blankRanges.has c.toNat

def isNameStart (c : Char) : Bool :=
  Unicode.isAlphabetic c || c == '_'

def isNamePart (c : Char) : Bool :=
  Unicode.isAlphabetic c || Unicode.isNumeric c || c == '_'

def digitValue (c : Char) : Nat :=
  c.toNat - '0'.toNat

def endsZero : Option Char → Bool
  | none => true
  | some c => c == ' ' || c == '\t' || c == '\n' || c == ';' || c == '+' || c == '-' || c == '*' ||
    c == ')'

theorem isNamePart_of_isNameStart {c : Char} (h : isNameStart c = true) : isNamePart c = true := by
  simp only [isNameStart, isNamePart, Bool.or_eq_true] at h ⊢
  exact h.elim (fun h => .inl (.inl h)) .inr

end AssignLang
