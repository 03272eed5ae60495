import AssignLang.Token.Counter
import AssignLang.Token.Fault
import AssignLang.Text.CharClass

namespace AssignLang

structure NumberScan (ν : Type := Nat) where
  value : Option Value
  digits : ν
  zerosFollowed : Bool
deriving DecidableEq, Repr, Inhabited

namespace NumberScan

def appendDigit (value : Value) (digit : Nat) : Option Value :=
  (Value.ofInt? (value.toInt * 10)).bind fun tens => Value.ofInt? (tens.toInt + digit)

section

variable {ν : Type} {m : Type → Type} [Monad m] [Counter ν m]

def start : NumberScan ν := ⟨some .zero, Counter.ofNat 0, false⟩

def pushM (scan : NumberScan ν) (digit : Nat) : m (NumberScan ν) := do
  let digits ← Counter.add scan.digits (Counter.ofNat 1)
  return {
    value := scan.value.bind (appendDigit · digit)
    digits
    zerosFollowed := scan.zerosFollowed ||
      (scan.value == some .zero && decide (2 ≤ Counter.toNat scan.digits) && digit != 0) }

def ofDigitsM (digits : List Char) : m (NumberScan ν) :=
  digits.foldlM (fun scan ch => scan.pushM (digitValue ch)) start

end

def push (scan : NumberScan) (digit : Nat) : NumberScan := Id.run (scan.pushM digit)

def ofDigits (digits : List Char) : NumberScan := Id.run (ofDigitsM digits)

theorem push_eq (scan : NumberScan) (digit : Nat) :
    scan.push digit =
      { value := scan.value.bind (appendDigit · digit)
        digits := scan.digits + 1
        zerosFollowed := scan.zerosFollowed ||
          (scan.value == some .zero && decide (2 ≤ scan.digits) && digit != 0) } := rfl

/-- The value of the literal, given the character after it. A value out of range is reported
before a bad run of zeros. -/
def finish {ν : Type} (scan : NumberScan ν) (after : Option Char) : Except LexFault.Cause Value :=
  match scan.value with
  | none => .error .numberTooLarge
  | some value =>
    if scan.zerosFollowed || (value == .zero && !endsZero after) then .error .invalidNumberFormat
    else .ok value

end NumberScan

end AssignLang
