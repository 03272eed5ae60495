import AssignLang.Token
import AssignLang.Text.Quoted

namespace AssignLang

inductive LexFault.Cause where
  | invalidNumberFormat
  | unexpectedCharacter (ch : Char)
  | numberTooLarge
deriving DecidableEq, Repr, Inhabited

structure LexFault where
  cause : LexFault.Cause
  line : Nat
  span : Span
deriving DecidableEq, Repr, Inhabited

namespace LexFault

def Cause.summary : Cause → String
  | invalidNumberFormat => "invalid number format"
  | unexpectedCharacter _ => "unexpected character"
  | numberTooLarge => "number too large"

def message (fault : LexFault) : String := s!"{fault.cause.summary} at line {fault.line}"

def Cause.label : Cause → String
  | invalidNumberFormat => "Invalid number format"
  | unexpectedCharacter _ => "Unexpected character"
  | numberTooLarge => "Number too large"

def Cause.notes : Cause → List String
  | invalidNumberFormat =>
    ["a run of leading zeros may not be followed by other digits",
     "a zero must be followed by whitespace, an operator, `;` or `)`"]
  | unexpectedCharacter ch => [s!"don't know what to do with {quoted ch}"]
  | numberTooLarge => [s!"literals must fit in {Value.lowest} ..= {Value.highest}"]

end LexFault

end AssignLang
