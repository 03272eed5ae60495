import AssignLang.Token.Scanner

namespace AssignLang

inductive Diagnostic.Cause where
  | notStatement
  | expectedVariable
  | expectedAssignment
  | expectedSemicolon
  | unknownVariable (name : String)
  | unexpectedToken
  | missingClosingBrace
  | overflow
  | lexical (fault : LexFault)
deriving DecidableEq, Repr, Inhabited

structure Diagnostic where
  cause : Diagnostic.Cause
  line : Nat
  span : Span
deriving DecidableEq, Repr, Inhabited

namespace Diagnostic

def Cause.summary : Cause → String
  | notStatement => "syntax error"
  | expectedVariable => "expected variable"
  | expectedAssignment => "expected assignment"
  | expectedSemicolon => "expected semicolon"
  | unknownVariable _ => "unknown variable"
  | unexpectedToken => "unexpected token"
  | missingClosingBrace => "missing closing brace"
  | overflow => "integer overflow"
  | lexical fault => fault.cause.summary

def message (diagnostic : Diagnostic) : String :=
  match diagnostic.cause with
  | .lexical fault => fault.message
  | cause => s!"{cause.summary} at line {diagnostic.line}"

def Cause.label : Cause → String
  | notStatement => "Statements must start with a variable"
  | expectedVariable => "Expected variable"
  | expectedAssignment => "Expected `=`"
  | expectedSemicolon => "Expected `;`"
  | unknownVariable _ => "Unknown variable"
  | unexpectedToken => "Not expected this"
  | missingClosingBrace => "Expected `)`"
  | overflow => "Integer overflow"
  | lexical fault => fault.cause.label

def Cause.notes : Cause → List String
  | unknownVariable name => [s!"`{name}` is used before it is assigned"]
  | unexpectedToken =>
    ["Expected one of: ", "- a number", "- a variable", "- `(`", "- `+` or `-`"]
  | overflow => [s!"values must fit in {Value.lowest} ..= {Value.highest}"]
  | lexical fault => fault.cause.notes
  | notStatement | expectedVariable | expectedAssignment | expectedSemicolon
  | missingClosingBrace => []

def Cause.title : Cause → String
  | lexical _ => "Lexical error"
  | unknownVariable _ | overflow => "Evaluation error"
  | notStatement | expectedVariable | expectedAssignment | expectedSemicolon
  | unexpectedToken | missingClosingBrace => "Syntax error"

def ofFault (fault : LexFault) : Diagnostic := ⟨.lexical fault, fault.line, fault.span⟩

def atLexeme (cause : Cause) (lexeme : Lexeme) : Diagnostic := ⟨cause, lexeme.line, lexeme.span⟩

def atSight (cause : Cause) : Sight → Diagnostic
  | .lexeme lexeme => atLexeme cause lexeme
  | .finish line offset => ⟨cause, line, .atOffset offset⟩

end Diagnostic

end AssignLang
