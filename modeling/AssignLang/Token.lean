import AssignLang.Span
import AssignLang.Value

namespace AssignLang

inductive Operator where
  | assign
  | plus
  | minus
  | star
deriving DecidableEq, Repr, Inhabited

def Operator.literal : Operator → String
  | assign => "="
  | plus => "+"
  | minus => "-"
  | star => "*"

inductive Token where
  | number (value : Value)
  | identifier (name : String)
  | operator (op : Operator)
  | semicolon
  | openParen
  | closeParen
deriving DecidableEq, Repr, Inhabited

namespace Token

def literal : Token → String
  | number value => value.text
  | identifier name => name
  | operator op => op.literal
  | semicolon => ";"
  | openParen => "("
  | closeParen => ")"

def describe : Token → String
  | number value => s!"Number({value.text})"
  | identifier name => s!"Identifier({name})"
  | operator op => s!"Operator({op.literal})"
  | semicolon => "Punctuation(;)"
  | openParen => "("
  | closeParen => ")"

def isIdentifier : Token → Bool
  | identifier _ => true
  | _ => false

end Token

structure Lexeme where
  token : Token
  line : Nat
  span : Span
deriving DecidableEq, Repr, Inhabited

end AssignLang
