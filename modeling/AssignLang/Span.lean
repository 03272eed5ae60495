namespace AssignLang

/-- The bytes from `start` up to, and not including, `stop`, as exact offsets. -/
structure Span where
  start : Nat
  stop : Nat
deriving DecidableEq, Repr, Inhabited

namespace Span

def atOffset (offset : Nat) : Span := ⟨offset, offset⟩

def text (span : Span) : String := s!"{span.start}..{span.stop}"

def shift (span : Span) (bytes : Nat) : Span := ⟨span.start + bytes, span.stop + bytes⟩

def clamp (span : Span) (length : Nat) : Span := ⟨min span.start length, min span.stop length⟩

end Span

end AssignLang
