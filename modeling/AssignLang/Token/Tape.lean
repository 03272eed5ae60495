import AssignLang.Token.Stream

namespace AssignLang

structure Tape where
  lexemes : List Lexeme
  ending : Except LexFault Sight
  ending_ne : ∀ lexeme, ending ≠ .ok (.lexeme lexeme) := by intro lexeme h; cases h

namespace Tape

def next (tape : Tape) : Except LexFault Sight × Tape :=
  match tape.lexemes with
  | [] => (tape.ending, tape)
  | lexeme :: rest => (.ok (.lexeme lexeme), { tape with lexemes := rest })

def peek (tape : Tape) : Except LexFault Sight × Tape := (tape.next.1, tape)

def size (tape : Tape) : Nat := tape.lexemes.length

theorem size_next {tape : Tape} {lexeme : Lexeme} (h : tape.next.1 = .ok (.lexeme lexeme)) :
    tape.next.2.size < tape.size := by
  unfold next at h ⊢
  split at h
  · exact absurd h (tape.ending_ne lexeme)
  · rename_i first rest eq
    simp [size, eq]

instance : TokenSource Tape where
  next := next
  peek := peek
  size := size
  size_next := size_next
  size_peek := fun _ => Nat.le_refl _
  next_peek := fun h => h

def ofString (text : String) : Tape :=
  match (TokenStream.ofString text).pullAll with
  | (lexemes, some fault, _) => { lexemes, ending := .error fault }
  | (lexemes, none, after) => { lexemes, ending := .ok (.finish after.line after.offset) }

end Tape

end AssignLang
