import AssignLang.Token.Scanner

namespace AssignLang

class TokenSource (σ : Type) where
  next : σ → Except LexFault Sight × σ
  peek : σ → Except LexFault Sight × σ
  size : σ → Nat
  size_next : ∀ {source : σ} {lexeme : Lexeme},
    (next source).1 = .ok (.lexeme lexeme) → size (next source).2 < size source
  size_peek : ∀ source : σ, size (peek source).2 ≤ size source
  next_peek : ∀ {source : σ} {lexeme : Lexeme},
    (peek source).1 = .ok (.lexeme lexeme) → (next (peek source).2).1 = .ok (.lexeme lexeme)

end AssignLang
