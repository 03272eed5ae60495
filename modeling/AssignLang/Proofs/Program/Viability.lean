import AssignLang.Proofs.Program.Grammar

/-!
# Viable prefixes

A sequence of tokens is viable if it can be continued to a sentence of the grammar. Whether it is
can be told from left to right: all that matters of the tokens so far is what may stand next
(`Expectation`), which is a matter of open parentheses and of whether an operand or an operator is
due. A sequence is viable exactly if every token of it was expected (`viable_iff`), and a sentence
if in the end a statement may start (`isSentence_iff`).
-/

namespace AssignLang

def tokensOf (lexemes : List Lexeme) : List Token := lexemes.map (·.token)

@[simp]
theorem tokensOf_nil : tokensOf [] = [] := rfl

@[simp]
theorem tokensOf_cons (lexeme : Lexeme) (rest : List Lexeme) :
    tokensOf (lexeme :: rest) = lexeme.token :: tokensOf rest := rfl

@[simp]
theorem tokensOf_append (front back : List Lexeme) :
    tokensOf (front ++ back) = tokensOf front ++ tokensOf back := List.map_append

def IsSentence (tokens : List Token) : Prop :=
  ∃ program : Program, tokensOf program.lexemes = tokens

/-- Some tokens after these make them a sentence. -/
def Viable (tokens : List Token) : Prop := ∃ more, IsSentence (tokens ++ more)

/-- What may stand next: a statement, its assignment sign, or an operand or an operator inside a
number of open parentheses. -/
inductive Expectation where
  | statement
  | assignment
  | operand (depth : Nat)
  | operator (depth : Nat)
deriving DecidableEq, Repr

namespace Expectation

def step : Expectation → Token → Option Expectation
  | statement, .identifier _ => some assignment
  | assignment, .operator .assign => some (operand 0)
  | operand depth, .openParen => some (operand (depth + 1))
  | operand depth, .operator .plus => some (operand depth)
  | operand depth, .operator .minus => some (operand depth)
  | operand depth, .number _ => some (operator depth)
  | operand depth, .identifier _ => some (operator depth)
  | operator depth, .operator .plus => some (operand depth)
  | operator depth, .operator .minus => some (operand depth)
  | operator depth, .operator .star => some (operand depth)
  | operator (depth + 1), .closeParen => some (operator depth)
  | operator 0, .semicolon => some statement
  | _, _ => none

def advance (expected : Expectation) (tokens : List Token) : Option Expectation :=
  tokens.foldlM step expected

@[simp]
theorem advance_nil (expected : Expectation) : expected.advance [] = some expected := rfl

@[simp]
theorem advance_cons (expected : Expectation) (token : Token) (rest : List Token) :
    expected.advance (token :: rest) = (expected.step token).bind (·.advance rest) := rfl

@[simp]
theorem advance_append (expected : Expectation) (front back : List Token) :
    expected.advance (front ++ back) = (expected.advance front).bind (·.advance back) :=
  List.foldlM_append

theorem step_sign_of_operand (sign : Sign) (depth : Nat) :
    (operand depth).step (.operator sign.operator) = some (operand depth) := by
  cases sign <;> rfl

theorem step_sign_of_operator (sign : Sign) (depth : Nat) :
    (operator depth).step (.operator sign.operator) = some (operand depth) := by
  cases sign <;> rfl

end Expectation

open Expectation

theorem Tree.advance_tokens {level : Level} (tree : Tree level) (depth : Nat) :
    (operand depth).advance (tokensOf tree.lexemes) = some (operator depth) := by
  induction tree generalizing depth with
  | number value place => rfl
  | name spelling place => rfl
  | group opening body closing ih => simp [lexemes, Place.lexeme, step, ih]
  | signed sign place operand ih => simp [lexemes, Place.lexeme, step_sign_of_operand, ih]
  | ofFactor factor ih => exact ih depth
  | product left place right ihl ihr => simp [lexemes, Place.lexeme, step, ihl, ihr]
  | ofTerm term ih => exact ih depth
  | sum left sign place right ihl ihr =>
      simp [lexemes, Place.lexeme, step_sign_of_operator, ihl, ihr]

theorem Statement.advance_tokens (statement : Statement) :
    Expectation.statement.advance (tokensOf statement.lexemes) = some .statement := by
  simp [lexemes, Place.lexeme, step, Tree.advance_tokens]

theorem Program.advance_tokens (program : Program) :
    Expectation.statement.advance (tokensOf program.lexemes) = some .statement := by
  induction program with
  | nil => rfl
  | cons statement rest ih =>
      change Expectation.statement.advance (tokensOf (statement.lexemes ++ lexemes rest)) = _
      simp [Statement.advance_tokens, ih]

def Place.start : Place := ⟨1, .atOffset 0⟩

def LacksFactor (tokens : List Token) : Prop :=
  ∃ grow : Tree .factor → Tree .expression,
    ∀ factor, tokensOf (grow factor).lexemes = tokens ++ tokensOf factor.lexemes

theorem lacksFactor_nil : LacksFactor [] := ⟨fun factor => .ofTerm (.ofFactor factor), fun _ => rfl⟩

theorem LacksFactor.signed {tokens : List Token} (h : LacksFactor tokens) (sign : Sign) :
    LacksFactor (tokens ++ [.operator sign.operator]) := by
  obtain ⟨grow, lexemes⟩ := h
  refine ⟨fun factor => grow (.signed sign .start factor), fun factor => ?_⟩
  simp [lexemes, Tree.lexemes, Place.lexeme]

theorem lacksFactor_sum (tree : Tree .expression) (sign : Sign) :
    LacksFactor (tokensOf tree.lexemes ++ [.operator sign.operator]) := by
  refine ⟨fun factor => .sum tree sign .start (.ofFactor factor), fun factor => ?_⟩
  simp [Tree.lexemes, Place.lexeme]

theorem lacksFactor_product (tree : Tree .expression) :
    LacksFactor (tokensOf tree.lexemes ++ [.operator .star]) := by
  -- the star goes on with the last term of the expression
  cases tree with
  | ofTerm term =>
      refine ⟨fun factor => .ofTerm (.product term .start factor), fun factor => ?_⟩
      simp [Tree.lexemes, Place.lexeme]
  | sum left sign place right =>
      refine ⟨fun factor => .sum left sign place (.product right .start factor), fun factor => ?_⟩
      simp [Tree.lexemes, Place.lexeme]

/-- An expression may stand after the tokens, inside this many open parentheses. -/
inductive Inside : Nat → List Token → Prop
  | statement (program : Program) (name : String) :
      Inside 0 (tokensOf program.lexemes ++ [.identifier name, .operator .assign])
  | group {depth : Nat} {outer part : List Token} (inside : Inside depth outer)
      (lacks : LacksFactor part) : Inside (depth + 1) (outer ++ part ++ [.openParen])

theorem isSentence_concat (program : Program) (name : String) (tree : Tree .expression) :
    IsSentence (tokensOf program.lexemes ++ [.identifier name, .operator .assign] ++
      tokensOf tree.lexemes ++ [.semicolon]) := by
  refine ⟨program ++ [⟨name, .start, .start, tree, .start⟩], ?_⟩
  simp [Program.lexemes, Statement.lexemes, Place.lexeme]

theorem Inside.isSentence {depth : Nat} {outer : List Token} (h : Inside depth outer) :
    ∃ more, ∀ tree : Tree .expression, IsSentence (outer ++ tokensOf tree.lexemes ++ more) := by
  induction h with
  | statement program name => exact ⟨[.semicolon], isSentence_concat program name⟩
  | group inside lacks ih =>
      obtain ⟨more, sentence⟩ := ih
      obtain ⟨grow, lexemes⟩ := lacks
      refine ⟨.closeParen :: more, fun tree => ?_⟩
      have closed := sentence (grow (.group .start tree .start))
      simpa [lexemes, Tree.lexemes, Place.lexeme] using closed

/-- How the tokens are derived as far as they go, if the expectation is right about them. -/
def Expectation.Reached : Expectation → List Token → Prop
  | statement, tokens => IsSentence tokens
  | assignment, tokens =>
    ∃ (program : Program) (name : String), tokens = tokensOf program.lexemes ++ [.identifier name]
  | operand depth, tokens =>
    ∃ outer part, Inside depth outer ∧ LacksFactor part ∧ tokens = outer ++ part
  | operator depth, tokens =>
    ∃ outer, ∃ tree : Tree .expression, Inside depth outer ∧
      tokens = outer ++ tokensOf tree.lexemes

namespace Expectation

variable {expected next : Expectation} {tokens : List Token} {token : Token} {depth : Nat}

theorem Reached.operand_factor (h : (operand depth).Reached tokens) (factor : Tree .factor) :
    (operator depth).Reached (tokens ++ tokensOf factor.lexemes) := by
  obtain ⟨outer, part, inside, ⟨grow, lexemes⟩, rfl⟩ := h
  exact ⟨outer, grow factor, inside, by simp [lexemes]⟩

theorem Reached.operand_sign (h : (operand depth).Reached tokens) (sign : Sign) :
    (operand depth).Reached (tokens ++ [.operator sign.operator]) := by
  obtain ⟨outer, part, inside, lacks, rfl⟩ := h
  exact ⟨outer, _, inside, lacks.signed sign, by simp⟩

theorem Reached.operand_open (h : (operand depth).Reached tokens) :
    (operand (depth + 1)).Reached (tokens ++ [.openParen]) := by
  obtain ⟨outer, part, inside, lacks, rfl⟩ := h
  exact ⟨_, [], inside.group lacks, lacksFactor_nil, by simp⟩

theorem Reached.operator_sign (h : (operator depth).Reached tokens) (sign : Sign) :
    (operand depth).Reached (tokens ++ [.operator sign.operator]) := by
  obtain ⟨outer, tree, inside, rfl⟩ := h
  exact ⟨outer, _, inside, lacksFactor_sum tree sign, by simp⟩

theorem Reached.operator_star (h : (operator depth).Reached tokens) :
    (operand depth).Reached (tokens ++ [.operator .star]) := by
  obtain ⟨outer, tree, inside, rfl⟩ := h
  exact ⟨outer, _, inside, lacksFactor_product tree, by simp⟩

theorem Reached.operator_close (h : (operator (depth + 1)).Reached tokens) :
    (operator depth).Reached (tokens ++ [.closeParen]) := by
  obtain ⟨outer, tree, inside, rfl⟩ := h
  cases inside with
  | @group _ outer part inside lacks =>
      have grouped : (operand depth).Reached (outer ++ part) := ⟨outer, part, inside, lacks, rfl⟩
      simpa [Tree.lexemes, Place.lexeme] using grouped.operand_factor (.group .start tree .start)

theorem Reached.operator_semicolon (h : (operator 0).Reached tokens) :
    statement.Reached (tokens ++ [.semicolon]) := by
  obtain ⟨outer, tree, inside, rfl⟩ := h
  cases inside with
  | statement program name => exact isSentence_concat program name tree

theorem Reached.step (h : expected.Reached tokens) (took : expected.step token = some next) :
    next.Reached (tokens ++ [token]) := by
  unfold Expectation.step at took
  split at took
  all_goals cases took
  · obtain ⟨program, rfl⟩ := h
    exact ⟨program, _, rfl⟩
  · obtain ⟨program, name, rfl⟩ := h
    exact ⟨_, [], .statement program name, lacksFactor_nil, by simp⟩
  · exact h.operand_open
  · exact h.operand_sign .plus
  · exact h.operand_sign .minus
  · rename_i value
    exact h.operand_factor (.number value .start)
  · rename_i name
    exact h.operand_factor (.name name .start)
  · exact h.operator_sign .plus
  · exact h.operator_sign .minus
  · exact h.operator_star
  · exact h.operator_close
  · exact h.operator_semicolon

theorem Reached.advance {more : List Token} (h : expected.Reached tokens)
    (took : expected.advance more = some next) : next.Reached (tokens ++ more) := by
  induction more generalizing expected tokens with
  | nil =>
      cases took
      rwa [List.append_nil]
  | cons token more ih =>
      obtain ⟨mid, first, rest⟩ := Option.bind_eq_some_iff.1 took
      simpa using ih (h.step first) rest

theorem Reached.viable (h : expected.Reached tokens) : Viable tokens := by
  -- whatever is expected, a number and what closes the parentheses may follow
  have closes {depth : Nat} {outer : List Token} (inside : Inside depth outer)
      (tree : Tree .expression) : Viable (outer ++ tokensOf tree.lexemes) := by
    obtain ⟨more, sentence⟩ := inside.isSentence
    exact ⟨more, sentence tree⟩
  cases expected with
  | statement => exact ⟨[], by rwa [List.append_nil]⟩
  | assignment =>
      obtain ⟨program, name, rfl⟩ := h
      refine ⟨[.operator .assign, .number .zero, .semicolon], ?_⟩
      have sentence := isSentence_concat program name (.ofTerm (.ofFactor (.number .zero .start)))
      simpa [Tree.lexemes, Place.lexeme] using sentence
  | operand depth =>
      obtain ⟨outer, part, inside, ⟨grow, lexemes⟩, rfl⟩ := h
      obtain ⟨more, sentence⟩ := closes inside (grow (.number .zero .start))
      refine ⟨.number .zero :: more, ?_⟩
      simpa [lexemes, Tree.lexemes, Place.lexeme] using sentence
  | operator depth =>
      obtain ⟨outer, tree, inside, rfl⟩ := h
      exact closes inside tree

end Expectation

theorem reached_statement_nil : Expectation.statement.Reached [] := ⟨[], rfl⟩

theorem isSentence_iff {tokens : List Token} :
    IsSentence tokens ↔ Expectation.statement.advance tokens = some .statement := by
  constructor
  · rintro ⟨program, rfl⟩
    exact program.advance_tokens
  · exact reached_statement_nil.advance

theorem viable_iff {tokens : List Token} :
    Viable tokens ↔ (Expectation.statement.advance tokens).isSome = true := by
  rw [Option.isSome_iff_exists]
  constructor
  · rintro ⟨more, sentence⟩
    rw [isSentence_iff, advance_append] at sentence
    obtain ⟨expected, took, -⟩ := Option.bind_eq_some_iff.1 sentence
    exact ⟨expected, took⟩
  · rintro ⟨expected, took⟩
    exact (reached_statement_nil.advance took).viable

instance (tokens : List Token) : Decidable (IsSentence tokens) :=
  decidable_of_iff _ isSentence_iff.symm

instance (tokens : List Token) : Decidable (Viable tokens) := decidable_of_iff _ viable_iff.symm

example : Viable [.identifier "a", .operator .assign, .operator .minus, .openParen] := by decide

example : ¬ Viable [.identifier "a", .operator .assign, .openParen, .closeParen] := by decide

end AssignLang
