import AssignLang.Proofs.Program.Interruption
import AssignLang.Proofs.Program.Viability

namespace AssignLang

variable {store : Store} {tape after : Tape} {total value : Value} {diagnostic : Diagnostic}

/-! ## One step over a tape -/

namespace Tape

@[elab_as_elim]
theorem shape {motive : Tape → Prop}
    (fault : ∀ fault, motive { lexemes := [], ending := .error fault })
    (finish : ∀ line offset, motive { lexemes := [], ending := .ok (.finish line offset) })
    (lexeme : ∀ (lexeme : Lexeme) (rest : Tape), motive (rest.prepend [lexeme])) (tape : Tape) :
    motive tape := by
  obtain ⟨_ | ⟨first, rest⟩, ending, ending_ne⟩ := tape
  · rcases ending with reason | next | ⟨line, offset⟩
    · exact fault reason
    · exact absurd rfl (ending_ne next)
    · exact finish line offset
  · exact lexeme first ⟨rest, ending, ending_ne⟩

theorem stops_finish (tokens : List Token) (line offset : Nat) :
    Stops tokens { lexemes := [], ending := .ok (.finish line offset) } :=
  ⟨.finish line offset, rfl, by simp⟩

theorem size_lt_prepend (tape : Tape) (lexeme : Lexeme) :
    tape.size < (tape.prepend [lexeme]).size := by
  simp [size, prepend]

end Tape

theorem productAfter_cases (store : Store) (total : Value) (tape : Tape) :
    (∃ fault, tape.lexemes = [] ∧ tape.ending = .error fault ∧
      productAfter store total tape = (.error (.ofFault fault), tape)) ∨
    (tape.Stops [.operator .star] ∧ productAfter store total tape = (.ok total, tape)) ∨
    ∃ (lexeme : Lexeme) (rest : Tape), lexeme.token = .operator .star ∧
      tape = rest.prepend [lexeme] ∧ productAfter store total tape =
        operandOf (factor store) total.mul? lexeme (productAfter store) tape := by
  cases tape using Tape.shape with
  | fault fault =>
      rw [productAfter_eq]
      exact .inl ⟨fault, rfl, rfl, rfl⟩
  | finish line offset =>
      exact .inr (.inl ⟨Tape.stops_finish _ _ _, productAfter_of_stops (Tape.stops_finish _ _ _) _⟩)
  | lexeme lexeme rest =>
      by_cases star : lexeme.token = .operator .star
      · refine .inr (.inr ⟨lexeme, rest, star, rfl, ?_⟩)
        rw [productAfter_eq, Tape.peekOf_prepend, Ending.andThen_ok]
        simp only [star]
      · have stops : (rest.prepend [lexeme]).Stops [.operator .star] :=
          Tape.stops_prepend (by simpa using star)
        exact .inr (.inl ⟨stops, productAfter_of_stops stops total⟩)

theorem sumAfter_cases (store : Store) (total : Value) (tape : Tape) :
    (∃ fault, tape.lexemes = [] ∧ tape.ending = .error fault ∧
      sumAfter store total tape = (.error (.ofFault fault), tape)) ∨
    (tape.Stops [.operator .plus, .operator .minus] ∧
      sumAfter store total tape = (.ok total, tape)) ∨
    ∃ (sign : Sign) (lexeme : Lexeme) (rest : Tape), lexeme.token = .operator sign.operator ∧
      tape = rest.prepend [lexeme] ∧ sumAfter store total tape =
        operandOf (term store) (sign.between? total) lexeme (sumAfter store) tape := by
  cases tape using Tape.shape with
  | fault fault =>
      rw [sumAfter_eq]
      exact .inl ⟨fault, rfl, rfl, rfl⟩
  | finish line offset =>
      exact .inr (.inl ⟨Tape.stops_finish _ _ _, sumAfter_of_stops (Tape.stops_finish _ _ _) _⟩)
  | lexeme lexeme rest =>
      by_cases signed : ∃ sign : Sign, lexeme.token = .operator sign.operator
      · obtain ⟨sign, token⟩ := signed
        refine .inr (.inr ⟨sign, lexeme, rest, token, rfl, ?_⟩)
        rw [sumAfter_eq, Tape.peekOf_prepend, Ending.andThen_ok]
        cases sign <;> simp only [token] <;> rfl
      · have stops : (rest.prepend [lexeme]).Stops [.operator .plus, .operator .minus] := by
          refine Tape.stops_prepend fun member => signed ?_
          rcases List.mem_pair.1 member with plus | minus
          · exact ⟨.plus, plus⟩
          · exact ⟨.minus, minus⟩
        exact .inr (.inl ⟨stops, sumAfter_of_stops stops total⟩)

theorem of_operandOf_error {operand : Tape → Ending Tape Value} {fold : Value → Option Value}
    {operator : Lexeme} {rest : Value → Tape → Ending Tape Value}
    (h : operandOf operand fold operator rest (tape.prepend [operator]) =
      (.error diagnostic, after)) :
    operand tape = (.error diagnostic, after) ∨ diagnostic = .atLexeme .overflow operator ∨
      ∃ second total mid, operand tape = (.ok second, mid) ∧
        rest total mid = (.error diagnostic, after) := by
  rw [operandOf, Tape.nextOf_prepend, Ending.andThen_ok] at h
  rcases Ending.andThen_eq_error h with failed | ⟨second, mid, read, folds⟩
  · exact .inl failed
  rcases Ending.andThen_eq_error folds with failed | ⟨total, mid', folded, ends⟩
  · exact .inr (.inl (checkedOf_eq_error failed))
  · obtain ⟨-, rfl⟩ := checkedOf_eq_ok folded
    exact .inr (.inr ⟨second, total, mid', read, ends⟩)

/-! ## What stands after an expression -/

theorem productAfter_stops (h : productAfter store total tape = (.ok value, after)) :
    after.Stops [.operator .star] := by
  induction size : tape.size using Nat.strongRecOn generalizing tape total with
  | ind n ih =>
      rcases productAfter_cases store total tape with
        ⟨fault, -, -, ends⟩ | ⟨stops, ends⟩ | ⟨lexeme, rest, -, rfl, ends⟩
      all_goals rw [ends] at h
      · cases h
      · cases h
        exact stops
      · obtain ⟨second, total, mid, read, -, goes⟩ := of_operandOf h
        have shorter : mid.size < rest.size := size_lt_of_factor store read
        exact ih mid.size (size ▸ Nat.lt_trans shorter (rest.size_lt_prepend lexeme)) goes rfl

theorem term_stops (h : term store tape = (.ok value, after)) : after.Stops [.operator .star] := by
  rw [term_eq] at h
  obtain ⟨first, mid, -, goes⟩ := Ending.andThen_eq_ok h
  exact productAfter_stops goes

theorem sumAfter_stops (start : tape.Stops [.operator .star])
    (h : sumAfter store total tape = (.ok value, after)) :
    after.Stops [.operator .star] ∧ after.Stops [.operator .plus, .operator .minus] := by
  -- no star stands at the start, since a sum goes on from a term, and every operand is a term again
  induction size : tape.size using Nat.strongRecOn generalizing tape total with
  | ind n ih =>
      rcases sumAfter_cases store total tape with
        ⟨fault, -, -, ends⟩ | ⟨stops, ends⟩ | ⟨sign, lexeme, rest, -, rfl, ends⟩
      all_goals rw [ends] at h
      · cases h
      · cases h
        exact ⟨start, stops⟩
      · obtain ⟨second, total, mid, read, -, goes⟩ := of_operandOf h
        have shorter : mid.size < rest.size := size_lt_of_term store read
        exact ih mid.size (size ▸ Nat.lt_trans shorter (rest.size_lt_prepend lexeme))
          (term_stops read) goes rfl

theorem expression_stops (h : expression store tape = (.ok value, after)) :
    after.Stops [.operator .star] ∧ after.Stops [.operator .plus, .operator .minus] := by
  rw [expression_eq] at h
  obtain ⟨first, mid, read, goes⟩ := Ending.andThen_eq_ok h
  exact sumAfter_stops (term_stops read) goes

/-! ## Blame -/

def Diagnostic.Cause.isSyntactic : Diagnostic.Cause → Bool
  | notStatement | expectedAssignment | expectedSemicolon | unexpectedToken
  | missingClosingBrace => true
  | _ => false

def Diagnostic.Cause.isEvaluation : Diagnostic.Cause → Bool
  | unknownVariable _ | overflow => true
  | _ => false

section

variable {cause : Diagnostic.Cause}

theorem Diagnostic.Cause.ne_lexical (plain : cause.isLexical = false) (fault : LexFault) :
    cause ≠ .lexical fault := by
  rintro rfl
  cases plain

theorem Diagnostic.Cause.of_isSyntactic (h : cause.isSyntactic = true) :
    cause ≠ .expectedVariable ∧ cause.isLexical = false ∧ cause.isEvaluation = false := by
  cases cause <;> simp_all [isSyntactic, isLexical, isEvaluation]

theorem Diagnostic.Cause.of_isEvaluation (h : cause.isEvaluation = true) :
    cause ≠ .expectedVariable ∧ cause.isLexical = false ∧ cause.isSyntactic = false := by
  cases cause <;> simp_all [isSyntactic, isLexical, isEvaluation]

end

namespace Expectation

/-- The diagnostic is right about the tape if this is expected at its start. -/
inductive Blames (expected : Expectation) (tape : Tape) : Diagnostic → Prop
  | refused {cause : Diagnostic.Cause} {lexeme : Lexeme} {reached : Expectation}
      (front rest : List Lexeme) (syntactic : cause.isSyntactic = true)
      (split : tape.lexemes = front ++ lexeme :: rest)
      (took : expected.advance (tokensOf front) = some reached)
      (refuses : reached.step lexeme.token = none) : Blames expected tape (.atLexeme cause lexeme)
  | missing {cause : Diagnostic.Cause} {line offset : Nat} {reached : Expectation}
      (syntactic : cause.isSyntactic = true) (ending : tape.ending = .ok (.finish line offset))
      (took : expected.advance (tokensOf tape.lexemes) = some reached)
      (more : reached ≠ .statement) : Blames expected tape (.atSight cause (.finish line offset))
  | fault {fault : LexFault} {reached : Expectation} (ending : tape.ending = .error fault)
      (took : expected.advance (tokensOf tape.lexemes) = some reached) :
      Blames expected tape (.ofFault fault)
  | evaluation {cause : Diagnostic.Cause} {lexeme : Lexeme} {reached : Expectation}
      (front rest : List Lexeme) (evaluation : cause.isEvaluation = true)
      (split : tape.lexemes = front ++ lexeme :: rest)
      (took : expected.advance (tokensOf (front ++ [lexeme])) = some reached) :
      Blames expected tape (.atLexeme cause lexeme)

variable {expected mid : Expectation} {cause : Diagnostic.Cause}

theorem Blames.prepend {lexemes : List Lexeme} (h : mid.Blames tape diagnostic)
    (first : expected.advance (tokensOf lexemes) = some mid) :
    expected.Blames (tape.prepend lexemes) diagnostic := by
  have together {more : List Lexeme} {reached : Expectation}
      (took : mid.advance (tokensOf more) = some reached) :
      expected.advance (tokensOf (lexemes ++ more)) = some reached := by
    rw [tokensOf_append, advance_append, first]
    exact took
  cases h with
  | refused front rest syntactic split took refuses =>
      exact .refused (lexemes ++ front) rest syntactic (by simp [Tape.prepend, split])
        (together took) refuses
  | missing syntactic ending took more => exact .missing syntactic ending (together took) more
  | fault ending took => exact .fault ending (together took)
  | evaluation front rest evaluation split took =>
      have took' := together took
      rw [← List.append_assoc] at took'
      exact .evaluation (lexemes ++ front) rest evaluation (by simp [Tape.prepend, split]) took'

theorem Blames.behind {lexeme : Lexeme} (h : mid.Blames tape diagnostic)
    (first : expected.step lexeme.token = some mid) :
    expected.Blames (tape.prepend [lexeme]) diagnostic :=
  h.prepend (by simp [first])

end Expectation

variable {expected : Expectation} {cause : Diagnostic.Cause}

open Expectation

theorem blames_fault {fault : LexFault} (nil : tape.lexemes = [])
    (ending : tape.ending = .error fault) : expected.Blames tape (.ofFault fault) :=
  .fault ending (by rw [nil]; rfl)

theorem blames_expectOf {token : Token} (syntactic : cause.isSyntactic = true)
    (more : expected ≠ .statement)
    (refuses : ∀ (lexeme : Lexeme) (rest : Tape), tape = rest.prepend [lexeme] →
      lexeme.token ≠ token → expected.step lexeme.token = none)
    (h : expectOf token cause tape = (.error diagnostic, after)) :
    expected.Blames tape diagnostic := by
  cases tape using Tape.shape with
  | fault fault =>
      cases h
      exact blames_fault rfl rfl
  | finish line offset =>
      cases h
      exact .missing syntactic rfl rfl more
  | lexeme lexeme rest =>
      rw [expectOf, Tape.nextOf_prepend, Ending.andThen_ok] at h
      dsimp only at h
      split at h
      · cases h
      · rename_i other
        cases h
        exact .refused [] rest.lexemes syntactic rfl rfl (refuses lexeme rest rfl other)

/-- Every level that fails on the tape, or after a derivation, blames what it should. -/
structure Blaming (store : Store) (tape : Tape) : Prop where
  read (level : Level) (depth : Nat) {diagnostic : Diagnostic} {after : Tape} :
    level.read store tape = (.error diagnostic, after) → (operand depth).Blames tape diagnostic
  resume (level : Level) (depth : Nat) {total : Value} {diagnostic : Diagnostic} {after : Tape} :
    level.resume store total tape = (.error diagnostic, after) →
      (operator depth).Blames tape diagnostic

def Expectation.closing : Nat → Token
  | 0 => .semicolon
  | _ + 1 => .closeParen

theorem step_operator_eq_none {depth : Nat} {token : Token}
    (star : token ∉ [.operator .star]) (sign : token ∉ [.operator .plus, .operator .minus])
    (other : token ≠ closing depth) : (operator depth).step token = none := by
  unfold step
  split <;> simp_all [closing]

theorem blames_closing (depth : Nat) {mid : Tape} (syntactic : cause.isSyntactic = true)
    (read : expression store tape = (.ok value, mid))
    (failed : expectOf (closing depth) cause mid = (.error diagnostic, after)) :
    (operand depth).Blames tape diagnostic := by
  obtain ⟨star, sign⟩ := expression_stops read
  obtain ⟨tree, rfl, -⟩ := (sound store tape).read .expression read
  refine (blames_expectOf syntactic ?_ ?_ failed).prepend (tree.advance_tokens depth)
  · exact nofun
  · -- what stands after the expression neither goes on with it nor ends it
    rintro lexeme rest rfl other
    obtain ⟨_, ⟨⟩, star⟩ := star
    obtain ⟨_, ⟨⟩, sign⟩ := sign
    exact step_operator_eq_none (star lexeme rfl) (sign lexeme rfl) other

theorem blames_operand (level operand : Level) {lexeme : Lexeme} {rest : Tape}
    {fold : Value → Option Value} {depth : Nat}
    (inner : ∀ tape : Tape, tape.size ≤ rest.size → Blaming store tape)
    (taken : (operator depth).step lexeme.token = some (.operand depth))
    (h : operandOf (operand.read store) fold lexeme (level.resume store) (rest.prepend [lexeme]) =
      (.error diagnostic, after)) :
    (operator depth).Blames (rest.prepend [lexeme]) diagnostic := by
  rcases of_operandOf_error h with failed | rfl | ⟨second, total, mid, read, goes⟩
  · exact ((inner rest (Nat.le_refl _)).read operand depth failed).behind taken
  · have took : (operator depth).advance (tokensOf [lexeme]) = some (.operand depth) := by
      simp [taken]
    exact .evaluation [] rest.lexemes rfl rfl took
  · obtain ⟨tree, rfl, -⟩ := (sound store rest).read operand read
    have shorter : mid.size ≤ (mid.prepend tree.lexemes).size := by
      simp [Tape.size, Tape.prepend]
    have further := (inner mid shorter).resume level depth goes
    exact (further.prepend (tree.advance_tokens depth)).behind taken

section Steps

variable (smaller : ∀ rest : Tape, rest.size < tape.size → Blaming store rest) (depth : Nat)

include smaller

theorem blames_factor (h : factor store tape = (.error diagnostic, after)) :
    (operand depth).Blames tape diagnostic := by
  rw [factor_eq] at h
  cases tape using Tape.shape with
  | fault fault =>
      cases h
      exact blames_fault rfl rfl
  | finish line offset =>
      cases h
      exact .missing rfl rfl rfl nofun
  | lexeme lexeme rest =>
      have inner := smaller rest (rest.size_lt_prepend lexeme)
      obtain ⟨token, line, span⟩ := lexeme
      rw [Tape.nextOf_prepend, Ending.andThen_ok] at h
      rcases token with number | name | (_ | _ | _ | _) | _ | _ | _
      all_goals dsimp only at h
      case openParen =>
        rcases Ending.andThen_eq_error h with failed | ⟨value, mid, read, closes⟩
        · exact (inner.read .expression (depth + 1) failed).behind rfl
        rcases Ending.andThen_eq_error closes with failed | ⟨_, _, _, ends⟩
        · exact (blames_closing (depth + 1) rfl read failed).behind rfl
        · cases ends
      case operator.plus => exact (inner.read .factor depth h).behind rfl
      case operator.minus =>
        rcases Ending.andThen_eq_error h with failed | ⟨value, mid, read, negated⟩
        · exact (inner.read .factor depth failed).behind rfl
        · cases checkedOf_eq_error negated
          exact .evaluation [] rest.lexemes rfl rfl rfl
      case number => cases h
      case identifier =>
        split at h
        · cases h
        · cases h
          exact .evaluation [] rest.lexemes rfl rfl rfl
      all_goals
        cases h
        exact .refused [] rest.lexemes rfl rfl rfl rfl

theorem blames_product (h : productAfter store total tape = (.error diagnostic, after)) :
    (operator depth).Blames tape diagnostic := by
  rcases productAfter_cases store total tape with
    ⟨fault, nil, ending, ends⟩ | ⟨-, ends⟩ | ⟨lexeme, rest, token, rfl, ends⟩
  all_goals rw [ends] at h
  · cases h
    exact blames_fault nil ending
  · cases h
  · refine blames_operand .term .factor ?_ ?_ h
    · intro tape shorter
      exact smaller tape (Nat.lt_of_le_of_lt shorter (rest.size_lt_prepend lexeme))
    · rw [token]
      rfl

theorem blames_sum (h : sumAfter store total tape = (.error diagnostic, after)) :
    (operator depth).Blames tape diagnostic := by
  rcases sumAfter_cases store total tape with
    ⟨fault, nil, ending, ends⟩ | ⟨-, ends⟩ | ⟨sign, lexeme, rest, token, rfl, ends⟩
  all_goals rw [ends] at h
  · cases h
    exact blames_fault nil ending
  · cases h
  · refine blames_operand .expression .term ?_ ?_ h
    · intro tape shorter
      exact smaller tape (Nat.lt_of_le_of_lt shorter (rest.size_lt_prepend lexeme))
    · rw [token]
      exact step_sign_of_operator sign depth

theorem blames_term (h : term store tape = (.error diagnostic, after)) :
    (operand depth).Blames tape diagnostic := by
  rw [term_eq] at h
  rcases Ending.andThen_eq_error h with failed | ⟨first, mid, read, goes⟩
  · exact blames_factor smaller depth failed
  · have less := size_lt_of_factor store read
    obtain ⟨tree, rfl, -⟩ := (sound store tape).read .factor read
    exact ((smaller mid less).resume .term depth goes).prepend (tree.advance_tokens depth)

theorem blames_expression (h : expression store tape = (.error diagnostic, after)) :
    (operand depth).Blames tape diagnostic := by
  rw [expression_eq] at h
  rcases Ending.andThen_eq_error h with failed | ⟨first, mid, read, goes⟩
  · exact blames_term smaller depth failed
  · have less := size_lt_of_term store read
    obtain ⟨tree, rfl, -⟩ := (sound store tape).read .term read
    exact ((smaller mid less).resume .expression depth goes).prepend (tree.advance_tokens depth)

end Steps

theorem blaming (store : Store) (tape : Tape) : Blaming store tape := by
  -- as for derivations: a token is taken before a level is read anew
  induction size : tape.size using Nat.strongRecOn generalizing tape with
  | ind n ih =>
      have smaller (rest : Tape) (less : rest.size < tape.size) : Blaming store rest :=
        ih rest.size (size ▸ less) rest rfl
      refine ⟨fun level depth {diagnostic after} h => ?_,
        fun level depth {total diagnostic after} h => ?_⟩
      · cases level with
        | factor => exact blames_factor smaller depth h
        | term => exact blames_term smaller depth h
        | expression => exact blames_expression smaller depth h
      · cases level with
        | factor => cases h
        | term => exact blames_product smaller depth h
        | expression => exact blames_sum smaller depth h

/-! ## Statements and runs -/

theorem blames_statement {name : String} (place : Place) {rest : Tape}
    (h : statement store (rest.prepend [place.lexeme (.identifier name)]) =
      (.error diagnostic, after)) :
    Expectation.statement.Blames (rest.prepend [place.lexeme (.identifier name)]) diagnostic := by
  rw [statement_eq, Tape.nextOf_prepend, Tape.prepend_nil, Ending.andThen_ok] at h
  refine Blames.behind ?_ rfl
  rcases Ending.andThen_eq_error h with failed | ⟨_, source, assigned, reads⟩
  · refine blames_expectOf rfl nofun (fun lexeme rest _ other => ?_) failed
    unfold step
    split <;> simp_all
  obtain ⟨assignPlace, rfl⟩ := Tape.of_expectOf assigned
  refine Blames.behind ?_ rfl
  rcases Ending.andThen_eq_error reads with failed | ⟨value, mid, read, closes⟩
  · exact (blaming store source).read .expression 0 failed
  rcases Ending.andThen_eq_error closes with failed | ⟨_, _, _, ends⟩
  · exact blames_closing 0 rfl read failed
  · cases ends

theorem blames_nextStatement (h : nextStatement store tape = (.error diagnostic, after)) :
    Expectation.statement.Blames tape diagnostic := by
  rw [nextStatement_eq] at h
  cases tape using Tape.shape with
  | fault fault =>
      cases h
      exact blames_fault rfl rfl
  | finish line offset => cases h
  | lexeme lexeme rest =>
      obtain ⟨token, line, span⟩ := lexeme
      rw [Tape.peekOf_prepend, Ending.andThen_ok] at h
      cases token with
      | identifier name =>
          rcases Ending.andThen_eq_error h with failed | ⟨_, _, _, ends⟩
          · exact blames_statement ⟨line, span⟩ failed
          · cases ends
      | _ =>
          cases h
          exact .refused [] rest.lexemes rfl rfl rfl rfl

theorem Session.blames_run (session : Session) (text : String)
    (member : diagnostic ∈ (session.run text).diagnostics) :
    Expectation.statement.Blames (Spot.ofString text).tape diagnostic := by
  rw [run_eq_proceed_tape] at member
  have interrupted : (session.clear.proceed (Spot.ofString text).tape).1.diagnostics ≠
      session.clear.diagnostics := List.ne_nil_of_mem member
  obtain ⟨program, rest, store, last, taped, -, fails, ends⟩ := proceed_interrupted interrupted
  rw [ends] at member
  obtain rfl : diagnostic = last := List.mem_singleton.1 member
  rw [taped]
  exact (blames_nextStatement (Prod.ext fails rfl)).prepend program.advance_tokens

theorem Spot.ending_ofString {text : String} {line offset : Nat}
    (h : (ofString text).tape.ending = .ok (.finish line offset)) :
    line = 1 + text.toList.count '\n' ∧ offset = text.utf8ByteSize := by
  obtain ⟨rfl, rfl⟩ := tape_ending h
  simp [last, ofString, ofChars, move, lineFeeds, byteLength_toList]

theorem viable_of_advance {tokens : List Token} {reached : Expectation}
    (took : Expectation.statement.advance tokens = some reached) : Viable tokens :=
  viable_iff.2 (by rw [took]; rfl)

/-- The diagnostic of a run splits the tokens of its text. A token that is out of place comes after
viable tokens that it makes not viable; at the end, viable tokens are not yet a sentence; the tokens
before a lexical fault are viable, and so are those up to the place of a failed evaluation. No run
lacks a variable. -/
theorem Session.diagnostic_viable (session : Session) (text : String) {diagnostic : Diagnostic}
    (member : diagnostic ∈ (session.run text).diagnostics) :
    let lexemes := (TokenStream.ofString text).pullAll.1
    let fault? := (TokenStream.ofString text).pullAll.2.1
    diagnostic.cause ≠ .expectedVariable ∧
    (diagnostic.cause.isSyntactic = true →
      (∃ front lexeme rest, lexemes = front ++ lexeme :: rest ∧
        diagnostic = .atLexeme diagnostic.cause lexeme ∧
        Viable (tokensOf front) ∧ ¬ Viable (tokensOf (front ++ [lexeme]))) ∨
      (diagnostic.span = .atOffset text.utf8ByteSize ∧ fault? = none ∧
        Viable (tokensOf lexemes) ∧ ¬ IsSentence (tokensOf lexemes))) ∧
    (∀ fault, diagnostic.cause = .lexical fault →
      fault? = some fault ∧ Viable (tokensOf lexemes)) ∧
    (diagnostic.cause.isEvaluation = true →
      ∃ front lexeme rest, lexemes = front ++ lexeme :: rest ∧
        diagnostic = .atLexeme diagnostic.cause lexeme ∧
        Viable (tokensOf (front ++ [lexeme]))) := by
  obtain ⟨pulled, stopped⟩ := TokenStream.pullAll_eq_tape text
  rw [pulled, stopped]
  cases session.blames_run text member with
  | @refused cause lexeme reached front rest syntactic split took refuses =>
      obtain ⟨never, plain, evaluation⟩ := Diagnostic.Cause.of_isSyntactic syntactic
      have rejected : ¬ Viable (tokensOf (front ++ [lexeme])) := by
        simp [viable_iff, took, refuses]
      refine ⟨never, fun _ => .inl ?_,
        fun fault same => absurd same (Diagnostic.Cause.ne_lexical plain fault), ?_⟩
      · exact ⟨front, lexeme, rest, split, rfl, viable_of_advance took, rejected⟩
      · simp [Diagnostic.atLexeme, evaluation]
  | missing syntactic ending took more =>
      obtain ⟨never, plain, evaluation⟩ := Diagnostic.Cause.of_isSyntactic syntactic
      obtain ⟨rfl, rfl⟩ := Spot.ending_ofString ending
      have unfinished : ¬ IsSentence (tokensOf (Spot.ofString text).tape.lexemes) := by
        simp [isSentence_iff, took, more]
      refine ⟨never, fun _ => .inr ?_,
        fun fault same => absurd same (Diagnostic.Cause.ne_lexical plain fault), ?_⟩
      · exact ⟨rfl, by simp [Tape.fault?, ending], viable_of_advance took, unfinished⟩
      · simp [Diagnostic.atSight, evaluation]
  | fault ending took =>
      refine ⟨by simp [Diagnostic.ofFault], ?_, ?_, ?_⟩
      · simp [Diagnostic.ofFault, Diagnostic.Cause.isSyntactic]
      · rintro _ ⟨⟩
        exact ⟨by simp [Tape.fault?, ending], viable_of_advance took⟩
      · simp [Diagnostic.ofFault, Diagnostic.Cause.isEvaluation]
  | @evaluation cause lexeme reached front rest evaluation split took =>
      obtain ⟨never, plain, syntactic⟩ := Diagnostic.Cause.of_isEvaluation evaluation
      refine ⟨never, ?_, fun fault same => absurd same (Diagnostic.Cause.ne_lexical plain fault),
        fun _ => ?_⟩
      · simp [Diagnostic.atLexeme, syntactic]
      · exact ⟨front, lexeme, rest, split, rfl, viable_of_advance took⟩

theorem Session.diagnostic_viable_unclosed :
    ⟨.missingClosingBrace, 2, ⟨13, 14⟩⟩ ∈ (new.run "a = 1;\nb = (a; ?").diagnostics ∧
      ∃ front lexeme rest, (TokenStream.ofString "a = 1;\nb = (a; ?").pullAll.1 =
          front ++ lexeme :: rest ∧ lexeme.span = ⟨13, 14⟩ ∧
        Viable (tokensOf front) ∧ ¬ Viable (tokensOf (front ++ [lexeme])) := by
  have member : ⟨.missingClosingBrace, 2, ⟨13, 14⟩⟩ ∈
      (new.run "a = 1;\nb = (a; ?").diagnostics := by
    rw [run, TokenStream.ofString_eq]
    decide +kernel
  refine ⟨member, ?_⟩
  obtain ⟨-, syntactic, -, -⟩ := diagnostic_viable new _ member
  rcases syntactic rfl with ⟨front, lexeme, rest, split, located, before, beyond⟩ | ⟨ended, -⟩
  · exact ⟨front, lexeme, rest, split, (congrArg Diagnostic.span located).symm, before, beyond⟩
  · simp only [Span.atOffset, Span.mk.injEq] at ended
    omega

end AssignLang
