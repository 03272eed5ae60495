import AssignLang.Proofs.Program.Equations
import AssignLang.Proofs.Program.Grammar
import AssignLang.Proofs.Token.Stream

namespace AssignLang

/-! ## Tapes from the front -/

namespace Tape

variable {tape : Tape}

@[simp]
theorem prepend_nil : tape.prepend [] = tape := rfl

theorem prepend_append (front back : List Lexeme) :
    tape.prepend (front ++ back) = (tape.prepend back).prepend front := by
  simp [prepend]

theorem prepend_cons (lexeme : Lexeme) (rest : List Lexeme) :
    tape.prepend (lexeme :: rest) = (tape.prepend rest).prepend [lexeme] := rfl

theorem nextOf_prepend (lexeme : Lexeme) (rest : List Lexeme) :
    nextOf (tape.prepend (lexeme :: rest)) = (.ok (.lexeme lexeme), tape.prepend rest) := rfl

theorem peekOf_prepend (lexeme : Lexeme) (rest : List Lexeme) :
    peekOf (tape.prepend (lexeme :: rest)) =
      (.ok (.lexeme lexeme), tape.prepend (lexeme :: rest)) := rfl

theorem expectOf_prepend (token : Token) (place : Place) (cause : Diagnostic.Cause) :
    expectOf token cause (tape.prepend [place.lexeme token]) = (.ok (), tape) := by
  rw [expectOf, nextOf_prepend]
  simp [Ending.andThen, Place.lexeme]

def Stops (tokens : List Token) (tape : Tape) : Prop :=
  ∃ sight, tape.next.1 = .ok sight ∧ ∀ lexeme, sight = .lexeme lexeme → lexeme.token ∉ tokens

theorem stops_prepend {tokens : List Token} {lexeme : Lexeme} {rest : List Lexeme}
    (h : lexeme.token ∉ tokens) : (tape.prepend (lexeme :: rest)).Stops tokens :=
  ⟨.lexeme lexeme, rfl, by rintro _ ⟨⟩; exact h⟩

theorem peekOf_of_next {sight : Sight} (h : tape.next.1 = .ok sight) :
    peekOf tape = (.ok sight, tape) := by
  simp only [peekOf, TokenSource.peek, peek, h]
  rfl

end Tape

variable {store : Store}

theorem productAfter_of_stops {tape : Tape} (h : tape.Stops [.operator .star]) (product : Value) :
    productAfter store product tape = (.ok product, tape) := by
  obtain ⟨sight, next, other⟩ := h
  rw [productAfter_eq, Tape.peekOf_of_next next]
  cases sight with
  | finish line offset => rfl
  | lexeme lexeme =>
      have different := other lexeme rfl
      simp only [Ending.andThen]
      split
      · rename_i same
        simp [same] at different
      · rfl

theorem sumAfter_of_stops {tape : Tape}
    (h : tape.Stops [.operator .plus, .operator .minus]) (total : Value) :
    sumAfter store total tape = (.ok total, tape) := by
  obtain ⟨sight, next, other⟩ := h
  rw [sumAfter_eq, Tape.peekOf_of_next next]
  cases sight with
  | finish line offset => rfl
  | lexeme lexeme =>
      have different := other lexeme rfl
      simp only [Ending.andThen]
      split
      · rename_i same
        simp [same] at different
      · rename_i same
        simp [same] at different
      · rfl

/-! ## Reading a derivation -/

def Follows {σ α β : Type} (ending : Ending σ α) (result : Except Diagnostic β)
    (rest : β → Ending σ α) : Prop :=
  match result with
  | .ok value => ending = rest value
  | .error diagnostic => ending.1 = .error diagnostic

theorem Follows.trans {σ α β γ : Type} {ending : Ending σ α} {result : Except Diagnostic β}
    {rest : β → Ending σ α} {result' : β → Except Diagnostic γ} {rest' : γ → Ending σ α}
    (h : Follows ending result rest) (hrest : ∀ value, Follows (rest value) (result' value) rest') :
    Follows ending (result >>= result') rest' := by
  cases result with
  | ok value =>
      cases h
      exact hrest value
  | error diagnostic => exact h

theorem Follows.andThen {σ α β γ δ : Type} {ending : Ending σ α} {result : Except Diagnostic β}
    {rest : β → Ending σ α} {next : α → σ → Ending σ γ} {result' : β → Except Diagnostic δ}
    {rest' : δ → Ending σ γ} (h : Follows ending result rest)
    (hnext : ∀ value, Follows ((rest value).andThen next) (result' value) rest') :
    Follows (ending.andThen next) (result >>= result') rest' := by
  cases result with
  | ok value =>
      cases h
      exact hnext value
  | error diagnostic =>
      obtain ⟨last, source⟩ := ending
      cases h
      rfl

theorem Follows.andThen_of_eq {σ α β γ : Type} {ending : Ending σ α} {result : Except Diagnostic β}
    {rest : β → Ending σ α} {next : α → σ → Ending σ γ} {rest' : β → Ending σ γ}
    (h : Follows ending result rest) (hnext : ∀ value, (rest value).andThen next = rest' value) :
    Follows (ending.andThen next) result rest' := by
  have follows : Follows (ending.andThen next) (result >>= .ok) rest' := h.andThen hnext
  cases result <;> exact follows

theorem follows_checkedOf {σ : Type} (result : Option Value) (operator : Lexeme) (source : σ)
    (rest : Value → σ → Ending σ Value) :
    Follows ((checkedOf result operator source).andThen rest) (Tree.settled result operator)
      fun value => rest value source := by
  cases result <;> rfl

def Level.read (store : Store) : Level → Tape → Ending Tape Value
  | factor => AssignLang.factor store
  | term => AssignLang.term store
  | expression => AssignLang.expression store

def Level.resume (store : Store) : Level → Value → Tape → Ending Tape Value
  | factor => fun value tape => (.ok value, tape)
  | term => productAfter store
  | expression => sumAfter store

theorem follows_operandOf {tape : Tape} {operator : Lexeme} {operand : Tape → Ending Tape Value}
    {fold : Value → Option Value} {rest : Value → Tape → Ending Tape Value} {level : Level}
    {right : Tree level}
    (h : Follows (operand (tape.prepend right.lexemes)) (right.eval store) fun value =>
      (.ok value, tape)) :
    Follows (operandOf operand fold operator rest (tape.prepend (operator :: right.lexemes)))
      (right.eval store >>= fun value => Tree.settled (fold value) operator)
      fun value => rest value tape := by
  rw [operandOf, Tape.nextOf_prepend]
  exact h.andThen fun value => follows_checkedOf (fold value) operator tape rest

/-- On the tokens of a derivation the routine of its level ends as the derivation is evaluated. After
an expression no star may follow: it would go on with the last term. -/
theorem Tree.follows_read {level : Level} (tree : Tree level) (store : Store) (tape : Tape)
    (stops : level = .expression → tape.Stops [.operator .star]) :
    Follows (level.read store (tape.prepend tree.lexemes)) (tree.eval store) fun value =>
      level.resume store value tape := by
  -- the tape is general: a part is read with the rest of the derivation still ahead
  induction tree generalizing tape with
  | number value place =>
      change factor store (tape.prepend [place.lexeme (.number value)]) = (.ok value, tape)
      rw [factor_eq, Tape.nextOf_prepend]
      rfl
  | name spelling place =>
      change Follows (factor store (tape.prepend [place.lexeme (.identifier spelling)])) _ _
      rw [factor_eq, Tape.nextOf_prepend]
      simp only [Ending.andThen, Place.lexeme, eval]
      cases store.get? spelling <;> rfl
  | group opening body closing ih =>
      have stopsAtClosing : (tape.prepend [closing.lexeme .closeParen]).Stops [.operator .star] :=
        Tape.stops_prepend (by simp [Place.lexeme])
      have stopsAtClosing' : (tape.prepend [closing.lexeme .closeParen]).Stops
          [.operator .plus, .operator .minus] := Tape.stops_prepend (by simp [Place.lexeme])
      change Follows (factor store (tape.prepend (opening.lexeme .openParen ::
        (body.lexemes ++ [closing.lexeme .closeParen])))) _ _
      rw [factor_eq, Tape.nextOf_prepend, Tape.prepend_append]
      refine (ih _ fun _ => stopsAtClosing).andThen_of_eq fun value => ?_
      simp only [Level.resume]
      rw [sumAfter_of_stops stopsAtClosing']
      simp only [Ending.andThen, Tape.expectOf_prepend]
  | signed sign place operand ih =>
      change Follows (factor store (tape.prepend (place.lexeme (.operator sign.operator) ::
        operand.lexemes))) _ _
      rw [factor_eq, Tape.nextOf_prepend]
      have follows := ih tape (by simp)
      cases sign with
      | plus =>
          exact follows.trans fun value => rfl
      | minus =>
          refine follows.andThen fun value => ?_
          change Follows (checkedOf value.neg? _ tape) _ _
          cases negated : value.neg? <;>
            simp [Follows, checkedOf, settled, Sign.before?, negated, Level.resume,
              Sign.operator]
  | ofFactor factor ih =>
      change Follows (AssignLang.term store (tape.prepend factor.lexemes)) _ _
      rw [term_eq]
      exact (ih tape (by simp)).andThen_of_eq fun value => rfl
  | product left place right ihl ihr =>
      change Follows (AssignLang.term store (tape.prepend (left.lexemes ++
        place.lexeme (.operator .star) :: right.lexemes))) _ _
      rw [Tape.prepend_append]
      refine (ihl _ (by simp)).trans fun value => ?_
      change Follows (productAfter store value _) _ _
      rw [productAfter_eq, Tape.peekOf_prepend]
      exact follows_operandOf (ihr tape (by simp))
  | ofTerm term ih =>
      change Follows (AssignLang.expression store (tape.prepend term.lexemes)) _ _
      rw [expression_eq]
      refine (ih tape (by simp)).andThen_of_eq fun value => ?_
      change Ending.andThen (productAfter store value tape) _ = _
      rw [productAfter_of_stops (stops rfl)]
      rfl
  | sum left sign place right ihl ihr =>
      change Follows (AssignLang.expression store (tape.prepend (left.lexemes ++
        place.lexeme (.operator sign.operator) :: right.lexemes))) _ _
      rw [Tape.prepend_append]
      have stopsAtSign : (tape.prepend (place.lexeme (.operator sign.operator) ::
          right.lexemes)).Stops [.operator .star] :=
        Tape.stops_prepend (by cases sign <;> simp [Place.lexeme, Sign.operator])
      have operand : Follows (AssignLang.term store (tape.prepend right.lexemes))
          (right.eval store) fun value => (.ok value, tape) := by
        simpa only [Level.read, Level.resume, productAfter_of_stops (stops rfl)] using
          ihr tape (by simp)
      refine (ihl _ fun _ => stopsAtSign).trans fun value => ?_
      change Follows (sumAfter store value _) _ _
      rw [sumAfter_eq, Tape.peekOf_prepend]
      cases sign with
      | plus => exact follows_operandOf operand
      | minus => exact follows_operandOf operand

theorem Tree.follows_expression (tree : Tree .expression) (store : Store) {tape : Tape}
    {lexeme : Lexeme}
    (h : ∀ operator, lexeme.token ≠ .operator operator) :
    Follows (expression store ((tape.prepend [lexeme]).prepend tree.lexemes)) (tree.eval store)
      fun value => (.ok value, tape.prepend [lexeme]) := by
  have stops (tokens : List Operator) :
      (tape.prepend [lexeme]).Stops (tokens.map .operator) := by
    refine Tape.stops_prepend fun member => ?_
    obtain ⟨operator, _, same⟩ := List.mem_map.1 member
    exact h operator same.symm
  have follows := tree.follows_read store (tape.prepend [lexeme]) fun _ => stops [.star]
  simpa only [Level.read, Level.resume, sumAfter_of_stops (stops [.plus, .minus])] using follows

theorem Statement.follows_statement (statement : Statement) (store : Store) (tape : Tape) :
    Follows (AssignLang.statement store (tape.prepend statement.lexemes))
      (statement.body.eval store) fun value => (.ok ⟨statement.name, value⟩, tape) := by
  obtain ⟨name, namePlace, assignPlace, body, semicolonPlace⟩ := statement
  change Follows (AssignLang.statement store (tape.prepend
    (namePlace.lexeme (.identifier name) :: assignPlace.lexeme (.operator .assign) ::
      (body.lexemes ++ [semicolonPlace.lexeme .semicolon])))) _ _
  rw [statement_eq, Tape.nextOf_prepend, Ending.andThen_ok]
  change Follows (Ending.andThen (expectOf _ _ _) _) _ _
  rw [Tape.prepend_cons, Tape.expectOf_prepend, Ending.andThen_ok, Tape.prepend_append]
  refine (body.follows_expression store (by simp [Place.lexeme])).andThen_of_eq fun value => ?_
  rw [Ending.andThen_ok, Tape.expectOf_prepend, Ending.andThen_ok]

theorem Statement.follows_nextStatement (statement : Statement) (store : Store) (tape : Tape) :
    Follows (nextStatement store (tape.prepend statement.lexemes)) (statement.body.eval store)
      fun value => (.ok (some ⟨statement.name, value⟩), tape) := by
  have seen : peekOf (tape.prepend statement.lexemes) =
      (.ok (.lexeme (statement.namePlace.lexeme (.identifier statement.name))),
        tape.prepend statement.lexemes) := Tape.peekOf_prepend _ _
  rw [nextStatement_eq, seen, Ending.andThen_ok]
  exact (statement.follows_statement store tape).andThen_of_eq fun value => rfl

/-! ## Derivations that were read -/

namespace Tape

theorem of_nextOf {tape after : Tape} {lexeme : Lexeme}
    (h : nextOf tape = (.ok (.lexeme lexeme), after)) : tape = after.prepend [lexeme] := by
  obtain ⟨shown, left⟩ := Prod.mk.inj h
  have shown := Routine.ofReading_eq_ok shown
  obtain ⟨lexemes, ending, ending_ne⟩ := tape
  cases lexemes with
  | nil => exact absurd shown (ending_ne lexeme)
  | cons first rest =>
      cases left
      cases shown
      rfl

theorem of_nextOf_finish {tape after : Tape} {line offset : Nat}
    (h : nextOf tape = (.ok (.finish line offset), after)) :
    tape.lexemes = [] ∧ tape.ending = .ok (.finish line offset) := by
  have shown := Routine.ofReading_eq_ok (Prod.mk.inj h).1
  obtain ⟨lexemes, ending, ending_ne⟩ := tape
  cases lexemes with
  | nil => exact ⟨rfl, shown⟩
  | cons first rest => cases shown

theorem of_peekOf {tape after : Tape} {sight : Sight} (h : peekOf tape = (.ok sight, after)) :
    after = tape ∧ nextOf tape = (.ok sight, (nextOf tape).2) := by
  obtain ⟨shown, left⟩ := Prod.mk.inj h
  exact ⟨left.symm, Prod.ext shown rfl⟩

theorem of_expectOf {tape after : Tape} {token : Token} {cause : Diagnostic.Cause}
    (h : expectOf token cause tape = (.ok (), after)) :
    ∃ place : Place, tape = after.prepend [place.lexeme token] := by
  obtain ⟨sight, rest, taken, ends⟩ := Ending.andThen_eq_ok h
  cases sight with
  | finish line offset => cases ends
  | lexeme lexeme =>
      dsimp only at ends
      split at ends
      · rename_i same
        cases ends
        exact ⟨⟨lexeme.line, lexeme.span⟩, same ▸ of_nextOf taken⟩
      · cases ends

end Tape

def Derives (store : Store) (level : Level) (tape : Tape) (value : Value) (after : Tape) : Prop :=
  ∃ tree : Tree level, tape = after.prepend tree.lexemes ∧ tree.eval store = .ok value

/-- From the tape, what a level reads is a derivation, and so is what it reads after one. -/
structure Sound (store : Store) (tape : Tape) : Prop where
  read (level : Level) {value : Value} {after : Tape} :
    level.read store tape = (.ok value, after) → Derives store level tape value after
  resume {level : Level} {total value : Value} {after : Tape} (left : Tree level) :
    left.eval store = .ok total → level.resume store total tape = (.ok value, after) →
      Derives store level (tape.prepend left.lexemes) value after

theorem of_operandOf {operand : Tape → Ending Tape Value} {fold : Value → Option Value}
    {operator : Lexeme} {rest : Value → Tape → Ending Tape Value} {tape after : Tape}
    {value : Value}
    (h : operandOf operand fold operator rest (tape.prepend [operator]) = (.ok value, after)) :
    ∃ second total mid, operand tape = (.ok second, mid) ∧ fold second = some total ∧
      rest total mid = (.ok value, after) := by
  rw [operandOf, Tape.nextOf_prepend, Ending.andThen_ok] at h
  obtain ⟨second, mid, read, folds⟩ := Ending.andThen_eq_ok h
  obtain ⟨total, mid', folded, ends⟩ := Ending.andThen_eq_ok folds
  obtain ⟨result, rfl⟩ := checkedOf_eq_ok folded
  exact ⟨second, total, mid', read, result, ends⟩

section Steps

variable {tape after : Tape} {value : Value}

theorem derives_factor (smaller : ∀ rest : Tape, rest.size < tape.size → Sound store rest)
    (h : factor store tape = (.ok value, after)) : Derives store .factor tape value after := by
  rw [factor_eq] at h
  obtain ⟨sight, rest, taken, ends⟩ := Ending.andThen_eq_ok h
  cases sight with
  | finish line offset => cases ends
  | lexeme lexeme =>
      have sound := smaller rest (size_lt_of_nextOf taken)
      obtain ⟨token, line, span⟩ := lexeme
      obtain rfl := Tape.of_nextOf taken
      rcases token with number | name | (_ | _ | _ | _) | _ | _ | _
      all_goals dsimp only at ends
      case openParen =>
        obtain ⟨inner, mid, read, closes⟩ := Ending.andThen_eq_ok ends
        obtain ⟨_, last, closed, result⟩ := Ending.andThen_eq_ok closes
        obtain ⟨closing, rfl⟩ := Tape.of_expectOf closed
        obtain ⟨tree, rfl, eval⟩ := sound.read .expression read
        cases result
        exact ⟨.group ⟨line, span⟩ tree closing, by simp [Tree.lexemes, Tape.prepend, Place.lexeme],
          eval⟩
      case operator.plus =>
        obtain ⟨tree, rfl, eval⟩ := sound.read .factor ends
        refine ⟨.signed .plus ⟨line, span⟩ tree, rfl, ?_⟩
        rw [Tree.eval, eval]
        rfl
      case operator.minus =>
        obtain ⟨inner, mid, read, negated⟩ := Ending.andThen_eq_ok ends
        obtain ⟨result, rfl⟩ := checkedOf_eq_ok negated
        obtain ⟨tree, rfl, eval⟩ := sound.read .factor read
        refine ⟨.signed .minus ⟨line, span⟩ tree, rfl, ?_⟩
        rw [Tree.eval, eval]
        exact Tree.settled_eq_ok.2 result
      case number =>
        cases ends
        exact ⟨.number value ⟨line, span⟩, rfl, rfl⟩
      case identifier =>
        split at ends
        · rename_i found
          cases ends
          exact ⟨.name name ⟨line, span⟩, rfl, by simp [Tree.eval, found]⟩
        · cases ends
      all_goals cases ends

theorem derives_operand {level operand : Level} {rest : Tape} {lexeme : Lexeme}
    {fold : Value → Option Value} {left : Tree level} (grow : Tree operand → Tree level)
    (smaller : ∀ tape : Tape, tape.size ≤ rest.size → Sound store tape)
    (lexemes : ∀ right, (grow right).lexemes = left.lexemes ++ lexeme :: right.lexemes)
    (eval : ∀ right second total, right.eval store = .ok second → fold second = some total →
      (grow right).eval store = .ok total)
    (h : operandOf (operand.read store) fold lexeme (level.resume store) (rest.prepend [lexeme]) =
      (.ok value, after)) :
    Derives store level ((rest.prepend [lexeme]).prepend left.lexemes) value after := by
  obtain ⟨second, total, mid, read, folded, goes⟩ := of_operandOf h
  obtain ⟨right, rfl, eval'⟩ := (smaller rest (Nat.le_refl _)).read operand read
  have shorter : mid.size ≤ (mid.prepend right.lexemes).size := by
    simp [Tape.size, Tape.prepend]
  have eval := eval right second total eval' folded
  have derives := (smaller mid shorter).resume (grow right) eval goes
  rw [lexemes] at derives
  simpa [Tape.prepend] using derives

theorem derives_product (smaller : ∀ rest : Tape, rest.size < tape.size → Sound store rest)
    {total : Value} (left : Tree .term) (eval : left.eval store = .ok total)
    (h : productAfter store total tape = (.ok value, after)) :
    Derives store .term (tape.prepend left.lexemes) value after := by
  rw [productAfter_eq] at h
  obtain ⟨sight, shown, seen, ends⟩ := Ending.andThen_eq_ok h
  obtain ⟨rfl, taken⟩ := Tape.of_peekOf seen
  cases sight with
  | finish line offset =>
      cases ends
      exact ⟨left, rfl, eval⟩
  | lexeme lexeme =>
      have less := size_lt_of_nextOf taken
      generalize (nextOf shown).2 = rest at taken less
      obtain rfl := Tape.of_nextOf taken
      dsimp only at ends
      split at ends
      · rename_i token
        refine derives_operand (fun right => .product left ⟨lexeme.line, lexeme.span⟩ right)
          (fun tape shorter => smaller tape (Nat.lt_of_le_of_lt shorter less)) ?_ ?_ ends
        · simp [Tree.lexemes, Place.lexeme, ← token]
        · intro right second result eval' folded
          exact Tree.binary_eq_ok.2 ⟨total, second, eval, eval', folded⟩
      · cases ends
        exact ⟨left, rfl, eval⟩

theorem derives_sum (smaller : ∀ rest : Tape, rest.size < tape.size → Sound store rest)
    {total : Value} (left : Tree .expression) (eval : left.eval store = .ok total)
    (h : sumAfter store total tape = (.ok value, after)) :
    Derives store .expression (tape.prepend left.lexemes) value after := by
  rw [sumAfter_eq] at h
  obtain ⟨sight, shown, seen, ends⟩ := Ending.andThen_eq_ok h
  obtain ⟨rfl, taken⟩ := Tape.of_peekOf seen
  cases sight with
  | finish line offset =>
      cases ends
      exact ⟨left, rfl, eval⟩
  | lexeme lexeme =>
      have less := size_lt_of_nextOf taken
      generalize (nextOf shown).2 = rest at taken less
      obtain rfl := Tape.of_nextOf taken
      have derives (sign : Sign) (token : lexeme.token = .operator sign.operator)
          (folds : operandOf (term store) (sign.between? total) lexeme (sumAfter store)
            (rest.prepend [lexeme]) = (.ok value, after)) :
          Derives store .expression ((rest.prepend [lexeme]).prepend left.lexemes) value after := by
        refine derives_operand (fun right => .sum left sign ⟨lexeme.line, lexeme.span⟩ right)
          (fun tape shorter => smaller tape (Nat.lt_of_le_of_lt shorter less)) ?_ ?_ folds
        · simp [Tree.lexemes, Place.lexeme, ← token]
        · intro right second result eval' folded
          exact Tree.binary_eq_ok.2 ⟨total, second, eval, eval', folded⟩
      dsimp only at ends
      split at ends
      · rename_i token
        exact derives .plus token ends
      · rename_i token
        exact derives .minus token ends
      · cases ends
        exact ⟨left, rfl, eval⟩

theorem derives_term (smaller : ∀ rest : Tape, rest.size < tape.size → Sound store rest)
    (h : term store tape = (.ok value, after)) : Derives store .term tape value after := by
  rw [term_eq] at h
  obtain ⟨first, mid, read, goes⟩ := Ending.andThen_eq_ok h
  have less := size_lt_of_factor store read
  obtain ⟨tree, rfl, eval⟩ := derives_factor smaller read
  exact (smaller mid less).resume (Tree.ofFactor tree) eval goes

theorem derives_expression (smaller : ∀ rest : Tape, rest.size < tape.size → Sound store rest)
    (h : expression store tape = (.ok value, after)) :
    Derives store .expression tape value after := by
  rw [expression_eq] at h
  obtain ⟨first, mid, read, goes⟩ := Ending.andThen_eq_ok h
  have less := size_lt_of_term store read
  obtain ⟨tree, rfl, eval⟩ := derives_term smaller read
  exact (smaller mid less).resume (Tree.ofTerm tree) eval goes

end Steps

theorem sound (store : Store) (tape : Tape) : Sound store tape := by
  -- every production takes a token before it reads a level anew, so fewer tokens are left there
  induction size : tape.size using Nat.strongRecOn generalizing tape with
  | ind n ih =>
      have smaller (rest : Tape) (less : rest.size < tape.size) : Sound store rest :=
        ih rest.size (size ▸ less) rest rfl
      refine ⟨fun level {value after} h => ?_, fun {level total value after} left eval h => ?_⟩
      · cases level with
        | factor => exact derives_factor smaller h
        | term => exact derives_term smaller h
        | expression => exact derives_expression smaller h
      · cases level with
        | factor =>
            cases h
            exact ⟨left, rfl, eval⟩
        | term => exact derives_product smaller left eval h
        | expression => exact derives_sum smaller left eval h

theorem statement_sound {tape after : Tape} {assignment : Assignment}
    (h : statement store tape = (.ok assignment, after)) :
    ∃ statement : Statement, tape = after.prepend statement.lexemes ∧
      statement.name = assignment.name ∧ statement.body.eval store = .ok assignment.value := by
  rw [statement_eq] at h
  obtain ⟨sight, rest, taken, ends⟩ := Ending.andThen_eq_ok h
  cases sight with
  | finish line offset => cases ends
  | lexeme lexeme =>
      obtain ⟨token, line, span⟩ := lexeme
      cases token with
      | identifier name =>
          obtain ⟨_, s, assigned, ends⟩ := Ending.andThen_eq_ok ends
          obtain ⟨value, s', read, ends⟩ := Ending.andThen_eq_ok ends
          obtain ⟨_, s'', closed, ends⟩ := Ending.andThen_eq_ok ends
          obtain ⟨assignPlace, assigned⟩ := Tape.of_expectOf assigned
          obtain ⟨semicolonPlace, closed⟩ := Tape.of_expectOf closed
          obtain ⟨body, derived, eval⟩ := (sound store s).read .expression read
          cases ends
          refine ⟨⟨name, ⟨line, span⟩, assignPlace, body, semicolonPlace⟩, ?_, rfl, eval⟩
          rw [Tape.of_nextOf taken, assigned, derived, closed]
          simp [Statement.lexemes, Tape.prepend, Place.lexeme]
      | _ => cases ends

theorem nextStatement_sound {tape after : Tape} {assignment : Assignment}
    (h : nextStatement store tape = (.ok (some assignment), after)) :
    ∃ statement : Statement, tape = after.prepend statement.lexemes ∧
      statement.name = assignment.name ∧ statement.body.eval store = .ok assignment.value := by
  rw [nextStatement_eq] at h
  obtain ⟨sight, shown, seen, ends⟩ := Ending.andThen_eq_ok h
  obtain ⟨rfl, taken⟩ := Tape.of_peekOf seen
  cases sight with
  | finish line offset => cases ends
  | lexeme lexeme =>
      dsimp only at ends
      split at ends
      · obtain ⟨result, last, read, ends⟩ := Ending.andThen_eq_ok ends
        cases ends
        exact statement_sound read
      · cases ends

theorem nextStatement_none {tape after : Tape} (h : nextStatement store tape = (.ok none, after)) :
    tape.lexemes = [] ∧ ∃ line offset, tape.ending = .ok (.finish line offset) := by
  obtain ⟨line, offset, seen⟩ := peekOf_of_finished h
  obtain ⟨nil, ending⟩ := Tape.of_nextOf_finish (Tape.of_peekOf seen).2
  exact ⟨nil, line, offset, ending⟩

end AssignLang
