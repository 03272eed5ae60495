import AssignLang.Proofs.Store
import AssignLang.Program.Statement

namespace AssignLang

def Value.Fits (n : Int) : Prop := lowest ≤ n ∧ n ≤ highest

structure Place where
  line : Nat
  span : Span
deriving DecidableEq, Repr

def Place.lexeme (place : Place) (token : Token) : Lexeme := ⟨token, place.line, place.span⟩

inductive Sign where
  | plus
  | minus
deriving DecidableEq, Repr

def Sign.operator : Sign → Operator
  | plus => .plus
  | minus => .minus

def Sign.between : Sign → Int → Int → Int
  | plus, left, right => left + right
  | minus, left, right => left - right

def Sign.before : Sign → Int → Int
  | plus, operand => operand
  | minus, operand => -operand

def Sign.between? : Sign → Value → Value → Option Value
  | plus => Value.add?
  | minus => Value.sub?

def Sign.before? : Sign → Value → Option Value
  | plus => some
  | minus => Value.neg?

inductive Level where
  | factor
  | term
  | expression
deriving DecidableEq, Repr

/-- A derivation of one level of the grammar; its constructors are the productions. -/
inductive Tree : Level → Type where
  | number (value : Value) (place : Place) : Tree .factor
  | name (spelling : String) (place : Place) : Tree .factor
  | group (opening : Place) (body : Tree .expression) (closing : Place) : Tree .factor
  | signed (sign : Sign) (place : Place) (operand : Tree .factor) : Tree .factor
  | ofFactor (factor : Tree .factor) : Tree .term
  | product (left : Tree .term) (place : Place) (right : Tree .factor) : Tree .term
  | ofTerm (term : Tree .term) : Tree .expression
  | sum (left : Tree .expression) (sign : Sign) (place : Place) (right : Tree .term) :
      Tree .expression

namespace Tree

variable {level : Level}

def lexemes {level : Level} : Tree level → List Lexeme
  | number value place => [place.lexeme (.number value)]
  | name spelling place => [place.lexeme (.identifier spelling)]
  | group opening body closing =>
    opening.lexeme .openParen :: body.lexemes ++ [closing.lexeme .closeParen]
  | signed sign place operand => place.lexeme (.operator sign.operator) :: operand.lexemes
  | ofFactor factor => factor.lexemes
  | product left place right => left.lexemes ++ place.lexeme (.operator .star) :: right.lexemes
  | ofTerm term => term.lexemes
  | sum left sign place right =>
    left.lexemes ++ place.lexeme (.operator sign.operator) :: right.lexemes

def reads {level : Level} : Tree level → List String
  | number _ _ => []
  | name spelling _ => [spelling]
  | group _ body _ => body.reads
  | signed _ _ operand => operand.reads
  | ofFactor factor => factor.reads
  | product left _ right => left.reads ++ right.reads
  | ofTerm term => term.reads
  | sum left _ _ right => left.reads ++ right.reads

def exact (env : String → Int) {level : Level} : Tree level → Int
  | number value _ => value.toInt
  | name spelling _ => env spelling
  | group _ body _ => body.exact env
  | signed sign _ operand => sign.before (operand.exact env)
  | ofFactor factor => factor.exact env
  | product left _ right => left.exact env * right.exact env
  | ofTerm term => term.exact env
  | sum left sign _ right => sign.between (left.exact env) (right.exact env)

/-- The exact value of every unary and every binary part fits. -/
def InRange (env : String → Int) {level : Level} : Tree level → Prop
  | number _ _ => True
  | name _ _ => True
  | group _ body _ => body.InRange env
  | signed sign place operand =>
    operand.InRange env ∧ Value.Fits ((signed sign place operand).exact env)
  | ofFactor factor => factor.InRange env
  | product left place right =>
    left.InRange env ∧ right.InRange env ∧ Value.Fits ((product left place right).exact env)
  | ofTerm term => term.InRange env
  | sum left sign place right =>
    left.InRange env ∧ right.InRange env ∧ Value.Fits ((sum left sign place right).exact env)

def settled (result : Option Value) (operator : Lexeme) : Except Diagnostic Value :=
  match result with
  | some value => .ok value
  | none => .error (.atLexeme .overflow operator)

def eval (store : Store) {level : Level} : Tree level → Except Diagnostic Value
  | number value _ => .ok value
  | name spelling place =>
    match store.get? spelling with
    | some value => .ok value
    | none => .error (.atLexeme (.unknownVariable spelling) (place.lexeme (.identifier spelling)))
  | group _ body _ => body.eval store
  | signed sign place operand => do
    let value ← operand.eval store
    settled (sign.before? value) (place.lexeme (.operator sign.operator))
  | ofFactor factor => factor.eval store
  | product left place right => do
    let first ← left.eval store
    let second ← right.eval store
    settled (first.mul? second) (place.lexeme (.operator .star))
  | ofTerm term => term.eval store
  | sum left sign place right => do
    let first ← left.eval store
    let second ← right.eval store
    settled (sign.between? first second) (place.lexeme (.operator sign.operator))

theorem settled_eq_ok {result : Option Value} {operator : Lexeme} {value : Value} :
    settled result operator = .ok value ↔ result = some value := by
  cases result <;> simp [settled]

end Tree

theorem Except.bind_eq_ok {ε α β : Type} {first : Except ε α} {rest : α → Except ε β} {value : β} :
    (first >>= rest) = .ok value ↔ ∃ a, first = .ok a ∧ rest a = .ok value := by
  cases first with
  | error e => simp [bind, Except.bind]
  | ok a => simp [bind, Except.bind]

theorem Value.ofInt?_of_fits {n : Int} (h : Fits n) : ∃ value, ofInt? n = some value := by
  cases eq : ofInt? n with
  | none => exact absurd h (ofInt?_eq_none_iff.1 eq)
  | some value => exact ⟨value, rfl⟩

theorem Sign.between?_eq_some {sign : Sign} {left right value : Value} :
    sign.between? left right = some value ↔ value.toInt = sign.between left.toInt right.toInt := by
  cases sign <;> exact Value.ofInt?_eq_some_iff

theorem Sign.before?_eq_some {sign : Sign} {operand value : Value} :
    sign.before? operand = some value ↔ value.toInt = sign.before operand.toInt := by
  cases sign with
  | plus => exact ⟨fun h => by cases h; rfl, fun h => congrArg some (Value.ext h).symm⟩
  | minus => exact Value.ofInt?_eq_some_iff

def Store.integer (store : Store) (name : String) : Int := (store.get? name).elim 0 Value.toInt

namespace Tree

variable {level : Level} {store : Store}

theorem binary_eq_ok {first second : Except Diagnostic Value}
    {fold : Value → Value → Option Value} {operator : Lexeme} {value : Value} :
    (first >>= fun a => second >>= fun b => settled (fold a b) operator) = .ok value ↔
      ∃ a b, first = .ok a ∧ second = .ok b ∧ fold a b = some value := by
  constructor
  · intro h
    obtain ⟨a, ha, h⟩ := Except.bind_eq_ok.1 h
    obtain ⟨b, hb, h⟩ := Except.bind_eq_ok.1 h
    exact ⟨a, b, ha, hb, settled_eq_ok.1 h⟩
  · rintro ⟨a, b, ha, hb, h⟩
    exact Except.bind_eq_ok.2 ⟨a, ha, Except.bind_eq_ok.2 ⟨b, hb, settled_eq_ok.2 h⟩⟩

theorem eval_ok {tree : Tree level} {value : Value} (h : tree.eval store = .ok value) :
    (∀ name ∈ tree.reads, (store.get? name).isSome = true) ∧ tree.InRange store.integer ∧
      tree.exact store.integer = value.toInt := by
  induction tree generalizing value with
  | number v place =>
      cases h
      exact ⟨by simp [reads], trivial, rfl⟩
  | name spelling place =>
      simp only [eval] at h
      split at h
      · rename_i found
        cases h
        exact ⟨by simp [reads, found], trivial, by simp [exact, Store.integer, found]⟩
      · cases h
  | group opening body closing ih => exact ih h
  | signed sign place operand ih =>
      obtain ⟨a, ha, result⟩ := Except.bind_eq_ok.1 h
      obtain ⟨bound, range, same⟩ := ih ha
      rw [settled_eq_ok, Sign.before?_eq_some] at result
      have exactly : (signed sign place operand).exact store.integer = value.toInt := by
        rw [exact, same, result]
      exact ⟨bound, ⟨range, exactly ▸ value.bounds⟩, exactly⟩
  | ofFactor factor ih => exact ih h
  | product left place right ihl ihr =>
      obtain ⟨a, b, ha, hb, result⟩ := binary_eq_ok.1 h
      obtain ⟨boundl, rangel, samel⟩ := ihl ha
      obtain ⟨boundr, ranger, samer⟩ := ihr hb
      rw [Value.mul?, Value.ofInt?_eq_some_iff] at result
      have exactly : (product left place right).exact store.integer = value.toInt := by
        rw [exact, samel, samer, result]
      exact ⟨List.forall_mem_append.2 ⟨boundl, boundr⟩,
        ⟨rangel, ranger, exactly ▸ value.bounds⟩, exactly⟩
  | ofTerm term ih => exact ih h
  | sum left sign place right ihl ihr =>
      obtain ⟨a, b, ha, hb, result⟩ := binary_eq_ok.1 h
      obtain ⟨boundl, rangel, samel⟩ := ihl ha
      obtain ⟨boundr, ranger, samer⟩ := ihr hb
      rw [Sign.between?_eq_some] at result
      have exactly : (sum left sign place right).exact store.integer = value.toInt := by
        rw [exact, samel, samer, result]
      exact ⟨List.forall_mem_append.2 ⟨boundl, boundr⟩,
        ⟨rangel, ranger, exactly ▸ value.bounds⟩, exactly⟩

theorem eval_of_inRange {tree : Tree level}
    (bound : ∀ name ∈ tree.reads, (store.get? name).isSome = true)
    (range : tree.InRange store.integer) : ∃ value, tree.eval store = .ok value := by
  induction tree with
  | number value place => exact ⟨value, rfl⟩
  | name spelling place =>
      obtain ⟨value, found⟩ := Option.isSome_iff_exists.1 (bound spelling (by simp [reads]))
      exact ⟨value, by simp [eval, found]⟩
  | group opening body closing ih => exact ih bound range
  | signed sign place operand ih =>
      obtain ⟨a, ha⟩ := ih bound range.1
      obtain ⟨value, fits⟩ := Value.ofInt?_of_fits range.2
      refine ⟨value, Except.bind_eq_ok.2 ⟨a, ha, ?_⟩⟩
      rw [settled_eq_ok, Sign.before?_eq_some, ← (eval_ok ha).2.2]
      exact Value.ofInt?_eq_some_iff.1 fits
  | ofFactor factor ih => exact ih bound range
  | product left place right ihl ihr =>
      obtain ⟨boundl, boundr⟩ := List.forall_mem_append.1 bound
      obtain ⟨a, ha⟩ := ihl boundl range.1
      obtain ⟨b, hb⟩ := ihr boundr range.2.1
      obtain ⟨value, fits⟩ := Value.ofInt?_of_fits range.2.2
      refine ⟨value, binary_eq_ok.2 ⟨a, b, ha, hb, ?_⟩⟩
      rw [Value.mul?, ← (eval_ok ha).2.2, ← (eval_ok hb).2.2]
      exact fits
  | ofTerm term ih => exact ih bound range
  | sum left sign place right ihl ihr =>
      obtain ⟨boundl, boundr⟩ := List.forall_mem_append.1 bound
      obtain ⟨a, ha⟩ := ihl boundl range.1
      obtain ⟨b, hb⟩ := ihr boundr range.2.1
      obtain ⟨value, fits⟩ := Value.ofInt?_of_fits range.2.2
      refine ⟨value, binary_eq_ok.2 ⟨a, b, ha, hb, ?_⟩⟩
      rw [Sign.between?_eq_some, ← (eval_ok ha).2.2, ← (eval_ok hb).2.2]
      exact Value.ofInt?_eq_some_iff.1 fits

end Tree

structure Statement where
  name : String
  namePlace : Place
  assignPlace : Place
  body : Tree .expression
  semicolonPlace : Place

def Statement.lexemes (statement : Statement) : List Lexeme :=
  statement.namePlace.lexeme (.identifier statement.name) ::
    statement.assignPlace.lexeme (.operator .assign) ::
    statement.body.lexemes ++ [statement.semicolonPlace.lexeme .semicolon]

abbrev Program := List Statement

namespace Program

def lexemes (program : Program) : List Lexeme := program.flatMap Statement.lexemes

/-- Every name that is read was assigned before, by `assigned` or by an earlier statement. -/
def Closed (assigned : List String) : Program → Prop
  | [] => True
  | statement :: rest =>
    (∀ name ∈ statement.body.reads, name ∈ assigned) ∧ Closed (statement.name :: assigned) rest

def integer (bindings : Bindings Int) (name : String) : Int := (bindings.lookup name).getD 0

/-- The bindings after the statements were carried out in order, in unbounded integers. -/
def exact (bindings : Bindings Int) : Program → Bindings Int
  | [] => bindings
  | statement :: rest =>
    exact (bindings.assign statement.name (statement.body.exact (integer bindings))) rest

def InRange (bindings : Bindings Int) : Program → Prop
  | [] => True
  | statement :: rest =>
    statement.body.InRange (integer bindings) ∧
      InRange (bindings.assign statement.name (statement.body.exact (integer bindings))) rest

end Program

end AssignLang
