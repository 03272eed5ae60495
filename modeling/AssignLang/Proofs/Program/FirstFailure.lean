import AssignLang.Proofs.Program.Derivation
import AssignLang.Proofs.Program.OnDemand

namespace AssignLang

inductive Node where
  | name (spelling : String) (place : Place)
  | operation (operator : Operator) (place : Place) (result : Int)
deriving DecidableEq, Repr

namespace Node

def fails (store : Store) : Node → Bool
  | name spelling _ => (store.get? spelling).isNone
  | operation _ _ result => !decide (Value.lowest ≤ result ∧ result ≤ Value.highest)

def diagnostic : Node → Diagnostic
  | name spelling place =>
    .atLexeme (.unknownVariable spelling) (place.lexeme (.identifier spelling))
  | operation operator place _ => .atLexeme .overflow (place.lexeme (.operator operator))

end Node

namespace Tree

/-- The names and operators in the order in which they are evaluated. A plus sign in front of a
factor does nothing and is left out. -/
def nodes (env : String → Int) {level : Level} : Tree level → List Node
  | number _ _ => []
  | name spelling place => [.name spelling place]
  | group _ body _ => body.nodes env
  | signed .plus _ operand => operand.nodes env
  | signed .minus place operand =>
    operand.nodes env ++ [.operation .minus place (-operand.exact env)]
  | ofFactor factor => factor.nodes env
  | product left place right =>
    left.nodes env ++ right.nodes env ++
      [.operation .star place (left.exact env * right.exact env)]
  | ofTerm term => term.nodes env
  | sum left sign place right =>
    left.nodes env ++ right.nodes env ++
      [.operation sign.operator place (sign.between (left.exact env) (right.exact env))]

end Tree

/-- The result of the nodes that come to an exact value: the diagnostic of the first of them that
fails, or the value if none does. -/
def Settles (store : Store) (nodes : List Node) (exact : Int) (result : Except Diagnostic Value) :
    Prop :=
  match nodes.find? (Node.fails store) with
  | none => ∃ value, result = .ok value ∧ value.toInt = exact
  | some node => result = .error node.diagnostic

namespace Settles

variable {store : Store} {nodes others : List Node} {exact exact' : Int}

theorem ok (value : Value) : Settles store [] value.toInt (.ok value) := ⟨value, rfl, rfl⟩

theorem bind {first : Except Diagnostic Value} {rest : Value → Except Diagnostic Value}
    (h : Settles store nodes exact first)
    (hrest : ∀ value : Value, value.toInt = exact → Settles store others exact' (rest value)) :
    Settles store (nodes ++ others) exact' (first >>= rest) := by
  unfold Settles at h ⊢
  rw [List.find?_append]
  cases found : nodes.find? (Node.fails store) with
  | none =>
      rw [found] at h
      obtain ⟨value, rfl, same⟩ := h
      exact hrest value same
  | some node =>
      rw [found] at h
      rw [show first = .error node.diagnostic from h]
      rfl

theorem operation (operator : Operator) (place : Place) {result : Option Value}
    (h : ∀ value, result = some value ↔ value.toInt = exact) :
    Settles store [.operation operator place exact] exact
      (Tree.settled result (place.lexeme (.operator operator))) := by
  by_cases fits : Value.lowest ≤ exact ∧ exact ≤ Value.highest
  · have passed : [Node.operation operator place exact].find? (Node.fails store) = none := by
      simp [Node.fails, fits]
    rw [(h ⟨exact, fits⟩).2 rfl, Settles, passed]
    exact ⟨_, rfl, rfl⟩
  · have failed : [Node.operation operator place exact].find? (Node.fails store) =
        some (.operation operator place exact) := by
      simp only [List.find?_cons, Node.fails, fits, decide_false, Bool.not_false]
    have none : result = none := by
      cases result with
      | none => rfl
      | some value => exact absurd ((h value).1 rfl ▸ value.bounds) fits
    rw [none, Settles, failed]
    rfl

end Settles

theorem Tree.settles_eval {level : Level} (tree : Tree level) (store : Store) :
    Settles store (tree.nodes store.integer) (tree.exact store.integer) (tree.eval store) := by
  -- the exact operands are the values of the operands as long as nothing failed
  induction tree with
  | number value place => exact .ok value
  | name spelling place =>
      cases found : store.get? spelling with
      | none => simp [Settles, nodes, Node.fails, Node.diagnostic, eval, found]
      | some value => simp [Settles, nodes, Node.fails, eval, exact, Store.integer, found]
  | group opening body closing ih => exact ih
  | signed sign place operand ih =>
      cases sign with
      | plus =>
          have kept : Settles store (operand.nodes store.integer ++ [])
              (operand.exact store.integer) (operand.eval store >>= .ok) :=
            ih.bind fun value same => same ▸ .ok value
          rw [List.append_nil] at kept
          exact kept
      | minus =>
          refine ih.bind fun value same => .operation .minus place fun negated => ?_
          rw [Sign.before?_eq_some, same]
          rfl
  | ofFactor factor ih => exact ih
  | product left place right ihl ihr =>
      rw [nodes, List.append_assoc]
      refine ihl.bind fun a samea => ihr.bind fun b sameb => .operation .star place fun value => ?_
      rw [Value.mul?, Value.ofInt?_eq_some_iff, samea, sameb]
  | ofTerm term ih => exact ih
  | sum left sign place right ihl ihr =>
      rw [nodes, List.append_assoc]
      refine ihl.bind fun a samea => ihr.bind fun b sameb => .operation _ place fun value => ?_
      rw [Sign.between?_eq_some, samea, sameb]

theorem Tape.Stops.of_subset {tokens more : List Token} {tape : Tape} (h : tape.Stops more)
    (subset : tokens ⊆ more) : tape.Stops tokens := by
  obtain ⟨sight, next, other⟩ := h
  exact ⟨sight, next, fun lexeme same member => other lexeme same (subset member)⟩

theorem Tree.follows_expression_stops (tree : Tree .expression) (store : Store) {tape : Tape}
    (stops : tape.Stops [.operator .plus, .operator .minus, .operator .star]) :
    Follows (expression store (tape.prepend tree.lexemes)) (tree.eval store) fun value =>
      (.ok value, tape) := by
  have read := tree.follows_read store tape fun _ => stops.of_subset (by simp)
  have ended (value : Value) : Level.resume store .expression value tape = (.ok value, tape) :=
    sumAfter_of_stops (stops.of_subset (by simp)) value
  simpa only [Level.read, ended] using read

section

variable {σ α : Type} {ending : Ending σ α} {result : Except Diagnostic α} {source : σ}

theorem Follows.fst_eq (h : Follows ending result fun value => (.ok value, source)) :
    ending.1 = result := by
  cases result with
  | ok value => exact congrArg Prod.fst h
  | error diagnostic => exact h

theorem Follows.snd_eq (h : Follows ending result fun value => (.ok value, source)) {value : α}
    (ok : ending.1 = .ok value) : ending.2 = source := by
  rw [h.fst_eq] at ok
  subst ok
  exact congrArg Prod.snd h

end

theorem Simulation.agree_expression {σ τ : Type} [TokenSource σ] [TokenSource τ]
    (sim : Simulation σ τ) (store : Store) {s : σ} {t : τ} (states : sim.source s t) :
    sim.Agree Eq (some (expression store s)) (some (expression store t)) := by
  have agree := (sim.within_matches store (max (budget s) (budget t))).1 s t states
  rwa [expressionWithin_eq store (Nat.le_max_left _ _),
    expressionWithin_eq store (Nat.le_max_right _ _)] at agree

theorem Spot.read_fst (spot : Spot) : spot.read.1 = spot.tape.next.1 := by
  cases h : spot.read with
  | mk reading after =>
      rcases reading with fault | lexeme | ⟨line, offset⟩
      · rw [next_tape_fault h]
      · rw [next_tape_lexeme h]
      · rw [next_tape_finish h]

theorem TokenStream.IsAt.expression {stream : TokenStream} {spot : Spot} {total : Nat}
    (h : stream.IsAt spot total) (store : Store) :
    (AssignLang.expression store stream).1 = (AssignLang.expression store spot.tape).1 ∧
      ∀ value, (AssignLang.expression store stream).1 = .ok value →
        ∃ after, (AssignLang.expression store stream).2.IsAt after total ∧
          after.tape = (AssignLang.expression store spot.tape).2 := by
  have lazy := (streamSimulation total).agree_expression store h
  have taped := (tapeSimulation spot.tape.ending).agree_expression store
    (⟨rfl, rfl⟩ : spot.tape = spot.tape ∧ _)
  generalize AssignLang.expression store stream = streamed at lazy ⊢
  generalize AssignLang.expression store spot.tape = read at taped ⊢
  generalize AssignLang.expression store spot = between at lazy taped
  cases lazy with
  | value same isAt =>
      cases taped with
      | value same' states =>
          subst same same'
          exact ⟨rfl, fun _ _ => ⟨_, isAt, states.1.symm⟩⟩
  | failure same _ =>
      cases taped with
      | failure same' _ =>
          constructor
          · rw [Matching.eq_of_same_exactly same, (eq_of_same_tape same').1]
          · intro value ok
            cases ok

/-- On the tokens of a derivation, before anything but an operator that goes on with it, the routine
for expressions ends with the exact value of the derivation or with the diagnostic of its first node
that fails. With a value it has read these tokens and no others. This holds for the tokens as such
and for a text that goes on with them. -/
theorem expression_settles (tree : Tree .expression) (store : Store) (tape : Tape)
    (stops : tape.Stops [.operator .plus, .operator .minus, .operator .star]) :
    let nodes := tree.nodes store.integer
    let exact := tree.exact store.integer
    let ending := expression store (tape.prepend tree.lexemes)
    (Settles store nodes exact ending.1 ∧ ∀ value, ending.1 = .ok value → ending.2 = tape) ∧
      ∀ (stream : TokenStream) (spot : Spot) (total : Nat), stream.IsAt spot total →
        spot.tape = tape.prepend tree.lexemes →
        let ending := expression store stream
        Settles store nodes exact ending.1 ∧
          ∀ value, ending.1 = .ok value →
            ∃ after, ending.2.IsAt after total ∧ after.tape = tape ∧
              ending.2.next.1 = tape.next.1 := by
  have follows := tree.follows_expression_stops store stops
  have settles := tree.settles_eval store
  rw [← follows.fst_eq] at settles
  refine ⟨⟨settles, fun value ok => follows.snd_eq ok⟩, ?_⟩
  intro stream spot total isAt same
  obtain ⟨result, left⟩ := isAt.expression store
  rw [same] at result left
  refine ⟨?_, fun value ok => ?_⟩
  · rw [result]
    exact settles
  · obtain ⟨after, states, remaining⟩ := left value ok
    rw [follows.snd_eq (result ▸ ok)] at remaining
    refine ⟨after, states, remaining, ?_⟩
    rw [states.next.1, Spot.read_fst, remaining]

theorem expression_settles_negation :
    let store := Store.empty.set "a" ⟨Value.lowest, by decide⟩
    let tape : Tape := { lexemes := [], ending := .ok (.finish 1 4) }
    let tree : Tree .expression :=
      .sum (.ofTerm (.ofFactor (.signed .minus ⟨1, ⟨0, 1⟩⟩ (.name "a" ⟨1, ⟨1, 2⟩⟩)))) .minus
        ⟨1, ⟨2, 3⟩⟩ (.ofFactor (.name "b" ⟨1, ⟨3, 4⟩⟩))
    tape.Stops [.operator .plus, .operator .minus, .operator .star] ∧
      (Spot.ofString "-a-b").tape = tape.prepend tree.lexemes ∧
      (expression store (TokenStream.ofString "-a-b")).1 = .error ⟨.overflow, 1, ⟨0, 1⟩⟩ := by
  intro store tape tree
  have stops : tape.Stops [.operator .plus, .operator .minus, .operator .star] :=
    ⟨.finish 1 4, rfl, fun _ same => by cases same⟩
  have read : (Spot.ofString "-a-b").tape = tape.prepend tree.lexemes := by
    have lexemes : (Spot.ofString "-a-b").tape.lexemes = (tape.prepend tree.lexemes).lexemes := by
      decide +kernel
    have ending : (Spot.ofString "-a-b").tape.ending = (tape.prepend tree.lexemes).ending := by
      decide +kernel
    cases h : (Spot.ofString "-a-b").tape with
    | mk front last _ => simp_all
  have found : (tree.nodes store.integer).find? (Node.fails store) =
      some (.operation .minus ⟨1, ⟨0, 1⟩⟩ (-Value.lowest)) := by
    decide +kernel
  have settles := ((expression_settles tree store tape stops).2 _ _ _
    (TokenStream.isAt_ofString "-a-b") read).1
  rw [Settles, found] at settles
  exact ⟨stops, read, settles⟩

end AssignLang
