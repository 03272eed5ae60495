import AssignLang.Proofs.Program.Layout
import AssignLang.Proofs.Store.History

namespace AssignLang

namespace Tree

variable {level : Level}

theorem eval_congr (tree : Tree level) {store other : Store}
    (agree : ∀ name ∈ tree.reads, store.get? name = other.get? name) :
    tree.eval store = tree.eval other := by
  induction tree with
  | number value place => rfl
  | name spelling place => simp only [eval, agree spelling (by simp [reads])]
  | group opening body closing ih => exact ih agree
  | signed sign place operand ih => simp only [eval, ih agree]
  | ofFactor factor ih => exact ih agree
  | product left place right ihl ihr =>
      obtain ⟨agreel, agreer⟩ := List.forall_mem_append.1 agree
      simp only [eval, ihl agreel, ihr agreer]
  | ofTerm term ih => exact ih agree
  | sum left sign place right ihl ihr =>
      obtain ⟨agreel, agreer⟩ := List.forall_mem_append.1 agree
      simp only [eval, ihl agreel, ihr agreer]

theorem mem_tokens_of_reads (tree : Tree level) {name : String} (member : name ∈ tree.reads) :
    Token.identifier name ∈ tokensOf tree.lexemes := by
  induction tree with
  | number value place => simp [reads] at member
  | name spelling place => simpa [reads, lexemes, Place.lexeme] using member
  | group opening body closing ih => simp [lexemes, ih member]
  | signed sign place operand ih => simp [lexemes, ih member]
  | ofFactor factor ih => exact ih member
  | product left place right ihl ihr =>
      rcases List.mem_append.1 member with inside | inside
      · simp [lexemes, ihl inside]
      · simp [lexemes, ihr inside]
  | ofTerm term ih => exact ih member
  | sum left sign place right ihl ihr =>
      rcases List.mem_append.1 member with inside | inside
      · simp [lexemes, ihl inside]
      · simp [lexemes, ihr inside]

theorem semicolon_notMem (tree : Tree level) : Token.semicolon ∉ tokensOf tree.lexemes := by
  induction tree with
  | number value place => simp [lexemes, Place.lexeme]
  | name spelling place => simp [lexemes, Place.lexeme]
  | group opening body closing ih => simp [lexemes, Place.lexeme, ih]
  | signed sign place operand ih => simp [lexemes, Place.lexeme, ih]
  | ofFactor factor ih => exact ih
  | product left place right ihl ihr => simp [lexemes, Place.lexeme, ihl, ihr]
  | ofTerm term ih => exact ih
  | sum left sign place right ihl ihr => simp [lexemes, Place.lexeme, ihl, ihr]

end Tree

/-- The tokens are an expression that has the value in the store. -/
def Denotes (store : Store) (tokens : List Token) (value : Value) : Prop :=
  ∃ tree : Tree .expression, tokensOf tree.lexemes = tokens ∧ tree.eval store = .ok value

theorem Denotes.congr {store other : Store} {tokens : List Token} {value : Value}
    (h : Denotes store tokens value)
    (agree : ∀ name, Token.identifier name ∈ tokens → store.get? name = other.get? name) :
    Denotes other tokens value := by
  obtain ⟨tree, rfl, eval⟩ := h
  refine ⟨tree, rfl, ?_⟩
  rw [← eval, tree.eval_congr fun name member => agree name (tree.mem_tokens_of_reads member)]

namespace Bindings

variable {α : Type} {x y : String} {v w : α} {bindings : Bindings α}

theorem assign_comm (different : x ≠ y)
    (bound : x ∈ bindings.map (·.1) ∨ y ∈ bindings.map (·.1)) :
    assign y w (assign x v bindings) = assign x v (assign y w bindings) := by
  induction bindings with
  | nil => simp at bound
  | cons binding rest ih =>
      obtain ⟨name, old⟩ := binding
      by_cases first : name = x
      · subst first
        simp [assign, different]
      · by_cases second : name = y
        · subst second
          simp [assign, first]
        · have bound : x ∈ rest.map (·.1) ∨ y ∈ rest.map (·.1) := by
            simpa [Ne.symm first, Ne.symm second] using bound
          simp [assign, first, second, ih bound]

theorem assign_comm_iff (different : x ≠ y) :
    assign y w (assign x v bindings) = assign x v (assign y w bindings) ↔
      x ∈ bindings.map (·.1) ∨ y ∈ bindings.map (·.1) := by
  refine ⟨fun same => ?_, assign_comm different⟩
  by_contra new
  obtain ⟨newx, newy⟩ := not_or.1 new
  -- both names come to the end, each after the other
  rw [assign_of_notMem v newx, assign_of_notMem w newy, assign_of_notMem, assign_of_notMem] at same
  · simp [different] at same
  · simpa [different] using newx
  · simpa [Ne.symm different] using newy

end Bindings

namespace Store

variable {store : Store} {x y : String}

theorem isSome_get?_iff (valid : store.Valid) :
    (store.get? x).isSome = true ↔ x ∈ store.toList.map (·.1) := by
  simp [Option.isSome_iff_exists, ← mem_toList_iff valid]

theorem toList_set_comm_iff (valid : store.Valid) (different : x ≠ y) (v w : Value) :
    ((store.set x v).set y w).toList = ((store.set y w).set x v).toList ↔
      (store.get? x).isSome = true ∨ (store.get? y).isSome = true := by
  rw [toList_set (valid_set valid x v), toList_set valid, toList_set (valid_set valid y w),
    toList_set valid, Bindings.assign_comm_iff different, isSome_get?_iff valid,
    isSome_get?_iff valid]

theorem get?_set_comm (valid : store.Valid) (different : x ≠ y) (v w : Value) (name : String) :
    ((store.set x v).set y w).get? name = ((store.set y w).set x v).get? name := by
  rw [get?_set (valid_set valid x v), get?_set valid, get?_set (valid_set valid y w),
    get?_set valid]
  by_cases first : name = x
  · subst first
    simp [different]
  · simp [first]

end Store

theorem Spot.tape_shift (bytes lines : Nat) (spot : Spot) :
    tokensOf (spot.shift bytes lines).tape.lexemes = tokensOf spot.tape.lexemes ∧
      ∀ line offset, spot.tape.ending = .ok (.finish line offset) →
        ∃ line' offset', (spot.shift bytes lines).tape.ending = .ok (.finish line' offset') := by
  induction spot using read_induction with
  | lexeme spot lexeme after read ih =>
      have reads := spot.reads_read_shift bytes lines
      rw [read] at reads
      generalize moved : (spot.shift bytes lines).read = other at reads
      cases reads with
      | lexeme shown states =>
          cases shown
          cases states
          rw [tape_lexeme read, tape_lexeme moved]
          exact ⟨congrArg (lexeme.token :: ·) ih.1, ih.2⟩
  | finish spot line offset after read =>
      have reads := spot.reads_read_shift bytes lines
      rw [read] at reads
      generalize moved : (spot.shift bytes lines).read = other at reads
      cases reads with
      | finish shown states =>
          rw [tape_finish read, tape_finish moved]
          exact ⟨rfl, fun _ _ _ => ⟨_, _, rfl⟩⟩
  | fault spot fault after read =>
      have reads := spot.reads_read_shift bytes lines
      rw [read] at reads
      generalize moved : (spot.shift bytes lines).read = other at reads
      cases reads with
      | fault shown states =>
          rw [tape_fault read, tape_fault moved]
          exact ⟨rfl, nofun⟩

theorem Lexes.append {first second : String} {front back : List Lexeme} (lexes : Lexes first front)
    (lexes' : Lexes second back)
    (closed : ∀ lexeme, front.getLast? = some lexeme → lexeme.token = .semicolon) :
    ∃ lexemes, Lexes (first ++ second) lexemes ∧
      tokensOf lexemes = tokensOf front ++ tokensOf back := by
  obtain ⟨rfl, line, offset, ending⟩ := lexes_iff.1 lexes
  obtain ⟨rfl, line', offset', ending'⟩ := lexes_iff.1 lexes'
  let moved := ((Spot.ofString second).shift first.utf8ByteSize (first.toList.count '\n')).tape
  have tape_eq : (Spot.ofString (first ++ second)).tape =
      moved.prepend (Spot.ofString first).tape.lexemes := by
    rw [Spot.ofString_append, Spot.tape_append ending closed, Spot.last_extend]
  obtain ⟨tokens, finished⟩ :=
    (Spot.ofString second).tape_shift first.utf8ByteSize (first.toList.count '\n')
  obtain ⟨line'', offset'', ending''⟩ := finished line' offset' ending'
  refine ⟨_, lexes_iff.2 ⟨rfl, line'', offset'', ?_⟩, ?_⟩
  · rw [tape_eq]
    exact ending''
  · rw [tape_eq, ← tokens, ← tokensOf_append]
    rfl

/-- The text is a single statement: it assigns to the name what stands before its semicolon. -/
def Assigns (text : String) (name : String) (body : List Token) : Prop :=
  Token.semicolon ∉ body ∧ ∃ lexemes, Lexes text lexemes ∧
    tokensOf lexemes = .identifier name :: .operator .assign :: (body ++ [.semicolon])

theorem semicolon_inj {front front' back back' : List Token} (plain : Token.semicolon ∉ front)
    (plain' : Token.semicolon ∉ front')
    (same : front ++ .semicolon :: back = front' ++ .semicolon :: back') :
    front = front' ∧ back = back' := by
  rcases List.append_eq_append_iff.1 same with ⟨between, rfl, left⟩ | ⟨between, rfl, left⟩
  · cases between with
    | nil => simpa using left
    | cons token rest =>
        cases left
        simp at plain'
  · cases between with
    | nil => simpa [eq_comm] using left
    | cons token rest =>
        cases left
        simp at plain

theorem Program.of_tokens {program : Program} {name : String} {body more : List Token}
    (plain : Token.semicolon ∉ body)
    (tokens : tokensOf program.lexemes =
      .identifier name :: .operator .assign :: (body ++ .semicolon :: more)) :
    ∃ (statement : Statement) (rest : Program), program = statement :: rest ∧
      statement.name = name ∧ tokensOf statement.body.lexemes = body ∧
      tokensOf rest.lexemes = more := by
  cases program with
  | nil => cases tokens
  | cons statement rest =>
      simp only [lexemes_cons, Statement.lexemes, Place.lexeme, tokensOf_append, tokensOf_cons,
        List.cons_append, List.append_assoc, List.nil_append, List.cons.injEq,
        Token.identifier.injEq] at tokens
      obtain ⟨named, -, tokens⟩ := tokens
      obtain ⟨bodies, left⟩ := semicolon_inj statement.body.semicolon_notMem plain tokens
      exact ⟨statement, rest, rfl, named, bodies, left⟩

theorem Assigns.append {first second x y : String} {body body' : List Token}
    (assigns : Assigns first x body) (assigns' : Assigns second y body') :
    ∃ lexemes, Lexes (first ++ second) lexemes ∧ tokensOf lexemes =
      .identifier x :: .operator .assign :: (body ++ .semicolon ::
        .identifier y :: .operator .assign :: (body' ++ [.semicolon])) := by
  obtain ⟨-, front, lexes, tokens⟩ := assigns
  obtain ⟨-, back, lexes', tokens'⟩ := assigns'
  have closed (lexeme : Lexeme) (last : front.getLast? = some lexeme) :
      lexeme.token = .semicolon := by
    have last' := congrArg List.getLast? tokens
    rw [tokensOf, List.getLast?_map, last] at last'
    simpa [List.getLast?_cons, List.getLast?_append] using last'
  obtain ⟨lexemes, joined, tokens''⟩ := lexes.append lexes' closed
  refine ⟨lexemes, joined, ?_⟩
  simp [tokens'', tokens, tokens']

namespace Session

theorem proceed_of_tokens {session : Session} (clean : session.diagnostics = []) {tape : Tape}
    {line offset : Nat} (ending : tape.ending = .ok (.finish line offset)) {program : Program}
    (tokens : tokensOf tape.lexemes = tokensOf program.lexemes) {store : Store}
    (eval : program.eval session.store = .ok store) :
    (session.proceed tape).1 = { session with store } := by
  let last : Tape := { lexemes := [], ending := .ok (.finish line offset) }
  have ran : (session.proceed (last.prepend program.lexemes)).1 = { session with store } := by
    rw [proceed_program session eval]
    exact proceed_end _ rfl rfl
  let sim := layoutSimulation ending (rfl : (last.prepend program.lexemes).ending = _)
  have states : sim.source tape (last.prepend program.lexemes) := by
    refine ⟨forall₂_pairs ?_, rfl, rfl⟩
    simpa [Tape.prepend, last] using tokens
  obtain ⟨sessions, -⟩ := sim.sameSession_proceed (sim.sameSession_of_nil clean) states
  rw [ran] at sessions
  have none := sessions.diagnostics
  rw [clean, List.forall₂_nil_right_iff] at none
  refine eq_of_forall₂ sessions.store ?_
  rw [none, clean]
  exact .nil

variable {env : Store} {first second x y : String} {body body' : List Token} {v w : Value}
  (assigns : Assigns first x body) (assigns' : Assigns second y body')

include assigns assigns'

theorem denotes_of_succeeded
    (succeeded :
      ((mk env []).proceed (TokenStream.ofString (first ++ second))).1.succeeded = true) :
    ∃ v w, Denotes env body v ∧ Denotes (env.set x v) body' w := by
  obtain ⟨lexemes, lexes, tokens⟩ := assigns.append assigns'
  obtain ⟨rfl, -⟩ := lexes_iff.1 lexes
  rw [succeeded_iff, proceed_eq_proceed_tape rfl] at succeeded
  obtain ⟨program, same, -, eval⟩ := proceed_sound succeeded
  rw [same] at tokens
  obtain ⟨s, rest, rfl, rfl, rfl, left⟩ := Program.of_tokens assigns.1 tokens
  obtain ⟨s', rest', rfl, rfl, rfl, -⟩ := Program.of_tokens assigns'.1 left
  obtain ⟨v, value, eval⟩ := Except.bind_eq_ok.1 eval
  obtain ⟨w, value', -⟩ := Except.bind_eq_ok.1 eval
  exact ⟨v, w, ⟨s.body, rfl, value⟩, ⟨s'.body, rfl, value'⟩⟩

theorem proceed_pair (denotes : Denotes env body v) (denotes' : Denotes (env.set x v) body' w) :
    ((mk env []).proceed (TokenStream.ofString (first ++ second))).1 =
      ⟨(env.set x v).set y w, []⟩ := by
  obtain ⟨lexemes, lexes, tokens⟩ := assigns.append assigns'
  obtain ⟨rfl, line, offset, ending⟩ := lexes_iff.1 lexes
  obtain ⟨tree, rfl, eval⟩ := denotes
  obtain ⟨tree', rfl, eval'⟩ := denotes'
  let program : Program := [⟨x, .start, .start, tree, .start⟩, ⟨y, .start, .start, tree', .start⟩]
  have ran : program.eval env = .ok ((env.set x v).set y w) :=
    Except.bind_eq_ok.2 ⟨v, eval, Except.bind_eq_ok.2 ⟨w, eval', rfl⟩⟩
  rw [proceed_eq_proceed_tape rfl]
  refine proceed_of_tokens rfl ending ?_ ran
  rw [tokens]
  simp [program, Program.lexemes, Statement.lexemes, Place.lexeme]

theorem proceed_swap (valid : env.Valid) (unread : Token.identifier x ∉ body')
    (unread' : Token.identifier y ∉ body)
    (succeeded :
      ((mk env []).proceed (TokenStream.ofString (first ++ second))).1.succeeded = true) :
    ∃ v w,
      ((mk env []).proceed (TokenStream.ofString (first ++ second))).1 =
        ⟨(env.set x v).set y w, []⟩ ∧
      ((mk env []).proceed (TokenStream.ofString (second ++ first))).1 =
        ⟨(env.set y w).set x v, []⟩ := by
  obtain ⟨v, w, denotes, denotes'⟩ := denotes_of_succeeded assigns assigns' succeeded
  have alone : Denotes env body' w := denotes'.congr fun name member => by
    rw [Store.get?_set valid, if_neg]
    rintro rfl
    exact unread member
  have after : Denotes (env.set y w) body v := denotes.congr fun name member => by
    rw [Store.get?_set valid, if_neg]
    rintro rfl
    exact unread' member
  exact ⟨v, w, proceed_pair assigns assigns' denotes denotes',
    proceed_pair assigns' assigns alone after⟩

end Session

/-- Two single statements that assign different names, neither of which reads the name of the other,
succeed from a store in one order exactly if they do in the other. Then every name has the same
value after both, and the bindings are in the same order exactly if one of the names was bound
before. -/
theorem Session.proceed_comm {env : Store} (valid : env.Valid) {first second x y : String}
    {body body' : List Token} (assigns : Assigns first x body) (assigns' : Assigns second y body')
    (different : x ≠ y) (unread : Token.identifier x ∉ body')
    (unread' : Token.identifier y ∉ body) :
    let forward := ((mk env []).proceed (TokenStream.ofString (first ++ second))).1
    let backward := ((mk env []).proceed (TokenStream.ofString (second ++ first))).1
    (forward.succeeded = true ↔ backward.succeeded = true) ∧
    (forward.succeeded = true →
      (∀ name, forward.store.get? name = backward.store.get? name) ∧
      (forward.store.toList = backward.store.toList ↔
        (env.get? x).isSome = true ∨ (env.get? y).isSome = true)) := by
  intro forward backward
  refine ⟨⟨fun succeeded => ?_, fun succeeded => ?_⟩, fun succeeded => ?_⟩
  · obtain ⟨v, w, -, ends⟩ := proceed_swap assigns assigns' valid unread unread' succeeded
    exact succeeded_iff.2 (congrArg diagnostics ends)
  · obtain ⟨w, v, -, ends⟩ := proceed_swap assigns' assigns valid unread' unread succeeded
    exact succeeded_iff.2 (congrArg diagnostics ends)
  · obtain ⟨v, w, ends, ends'⟩ := proceed_swap assigns assigns' valid unread unread' succeeded
    simp only [forward, backward, ends, ends']
    exact ⟨Store.get?_set_comm valid different v w, Store.toList_set_comm_iff valid different v w⟩

theorem Session.proceed_comm_new_names :
    let env := Store.empty.set "z" ⟨3, by decide⟩
    let first := "x = (z + 4);\n"
    let second := "y = -z;"
    let forward := ((mk env []).proceed (TokenStream.ofString (first ++ second))).1
    let backward := ((mk env []).proceed (TokenStream.ofString (second ++ first))).1
    env.Valid ∧ forward.succeeded = true ∧ backward.succeeded = true ∧
      (∀ name, forward.store.get? name = backward.store.get? name) ∧
      forward.store.toList ≠ backward.store.toList := by
  intro env first second forward backward
  have valid : env.Valid := Store.valid_set Store.valid_empty _ _
  have assigns : Assigns first "x"
      [.openParen, .identifier "z", .operator .plus, .number ⟨4, by decide⟩, .closeParen] := by
    refine ⟨by decide, (TokenStream.ofString first).pullAll.1,
      ⟨_, Prod.ext rfl (Prod.ext ?_ rfl)⟩, ?_⟩
    all_goals
      rw [TokenStream.ofString_eq]
      decide +kernel
  have assigns' : Assigns second "y" [.operator .minus, .identifier "z"] := by
    refine ⟨by decide, (TokenStream.ofString second).pullAll.1,
      ⟨_, Prod.ext rfl (Prod.ext ?_ rfl)⟩, ?_⟩
    all_goals
      rw [TokenStream.ofString_eq]
      decide +kernel
  have succeeded : forward.succeeded = true := by
    simp only [forward, TokenStream.ofString_eq]
    decide +kernel
  have unbound : ¬ ((env.get? "x").isSome = true ∨ (env.get? "y").isSome = true) := by
    decide +kernel
  obtain ⟨orders, agree⟩ := proceed_comm valid assigns assigns' (by decide) (by decide) (by decide)
  obtain ⟨values, listed⟩ := agree succeeded
  exact ⟨valid, succeeded, orders.1 succeeded, values, fun same => unbound (listed.1 same)⟩

end AssignLang
