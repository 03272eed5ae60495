import AssignLang.Proofs.Program.Cutoff
import AssignLang.Proofs.Token.Interleaving

namespace AssignLang

/-! ## Scanning -/

namespace Cursor

def Sound (cursor : Cursor) : Prop := cursor.current = none → cursor.unread = []

theorem sound_advance (cursor : Cursor) : cursor.advance.Sound := by
  unfold Sound advance advanceM
  cases more : cursor.unread with
  | nil => simp
  | cons next rest => simp

theorem sound_start (chars : List (Nat × Char)) : (start chars : Cursor).Sound := sound_advance _

theorem Sound.advanceBy {cursor : Cursor} (h : cursor.Sound) (n : Nat) :
    (cursor.advanceBy n).Sound := by
  induction n generalizing cursor with
  | zero => exact h
  | succ n ih => exact ih (sound_advance cursor)

theorem Sound.skip {cursor : Cursor} (h : cursor.Sound) (p : Char → Bool) :
    (cursor.skip p).Sound := h.advanceBy _

theorem Sound.size_eq_zero {cursor : Cursor} (h : cursor.Sound) (ended : cursor.current = none) :
    cursor.size = 0 := by
  simp [size, ended, h ended]

end Cursor

namespace Scanner

variable {scanner : Scanner}

theorem sound_take (h : scanner.cursor.Sound) : scanner.take.2.cursor.Sound := by
  rw [take_eq]
  split
  · exact h
  · split
    · exact Cursor.sound_advance _
    · split
      · exact h.skip _
      · split
        · exact h.skip _
        · exact h

theorem sound_scan (h : scanner.cursor.Sound) : scanner.scan.2.cursor.Sound :=
  sound_take (h.skip isBlank)

theorem take_progress (h : scanner.cursor.Sound) :
    scanner.take.2.cursor.size < scanner.cursor.size ∨
      (scanner.cursor.size = 0 ∧ ∃ line offset, scanner.take.1 = .ok (.finish line offset)) ∨
      ∃ ch line span, scanner.take.1 = .error ⟨.unexpectedCharacter ch, line, span⟩ := by
  rw [take_eq]
  split
  · rename_i ended
    exact .inr (.inl ⟨h.size_eq_zero ended, _, _, rfl⟩)
  · rename_i ch found
    split
    · exact .inl (Cursor.size_advance_lt found)
    · split
      · rename_i digit
        exact .inl (Cursor.size_skip_lt found digit)
      · split
        · rename_i start
          exact .inl (Cursor.size_skip_lt found (isNamePart_of_isNameStart start))
        · exact .inr (.inr ⟨ch, _, _, rfl⟩)

theorem scan_progress (h : scanner.cursor.Sound) :
    scanner.scan.2.cursor.size < scanner.cursor.size ∨
      (scanner.cursor.size = 0 ∧ ∃ line offset, scanner.scan.1 = .ok (.finish line offset)) ∨
      ∃ ch line span, scanner.scan.1 = .error ⟨.unexpectedCharacter ch, line, span⟩ := by
  have skipped := Cursor.size_skip_le scanner.cursor isBlank
  rcases take_progress (show scanner.skipBlanks.cursor.Sound from h.skip isBlank) with
    less | ⟨ended, finish⟩ | refused
  · exact .inl (Nat.lt_of_lt_of_le less skipped)
  · -- blanks before the end of the text are passed
    rcases Nat.eq_zero_or_pos scanner.cursor.size with empty | some
    · exact .inr (.inl ⟨empty, finish⟩)
    · refine .inl (Nat.lt_of_le_of_lt (size_take_le scanner.skipBlanks) ?_)
      rw [ended]
      exact some
  · exact .inr (.inr refused)

theorem scan_again {after : Scanner} {line offset : Nat}
    (h : scanner.scan = (.ok (.finish line offset), after)) :
    after.scan = (.ok (.finish line offset), after) := by
  have found : scanner.skipBlanks.take = (.ok (.finish line offset), after) := h
  cases ended : scanner.skipBlanks.cursor.current with
  | none =>
      rw [take_eq, ended] at found
      cases found
      have still : scanner.skipBlanks.skipBlanks = scanner.skipBlanks := by
        have none : scanner.skipBlanks.cursor.run isBlank = [] := by rw [Cursor.run, ended]
        rw [skipBlanks, skipBlanksM, Cursor.skipM, none]
        rfl
      change scanner.skipBlanks.skipBlanks.take = _
      rw [still, take_eq, ended]
  | some ch =>
      simp only [take_eq, ended] at found
      split at found
      · cases found
      · split at found
        · simp only [number_eq] at found
          split at found <;> cases found
        · split at found <;> cases found

end Scanner

namespace TokenStream

variable {stream after : TokenStream}

theorem sound_afterAll (h : stream.scanner.cursor.Sound) (requests : List Request) :
    (stream.afterAll requests).scanner.cursor.Sound :=
  stream.scanner_afterAll (·.cursor.Sound) (fun _ => Scanner.sound_scan) h requests

/-! ## Tokens that are taken -/

/-- The stream gives as many tokens as counted, and then what the other stream gives. -/
structure Consumes (stream : TokenStream) (count : Nat) (after : TokenStream) : Prop where
  tokens : ∀ n < count, ∃ lexeme, stream.reading n = .ok (.lexeme lexeme)
  rest : ∀ n, after.reading n = stream.reading (count + n)

theorem Consumes.tokens_append {count more : Nat} (h : stream.Consumes count after)
    (tokens : ∀ n < more, ∃ lexeme, after.reading n = .ok (.lexeme lexeme)) :
    ∀ n < count + more, ∃ lexeme, stream.reading n = .ok (.lexeme lexeme) := by
  intro n less
  rcases Nat.lt_or_ge n count with early | late
  · exact h.tokens n early
  · obtain ⟨m, rfl⟩ := Nat.exists_eq_add_of_le late
    rw [← h.rest]
    exact tokens m (by omega)

theorem Consumes.trans {last : TokenStream} {first second : Nat} (h : stream.Consumes first after)
    (h' : after.Consumes second last) : stream.Consumes (first + second) last where
  tokens := h.tokens_append h'.tokens
  rest n := by rw [h'.rest, h.rest, Nat.add_assoc]

theorem reading_congr {other : TokenStream} (h : stream.next = other.next) (n : Nat) :
    stream.reading n = other.reading n := by
  cases n with
  | zero => rw [reading, reading, h]
  | succ n => rw [reading, reading, h]

theorem consumes_of_next_eq (h : stream.next = after.next) : stream.Consumes 0 after where
  tokens n less := absurd less (Nat.not_lt_zero n)
  rest n := by rw [Nat.zero_add, reading_congr h]

theorem consumes_refl (stream : TokenStream) : stream.Consumes 0 stream := consumes_of_next_eq rfl

theorem consumes_lexeme {lexeme : Lexeme} (h : stream.next = (.ok (.lexeme lexeme), after)) :
    stream.Consumes 1 after where
  tokens n less := by
    obtain rfl : n = 0 := by omega
    exact ⟨lexeme, congrArg Prod.fst h⟩
  rest n := by rw [Nat.add_comm, reading, h]

theorem consumes_finish {line offset : Nat} (h : stream.next = (.ok (.finish line offset), after)) :
    stream.Consumes 0 after := by
  apply consumes_of_next_eq
  cases held : stream.peeked with
  | some lexeme => simp [next_eq, held] at h
  | none =>
      obtain ⟨found, rfl⟩ : stream.scanner.scan.1 = .ok (.finish line offset) ∧
          { stream with scanner := stream.scanner.scan.2 } = after := by
        simpa [next_eq, held] using h
      have again := Scanner.scan_again (Prod.ext found rfl)
      simp [next_eq, held, again, found]

theorem consumes_peek {sight : Sight} (h : stream.peek = (.ok sight, after)) :
    stream.Consumes 0 after := by
  cases held : stream.peeked with
  | some lexeme =>
      obtain rfl : stream = after := by
        simp only [peek_eq, held, Prod.mk.injEq] at h
        exact h.2
      exact consumes_refl stream
  | none =>
      cases scanned : stream.scanner.scan with
      | mk shown scanner =>
          simp only [peek_eq, held, scanned] at h
          rcases shown with fault | lexeme | ⟨line, offset⟩
          · cases h
          · cases h
            exact consumes_of_next_eq (by simp [next_eq, held, scanned])
          · cases h
            have taken : stream.next =
                (.ok (.finish line offset), ⟨scanner, none, stream.finished⟩) := by
              simp [next_eq, held, scanned]
            exact consumes_finish taken

end TokenStream

/-! ## Routines -/

namespace Routine

variable {α β : Type} {least : Nat}

/-- If the routine ends with a value, it has taken at least so many tokens, and nothing else. -/
def Consumes (least : Nat) (routine : Routine TokenStream α) : Prop :=
  ∀ stream value after, routine stream = some (.ok value, after) →
    ∃ count, least ≤ count ∧ stream.Consumes count after

theorem consumes_pure (value : α) : (pure value : Routine TokenStream α).Consumes 0 := by
  rintro stream _ _ ⟨⟩
  exact ⟨0, Nat.le_refl 0, stream.consumes_refl⟩

theorem consumes_fail (diagnostic : Diagnostic) (least : Nat) :
    (fail diagnostic : Routine TokenStream α).Consumes least := by
  rintro stream value after ⟨⟩

theorem bind_eq_ok {σ : Type} {first : Routine σ α} {rest : α → Routine σ β} {source after : σ}
    {value : β} (h : (first >>= rest) source = some (.ok value, after)) :
    ∃ middle between, first source = some (.ok middle, between) ∧
      rest middle between = some (.ok value, after) := by
  change andThen first rest source = _ at h
  unfold andThen at h
  split at h
  · rename_i middle between began
    exact ⟨middle, between, began, h⟩
  · cases h
  · cases h

theorem consumes_bind {first : Routine TokenStream α} {rest : α → Routine TokenStream β}
    {least' : Nat} (h : first.Consumes least) (hrest : ∀ value, (rest value).Consumes least') :
    (first >>= rest).Consumes (least + least') := by
  intro stream value after ends
  obtain ⟨middle, between, began, ended⟩ := bind_eq_ok ends
  obtain ⟨count, enough, taken⟩ := h _ _ _ began
  obtain ⟨count', enough', taken'⟩ := hrest middle _ _ _ ended
  exact ⟨count + count', by omega, taken.trans taken'⟩

theorem consumes_peek : (peek : Routine TokenStream Sight).Consumes 0 := by
  intro stream sight after ends
  obtain ⟨shown, moved⟩ := Prod.mk.inj (Option.some.inj ends)
  exact ⟨0, Nat.le_refl 0, TokenStream.consumes_peek (Prod.ext (ofReading_eq_ok shown) moved)⟩

theorem next_eq_ok {stream after : TokenStream} {sight : Sight}
    (h : next stream = some (.ok sight, after)) : stream.next = (.ok sight, after) := by
  obtain ⟨given, moved⟩ := Prod.mk.inj (Option.some.inj h)
  exact Prod.ext (ofReading_eq_ok given) moved

theorem consumes_next_bind {rest : Sight → Routine TokenStream β}
    (hlexeme : ∀ lexeme, (rest (.lexeme lexeme)).Consumes least)
    (hfinish : ∀ line offset, (rest (.finish line offset)).Consumes (least + 1)) :
    (next >>= rest).Consumes (least + 1) := by
  intro stream value after ends
  obtain ⟨sight, between, began, ended⟩ := bind_eq_ok ends
  have taken := next_eq_ok began
  cases sight with
  | lexeme lexeme =>
      obtain ⟨count, enough, taken'⟩ := hlexeme lexeme _ _ _ ended
      exact ⟨1 + count, by omega, (TokenStream.consumes_lexeme taken).trans taken'⟩
  | finish line offset =>
      obtain ⟨count, enough, taken'⟩ := hfinish line offset _ _ _ ended
      exact ⟨0 + count, by omega, (TokenStream.consumes_finish taken).trans taken'⟩

theorem compositional_consumes :
    Compositional fun {α : Type} (routine : Routine TokenStream α) => routine.Consumes 0 where
  pure := consumes_pure
  fail diagnostic := consumes_fail diagnostic 0
  exhausted := by
    rintro _ stream value after ⟨⟩
  bind h hrest := consumes_bind h hrest
  next := by
    rintro stream (lexeme | ⟨line, offset⟩) after ends
    · exact ⟨1, Nat.zero_le 1, TokenStream.consumes_lexeme (next_eq_ok ends)⟩
    · exact ⟨0, Nat.le_refl 0, TokenStream.consumes_finish (next_eq_ok ends)⟩
  peek := consumes_peek

theorem consumes_expect (token : Token) (cause : Diagnostic.Cause) :
    (expect token cause : Routine TokenStream Unit).Consumes 1 := by
  refine consumes_next_bind (fun lexeme => ?_) fun line offset => consumes_fail _ _
  dsimp only
  split
  · exact consumes_pure ()
  · exact consumes_fail _ _

theorem consumes_factorWithin (store : Store) (n : Nat) :
    (factorWithin store n : Routine TokenStream Value).Consumes 1 := by
  cases n with
  | zero =>
      rw [factorWithin]
      rintro stream value after ⟨⟩
  | succ n =>
      have within := compositional_consumes.within store n
      rw [factorWithin]
      refine consumes_next_bind (fun lexeme => ?_) fun line offset => consumes_fail _ _
      dsimp only
      split
      · refine compositional_consumes.bind within.1 fun value => ?_
        exact compositional_consumes.bind (compositional_consumes.expect _ _) fun _ =>
          consumes_pure value
      · exact within.2.2.2.2
      · exact consumes_bind within.2.2.2.2 fun value => compositional_consumes.checked _ _
      · exact consumes_pure _
      · split
        · exact consumes_pure _
        · exact consumes_fail _ _
      · exact consumes_fail _ _

theorem consumes_termWithin (store : Store) (n : Nat) :
    (termWithin store n : Routine TokenStream Value).Consumes 1 := by
  cases n with
  | zero =>
      rw [termWithin]
      rintro stream value after ⟨⟩
  | succ n =>
      rw [termWithin]
      exact consumes_bind (consumes_factorWithin store n)
        (compositional_consumes.within store n).2.2.2.1

theorem consumes_expressionWithin (store : Store) (n : Nat) :
    (expressionWithin store n : Routine TokenStream Value).Consumes 1 := by
  cases n with
  | zero =>
      rw [expressionWithin]
      rintro stream value after ⟨⟩
  | succ n =>
      rw [expressionWithin]
      exact consumes_bind (consumes_termWithin store n) (compositional_consumes.within store n).2.1

theorem consumes_statementWithin (store : Store) (n : Nat) :
    (statementWithin store n : Routine TokenStream Assignment).Consumes 4 := by
  unfold statementWithin
  refine consumes_next_bind (fun lexeme => ?_) fun line offset => consumes_fail _ _
  dsimp only
  split
  · refine (consumes_bind (consumes_expect _ _) fun _ => ?_ : Routine.Consumes (1 + 2) _)
    refine (consumes_bind (consumes_expressionWithin store n) fun value => ?_ :
      Routine.Consumes (1 + 1) _)
    exact consumes_bind (consumes_expect _ _) fun _ => consumes_pure _
  · exact consumes_fail _ _

end Routine

section

variable {store : Store} {stream after : TokenStream} {value : Value}

theorem consumes_factor (h : factor store stream = (.ok value, after)) :
    ∃ count, 1 ≤ count ∧ stream.Consumes count after :=
  Routine.consumes_factorWithin store _ stream value after
    ((factorWithin_eq store (Nat.le_refl _)).trans (congrArg some h))

theorem consumes_term (h : term store stream = (.ok value, after)) :
    ∃ count, 1 ≤ count ∧ stream.Consumes count after :=
  Routine.consumes_termWithin store _ stream value after
    ((termWithin_eq store (Nat.le_refl _)).trans (congrArg some h))

theorem consumes_expression (h : expression store stream = (.ok value, after)) :
    ∃ count, 1 ≤ count ∧ stream.Consumes count after :=
  Routine.consumes_expressionWithin store _ stream value after
    ((expressionWithin_eq store (Nat.le_refl _)).trans (congrArg some h))

theorem consumes_statement {assignment : Assignment}
    (h : statement store stream = (.ok assignment, after)) :
    ∃ count, 4 ≤ count ∧ stream.Consumes count after :=
  Routine.consumes_statementWithin store _ stream assignment after
    ((statementWithin_eq store (Nat.le_refl _)).trans (congrArg some h))

theorem consumes_nextStatement {assignment : Assignment}
    (h : nextStatement store stream = (.ok (some assignment), after)) :
    ∃ count, 4 ≤ count ∧ stream.Consumes count after := by
  rw [nextStatement_eq] at h
  obtain ⟨sight, between, seen, ends⟩ := Ending.andThen_eq_ok h
  obtain ⟨shown, -, looked⟩ := Routine.consumes_peek stream sight between (congrArg some seen)
  cases sight with
  | finish line offset => cases ends
  | lexeme lexeme =>
      dsimp only at ends
      split at ends
      · obtain ⟨assigned, last, read, ends⟩ := Ending.andThen_eq_ok ends
        cases ends
        obtain ⟨count, enough, taken⟩ := consumes_statement read
        exact ⟨shown + count, by omega, looked.trans taken⟩
      · cases ends

end

/-! ## Runs -/

namespace TokenStream

variable {stream after : TokenStream}

def AtMost (stream : TokenStream) (bound : Nat) : Prop :=
  ∀ count, (∀ n < count, ∃ lexeme, stream.reading n = .ok (.lexeme lexeme)) → count ≤ bound

theorem AtMost.consumes {bound count : Nat} (h : stream.AtMost bound)
    (taken : stream.Consumes count after) : count ≤ bound ∧ after.AtMost (bound - count) := by
  refine ⟨h count taken.tokens, fun more tokens => ?_⟩
  have all := h _ (taken.tokens_append tokens)
  omega

theorem atMost_zero (h : ∀ lexeme, stream.next.1 ≠ .ok (.lexeme lexeme)) : stream.AtMost 0 := by
  intro count tokens
  by_contra some
  obtain ⟨lexeme, first⟩ := tokens 0 (by omega)
  exact h lexeme first

theorem atMost_lexeme {lexeme : Lexeme} {bound : Nat}
    (h : stream.next = (.ok (.lexeme lexeme), after)) (rest : after.AtMost bound) :
    stream.AtMost (bound + 1) := by
  rintro (_ | count) tokens
  · exact Nat.zero_le _
  · refine Nat.succ_le_succ (rest count fun n less => ?_)
    have later := tokens (n + 1) (Nat.succ_lt_succ less)
    rwa [reading, h] at later

theorem atMost_pullAll (stream : TokenStream) (unfinished : stream.finished = false) :
    stream.AtMost stream.pullAll.1.length := by
  cases h : stream.next with
  | mk shown after =>
      rcases shown with fault | lexeme | ⟨line, offset⟩
      · rw [pullAll_fault unfinished h]
        exact atMost_zero (by simp [h])
      · have less : after.size < stream.size := by
          have less := size_next (congrArg Prod.fst h)
          rwa [h] at less
        have open' : after.finished = false := by
          have same := finished_next stream
          rwa [h, unfinished] at same
        rw [pullAll_lexeme unfinished h]
        exact atMost_lexeme h (atMost_pullAll after open')
      · rw [pullAll_finish unfinished h]
        exact atMost_zero (by simp [h])
termination_by stream.size

theorem AtMost.executeWithin_eq {bound limit n : Nat} (h : stream.AtMost bound) (session : Session)
    (budgeted : budget stream ≤ limit) (enough : bound / 4 < n) :
    session.executeWithin limit n stream = some (session.proceed stream) := by
  induction n generalizing stream bound session with
  | zero => omega
  | succ n ih =>
      have asked := nextStatementWithin_eq session.store budgeted
      cases read : nextStatement session.store stream with
      | mk result after =>
          rw [read] at asked
          rw [Session.executeWithin, asked]
          rcases result with diagnostic | _ | assignment
          · rw [Session.proceed_failed read]
          · rw [Session.proceed_finished read]
          · obtain ⟨count, four, taken⟩ := consumes_nextStatement read
            obtain ⟨inside, left⟩ := h.consumes taken
            have less := budget_le (Nat.le_of_lt (Session.size_lt_of_assigned read))
            rw [Session.proceed_assigned read]
            exact ih left _ (Nat.le_trans less budgeted) (by omega)

end TokenStream

/-- Whatever a stream over some characters was asked for, its scanner passes something of what is
left, or nothing is left, or it meets a character that starts no token. A factor, a term or an
expression that has a value takes a token at least, and a statement takes four. Every routine
answers within the budget, and a run asks for a statement at most once for every four tokens before
the first fault or the end of the text, and once more. -/
theorem Session.makes_progress (session : Session) (store : Store) (chars : List (Nat × Char)) :
    let fresh : TokenStream := .ofCursor (.start chars)
    (∀ requests : List Request,
      let scanner := (fresh.afterAll requests).scanner
      scanner.scan.2.cursor.size < scanner.cursor.size ∨
        (scanner.cursor.size = 0 ∧ ∃ line offset, scanner.scan.1 = .ok (.finish line offset)) ∨
        ∃ ch line span, scanner.scan.1 = .error ⟨.unexpectedCharacter ch, line, span⟩) ∧
    (∀ stream after : TokenStream,
      (∀ value, factor store stream = (.ok value, after) ∨ term store stream = (.ok value, after) ∨
          expression store stream = (.ok value, after) →
        ∃ count, 1 ≤ count ∧ stream.Consumes count after) ∧
      ∀ assignment, nextStatement store stream = (.ok (some assignment), after) →
        ∃ count, 4 ≤ count ∧ stream.Consumes count after) ∧
    (∀ (stream : TokenStream) (n : Nat), budget stream ≤ n →
      factorWithin store n stream = some (factor store stream) ∧
      termWithin store n stream = some (term store stream) ∧
      expressionWithin store n stream = some (expression store stream) ∧
      statementWithin store n stream = some (statement store stream) ∧
      nextStatementWithin store n stream = some (nextStatement store stream)) ∧
    session.clear.executeWithin (budget fresh) (fresh.pullAll.1.length / 4 + 1) fresh =
      some (session.execute fresh) := by
  intro fresh
  have sound : fresh.scanner.cursor.Sound := Cursor.sound_start chars
  refine ⟨fun requests => ?_, fun stream after => ⟨?_, ?_⟩, ?_, ?_⟩
  · exact Scanner.scan_progress (TokenStream.sound_afterAll sound requests)
  · rintro value (h | h | h)
    · exact consumes_factor h
    · exact consumes_term h
    · exact consumes_expression h
  · exact fun assignment h => consumes_nextStatement h
  · exact fun stream n enough =>
      ⟨factorWithin_eq store enough, termWithin_eq store enough, expressionWithin_eq store enough,
        statementWithin_eq store enough, nextStatementWithin_eq store enough⟩
  · have tokens := fresh.atMost_pullAll rfl
    exact tokens.executeWithin_eq _ (Nat.le_refl _) (Nat.lt_succ_self _)

theorem Session.makes_progress_signed :
    let fresh : TokenStream := .ofCursor (.start (offsetsFrom 0 "a = -(1);".toList))
    let operand := fresh.afterAll [.next, .peek, .next]
    ((factor .empty operand).1 = .ok ⟨-1, by decide⟩ ∧
      ∃ count, 1 ≤ count ∧ operand.Consumes count (factor .empty operand).2) ∧
    ((nextStatement .empty fresh).1 = .ok (some ⟨"a", ⟨-1, by decide⟩⟩) ∧
      ∃ count, 4 ≤ count ∧ fresh.Consumes count (nextStatement .empty fresh).2) ∧
    factorWithin .empty (budget operand) operand = some (factor .empty operand) := by
  intro fresh operand
  obtain ⟨-, takes, answers, -⟩ :=
    makes_progress .new .empty (offsetsFrom 0 "a = -(1);".toList)
  have read : (factor .empty operand).1 = .ok ⟨-1, by decide⟩ := by decide +kernel
  have stated : (nextStatement .empty fresh).1 = .ok (some ⟨"a", ⟨-1, by decide⟩⟩) := by
    decide +kernel
  refine ⟨⟨read, ?_⟩, ⟨stated, ?_⟩, ?_⟩
  -- the streams are abstracted, or they would be evaluated once more
  · generalize operand = stream at read ⊢
    exact (takes stream _).1 _ (.inl (Prod.ext read rfl))
  · clear operand read
    generalize fresh = stream at stated ⊢
    exact (takes stream _).2 _ (Prod.ext stated rfl)
  · exact (answers operand _ (Nat.le_refl _)).1

end AssignLang
