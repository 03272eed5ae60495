import AssignLang.Proofs.Report

namespace AssignLang

def placeAfter (before body : List Char) : Place :=
  ⟨1 + lineFeeds before, ⟨byteLength before, byteLength before + byteLength body⟩⟩

namespace Spot

theorem tape_blank {ch : Char} (blank : isBlank ch = true) (before rest : List Char) :
    (behind before (ch :: rest)).tape = (behind (before ++ [ch]) rest).tape := by
  have skipped : (behind before (ch :: rest)).skip isBlank =
      (behind (before ++ [ch]) rest).skip isBlank := by
    rw [skip, skip, move_behind, move_behind]
    simp [behind, blank]
  exact tape_eq_of_read_eq (congrArg take skipped)

theorem tape_spelt {token : Token} {body after : List Char} (spelt : token.Spelt body after)
    (before : List Char) :
    (behind before (body ++ after)).tape =
      (behind (before ++ body) after).tape.prepend [(placeAfter before body).lexeme token] := by
  have gap : LongestRun isBlank [] (body ++ after) :=
    ⟨nofun, fun ch head => spelt.head_not_isBlank head⟩
  have read := read_of_spelt gap spelt before
  rw [List.nil_append, List.append_nil] at read
  exact tape_lexeme read

theorem tape_single {token : Token} {ch : Char} (single : Token.ofChar? ch = some token)
    (before rest : List Char) :
    (behind before (ch :: rest)).tape =
      (behind (before ++ [ch]) rest).tape.prepend [(placeAfter before [ch]).lexeme token] :=
  tape_spelt (Token.spelt_ofChar? single rest) before

end Spot

def closeLines (text : String) : String :=
  .ofList (text.toList.flatMap fun ch => if ch = '\n' then [';', '\n'] else [ch])

def closedLine (binding : String × Value) : List Char := bindingLine binding ++ [';', '\n']

theorem toList_closeLines_report {bindings : Bindings Value}
    (writable : ∀ binding ∈ bindings, (Token.identifier binding.1).Writable) :
    (closeLines (Report.bindings bindings).text).toList = bindings.flatMap closedLine := by
  rw [closeLines, String.toList_ofList, toList_report, List.flatMap_assoc]
  refine List.flatMap_congr fun binding member => ?_
  have kept : (bindingLine binding).flatMap (fun ch => if ch = '\n' then [';', '\n'] else [ch]) =
      bindingLine binding := by
    have plain : ∀ ch ∈ bindingLine binding,
        (if ch = '\n' then [';', '\n'] else [ch]) = [ch] := by
      intro ch inside
      refine if_neg fun feed => lineFeed_notMem_bindingLine (writable binding member) ?_
      rwa [← feed]
    rw [List.flatMap_congr plain, List.flatMap_singleton']
  rw [List.flatMap_append, kept]
  rfl

theorem Value.text_of_neg {value : Value} (negative : value.toInt < 0) :
    value.text.toList = '-' :: Nat.toDigits 10 (-value.toInt).toNat := by
  rw [text, Int.toString_eq_repr, Int.repr_eq_if, if_neg (by omega), String.toList_append,
    Nat.toList_repr]
  rfl

namespace Spot

theorem tape_assigns {name : String} (writable : (Token.identifier name).Writable)
    (before rest : List Char) :
    ∃ namePlace assignPlace : Place,
      (behind before (name.toList ++ (" = ".toList ++ rest))).tape =
        (behind (before ++ name.toList ++ " = ".toList) rest).tape.prepend
          [namePlace.lexeme (.identifier name), assignPlace.lexeme (.operator .assign)] := by
  have spelt : (Token.identifier name).Spelt name.toList (' ' :: '=' :: ' ' :: rest) := by
    refine ⟨writable.1, ⟨writable.2, fun ch head => ?_⟩, String.ofList_toList.symm⟩
    obtain rfl : ' ' = ch := Option.some.inj head
    decide
  refine ⟨placeAfter before name.toList, placeAfter (before ++ name.toList ++ [' ']) ['='], ?_⟩
  change (behind before (name.toList ++ ' ' :: '=' :: ' ' :: rest)).tape = _
  rw [tape_spelt spelt, tape_blank (by decide), tape_single rfl, tape_blank (by decide)]
  simp [Tape.prepend]

theorem tape_number {value : Value} (unsigned : 0 ≤ value.toInt) (before rest : List Char) :
    (behind before (value.text.toList ++ ';' :: rest)).tape =
      (behind (before ++ value.text.toList) (';' :: rest)).tape.prepend
        [(placeAfter before value.text.toList).lexeme (.number value)] := by
  refine tape_spelt (Token.spelt_number unsigned (fun ch head => ?_) rfl) before
  obtain rfl : ';' = ch := Option.some.inj head
  rfl

theorem tape_value {value : Value} (fits : value.toInt ≠ Value.lowest) (before rest : List Char) :
    ∃ tree : Tree .expression, (∀ store, tree.eval store = .ok value) ∧
      (behind before (value.text.toList ++ ';' :: rest)).tape =
        (behind (before ++ value.text.toList) (';' :: rest)).tape.prepend tree.lexemes := by
  by_cases unsigned : 0 ≤ value.toInt
  · refine ⟨.ofTerm (.ofFactor (.number value (placeAfter before value.text.toList))),
      fun _ => rfl, ?_⟩
    exact tape_number unsigned before rest
  · have negative : value.toInt < 0 := by omega
    have bounds := value.bounds
    have range : Value.lowest ≤ -value.toInt ∧ -value.toInt ≤ Value.highest := by
      simp only [Value.lowest, Value.highest] at bounds fits ⊢
      omega
    -- the digits after the sign are those of the value with its sign changed
    let opposite : Value := ⟨-value.toInt, range⟩
    have unsigned' : 0 ≤ opposite.toInt := Int.neg_nonneg_of_nonpos (by omega)
    have text : value.text.toList = '-' :: opposite.text.toList := by
      rw [Value.text_of_neg negative, Value.toList_text unsigned']
    refine ⟨.ofTerm (.ofFactor (.signed .minus (placeAfter before ['-'])
      (.number opposite (placeAfter (before ++ ['-']) opposite.text.toList)))), fun store => ?_, ?_⟩
    · refine Tree.settled_eq_ok.2 (Sign.before?_eq_some.2 ?_)
      exact (Int.neg_neg _).symm
    · rw [text, List.cons_append, tape_single rfl, tape_number unsigned', ← Tape.prepend_append,
        List.append_assoc]
      rfl

theorem append_closedLine (binding : String × Value) (rest : List Char) :
    closedLine binding ++ rest =
      binding.1.toList ++ (" = ".toList ++ (binding.2.text.toList ++ ';' :: '\n' :: rest)) := by
  simp [closedLine, bindingLine]

theorem tape_line {binding : String × Value} (writable : (Token.identifier binding.1).Writable)
    (fits : binding.2.toInt ≠ Value.lowest) (before rest : List Char) :
    ∃ statement : Statement, statement.name = binding.1 ∧
      (∀ store, statement.body.eval store = .ok binding.2) ∧
      (behind before (closedLine binding ++ rest)).tape =
        (behind (before ++ closedLine binding) rest).tape.prepend statement.lexemes := by
  obtain ⟨namePlace, assignPlace, assigns⟩ := tape_assigns writable before
    (binding.2.text.toList ++ ';' :: '\n' :: rest)
  obtain ⟨tree, eval, value⟩ := tape_value fits (before ++ binding.1.toList ++ " = ".toList)
    ('\n' :: rest)
  let semicolonPlace := placeAfter (before ++ bindingLine binding) [';']
  refine ⟨⟨binding.1, namePlace, assignPlace, tree, semicolonPlace⟩, rfl, eval, ?_⟩
  rw [append_closedLine, assigns, value, tape_single rfl, tape_blank (by decide)]
  simp [Tape.prepend, Statement.lexemes, closedLine, bindingLine, semicolonPlace]

theorem tape_lowest {binding : String × Value} (writable : (Token.identifier binding.1).Writable)
    (lowest : binding.2.toInt = Value.lowest) (before rest : List Char) :
    ∃ (namePlace assignPlace minusPlace : Place) (fault : LexFault),
      fault.cause = .numberTooLarge ∧
      (behind before (closedLine binding ++ rest)).tape =
        Tape.prepend [namePlace.lexeme (.identifier binding.1),
          assignPlace.lexeme (.operator .assign), minusPlace.lexeme (.operator .minus)]
          { lexemes := [], ending := .error fault } := by
  let digits := Nat.toDigits 10 (-binding.2.toInt).toNat
  have text : binding.2.text.toList = '-' :: digits := Value.text_of_neg (by rw [lowest]; decide)
  have inside : ∀ ch ∈ digits, ch.isDigit = true := fun ch member =>
    Nat.isDigit_of_mem_toDigits (by decide) (by decide) member
  have explained : LexFault.Cause.numberTooLarge.Explained digits (';' :: '\n' :: rest) := by
    refine ⟨Nat.toDigits_ne_nil, ⟨inside, fun ch head => ?_⟩, ?_⟩
    · obtain rfl : ';' = ch := Option.some.inj head
      rfl
    · rw [decimal, Nat.ofDigitChars_ten_toDigits, lowest]
      decide
  have solid (ch : Char) (head : (digits ++ ';' :: '\n' :: rest).head? = some ch) :
      isBlank ch = false := by
    rw [List.head?_append_of_ne_nil _ Nat.toDigits_ne_nil] at head
    exact not_isBlank_of_isDigit (inside ch (List.mem_of_mem_head? head))
  obtain ⟨namePlace, assignPlace, assigns⟩ := tape_assigns writable before
    (binding.2.text.toList ++ ';' :: '\n' :: rest)
  let front := before ++ binding.1.toList ++ " = ".toList
  refine ⟨namePlace, assignPlace, placeAfter front ['-'],
    faultAfter (front ++ ['-']) digits .numberTooLarge, rfl, ?_⟩
  rw [append_closedLine, assigns, text, List.cons_append, tape_single rfl,
    tape_of_explained explained solid]
  rfl

end Spot

theorem nextStatement_unfinished (store : Store) (name : String)
    (namePlace assignPlace minusPlace : Place) (fault : LexFault) :
    (nextStatement store (Tape.prepend [namePlace.lexeme (.identifier name),
      assignPlace.lexeme (.operator .assign), minusPlace.lexeme (.operator .minus)]
      { lexemes := [], ending := .error fault })).1 = .error (.ofFault fault) := by
  let last : Tape := { lexemes := [], ending := .error fault }
  have operand : factor store last = (.error (.ofFault fault), last) := by
    rw [factor_eq]
    rfl
  have signed : expression store (last.prepend [minusPlace.lexeme (.operator .minus)]) =
      (.error (.ofFault fault), last) := by
    rw [expression_eq, term_eq, factor_eq, Tape.nextOf_prepend, Tape.prepend_nil]
    simp only [Place.lexeme, Ending.andThen, operand]
  have unread : statement store (last.prepend [namePlace.lexeme (.identifier name),
      assignPlace.lexeme (.operator .assign), minusPlace.lexeme (.operator .minus)]) =
      (.error (.ofFault fault), last) := by
    rw [statement_eq, Tape.nextOf_prepend, Ending.andThen_ok]
    change Ending.andThen (expectOf _ _ _) _ = _
    rw [Tape.prepend_cons, Tape.expectOf_prepend, Ending.andThen_ok, signed]
    rfl
  rw [nextStatement_eq, Tape.peekOf_prepend, Ending.andThen_ok]
  change (Ending.andThen (statement store _) _).1 = _
  rw [unread]
  rfl

theorem Store.toList_setAll_of_nodup {bindings : Bindings Value}
    (distinct : (bindings.map (·.1)).Nodup) : (empty.setAll bindings).toList = bindings := by
  induction bindings using List.reverseRecOn with
  | nil => rfl
  | append_singleton front binding ih =>
      rw [List.map_append, List.nodup_append] at distinct
      obtain ⟨distinct, -, apart⟩ := distinct
      rw [setAll_concat, toList_set (valid_setAll valid_empty front), ih distinct,
        Bindings.assign_of_notMem]
      exact fun member => apart _ member _ (List.mem_singleton_self _) rfl

namespace Session

theorem proceed_line {binding : String × Value}
    (writable : (Token.identifier binding.1).Writable) (fits : binding.2.toInt ≠ Value.lowest)
    (session : Session) (before rest : List Char) :
    session.proceed (Spot.behind before (closedLine binding ++ rest)).tape =
      { session with store := session.store.set binding.1 binding.2 }.proceed
        (Spot.behind (before ++ closedLine binding) rest).tape := by
  obtain ⟨statement, name, eval, read⟩ := Spot.tape_line writable fits before rest
  have follows := statement.follows_nextStatement session.store
    (Spot.behind (before ++ closedLine binding) rest).tape
  rw [eval] at follows
  rw [read, proceed_assigned follows, name]
  rfl

variable {bindings : Bindings Value}
  (writable : ∀ binding ∈ bindings, (Token.identifier binding.1).Writable)

include writable

theorem proceed_lines (fits : ∀ binding ∈ bindings, binding.2.toInt ≠ Value.lowest)
    (session : Session) (before : List Char) :
    (session.proceed (Spot.behind before (bindings.flatMap closedLine)).tape).1 =
      { session with store := session.store.setAll bindings } := by
  induction bindings generalizing session before with
  | nil =>
      rw [List.flatMap_nil, Spot.tape_nil]
      exact proceed_end session rfl rfl
  | cons binding rest ih =>
      rw [List.forall_mem_cons] at writable fits
      rw [List.flatMap_cons, proceed_line writable.1 fits.1, ih writable.2 fits.2]
      rfl

theorem proceed_lines_lowest
    (lowest : ∃ binding ∈ bindings, binding.2.toInt = Value.lowest)
    (session : Session) (before : List Char) :
    ∃ fault : LexFault, fault.cause = .numberTooLarge ∧
      (session.proceed (Spot.behind before (bindings.flatMap closedLine)).tape).1.diagnostics =
        session.diagnostics ++ [.ofFault fault] := by
  induction bindings generalizing session before with
  | nil => simp at lowest
  | cons binding rest ih =>
      rw [List.forall_mem_cons] at writable
      rw [List.flatMap_cons]
      by_cases first : binding.2.toInt = Value.lowest
      · obtain ⟨namePlace, assignPlace, minusPlace, fault, cause, read⟩ :=
          Spot.tape_lowest writable.1 first before (rest.flatMap closedLine)
        have failed := nextStatement_unfinished session.store binding.1 namePlace assignPlace
          minusPlace fault
        refine ⟨fault, cause, ?_⟩
        rw [read, proceed_failed (Prod.ext failed rfl)]
      · have later : ∃ binding ∈ rest, binding.2.toInt = Value.lowest := by
          simpa [first] using lowest
        rw [proceed_line writable.1 first]
        exact ih writable.2 later _ _

end Session

/-- A successful run's report with a semicolon at the end of each line is run with the same bindings
in the same order if none of them is the lowest value; otherwise the run fails on a number that is
too large. -/
theorem Session.run_report (session other : Session) {text : String}
    (succeeded : (session.run text).succeeded = true) :
    let bindings := (session.run text).store.toList
    let again := other.run (closeLines (session.run text).report.text)
    ((∀ binding ∈ bindings, binding.2.toInt ≠ Value.lowest) →
      again.succeeded = true ∧ again.store.toList = bindings) ∧
    ((∃ binding ∈ bindings, binding.2.toInt = Value.lowest) →
      ∃ fault : LexFault, again.diagnostics = [.ofFault fault] ∧
        fault.cause = .numberTooLarge) := by
  intro bindings again
  have writable (binding : String × Value) (member : binding ∈ bindings) :
      (Token.identifier binding.1).Writable := writable_of_bound succeeded member
  have distinct : (bindings.map (·.1)).Nodup := by
    obtain ⟨program, -, eval⟩ := exists_program succeeded
    obtain ⟨history, -, same⟩ := Program.exists_history eval
    simp only [bindings, same, Store.map_fst_setAll]
    exact history.nodup_firstNames
  have again_eq : again =
      (other.clear.proceed (Spot.behind [] (bindings.flatMap closedLine)).tape).1 := by
    rw [← toList_closeLines_report writable, ← Spot.ofString_eq_behind, ← run_eq_proceed_tape,
      ← report_of_succeeded succeeded]
  refine ⟨fun fits => ?_, fun lowest => ?_⟩
  · rw [again_eq, proceed_lines writable fits]
    exact ⟨rfl, Store.toList_setAll_of_nodup distinct⟩
  · obtain ⟨fault, cause, recorded⟩ := proceed_lines_lowest writable lowest other.clear []
    rw [again_eq]
    exact ⟨fault, recorded, cause⟩

theorem Session.run_report_signs :
    let text := "zero = 0;\nb = zero - 7;\nzero = -0;"
    let low := "low = -9223372036854775807 - 1;"
    (new.run text).succeeded = true ∧
      closeLines (new.run text).report.text = "zero = 0;\nb = -7;\n" ∧
      (new.run (closeLines (new.run text).report.text)).store.toList =
        (new.run text).store.toList ∧
      (new.run low).succeeded = true ∧
      closeLines (new.run low).report.text = "low = -9223372036854775808;\n" ∧
      ∃ fault : LexFault,
        (new.run (closeLines (new.run low).report.text)).diagnostics = [.ofFault fault] ∧
        fault.cause = .numberTooLarge := by
  intro text low
  have run_eq (text : String) :
      new.run text = (new.execute (TokenStream.ofChars text.toList)).1 := by
    rw [run, TokenStream.ofString_eq]
  have succeeded : (new.run text).succeeded = true := by
    rw [run_eq]
    decide +kernel
  have shown : closeLines (new.run text).report.text = "zero = 0;\nb = -7;\n" := by
    rw [run_eq]
    decide +kernel
  have fits : ∀ binding ∈ (new.run text).store.toList, binding.2.toInt ≠ Value.lowest := by
    rw [run_eq]
    decide +kernel
  have succeeded' : (new.run low).succeeded = true := by
    rw [run_eq]
    decide +kernel
  have shown' : closeLines (new.run low).report.text = "low = -9223372036854775808;\n" := by
    rw [run_eq]
    decide +kernel
  have lowest : ∃ binding ∈ (new.run low).store.toList, binding.2.toInt = Value.lowest := by
    rw [run_eq]
    decide +kernel
  exact ⟨succeeded, shown, ((run_report new new succeeded).1 fits).2, succeeded', shown',
    (run_report new new succeeded').2 lowest⟩

end AssignLang
