import AssignLang.Proofs.Store.History
import AssignLang.Proofs.Token.Interleaving

namespace AssignLang

namespace NameTable

def internAll (table : NameTable) : List String → List Symbol × NameTable
  | [] => ([], table)
  | name :: rest =>
    let interned := table.intern name
    let more := interned.2.internAll rest
    (interned.1 :: more.1, more.2)

/-- The table holds the spellings in the order of their first appearance, and its index and its
array lead to each other. -/
structure Lists (table : NameTable) (spellings : List String) : Prop where
  valid : table.Valid
  indexed : ∀ (slot : Nat) (name : String), table.names[slot]? = some name →
    table.slots[name]? = some slot
  names : table.names.toList = spellings.eraseDups

theorem lists_empty : empty.Lists [] where
  valid := valid_empty
  indexed := by simp [empty]
  names := rfl

variable {table : NameTable} {spellings : List String}

theorem Lists.mem_iff (h : table.Lists spellings) {name : String} :
    name ∈ spellings ↔ ∃ slot, table.slots[name]? = some slot := by
  rw [← List.mem_eraseDups, ← h.names, List.mem_iff_getElem?]
  simp only [Array.getElem?_toList]
  exact ⟨fun ⟨slot, found⟩ => ⟨slot, h.indexed slot name found⟩,
    fun ⟨slot, found⟩ => ⟨slot, h.valid name slot found⟩⟩

theorem Lists.intern (h : table.Lists spellings) (name : String) :
    (table.intern name).2.Lists (spellings ++ [name]) where
  valid := valid_intern h.valid name
  indexed := by
    cases found : table.slots[name]? with
    | some slot => simpa [NameTable.intern, found] using h.indexed
    | none =>
        intro slot other at'
        simp only [NameTable.intern, found, Std.TreeMap.getElem?_insert,
          Std.LawfulEqCmp.compare_eq_iff_eq] at at' ⊢
        rw [Array.getElem?_push] at at'
        split at at'
        · rename_i last
          cases at'
          simp [last]
        · have old := h.indexed slot other at'
          rw [if_neg, old]
          rintro rfl
          simp [found] at old
  names := by
    have member : name ∈ spellings ↔ _ := h.mem_iff
    rw [eraseDups_concat, ← h.names]
    cases found : table.slots[name]? with
    | some slot => simp [NameTable.intern, found, member]
    | none => simp [NameTable.intern, found, member]

theorem size_intern_le (table : NameTable) (name : String) :
    (table.intern name).2.size ≤ table.size + 1 := by
  unfold intern size
  split <;> simp

theorem Lists.internAll (h : table.Lists spellings) (more : List String) :
    (table.internAll more).2.Lists (spellings ++ more) := by
  induction more generalizing table spellings with
  | nil => simpa [NameTable.internAll] using h
  | cons name rest ih =>
      have step := ih (h.intern name)
      rwa [List.append_assoc, List.singleton_append] at step

end NameTable

/-! ## Names that were read -/

def identifier? : Except LexFault Sight → Option String
  | .ok (.lexeme ⟨.identifier name, _, _⟩) => some name
  | _ => none

def namesRead (readings : Nat → Except LexFault Sight) (count : Nat) : List String :=
  (List.range count).filterMap fun n => identifier? (readings n)

theorem namesRead_succ (readings : Nat → Except LexFault Sight) (count : Nat) :
    namesRead readings (count + 1) =
      namesRead readings count ++ (identifier? (readings count)).toList := by
  cases h : identifier? (readings count) <;>
    simp [namesRead, List.range_succ, h]

namespace Scanner

variable {scanner : Scanner} {spellings : List String}

theorem lists_take (h : scanner.names.Lists spellings) :
    scanner.take.2.names.Lists (spellings ++ (identifier? scanner.take.1).toList) := by
  have unchanged {reading : Except LexFault Sight} (other : identifier? reading = none) :
      scanner.names.Lists (spellings ++ (identifier? reading).toList) := by
    simpa [other] using h
  rw [take_eq]
  split
  · exact unchanged rfl
  · rename_i ch found
    split
    · rename_i token single
      refine unchanged ?_
      unfold Token.ofChar? at single
      split at single <;> cases single <;> rfl
    · split
      · refine unchanged ?_
        simp only [number_eq]
        split <;> rfl
      · split
        · simp only [identifierM, identifier?, NameTable.intern_name h.valid]
          exact h.intern _
        · exact unchanged rfl

theorem lists_scan (h : scanner.names.Lists spellings) :
    scanner.scan.2.names.Lists (spellings ++ (identifier? scanner.scan.1).toList) :=
  lists_take (show scanner.skipBlanks.names.Lists spellings from h)

theorem size_names_take (scanner : Scanner) :
    scanner.take.2.names.size + scanner.take.2.cursor.size ≤
      scanner.names.size + scanner.cursor.size := by
  rw [take_eq]
  split
  · exact Nat.le_refl _
  · rename_i ch found
    split
    · exact Nat.add_le_add_left (Cursor.size_advance_le _) _
    · split
      · exact Nat.add_le_add_left (Cursor.size_skip_le _ _) _
      · split
        · rename_i start
          let name := String.ofList (scanner.cursor.run isNamePart)
          have shorter : (scanner.cursor.skip isNamePart).size < scanner.cursor.size :=
            Cursor.size_skip_lt found (isNamePart_of_isNameStart start)
          have grown := scanner.names.size_intern_le name
          change (scanner.names.intern name).2.size + (scanner.cursor.skip isNamePart).size ≤ _
          omega
        · exact Nat.le_refl _

theorem size_names_scan (scanner : Scanner) :
    scanner.scan.2.names.size + scanner.scan.2.cursor.size ≤
      scanner.names.size + scanner.cursor.size :=
  Nat.le_trans (size_names_take scanner.skipBlanks)
    (Nat.add_le_add_left (Cursor.size_skip_le scanner.cursor isBlank) _)

end Scanner

namespace TokenStream

/-- How many readings lie behind the scanner of a stream whose mark is given: those before the mark,
and the token that is held. -/
def lexed (stream : TokenStream) (playback : Playback) : Nat :=
  playback.index + if stream.peeked.isSome then 1 else 0

variable {stream : TokenStream} {readings : Nat → Except LexFault Sight} {playback : Playback}

theorem Plays.scan (h : stream.Plays readings playback) (bare : stream.peeked = none) :
    stream.scanner.scan.1 = readings playback.index := by
  have given := h.next.1
  simpa [next_eq, bare] using given

def ListsNames (stream : TokenStream) (readings : Nat → Except LexFault Sight)
    (playback : Playback) : Prop :=
  stream.names.Lists (namesRead readings (stream.lexed playback))

theorem ListsNames.next (h : stream.ListsNames readings playback)
    (plays : stream.Plays readings playback) :
    stream.next.2.ListsNames readings { playback with index := playback.index + 1 } := by
  unfold ListsNames at h ⊢
  cases held : stream.peeked with
  | some lexeme => simpa [next_eq, lexed, names, held] using h
  | none =>
      have scanned := Scanner.lists_scan h
      simpa [next_eq, lexed, names, held, plays.scan held, namesRead_succ] using scanned

theorem ListsNames.peek (h : stream.ListsNames readings playback)
    (plays : stream.Plays readings playback) :
    stream.peek.2.ListsNames readings (playback.answer readings .peek).2 := by
  unfold ListsNames at h ⊢
  cases held : stream.peeked with
  | some lexeme =>
      have given : readings playback.index = .ok (.lexeme lexeme) := by
        rw [← plays.next.1]
        simp [next_eq, held]
      simpa [peek_eq, Playback.answer, given, held] using h
  | none =>
      have scanned := Scanner.lists_scan h
      have given := plays.scan held
      cases found : stream.scanner.scan with
      | mk reading after =>
          rw [found] at scanned given
          rcases reading with fault | lexeme | ⟨line, offset⟩
          all_goals
            simpa [peek_eq, Playback.answer, lexed, held, found, ← given, namesRead_succ,
              names, identifier?] using scanned

theorem ListsNames.pull (h : stream.ListsNames readings playback)
    (plays : stream.Plays readings playback) :
    stream.pull.2.ListsNames readings (playback.answer readings .pull).2 := by
  obtain ⟨index, done⟩ := playback
  cases done with
  | true =>
      have finished : stream.finished = true := plays.finished
      simpa [pull_eq, Playback.answer, finished] using h
  | false =>
      have unfinished : stream.finished = false := plays.finished
      have moved := h.next plays
      have given := plays.next.1
      cases taken : stream.next with
      | mk reading after =>
          rw [taken] at moved given
          -- a fault and the end of the text only end the pulling
          rcases reading with fault | lexeme | ⟨line, offset⟩
          all_goals
            simp only [pull_eq, Playback.answer, unfinished, taken, ← given]
            exact moved

theorem ListsNames.answer (h : stream.ListsNames readings playback)
    (plays : stream.Plays readings playback) (request : Request) :
    (stream.answer request).2.ListsNames readings (playback.answer readings request).2 := by
  cases request with
  | peek => exact h.peek plays
  | next => exact h.next plays
  | pull => exact h.pull plays

theorem ListsNames.afterAll (h : stream.ListsNames readings playback)
    (plays : stream.Plays readings playback) (requests : List Request) :
    (stream.afterAll requests).ListsNames readings (playback.afterAll readings requests) := by
  induction requests generalizing stream playback with
  | nil => exact h
  | cons request rest ih => exact ih (h.answer plays request) (plays.answer request).2

theorem listsNames_ofString (text : String) :
    (ofString text).ListsNames (ofString text).reading .start :=
  NameTable.lists_empty

/-- A table has a name for every byte of the text at most, so that its slots are words where the
offsets of the text are. -/
theorem slot_lt_utf8ByteSize (text : String) (requests : List Request) (name : String)
    (slot : Nat) (found : ((ofString text).afterAll requests).names.slots[name]? = some slot) :
    slot < text.utf8ByteSize := by
  let stream := (ofString text).afterAll requests
  have valid : stream.names.Valid :=
    ((listsNames_ofString text).afterAll (plays_ofString text) requests).valid
  have inside : slot < stream.names.size := (Array.getElem?_eq_some_iff.1 (valid name slot found)).1
  have start : (ofString text).scanner.names.size + (ofString text).scanner.cursor.size ≤
      text.toList.length := by
    have read : (ofString text).scanner.cursor.size ≤ (offsetsOf text).length :=
      Cursor.size_advance_le _
    have characters := congrArg List.length (map_snd_offsetsFrom 0 text.toList)
    rw [List.length_map, ← offsetsOf_eq] at characters
    change 0 + _ ≤ _
    omega
  have sized : stream.names.size + stream.scanner.cursor.size ≤ text.toList.length :=
    (ofString text).scanner_afterAll
      (fun scanner => scanner.names.size + scanner.cursor.size ≤ text.toList.length)
      (fun scanner h => Nat.le_trans scanner.size_names_scan h) start requests
  have bytes := length_le_byteLength text.toList
  rw [byteLength_toList] at bytes
  omega

end TokenStream

/-! ## The order of the text -/

namespace Spot

end Spot

end AssignLang
