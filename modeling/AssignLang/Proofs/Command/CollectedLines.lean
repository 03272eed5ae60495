import AssignLang.Proofs.Command.Collection
import AssignLang.Proofs.Program.Source

namespace AssignLang

/-- Each line that a line feed ends, without one carriage return at its end, and what comes after the
last line feed as it is, unless that is empty. -/
def inputLines (input : List UInt8) : List (List UInt8) :=
  let parts := input.splitOn 0x0a
  parts.dropLast.map (dropLastIf 0x0d) ++ parts.getLast?.toList.filter (· ≠ [])

def keptLines (input : List UInt8) : List (List UInt8) := (inputLines input).takeWhile (· ≠ [])

theorem inputLines_last {line : List UInt8} (h : 0x0a ∉ line) (nonempty : line ≠ []) :
    inputLines line = [line] := by
  simp [inputLines, List.splitOn_eq_singleton h, nonempty]

theorem inputLines_line {line : List UInt8} (h : 0x0a ∉ line) (rest : List UInt8) :
    inputLines (line ++ 0x0a :: rest) = dropLastIf 0x0d line :: inputLines rest := by
  have parts : (line ++ 0x0a :: rest).splitOn 0x0a = line :: rest.splitOn 0x0a := by
    rw [List.splitOn, List.splitOnP_append_cons _ _ (by simp), ← List.splitOn, ← List.splitOn,
      List.splitOn_eq_singleton h, List.singleton_append]
  have more := List.splitOn_ne_nil (0x0a : UInt8) rest
  simp only [inputLines, parts, List.dropLast_cons_of_ne_nil more, List.map_cons, List.cons_append,
    List.getLast?_cons_of_ne_nil more]

theorem collectLines_eq (input : List UInt8) : collectLines input = joinLines (inputLines input) := by
  rw [collectLines, byteLines]
  congr 1
  induction input using lines_induction (0x0a : UInt8) with
  | nil => rfl
  | last line free nonempty =>
      rw [cutLines_last free nonempty, inputLines_last free nonempty, List.map_singleton,
        withoutEnd_last _ free]
  | line line rest free ih =>
      rw [cutLines_line free, inputLines_line free, List.map_cons, withoutEnd_line, ih]

theorem Utf8.text?_eq_some_iff {bytes : List UInt8} {text : String} :
    text? bytes = some text ↔ bytes = encode text.toList := by
  constructor
  · intro h
    obtain ⟨rest, split, ends⟩ := exists_rest bytes
    unfold text? at h
    split at h
    · rename_i chars decoded
      cases h
      rw [decoded] at split ends
      rwa [decodeFrom_eq_nil ends, List.append_nil, ← String.toList_ofList (l := chars)] at split
    · cases h
  · rintro rfl
    rw [text?_encode, String.ofList_toList]

theorem Utf8.text?_eq_none_iff {bytes : List UInt8} :
    text? bytes = none ↔ ¬ bytes.toByteArray.IsValidUTF8 := by
  rw [isValidUTF8_iff, text?]
  cases decode bytes with
  | mk chars flaw => cases flaw <;> simp

theorem joinLines_nil (rest : List (List UInt8)) : joinLines ([] :: rest) = .ok "" := by
  have decoded : Utf8.text? [] = some "" := rfl
  simp [joinLines, decoded]

theorem joinLines_cons {line : List UInt8} {text : String} (nonempty : line ≠ [])
    (decoded : Utf8.text? line = some text) (rest : List (List UInt8)) :
    joinLines (line :: rest) = (joinLines rest).map fun program => text ++ "\n" ++ program := by
  have spelt : text ≠ "" := by
    rintro rfl
    exact nonempty (Utf8.text?_eq_some_iff.1 decoded)
  simp only [joinLines, decoded, if_neg spelt]

theorem joinLines_of_valid {lines : List (List UInt8)}
    (valid : ∀ line ∈ lines.takeWhile (· ≠ []), line.toByteArray.IsValidUTF8) :
    ∃ program, joinLines lines = .ok program ∧
      Utf8.encode program.toList = (lines.takeWhile (· ≠ [])).flatMap (· ++ [0x0a]) := by
  induction lines with
  | nil => exact ⟨"", rfl, rfl⟩
  | cons line rest ih =>
      by_cases empty : line = []
      · subst empty
        exact ⟨"", joinLines_nil rest, rfl⟩
      · have kept : (line :: rest).takeWhile (· ≠ []) = line :: rest.takeWhile (· ≠ []) := by
          simp [empty]
        rw [kept, List.forall_mem_cons] at valid
        obtain ⟨text, decoded⟩ := Option.ne_none_iff_exists'.1
          fun none => Utf8.text?_eq_none_iff.1 none valid.1
        obtain ⟨program, joined, bytes⟩ := ih valid.2
        refine ⟨text ++ "\n" ++ program, by rw [joinLines_cons empty decoded, joined]; rfl, ?_⟩
        have feed : Utf8.encode "\n".toList = [0x0a] := rfl
        rw [kept, List.flatMap_cons, ← bytes, Utf8.text?_eq_some_iff.1 decoded, ← feed]
        simp only [String.toList_append, Utf8.encode_append]

theorem joinLines_of_flawed {lines : List (List UInt8)}
    (flawed : ∃ line ∈ lines.takeWhile (· ≠ []), ¬ line.toByteArray.IsValidUTF8) :
    joinLines lines = .error .invalidData := by
  induction lines with
  | nil => simp at flawed
  | cons line rest ih =>
      have nonempty : line ≠ [] := by
        rintro rfl
        simp at flawed
      cases decoded : Utf8.text? line with
      | none => simp only [joinLines, decoded]
      | some text =>
          obtain ⟨bad, member, flaw⟩ := flawed
          rw [List.takeWhile_cons_of_pos (by simpa using nonempty), List.mem_cons] at member
          rcases member with rfl | later
          · rw [Utf8.text?_eq_none_iff.2 flaw] at decoded
            cases decoded
          · rw [joinLines_cons nonempty decoded, ih ⟨bad, later, flaw⟩]
            rfl

theorem collectLines_append {front : List UInt8} (blank : [] ∈ inputLines front)
    (rest : List UInt8) : collectLines (front ++ rest) = collectLines front := by
  induction front using lines_induction (0x0a : UInt8) with
  | nil => simp [inputLines] at blank
  | last line free nonempty =>
      rw [inputLines_last free nonempty, List.mem_singleton] at blank
      exact absurd blank.symm nonempty
  | line line more free ih =>
      rw [inputLines_line free, List.mem_cons] at blank
      rw [List.append_assoc, List.cons_append, collectLines_line free, collectLines_line free]
      rcases blank with empty | later
      · rw [← empty]
        rfl
      · rw [ih later]

/-- Lines that are not empty, each with its line feed. -/
inductive Collected : List Char → Prop
  | nil : Collected []
  | line (line rest : List Char) (free : '\n' ∉ line) (nonempty : line ≠ [])
      (more : Collected rest) : Collected (line ++ '\n' :: rest)

theorem lineFeed_notMem_of_text? {bytes : List UInt8} {text : String} (free : 0x0a ∉ bytes)
    (decoded : Utf8.text? bytes = some text) : '\n' ∉ text.toList := by
  rw [Utf8.text?_eq_some_iff.1 decoded] at free
  exact fun member => free ((Utf8.mem_encode_iff (by decide)).2 member)

theorem toList_ne_nil {text : String} (h : text ≠ "") : text.toList ≠ [] :=
  fun nil => h (String.toList_eq_nil_iff.1 nil)

theorem collected_of_eq_ok {input : List UInt8} {program : String}
    (h : collectLines input = .ok program) : Collected program.toList := by
  induction input using lines_induction (0x0a : UInt8) generalizing program with
  | nil =>
      cases h
      exact .nil
  | last line free nonempty =>
      rw [collectLines_last free nonempty] at h
      cases decoded : Utf8.text? line with
      | none => simp [decoded] at h
      | some text =>
          simp only [decoded] at h
          split at h
          · cases h
            exact .nil
          · rename_i spelt
            cases h
            rw [String.toList_append]
            exact .line _ [] (lineFeed_notMem_of_text? free decoded) (toList_ne_nil spelt) .nil
  | line line rest free ih =>
      rw [collectLines_line free] at h
      have free' : 0x0a ∉ dropLastIf 0x0d line := by
        unfold dropLastIf
        split
        · exact fun member => free (List.dropLast_subset line member)
        · exact free
      cases decoded : Utf8.text? (dropLastIf 0x0d line) with
      | none => simp [decoded] at h
      | some text =>
          simp only [decoded] at h
          split at h
          · cases h
            exact .nil
          · rename_i spelt
            cases collected : collectLines rest with
            | error fault => simp [collected, Except.map] at h
            | ok more =>
                simp only [collected, Except.map, Except.ok.injEq] at h
                subst h
                have parts : (text ++ "\n" ++ more).toList = text.toList ++ '\n' :: more.toList := by
                  simp
                rw [parts]
                exact .line _ _ (lineFeed_notMem_of_text? free' decoded) (toList_ne_nil spelt)
                  (ih collected)

theorem pair_infix_line_iff {α : Type} {feed : α} {line : List α} (free : feed ∉ line) (x : α)
    (rest : List α) :
    [x, feed] <:+: line ++ feed :: rest ↔
      line.getLast? = some x ∨ (x = feed ∧ rest.head? = some feed) ∨ [x, feed] <:+: rest := by
  induction line with
  | nil =>
      rw [List.nil_append, List.infix_cons_iff, List.cons_prefix_cons,
        List.singleton_prefix_iff_head?_eq_some]
      simp
  | cons y line ih =>
      rw [List.mem_cons, not_or] at free
      rw [List.cons_append, List.infix_cons_iff, ih free.2, List.cons_prefix_cons,
        List.singleton_prefix_iff_head?_eq_some]
      cases line with
      | nil => simp [@eq_comm α y x]
      | cons z line =>
          have other : z ≠ feed := fun same => free.2 (same ▸ List.mem_cons_self)
          simp [other]

theorem dropLastIf_encode (line : List Char) :
    dropLastIf 0x0d (Utf8.encode line) = Utf8.encode (dropLastIf '\r' line) := by
  by_cases last : line.getLast? = some '\r'
  · obtain ⟨front, rfl⟩ := List.getLast?_eq_some_iff.1 last
    have split : Utf8.encode (front ++ ['\r']) = Utf8.encode front ++ [0x0d] :=
      Utf8.encode_append front ['\r']
    simp [dropLastIf, split]
  · have kept : ¬ (Utf8.encode line).getLast? = some 0x0d :=
      fun returned => last (Utf8.of_getLast?_encode (by decide) returned)
    simp only [dropLastIf, if_neg last, if_neg kept]

theorem collectLines_encode_line {line : List Char} (free : '\n' ∉ line) (rest : List Char) :
    collectLines (Utf8.encode (line ++ '\n' :: rest)) =
      if dropLastIf '\r' line = [] then .ok ""
      else (collectLines (Utf8.encode rest)).map fun program =>
        String.ofList (dropLastIf '\r' line) ++ "\n" ++ program := by
  have split : Utf8.encode (line ++ '\n' :: rest) = Utf8.encode line ++ 0x0a :: Utf8.encode rest :=
    Utf8.encode_append line ('\n' :: rest)
  have unbroken : 0x0a ∉ Utf8.encode line :=
    fun member => free ((Utf8.mem_encode_iff (by decide)).1 member)
  rw [split, collectLines_line unbroken, dropLastIf_encode, Utf8.text?_encode]
  simp [String.ext_iff]

namespace Collected

variable {chars : List Char}

theorem ends (h : Collected chars) : chars = [] ∨ chars.getLast? = some '\n' := by
  induction h with
  | nil => exact .inl rfl
  | line line rest free nonempty more ih =>
      refine .inr ?_
      rcases ih with rfl | last
      · simp
      · simp [List.getLast?_append, List.getLast?_cons, last]

theorem head?_ne (h : Collected chars) : chars.head? ≠ some '\n' := by
  cases h with
  | nil => simp
  | line line rest free nonempty more =>
      obtain ⟨ch, line, rfl⟩ := List.exists_cons_of_ne_nil nonempty
      rintro ⟨⟩
      exact free List.mem_cons_self

theorem no_blank (h : Collected chars) : ¬ ['\n', '\n'] <:+: chars := by
  induction h with
  | nil => simp
  | line line rest free nonempty more ih =>
      rw [pair_infix_line_iff free]
      rintro (last | ⟨-, first⟩ | later)
      · exact free (List.mem_of_getLast? last)
      · exact more.head?_ne first
      · exact ih later

theorem collect_again_iff (h : Collected chars) :
    collectLines (Utf8.encode chars) = .ok (String.ofList chars) ↔ ¬ ['\r', '\n'] <:+: chars := by
  induction h with
  | nil => simp [Utf8.encode, collectLines_eq, inputLines, joinLines]
  | line line rest free nonempty more ih =>
      rw [collectLines_encode_line free]
      by_cases last : line.getLast? = some '\r'
      · obtain ⟨front, rfl⟩ := List.getLast?_eq_some_iff.1 last
        have taken : dropLastIf '\r' (front ++ ['\r']) = front := by simp [dropLastIf]
        refine iff_of_false ?_ (not_not.2 ((pair_infix_line_iff free _ _).2 (.inl last)))
        rw [taken]
        intro again
        split at again
        · simpa using congrArg String.toList (Except.ok.inj again)
        · cases collected : collectLines (Utf8.encode rest) with
          | error fault => simp [collected, Except.map] at again
          | ok program =>
              simp only [collected, Except.map, Except.ok.injEq] at again
              simpa using congrArg String.toList again
      · have kept : dropLastIf '\r' line = line := by rw [dropLastIf, if_neg last]
        have other : '\r' ≠ '\n' := by decide
        rw [kept, if_neg nonempty, pair_infix_line_iff free]
        simp only [last, other, false_and, false_or, ← ih]
        cases collectLines (Utf8.encode rest) with
        | error fault => simp [Except.map]
        | ok program => simp [Except.map, String.ext_iff]

end Collected

/-- What is collected are the lines of the input before the first empty one, each with a line feed;
it fails exactly if one of these lines is not UTF-8. So the bytes after an empty line do not matter,
a collected program has no blank line and ends with a line feed unless it is empty, and collecting
it once more gives it again exactly if no carriage return stands before a line feed. -/
theorem collectLines_keeps (input : List UInt8) :
    (collectLines input = .error .invalidData ↔
      ∃ line ∈ keptLines input, ¬ line.toByteArray.IsValidUTF8) ∧
    ((∀ line ∈ keptLines input, line.toByteArray.IsValidUTF8) →
      ∃ program : String, collectLines input = .ok program ∧
        program.toUTF8.data.toList = (keptLines input).flatMap (· ++ [0x0a])) ∧
    ([] ∈ inputLines input → ∀ rest, collectLines (input ++ rest) = collectLines input) ∧
    ∀ program : String, collectLines input = .ok program →
      (program = "" ∨ program.toList.getLast? = some '\n') ∧
      program.toList.head? ≠ some '\n' ∧ ¬ ['\n', '\n'] <:+: program.toList ∧
      (collectLines program.toUTF8.data.toList = .ok program ↔
        ¬ ['\r', '\n'] <:+: program.toList) := by
  have joined (valid : ∀ line ∈ keptLines input, line.toByteArray.IsValidUTF8) :=
    joinLines_of_valid valid
  rw [← collectLines_eq] at joined
  refine ⟨⟨?_, ?_⟩, ?_, collectLines_append, ?_⟩
  · intro failed
    by_contra sound
    push Not at sound
    obtain ⟨program, collected, -⟩ := joined sound
    rw [collected] at failed
    cases failed
  · intro flawed
    rw [collectLines_eq]
    exact joinLines_of_flawed flawed
  · intro valid
    obtain ⟨program, collected, bytes⟩ := joined valid
    exact ⟨program, collected, (Utf8.toUTF8_eq_encode program).trans bytes⟩
  · intro program h
    have collected := collected_of_eq_ok h
    refine ⟨collected.ends.imp String.toList_eq_nil_iff.1 id, collected.head?_ne,
      collected.no_blank, ?_⟩
    rw [Utf8.toUTF8_eq_encode, ← collected.collect_again_iff, String.ofList_toList]

theorem collectLines_keeps_doubled_return :
    let input : List UInt8 := [0x61, 0x0d, 0x0d, 0x0a, 0x62, 0x0a, 0x0d, 0x0a]
    (∀ line ∈ keptLines input, line.toByteArray.IsValidUTF8) ∧ [] ∈ inputLines input ∧
      collectLines input = .ok "a\r\nb\n" ∧
      "a\r\nb\n".toUTF8.data.toList = (keptLines input).flatMap (· ++ [0x0a]) ∧
      collectLines (input ++ [0xff]) = collectLines input ∧
      collectLines "a\r\nb\n".toUTF8.data.toList ≠ .ok "a\r\nb\n" := by
  intro input
  have collected : collectLines input = .ok "a\r\nb\n" := by decide +kernel
  have kept : keptLines input = [[0x61, 0x0d], [0x62]] := by decide +kernel
  have valid : ∀ line ∈ keptLines input, line.toByteArray.IsValidUTF8 := by
    simp only [kept, Utf8.isValidUTF8_iff]
    decide
  have blank : [] ∈ inputLines input := by decide +kernel
  obtain ⟨-, joined, ignored, told⟩ := collectLines_keeps input
  obtain ⟨program, same, bytes⟩ := joined valid
  cases collected.symm.trans same
  refine ⟨valid, blank, collected, bytes, ignored blank [0xff], ?_⟩
  intro again
  exact (told _ collected).2.2.2.1 again ⟨['a'], ['b', '\n'], by decide⟩

end AssignLang
