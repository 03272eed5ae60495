import AssignLang.Proofs.Program.Delimiter
import AssignLang.Proofs.Program.Interruption
import AssignLang.Proofs.Program.Viability
import AssignLang.Proofs.Token.Interleaving

namespace AssignLang

def Token.Writable : Token → Prop
  | number value => 0 ≤ value.toInt
  | identifier name =>
    (∃ ch, name.toList.head? = some ch ∧ isNameStart ch = true) ∧
      ∀ ch ∈ name.toList, isNamePart ch = true
  | operator _ | semicolon | openParen | closeParen => True

theorem Token.Spelt.writable {token : Token} {body after : List Char} (h : token.Spelt body after) :
    token.Writable := by
  cases token with
  | number value =>
      obtain ⟨-, -, same, -⟩ := h
      rw [Writable, same]
      exact Int.natCast_nonneg _
  | identifier name =>
      obtain ⟨starts, run, rfl⟩ := h
      rw [Writable, String.toList_ofList]
      exact ⟨starts, run.inside⟩
  | operator op => trivial
  | semicolon | openParen | closeParen => trivial

theorem Value.toList_text {value : Value} (unsigned : 0 ≤ value.toInt) :
    value.text.toList = Nat.toDigits 10 value.toInt.toNat := by
  rw [text, Int.toString_eq_repr, Int.repr_eq_if, if_pos unsigned, Nat.toList_repr]

theorem eq_zero_of_head?_toDigits {number : Nat}
    (h : (Nat.toDigits 10 number).head? = some '0') : number = 0 := by
  induction number using Nat.strongRecOn with
  | ind number ih =>
      rw [Nat.toDigits_eq_if (by decide)] at h
      split at h
      · rename_i small
        have table : ∀ digit < 10, [Nat.digitChar digit].head? = some '0' → digit = 0 := by decide
        exact table number small h
      · rename_i large
        rw [List.head?_append_of_ne_nil _ Nat.toDigits_ne_nil] at h
        have := ih (number / 10) (by omega) h
        omega

theorem not_badZeros_toDigits {number : Nat} {after : Option Char} (ended : endsZero after = true) :
    ¬ BadZeros (Nat.toDigits 10 number) after := by
  rintro (⟨⟨rest, zeros⟩, other⟩ | ⟨-, open'⟩)
  · have head : (Nat.toDigits 10 number).head? = some '0' := by
      rw [← zeros]
      rfl
    exact other (Nat.ofDigitChars_ten_toDigits.trans (eq_zero_of_head?_toDigits head))
  · rw [ended] at open'
    cases open'

theorem Token.spelt_number {value : Value} (unsigned : 0 ≤ value.toInt) {after : List Char}
    (stops : ∀ ch, after.head? = some ch → ch.isDigit = false)
    (ended : endsZero after.head? = true) : (number value).Spelt value.text.toList after := by
  rw [Value.toList_text unsigned]
  refine ⟨Nat.toDigits_ne_nil, ⟨?_, stops⟩, ?_, not_badZeros_toDigits ended⟩
  · exact fun ch member => Nat.isDigit_of_mem_toDigits (by decide) (by decide) member
  · rw [decimal, Nat.ofDigitChars_ten_toDigits, Int.toNat_of_nonneg unsigned]

theorem Token.spelt_literal {token : Token} (writable : token.Writable) {after : List Char}
    (ended : ∀ ch, after.head? = some ch → Delimits ch) :
    token.Spelt token.literal.toList after := by
  cases token with
  | number value =>
      refine spelt_number writable (fun ch head => (ended ch head).digit) ?_
      cases head : after.head? with
      | none => rfl
      | some ch => exact (ended ch head).zero
  | identifier name =>
      obtain ⟨starts, parts⟩ := writable
      exact ⟨starts, ⟨parts, fun ch head => (ended ch head).part⟩, String.ofList_toList.symm⟩
  | operator op => exact rfl
  | semicolon | openParen | closeParen => exact rfl

/-- The gap ends the token before it: it is blank and starts with a space, a tab or a line feed. -/
structure Separates (gap : String) : Prop where
  blank : ∀ ch ∈ gap.toList, isBlank ch = true
  first : ∃ ch, gap.toList.head? = some ch ∧ ch ∈ [' ', '\t', '\n']

def writeOut : List (Token × String) → String
  | [] => ""
  | (token, gap) :: rest => token.literal ++ (gap ++ writeOut rest)

def Spaced : List (Token × String) → Prop
  | [] => True
  | (_, gap) :: rest => (Separates gap ∨ gap = "" ∧ rest = []) ∧ Spaced rest

theorem Separates.delimits {gap : String} (h : Separates gap) {more : List Char} {ch : Char}
    (head : (gap.toList ++ more).head? = some ch) : Delimits ch := by
  obtain ⟨first, found, listed⟩ := h.first
  rw [List.head?_append, found] at head
  cases head
  simp only [List.mem_cons, List.not_mem_nil, or_false] at listed
  rcases listed with rfl | rfl | rfl
  all_goals constructor <;> decide

theorem tokenised_writeOut {entries : List (Token × String)}
    (writable : ∀ entry ∈ entries, entry.1.Writable) (spaced : Spaced entries)
    (before : List Char) {blanks : List Char} (blank : ∀ ch ∈ blanks, isBlank ch = true) :
    ∃ lexemes stop, Tokenised before (blanks ++ (writeOut entries).toList) lexemes stop [] ∧
      tokensOf lexemes = entries.map (·.1) := by
  induction entries generalizing before blanks with
  | nil => exact ⟨[], before ++ blanks, .stop ⟨blank, nofun⟩, rfl⟩
  | cons entry rest ih =>
      obtain ⟨token, gap⟩ := entry
      obtain ⟨gapped, spaced⟩ := spaced
      rw [List.forall_mem_cons] at writable
      have ended (ch : Char) (head : (gap.toList ++ (writeOut rest).toList).head? = some ch) :
          Delimits ch := by
        rcases gapped with separates | ⟨rfl, rfl⟩
        · exact separates.delimits head
        · cases head
      have gapBlank : ∀ ch ∈ gap.toList, isBlank ch = true := by
        rcases gapped with separates | ⟨rfl, rfl⟩
        · exact separates.blank
        · nofun
      have spelt := Token.spelt_literal writable.1 ended
      obtain ⟨lexemes, stop, others, tokens⟩ :=
        ih writable.2 spaced (before ++ blanks ++ token.literal.toList) gapBlank
      refine ⟨lexemeAfter (before ++ blanks) token.literal.toList token :: lexemes, stop, ?_, ?_⟩
      · rw [writeOut, String.toList_append, String.toList_append]
        exact .lexeme ⟨blank, fun ch head => spelt.head_not_isBlank head⟩ spelt others
      · rw [tokensOf_cons, tokens]
        rfl

theorem lexes_of_spaced {lead : String} (blank : ∀ ch ∈ lead.toList, isBlank ch = true)
    {entries : List (Token × String)} (writable : ∀ entry ∈ entries, entry.1.Writable)
    (spaced : Spaced entries) :
    ∃ lexemes, Lexes (lead ++ writeOut entries) lexemes ∧ tokensOf lexemes = entries.map (·.1) := by
  obtain ⟨lexemes, stop, tokenised, tokens⟩ := tokenised_writeOut writable spaced [] blank
  rw [← String.toList_append] at tokenised
  exact ⟨lexemes, tokenised.lexes, tokens⟩

def Answer.lexeme? : Answer → Option Lexeme
  | reading (.ok (.lexeme lexeme)) => some lexeme
  | pulled (some (.ok lexeme)) => some lexeme
  | _ => none

theorem Playback.reading_of_answer {readings : Nat → Except LexFault Sight} {playback : Playback}
    {request : Request} {lexeme : Lexeme}
    (h : (playback.answer readings request).1.lexeme? = some lexeme) :
    readings playback.index = .ok (.lexeme lexeme) := by
  obtain ⟨index, done⟩ := playback
  rcases shown : readings index with fault | found | ⟨line, offset⟩
  all_goals
    cases request <;> cases done <;> simp_all [answer, Answer.lexeme?]

theorem Playback.exists_reading {readings : Nat → Except LexFault Sight} {playback : Playback}
    {requests : List Request} {answer : Answer} {lexeme : Lexeme}
    (member : answer ∈ playback.answers readings requests) (given : answer.lexeme? = some lexeme) :
    ∃ n, readings n = .ok (.lexeme lexeme) := by
  induction requests generalizing playback with
  | nil => cases member
  | cons request rest ih =>
      rcases List.mem_cons.1 member with rfl | later
      · exact ⟨playback.index, reading_of_answer given⟩
      · exact ih later

theorem Spot.writable_of_read {spot after : Spot} {lexeme : Lexeme}
    (h : spot.read = (.ok (.lexeme lexeme), after)) : lexeme.token.Writable := by
  obtain ⟨piece, token, found, content, rfl, -⟩ := take_lexeme h
  have judged := Piece.judged_first found
  simp only [Piece.Judged, content] at judged
  exact judged.writable

theorem Spot.writable_of_reading {spot : Spot} {n : Nat} {lexeme : Lexeme}
    (h : spot.reading n = .ok (.lexeme lexeme)) : lexeme.token.Writable := by
  induction n generalizing spot with
  | zero => exact writable_of_read (Prod.ext h rfl)
  | succ n ih => exact ih h

theorem TokenStream.writable_of_answer {text : String} {requests : List Request} {answer : Answer}
    {lexeme : Lexeme} (member : answer ∈ (ofString text).answers requests)
    (given : answer.lexeme? = some lexeme) : lexeme.token.Writable := by
  rw [(plays_ofString text).answers] at member
  obtain ⟨n, shown⟩ := Playback.exists_reading member given
  rw [(isAt_ofString text).reading] at shown
  exact Spot.writable_of_reading shown

theorem TokenStream.writable_of_pulled {text : String} {lexeme : Lexeme}
    (member : lexeme ∈ (ofString text).pullAll.1) : lexeme.token.Writable := by
  obtain ⟨stop, rest, tokenised, -⟩ := Spot.tokenised_tape [] text.toList
  rw [(pullAll_eq_tape text).1] at member
  obtain ⟨front, body, after, token, -, spelt, rfl, -⟩ := tokenised.exists_of_mem member
  exact spelt.writable

/-- Tokens that may stand in a text are read back from the text that writes them out with blanks
before them and gaps between them. Every token that a stream gives or shows may stand in a text,
whatever is asked of it, so the tokens of a text can be written out and read back. -/
theorem lexes_writeOut :
    (∀ (lead : String) (entries : List (Token × String)),
      (∀ ch ∈ lead.toList, isBlank ch = true) → (∀ entry ∈ entries, entry.1.Writable) →
      Spaced entries →
      ∃ lexemes, Lexes (lead ++ writeOut entries) lexemes ∧
        tokensOf lexemes = entries.map (·.1)) ∧
    (∀ (text : String) (requests : List Request) (answer : Answer) (lexeme : Lexeme),
      answer ∈ (TokenStream.ofString text).answers requests → answer.lexeme? = some lexeme →
      lexeme.token.Writable) ∧
    ∀ (text lead : String) (entries : List (Token × String)),
      (∀ ch ∈ lead.toList, isBlank ch = true) →
      entries.map (·.1) = tokensOf (TokenStream.ofString text).pullAll.1 → Spaced entries →
      ∃ lexemes, Lexes (lead ++ writeOut entries) lexemes ∧
        tokensOf lexemes = tokensOf (TokenStream.ofString text).pullAll.1 := by
  refine ⟨fun lead entries blank writable spaced => lexes_of_spaced blank writable spaced,
    fun text requests answer lexeme => TokenStream.writable_of_answer, ?_⟩
  intro text lead entries blank tokens spaced
  have writable (entry : Token × String) (member : entry ∈ entries) : entry.1.Writable := by
    have listed : entry.1 ∈ tokensOf (TokenStream.ofString text).pullAll.1 :=
      tokens ▸ List.mem_map_of_mem member
    obtain ⟨lexeme, pulled, same⟩ := List.mem_map.1 listed
    exact same ▸ TokenStream.writable_of_pulled pulled
  rw [← tokens]
  exact lexes_of_spaced blank writable spaced

theorem lexes_writeOut_zero :
    let entries : List (Token × String) :=
      [(.identifier "été", " "), (.operator .assign, "\t\r"), (.number .zero, "\n\u2003"),
        (.semicolon, "")]
    (∀ entry ∈ entries, entry.1.Writable) ∧ Spaced entries ∧
      "\r\n" ++ writeOut entries = "\r\nété =\t\r0\n\u2003;" ∧
      ∃ lexemes, Lexes ("\r\n" ++ writeOut entries) lexemes ∧
        tokensOf lexemes = entries.map (·.1) := by
  intro entries
  have writable : ∀ entry ∈ entries, entry.1.Writable := by
    simp only [entries, List.forall_mem_cons]
    refine ⟨⟨⟨'é', rfl, by decide +kernel⟩, ?_⟩, trivial, Int.le_refl 0, trivial, by simp⟩
    exact List.all_eq_true.1 (by decide +kernel)
  have spaced : Spaced entries :=
    ⟨.inl ⟨List.all_eq_true.1 (by decide +kernel), ' ', rfl, by decide⟩,
      .inl ⟨List.all_eq_true.1 (by decide +kernel), '\t', rfl, by decide⟩,
      .inl ⟨List.all_eq_true.1 (by decide +kernel), '\n', rfl, by decide⟩, .inr ⟨rfl, rfl⟩, trivial⟩
  exact ⟨writable, spaced, by decide +kernel,
    lexes_writeOut.1 "\r\n" entries (List.all_eq_true.1 (by decide +kernel)) writable spaced⟩

end AssignLang
