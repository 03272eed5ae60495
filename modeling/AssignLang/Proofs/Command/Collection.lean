import AssignLang.Command.Collect
import AssignLang.Proofs.Text.Utf8
import Mathlib.Data.List.Induction

namespace AssignLang

section

variable {α : Type} [DecidableEq α] {feed : α}

theorem cutLines_line {line : List α} (h : feed ∉ line) (rest : List α) :
    cutLines feed (line ++ feed :: rest) = (line ++ [feed]) :: cutLines feed rest := by
  induction line with
  | nil => simp [cutLines]
  | cons x line ih =>
      rw [List.mem_cons, not_or] at h
      simp [cutLines, Ne.symm h.1, ih h.2]

theorem cutLines_last {line : List α} (h : feed ∉ line) (nonempty : line ≠ []) :
    cutLines feed line = [line] := by
  induction line with
  | nil => exact absurd rfl nonempty
  | cons x line ih =>
      rw [List.mem_cons, not_or] at h
      cases line with
      | nil => simp [cutLines, Ne.symm h.1]
      | cons y line =>
          rw [cutLines, if_neg (Ne.symm h.1), ih h.2 (List.cons_ne_nil y line)]

@[elab_as_elim]
theorem lines_induction {motive : List α → Prop} (feed : α) (nil : motive [])
    (last : ∀ line, feed ∉ line → line ≠ [] → motive line)
    (line : ∀ line rest, feed ∉ line → motive rest → motive (line ++ feed :: rest))
    (list : List α) : motive list := by
  by_cases member : feed ∈ list
  · obtain ⟨first, rest, same, h⟩ := List.eq_append_cons_of_mem member
    have shorter : rest.length < list.length := by
      rw [same, List.length_append, List.length_cons]
      omega
    rw [same]
    exact line first rest h (lines_induction feed nil last line rest)
  · cases list with
    | nil => exact nil
    | cons x rest => exact last _ member (List.cons_ne_nil x rest)
termination_by list.length

theorem withoutEnd_line (carriageReturn : α) (line : List α) :
    withoutEnd feed carriageReturn (line ++ [feed]) = dropLastIf carriageReturn line := by
  simp [withoutEnd]

theorem withoutEnd_last (carriageReturn : α) {line : List α} (h : feed ∉ line) :
    withoutEnd feed carriageReturn line = line := by
  rw [withoutEnd, if_neg]
  intro last
  exact h (List.mem_of_getLast? last)

end

theorem collectLines_line {line : List UInt8} (h : 0x0a ∉ line) (rest : List UInt8) :
    collectLines (line ++ 0x0a :: rest) =
      match Utf8.text? (dropLastIf 0x0d line) with
      | none => .error .invalidData
      | some text =>
        if text = "" then .ok ""
        else (collectLines rest).map fun program => text ++ "\n" ++ program := by
  rw [collectLines, byteLines, cutLines_line h, List.map_cons, withoutEnd_line, joinLines]
  rfl

theorem collectLines_last {line : List UInt8} (h : 0x0a ∉ line) (nonempty : line ≠ []) :
    collectLines line =
      match Utf8.text? line with
      | none => .error .invalidData
      | some text => if text = "" then .ok "" else .ok (text ++ "\n") := by
  rw [collectLines, byteLines, cutLines_last h nonempty, List.map_cons, withoutEnd_last _ h,
    joinLines]
  cases Utf8.text? line with
  | none => rfl
  | some text => simp [joinLines, Except.map]

namespace Utf8

theorem le_toNat_of_mem_tails {byte : UInt8} {n code : Nat} (h : byte ∈ tails n code) :
    0x80 ≤ byte.toNat := by
  induction n with
  | zero => cases h
  | succ n ih =>
      rcases List.mem_cons.1 h with rfl | h
      · rw [toNat_ofNat_of_lt (by omega)]
        omega
      · exact ih h

theorem le_toNat_of_mem_lead {byte : UInt8} {n code lead : Nat} (low : 0x80 ≤ lead)
    (high : lead < 256) (h : byte ∈ UInt8.ofNat lead :: tails n code) : 0x80 ≤ byte.toNat := by
  rcases List.mem_cons.1 h with rfl | h
  · rw [toNat_ofNat_of_lt high]
    exact low
  · exact le_toNat_of_mem_tails h

theorem of_mem_encodeChar {byte : UInt8} {c : Char} (ascii : byte.toNat < 0x80)
    (h : byte ∈ String.utf8EncodeChar c) : c.toNat = byte.toNat := by
  have bound := toNat_lt c
  by_cases one : c.toNat < 0x80
  · rw [utf8EncodeChar_one one] at h
    rw [List.mem_singleton.1 h, toNat_ofNat_of_lt (by omega)]
  · exfalso
    by_cases two : c.toNat < 0x800
    · rw [utf8EncodeChar_two (by omega) two] at h
      have := le_toNat_of_mem_lead (by omega) (by omega) h
      omega
    · by_cases three : c.toNat < 0x10000
      · rw [utf8EncodeChar_three (by omega) three] at h
        have := le_toNat_of_mem_lead (by omega) (by omega) h
        omega
      · rw [utf8EncodeChar_four (by omega)] at h
        have := le_toNat_of_mem_lead (by omega) (by omega) h
        omega

theorem mem_encode_iff {ch : Char} (ascii : ch.toNat < 0x80) {chars : List Char} :
    UInt8.ofNat ch.toNat ∈ encode chars ↔ ch ∈ chars := by
  have code : (UInt8.ofNat ch.toNat).toNat = ch.toNat := toNat_ofNat_of_lt (by omega)
  constructor
  · intro h
    obtain ⟨c, member, h⟩ := List.mem_flatMap.1 h
    have same := of_mem_encodeChar (by omega) h
    rwa [Char.toNat_inj.1 (code.symm.trans same.symm)]
  · intro h
    refine List.mem_flatMap.2 ⟨ch, h, ?_⟩
    rw [utf8EncodeChar_one ascii]
    exact List.mem_singleton_self _

theorem encode_append (front back : List Char) :
    encode (front ++ back) = encode front ++ encode back := List.flatMap_append

theorem encode_ne_nil {chars : List Char} (h : chars ≠ []) : encode chars ≠ [] := by
  obtain ⟨c, rest, rfl⟩ := List.exists_cons_of_ne_nil h
  intro nil
  have none := (List.flatMap_eq_nil_iff.1 nil) c List.mem_cons_self
  exact absurd none String.utf8EncodeChar_ne_nil

theorem of_getLast?_encode {ch : Char} (ascii : ch.toNat < 0x80) {chars : List Char}
    (h : (encode chars).getLast? = some (UInt8.ofNat ch.toNat)) : chars.getLast? = some ch := by
  have code : (UInt8.ofNat ch.toNat).toNat = ch.toNat := toNat_ofNat_of_lt (by omega)
  induction chars using List.reverseRecOn with
  | nil => cases h
  | append_singleton front c ih =>
      have last : encode (front ++ [c]) = encode front ++ String.utf8EncodeChar c := by
        rw [encode_append]
        simp [encode]
      have nonempty := List.getLast?_isSome.2 (String.utf8EncodeChar_ne_nil (c := c))
      rw [last, List.getLast?_append, Option.or_of_isSome nonempty] at h
      have same := of_mem_encodeChar (by omega) (List.mem_of_getLast? h)
      rw [List.getLast?_concat, Char.toNat_inj.1 (code.symm.trans same.symm)]

theorem text?_encode (chars : List Char) : text? (encode chars) = some (String.ofList chars) := by
  have decoded := decode_encode_append chars []
  simp only [List.append_nil, decode, decodeFrom, Option.map_none] at decoded
  simp only [text?, decode, decoded]

end Utf8

/-- No line is blank, and none has a carriage return before its line feed. -/
structure PlainLines (chars : List Char) : Prop where
  start : ¬ ['\n'] <+: chars
  feeds : ¬ ['\n', '\n'] <:+: chars
  returns : ¬ ['\r', '\n'] <:+: chars

def endedLines (chars : List Char) : List Char :=
  if chars = [] ∨ chars.getLast? = some '\n' then chars else chars ++ ['\n']

theorem PlainLines.rest {line rest : List Char} (h : PlainLines (line ++ '\n' :: rest)) :
    PlainLines rest where
  start := by
    rintro ⟨more, rfl⟩
    exact h.feeds ⟨line, more, by simp⟩
  feeds := by
    rintro ⟨before, after, rfl⟩
    exact h.feeds ⟨line ++ '\n' :: before, after, by simp⟩
  returns := by
    rintro ⟨before, after, rfl⟩
    exact h.returns ⟨line ++ '\n' :: before, after, by simp⟩

theorem PlainLines.line_ne_nil {line rest : List Char} (h : PlainLines (line ++ '\n' :: rest)) :
    line ≠ [] := by
  rintro rfl
  exact h.start ⟨rest, rfl⟩

theorem PlainLines.getLast?_line {line rest : List Char} (h : PlainLines (line ++ '\n' :: rest)) :
    line.getLast? ≠ some '\r' := by
  intro last
  obtain ⟨front, rfl⟩ := List.getLast?_eq_some_iff.1 last
  exact h.returns ⟨front, rest, by simp⟩

theorem endedLines_line (line rest : List Char) :
    endedLines (line ++ '\n' :: rest) = line ++ '\n' :: endedLines rest := by
  cases rest with
  | nil => simp [endedLines]
  | cons ch rest =>
      simp only [endedLines, List.getLast?_append, List.getLast?_cons_cons]
      split <;> simp_all

theorem endedLines_last {line : List Char} (h : '\n' ∉ line) (nonempty : line ≠ []) :
    endedLines line = line ++ ['\n'] := by
  rw [endedLines, if_neg]
  rintro (nil | last)
  · exact nonempty nil
  · exact h (List.mem_of_getLast? last)

theorem collectLines_encode {chars : List Char} (h : PlainLines chars) :
    collectLines (Utf8.encode chars) = .ok (String.ofList (endedLines chars)) := by
  have spelt {line : List Char} (nonempty : line ≠ []) : String.ofList line ≠ "" := by
    intro empty
    exact nonempty (by simpa using congrArg String.toList empty)
  have unbroken {line : List Char} (free : '\n' ∉ line) : 0x0a ∉ Utf8.encode line :=
    fun member => free ((Utf8.mem_encode_iff (by decide)).1 member)
  induction chars using lines_induction '\n' with
  | nil => rfl
  | last line free nonempty =>
      rw [collectLines_last (unbroken free) (Utf8.encode_ne_nil nonempty), Utf8.text?_encode,
        endedLines_last free nonempty]
      simp [spelt nonempty, String.ofList_append]
  | line line rest free ih =>
      have kept : dropLastIf 0x0d (Utf8.encode line) = Utf8.encode line := by
        rw [dropLastIf, if_neg]
        intro last
        exact h.getLast?_line (Utf8.of_getLast?_encode (by decide) last)
      have split : Utf8.encode (line ++ '\n' :: rest) =
          Utf8.encode line ++ 0x0a :: Utf8.encode rest := Utf8.encode_append line ('\n' :: rest)
      rw [split, collectLines_line (unbroken free), kept, Utf8.text?_encode, ih h.rest,
        endedLines_line]
      simp [spelt h.line_ne_nil, Except.map, String.ofList_append, String.ofList_cons,
        String.append_assoc]

end AssignLang
