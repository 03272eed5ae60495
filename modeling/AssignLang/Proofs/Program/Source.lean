import AssignLang.Proofs.Program.Evaluation
import AssignLang.Proofs.Text.Utf8
import AssignLang.Program.Source

namespace AssignLang

namespace TokenStream

variable {stream : TokenStream} {spot : Spot} {total : Nat}

theorem IsAt.requests_le (h : stream.IsAt spot total) :
    stream.scanner.cursor.requests ≤ total + 1 := by
  cases h with
  | bare held scanner => exact scanner.requests ▸ Nat.le_add_right _ _
  | held lexeme after held read scanner => exact scanner.requests ▸ Nat.le_add_right _ _

theorem IsAt.requests_of_nil (h : stream.IsAt spot total) (empty : spot.chars = []) :
    stream.scanner.cursor.requests = total + 1 := by
  have counted := (h.scanner_of_nil empty).requests
  rwa [empty] at counted

end TokenStream

theorem Spot.chars_of_peekOf {spot after : Spot} {line offset : Nat}
    (h : peekOf spot = (.ok (.finish line offset), after)) : after.chars = [] := by
  obtain ⟨shown, left⟩ := Prod.mk.inj h
  have shown : spot.peek.1 = .ok (.finish line offset) := Routine.ofReading_eq_ok shown
  have read : spot.read = (.ok (.finish line offset), spot.read.2) :=
    Prod.ext (spot.peek_fst.symm.trans shown) rfl
  have passed : spot.peek.2 = spot.read.2 := by
    rw [peek, read]
  rw [← left]
  change spot.peek.2.chars = []
  rw [passed, (read_finish read).1]
  rfl

theorem Session.chars_proceed {session : Session} {spot : Spot}
    (h : (session.proceed spot).1.diagnostics = []) : (session.proceed spot).2.chars = [] := by
  induction session, spot using proceed_induction with
  | assigned session spot assignment after read ih =>
      rw [proceed_assigned read] at h ⊢
      exact ih h
  | finished session spot after read =>
      rw [proceed_finished read]
      obtain ⟨line, offset, seen⟩ := peekOf_of_finished read
      exact Spot.chars_of_peekOf seen
  | failed session spot diagnostic after read =>
      rw [proceed_failed read] at h
      simp at h

theorem requests_execute (session : Session) (chars : List Char) :
    (session.execute (TokenStream.ofChars chars)).2.scanner.cursor.requests ≤ chars.length + 1 ∧
      ((session.execute (TokenStream.ofChars chars)).1.diagnostics = [] →
        (session.execute (TokenStream.ofChars chars)).2.scanner.cursor.requests =
          chars.length + 1) := by
  have clean : session.clear.diagnostics = [] := rfl
  obtain ⟨same, states⟩ := Session.proceed_stream clean (TokenStream.isAt_ofChars chars)
  rw [Session.execute]
  refine ⟨states.requests_le, fun succeeded => ?_⟩
  rw [same] at succeeded
  exact states.requests_of_nil (Session.chars_proceed succeeded)

namespace Utf8

theorem decode_drop (bytes : List UInt8) (n : Nat) :
    decode (bytes.drop (encode ((decode bytes).chars.take n)).length) =
      ⟨(decode bytes).chars.drop n, (decode bytes).flaw⟩ := by
  obtain ⟨rest, split, ends⟩ := exists_rest bytes
  have parts : encode (decode bytes).chars =
      encode ((decode bytes).chars.take n) ++ encode ((decode bytes).chars.drop n) := by
    rw [encode, encode, encode, ← List.flatMap_append, List.take_append_drop]
  have left : bytes.drop (encode ((decode bytes).chars.take n)).length =
      encode ((decode bytes).chars.drop n) ++ rest := by
    conv => lhs; arg 2; rw [split, parts, List.append_assoc]
    rw [List.drop_left]
  rw [left, decode_encode_append, ends, List.append_nil]

theorem text?_drop (bytes : List UInt8) (n : Nat) :
    text? (bytes.drop (encode ((decode bytes).chars.take n)).length) =
      match (decode bytes).flaw with
      | none => some (String.ofList ((decode bytes).chars.drop n))
      | some _ => none := by
  rw [text?, decode_drop]
  cases (decode bytes).flaw <;> rfl

theorem toUTF8_eq_encode (text : String) : text.toUTF8.data.toList = encode text.toList := by
  rw [String.toUTF8_eq_toByteArray, ← String.utf8Encode_toList, List.utf8Encode,
    List.data_toByteArray]
  rfl

theorem decode_toUTF8 (text : String) : decode text.toUTF8.data.toList = ⟨text.toList, none⟩ := by
  have decoded := decode_encode_append text.toList []
  rw [List.append_nil] at decoded
  rw [toUTF8_eq_encode, decoded]
  simp [decode, decodeFrom]

end Utf8

theorem runFile_ok (path : String) (bytes : List UInt8) :
    runFile path (.ok bytes) = runBytes path bytes := rfl

theorem runBytes_of_flaw (path : String) {bytes : List UInt8} {flaw : Utf8.Flaw}
    (h : (Utf8.decode bytes).flaw = some flaw) :
    ∃ fault, runBytes path bytes = .error (.io fault) := by
  obtain ⟨-, all⟩ := requests_execute Session.new (Utf8.decode bytes).chars
  simp only [runBytes, Utf8.text?_drop, h]
  split
  · exact ⟨_, rfl⟩
  · -- a run that succeeded asked at the flaw
    rename_i unmet succeeded
    rw [Utf8.Decoded.met, all succeeded, if_pos (Nat.lt_succ_self _), h] at unmet
    cases unmet
  · exact ⟨_, rfl⟩

theorem runBytes_of_sound (path : String) {bytes : List UInt8} {text : String}
    (h : Utf8.decode bytes = ⟨text.toList, none⟩) : runBytes path bytes = runText path text := by
  have unmet (asked : Nat) : (Utf8.decode bytes).met asked = none := by
    simp [Utf8.Decoded.met, h]
  have rest := Utf8.text?_drop bytes
  have same : (Session.new.execute (TokenStream.ofChars text.toList)).1 = run text := by
    rw [← TokenStream.ofString_eq]
    rfl
  simp only [h] at rest unmet
  simp only [runBytes, h, unmet, rest, same, runText]
  cases (run text).diagnostics with
  | nil => rfl
  | cons diagnostic others =>
      simp only [← String.ofList_append, List.take_append_drop, String.ofList_toList]

theorem runText_ne_io (path text : String) (fault : IoFault) :
    runText path text ≠ .error (.io fault) := by
  rw [runText]
  cases (run text).diagnostics <;> simp

/-- Running a file fails to read it exactly if its bytes are not UTF-8, and running the bytes of a
text is running the text. After the decoder has given no character it is not asked again. -/
theorem runFile_eq_runText (path : String) (bytes : List UInt8) :
    ((∃ fault, runFile path (.ok bytes) = .error (.io fault)) ↔
      ¬ bytes.toByteArray.IsValidUTF8) ∧
    (∀ text : String, runFile path (.ok text.toUTF8.data.toList) = runText path text) ∧
    let chars := (Utf8.decode bytes).chars
    (Session.new.execute (TokenStream.ofChars chars)).2.scanner.cursor.requests ≤
      chars.length + 1 := by
  simp only [runFile_ok]
  refine ⟨⟨?_, ?_⟩, ?_, (requests_execute _ _).1⟩
  · rintro ⟨fault, failed⟩ valid
    rw [Utf8.isValidUTF8_iff] at valid
    have decoded : Utf8.decode bytes =
        ⟨(String.ofList (Utf8.decode bytes).chars).toList, none⟩ := by
      rw [String.toList_ofList, ← valid]
    exact runText_ne_io path _ fault ((runBytes_of_sound path decoded).symm.trans failed)
  · intro invalid
    rw [Utf8.isValidUTF8_iff] at invalid
    obtain ⟨flaw, h⟩ := Option.ne_none_iff_exists'.1 invalid
    exact runBytes_of_flaw path h
  · intro text
    exact runBytes_of_sound path (Utf8.decode_toUTF8 text)

theorem runFile_flaw_after_failure :
    ¬ [0x3f, 0x3b, 0xff].toByteArray.IsValidUTF8 ∧
      ∃ fault, runFile "program" (.ok [0x3f, 0x3b, 0xff]) = .error (.io fault) := by
  have invalid : ¬ [0x3f, 0x3b, 0xff].toByteArray.IsValidUTF8 := by
    rw [Utf8.isValidUTF8_iff]
    decide
  exact ⟨invalid, (runFile_eq_runText _ _).1.2 invalid⟩

end AssignLang
