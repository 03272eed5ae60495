import AssignLang.Text.Utf8

namespace AssignLang.Utf8

def weight : Nat → Nat
  | 0 => 1
  | n + 1 => weight n * 64

theorem weight_zero : weight 0 = 1 := rfl

def tails : Nat → Nat → List UInt8
  | 0, _ => []
  | n + 1, code => UInt8.ofNat (code / weight n % 64 + 0x80) :: tails n code

def Decoded.cons (c : Char) (decoded : Decoded) : Decoded := ⟨c :: decoded.chars, decoded.flaw⟩

theorem toNat_ofNat_of_lt {n : Nat} (h : n < 256) : (UInt8.ofNat n).toNat = n := by
  simp [Nat.mod_eq_of_lt h]

theorem ofNat_toNat_of_eq {byte : UInt8} {n : Nat} (h : byte.toNat = n) : UInt8.ofNat n = byte := by
  rw [← h, UInt8.ofNat_toNat]

theorem toNat_charOfNat {code : Nat} (valid : code.isValidChar) :
    (Char.ofNat code).toNat = code := by
  rw [Char.ofNat, dif_pos valid]
  rfl

theorem div_weight_succ (code n : Nat) : code / weight (n + 1) = code / weight n / 64 := by
  rw [weight, Nat.div_div_eq_div_mul]

theorem push_tail (n code lowest : Nat) :
    Pending.push ⟨n + 1, code / weight (n + 1), lowest⟩
        (UInt8.ofNat (code / weight n % 64 + 0x80)) =
      if 0 < n then .more ⟨n, code / weight n, lowest⟩
      else if lowest ≤ code / weight n ∧ (code / weight n).isValidChar then
        .char (Char.ofNat (code / weight n))
      else .bad := by
  have whole : code / weight (n + 1) * 0x40 + (code / weight n % 64 + 0x80 - 0x80) =
      code / weight n := by
    have split := div_weight_succ code n
    omega
  simp only [Pending.push, toNat_ofNat_of_lt (show code / weight n % 64 + 0x80 < 256 by omega)]
  rw [if_neg (by omega), whole]
  simp

theorem decodeFrom_tails (n : Nat) {code lowest : Nat} (low : lowest ≤ code)
    (valid : code.isValidChar) (rest : List UInt8) :
    decodeFrom (some ⟨n + 1, code / weight (n + 1), lowest⟩) (tails (n + 1) code ++ rest) =
      (decode rest).cons (Char.ofNat code) := by
  induction n with
  | zero =>
      have last := push_tail 0 code lowest
      rw [if_neg (Nat.lt_irrefl 0), weight_zero, Nat.div_one,
        if_pos ⟨low, valid⟩] at last
      rw [tails, List.cons_append, decodeFrom, Option.elim_some, weight_zero,
        Nat.div_one, last]
      rfl
  | succ n ih =>
      have next := push_tail (n + 1) code lowest
      rw [if_pos (Nat.succ_pos n)] at next
      rw [tails, List.cons_append, decodeFrom, Option.elim_some, next]
      exact ih

theorem decode_lead {byte : UInt8} {n lowest : Nat} {c : Char}
    (h : lead byte = .more ⟨n + 1, c.toNat / weight (n + 1), lowest⟩) (low : lowest ≤ c.toNat)
    (rest : List UInt8) :
    decode (byte :: tails (n + 1) c.toNat ++ rest) = (decode rest).cons c := by
  rw [decode, List.cons_append, decodeFrom, Option.elim_none, h]
  have decoded := decodeFrom_tails n low c.valid rest
  rwa [Char.ofNat_toNat] at decoded

theorem toNat_lt (c : Char) : c.toNat < 0x110000 := by
  rcases c.valid with low | ⟨_, high⟩
  · exact Nat.lt_trans low (by decide)
  · exact high

theorem utf8EncodeChar_one {c : Char} (h : c.toNat < 0x80) :
    String.utf8EncodeChar c = [UInt8.ofNat c.toNat] := by
  have size : c.val.toNat ≤ 0x7f := Nat.le_of_lt_succ h
  simp only [String.utf8EncodeChar, if_pos size, Char.toNat]

theorem utf8EncodeChar_two {c : Char} (low : 0x80 ≤ c.toNat) (high : c.toNat < 0x800) :
    String.utf8EncodeChar c = UInt8.ofNat (0xc0 + c.toNat / 64) :: tails 1 c.toNat := by
  have size : ¬ c.val.toNat ≤ 0x7f := Nat.not_le_of_gt low
  have size' : c.val.toNat ≤ 0x7ff := Nat.le_of_lt_succ high
  have bits : c.val.toNat / 64 % 32 + 0xc0 = 0xc0 + c.val.toNat / 64 := by omega
  simp only [String.utf8EncodeChar, if_neg size, if_pos size', bits, tails, Char.toNat,
    weight, Nat.div_one]

theorem utf8EncodeChar_three {c : Char} (low : 0x800 ≤ c.toNat) (high : c.toNat < 0x10000) :
    String.utf8EncodeChar c = UInt8.ofNat (0xe0 + c.toNat / 4096) :: tails 2 c.toNat := by
  have size : ¬ c.val.toNat ≤ 0x7ff := Nat.not_le_of_gt low
  have size' : c.val.toNat ≤ 0xffff := Nat.le_of_lt_succ high
  have bits : c.val.toNat / 4096 % 16 + 0xe0 = 0xe0 + c.val.toNat / 4096 := by omega
  simp only [String.utf8EncodeChar, if_neg (show ¬ c.val.toNat ≤ 0x7f by omega), if_neg size,
    if_pos size', bits, tails, Char.toNat, weight, Nat.one_mul, Nat.div_one]

theorem utf8EncodeChar_four {c : Char} (low : 0x10000 ≤ c.toNat) :
    String.utf8EncodeChar c = UInt8.ofNat (0xf0 + c.toNat / 262144) :: tails 3 c.toNat := by
  have size : ¬ c.val.toNat ≤ 0xffff := Nat.not_le_of_gt low
  have high : c.val.toNat < 0x110000 := toNat_lt c
  have bits : c.val.toNat / 262144 % 8 + 0xf0 = 0xf0 + c.val.toNat / 262144 := by omega
  simp only [String.utf8EncodeChar, if_neg (show ¬ c.val.toNat ≤ 0x7f by omega),
    if_neg (show ¬ c.val.toNat ≤ 0x7ff by omega), if_neg size, bits, tails, Char.toNat,
    weight, Nat.one_mul, Nat.div_one]

theorem lead_ofNat_two {n : Nat} (h : n < 0x20) :
    lead (UInt8.ofNat (0xc0 + n)) = .more ⟨1, n, 0x80⟩ := by
  simp only [lead, toNat_ofNat_of_lt (show 0xc0 + n < 256 by omega)]
  rw [if_neg (by omega), if_neg (by omega), if_pos (by omega), Nat.add_sub_cancel_left]

theorem lead_ofNat_three {n : Nat} (h : n < 0x10) :
    lead (UInt8.ofNat (0xe0 + n)) = .more ⟨2, n, 0x800⟩ := by
  simp only [lead, toNat_ofNat_of_lt (show 0xe0 + n < 256 by omega)]
  rw [if_neg (by omega), if_neg (by omega), if_neg (by omega), if_pos (by omega),
    Nat.add_sub_cancel_left]

theorem lead_ofNat_four {n : Nat} (h : n < 0x8) :
    lead (UInt8.ofNat (0xf0 + n)) = .more ⟨3, n, 0x10000⟩ := by
  simp only [lead, toNat_ofNat_of_lt (show 0xf0 + n < 256 by omega)]
  rw [if_neg (by omega), if_neg (by omega), if_neg (by omega), if_neg (by omega),
    if_pos (by omega), Nat.add_sub_cancel_left]

theorem decode_encodeChar (c : Char) (rest : List UInt8) :
    decode (String.utf8EncodeChar c ++ rest) = (decode rest).cons c := by
  have bound := toNat_lt c
  by_cases one : c.toNat < 0x80
  · have single : lead (UInt8.ofNat c.toNat) = .char c := by
      simp only [lead, toNat_ofNat_of_lt (show c.toNat < 256 by omega), if_pos one,
        Char.ofNat_toNat]
    rw [utf8EncodeChar_one one, decode, List.cons_append, decodeFrom, Option.elim_none, single]
    rfl
  · by_cases two : c.toNat < 0x800
    · rw [utf8EncodeChar_two (by omega) two]
      exact decode_lead (lead_ofNat_two (show c.toNat / 64 < 0x20 by omega)) (by omega) rest
    · by_cases three : c.toNat < 0x10000
      · rw [utf8EncodeChar_three (by omega) three]
        exact decode_lead (lead_ofNat_three (show c.toNat / 4096 < 0x10 by omega)) (by omega) rest
      · rw [utf8EncodeChar_four (by omega)]
        exact decode_lead (lead_ofNat_four (show c.toNat / 262144 < 0x8 by omega)) (by omega) rest

theorem decode_encode_append (chars : List Char) (rest : List UInt8) :
    decode (encode chars ++ rest) = ⟨chars ++ (decode rest).chars, (decode rest).flaw⟩ := by
  induction chars with
  | nil => rfl
  | cons c chars ih =>
      have split : encode (c :: chars) = String.utf8EncodeChar c ++ encode chars := rfl
      rw [split, List.append_assoc, decode_encodeChar, ih]
      rfl

theorem push_cases (n bits lowest : Nat) (byte : UInt8) :
    Pending.push ⟨n + 1, bits, lowest⟩ byte = .bad ∨
    ∃ low < 64, byte = UInt8.ofNat (low + 0x80) ∧
      ((0 < n ∧ Pending.push ⟨n + 1, bits, lowest⟩ byte = .more ⟨n, bits * 64 + low, lowest⟩) ∨
      (n = 0 ∧ lowest ≤ bits * 64 + low ∧ (bits * 64 + low).isValidChar ∧
        Pending.push ⟨n + 1, bits, lowest⟩ byte = .char (Char.ofNat (bits * 64 + low)))) := by
  by_cases later : byte.toNat < 0x80 ∨ 0xc0 ≤ byte.toNat
  · exact .inl (by simp only [Pending.push, if_pos later])
  · simp only [Pending.push, if_neg later]
    by_cases more : 0 < n
    · refine .inr ⟨byte.toNat - 0x80, by omega, ?_, .inl ⟨more, ?_⟩⟩
      · exact (ofNat_toNat_of_eq (by omega)).symm
      · rw [if_pos (by omega), Nat.add_sub_cancel]
    · rw [if_neg (by omega)]
      split
      · rename_i valid
        refine .inr ⟨byte.toNat - 0x80, by omega, ?_, .inr ⟨by omega, valid.1, valid.2, rfl⟩⟩
        exact (ofNat_toNat_of_eq (by omega)).symm
      · exact .inl rfl

theorem of_decodeFrom {n bits lowest : Nat} {bytes : List UInt8} {c : Char} {chars : List Char}
    {flaw : Option Flaw}
    (h : decodeFrom (some ⟨n + 1, bits, lowest⟩) bytes = ⟨c :: chars, flaw⟩) :
    ∃ rest, bytes = tails (n + 1) c.toNat ++ rest ∧ c.toNat / weight (n + 1) = bits ∧
      lowest ≤ c.toNat ∧ decode rest = ⟨chars, flaw⟩ := by
  -- each byte moves its six bits from the tails to the bits that have come
  induction bytes generalizing n bits with
  | nil => cases h
  | cons byte bytes ih =>
      rw [decodeFrom, Option.elim_some] at h
      obtain bad | ⟨low, small, rfl, ⟨more, goes⟩ | ⟨rfl, lowest_le, valid, ends⟩⟩ :=
        push_cases n bits lowest byte
      · rw [bad] at h
        cases h
      · rw [goes] at h
        obtain ⟨n, rfl⟩ := Nat.exists_eq_succ_of_ne_zero (Nat.ne_of_gt more)
        obtain ⟨rest, rfl, whole, lowest_le, decoded⟩ := ih h
        refine ⟨rest, ?_, ?_, lowest_le, decoded⟩
        · have last : c.toNat / weight (n + 1) % 64 = low := by omega
          have tail : tails (n + 2) c.toNat =
              UInt8.ofNat (low + 0x80) :: tails (n + 1) c.toNat := by
            rw [tails, last]
          rw [tail, List.cons_append]
        · rw [div_weight_succ]
          omega
      · rw [ends] at h
        have code := toNat_charOfNat valid
        cases h
        refine ⟨bytes, ?_, ?_, by omega, rfl⟩
        · have last : (bits * 64 + low) / weight 0 % 64 = low := by
            rw [weight_zero]
            omega
          rw [code, tails, last]
          rfl
        · rw [code, show weight (0 + 1) = 64 from rfl]
          omega

theorem lead_cases (byte : UInt8) :
    lead byte = .bad ∨ (byte.toNat < 0x80 ∧ lead byte = .char (Char.ofNat byte.toNat)) ∨
    (∃ bits < 0x20, byte = UInt8.ofNat (0xc0 + bits) ∧ lead byte = .more ⟨1, bits, 0x80⟩) ∨
    (∃ bits < 0x10, byte = UInt8.ofNat (0xe0 + bits) ∧ lead byte = .more ⟨2, bits, 0x800⟩) ∨
    (∃ bits < 0x8, byte = UInt8.ofNat (0xf0 + bits) ∧ lead byte = .more ⟨3, bits, 0x10000⟩) := by
  simp only [lead]
  split
  · rename_i one
    exact .inr (.inl ⟨one, rfl⟩)
  · split
    · exact .inl rfl
    · split
      · refine .inr (.inr (.inl ⟨byte.toNat - 0xc0, by omega, ?_, rfl⟩))
        exact (ofNat_toNat_of_eq (by omega)).symm
      · split
        · refine .inr (.inr (.inr (.inl ⟨byte.toNat - 0xe0, by omega, ?_, rfl⟩)))
          exact (ofNat_toNat_of_eq (by omega)).symm
        · split
          · refine .inr (.inr (.inr (.inr ⟨byte.toNat - 0xf0, by omega, ?_, rfl⟩)))
            exact (ofNat_toNat_of_eq (by omega)).symm
          · exact .inl rfl

theorem of_decode_cons {bytes : List UInt8} {c : Char} {chars : List Char} {flaw : Option Flaw}
    (h : decode bytes = ⟨c :: chars, flaw⟩) :
    ∃ rest, bytes = String.utf8EncodeChar c ++ rest ∧ decode rest = ⟨chars, flaw⟩ := by
  cases bytes with
  | nil => cases h
  | cons byte bytes =>
      rw [decode, decodeFrom, Option.elim_none] at h
      obtain bad | ⟨one, single⟩ | ⟨bits, small, rfl, goes⟩ | ⟨bits, small, rfl, goes⟩ |
        ⟨bits, small, rfl, goes⟩ := lead_cases byte
      · rw [bad] at h
        cases h
      · rw [single] at h
        have valid : byte.toNat.isValidChar := .inl (by omega)
        have code := toNat_charOfNat valid
        cases h
        refine ⟨bytes, ?_, rfl⟩
        rw [utf8EncodeChar_one (by omega), code, UInt8.ofNat_toNat]
        rfl
      · rw [goes] at h
        obtain ⟨rest, rfl, whole, low, decoded⟩ := of_decodeFrom h
        have whole : c.toNat / 64 = bits := whole
        refine ⟨rest, ?_, decoded⟩
        rw [utf8EncodeChar_two low (by omega), whole]
        rfl
      · rw [goes] at h
        obtain ⟨rest, rfl, whole, low, decoded⟩ := of_decodeFrom h
        have whole : c.toNat / 4096 = bits := whole
        refine ⟨rest, ?_, decoded⟩
        rw [utf8EncodeChar_three low (by omega), whole]
        rfl
      · rw [goes] at h
        obtain ⟨rest, rfl, whole, low, decoded⟩ := of_decodeFrom h
        have whole : c.toNat / 262144 = bits := whole
        refine ⟨rest, ?_, decoded⟩
        rw [utf8EncodeChar_four low, whole]
        rfl

theorem exists_rest (bytes : List UInt8) :
    ∃ rest, bytes = encode (decode bytes).chars ++ rest ∧
      decode rest = ⟨[], (decode bytes).flaw⟩ := by
  cases h : decode bytes with
  | mk chars flaw =>
      induction chars generalizing bytes with
      | nil => exact ⟨bytes, rfl, h⟩
      | cons c chars ih =>
          obtain ⟨more, rfl, decoded⟩ := of_decode_cons h
          obtain ⟨rest, split, ends⟩ := ih more decoded
          refine ⟨rest, ?_, ends⟩
          dsimp only at split ⊢
          rw [split]
          simp [encode]

theorem decodeFrom_eq_nil {pending : Option Pending} {bytes : List UInt8}
    (h : decodeFrom pending bytes = ⟨[], none⟩) : bytes = [] := by
  induction bytes generalizing pending with
  | nil => rfl
  | cons byte bytes ih =>
      rw [decodeFrom] at h
      split at h
      · cases h
      · rename_i pending' more
        cases ih h
        simp [decodeFrom] at h
      · cases h

theorem isValidUTF8_iff (bytes : List UInt8) :
    bytes.toByteArray.IsValidUTF8 ↔ (decode bytes).flaw = none := by
  constructor
  · rintro ⟨chars, same⟩
    rw [List.utf8Encode, List.toByteArray_inj] at same
    have decoded := decode_encode_append chars []
    rw [List.append_nil] at decoded
    rw [same]
    exact congrArg Decoded.flaw decoded
  · intro sound
    obtain ⟨rest, split, ends⟩ := exists_rest bytes
    rw [sound] at ends
    rw [decodeFrom_eq_nil ends, List.append_nil] at split
    exact ⟨(decode bytes).chars, by rw [List.utf8Encode, List.toByteArray_inj]; exact split⟩

end AssignLang.Utf8
