namespace AssignLang.Utf8

inductive Flaw where
  | malformed
  | truncated
deriving DecidableEq, Repr, Inhabited

structure Pending where
  missing : Nat
  bits : Nat
  lowest : Nat
deriving DecidableEq, Repr

inductive Step where
  | char (c : Char)
  | more (pending : Pending)
  | bad
deriving DecidableEq, Repr

def lead (byte : UInt8) : Step :=
  let n := byte.toNat
  if n < 0x80 then .char (Char.ofNat n)
  else if n < 0xc0 then .bad
  else if n < 0xe0 then .more ⟨1, n - 0xc0, 0x80⟩
  else if n < 0xf0 then .more ⟨2, n - 0xe0, 0x800⟩
  else if n < 0xf8 then .more ⟨3, n - 0xf0, 0x10000⟩
  else .bad

def Pending.push (pending : Pending) (byte : UInt8) : Step :=
  let n := byte.toNat
  if n < 0x80 ∨ 0xc0 ≤ n then .bad
  else
    let code := pending.bits * 0x40 + (n - 0x80)
    if 1 < pending.missing then .more ⟨pending.missing - 1, code, pending.lowest⟩
    else if pending.lowest ≤ code ∧ code.isValidChar then .char (Char.ofNat code)
    else .bad

structure Decoded where
  chars : List Char
  flaw : Option Flaw
deriving DecidableEq, Repr

def decodeFrom (pending : Option Pending) : List UInt8 → Decoded
  | [] => ⟨[], pending.map fun _ => .truncated⟩
  | byte :: rest =>
    match pending.elim (lead byte) (·.push byte) with
    | .char c =>
      let decoded := decodeFrom none rest
      ⟨c :: decoded.chars, decoded.flaw⟩
    | .more pending => decodeFrom (some pending) rest
    | .bad => ⟨[], some .malformed⟩

def decode (bytes : List UInt8) : Decoded := decodeFrom none bytes

def Decoded.met (decoded : Decoded) (asked : Nat) : Option Flaw :=
  if decoded.chars.length < asked then decoded.flaw else none

def encode (chars : List Char) : List UInt8 := chars.flatMap String.utf8EncodeChar

def text? (bytes : List UInt8) : Option String :=
  match decode bytes with
  | ⟨chars, none⟩ => some (String.ofList chars)
  | ⟨_, some _⟩ => none

def complaint : String := "stream did not contain valid UTF-8"

end AssignLang.Utf8
