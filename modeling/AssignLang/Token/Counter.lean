namespace AssignLang

/-- Numbers to count with. `m` says what becomes of a result that is out of reach. -/
class Counter (ν : Type) (m : outParam (Type → Type)) [Monad m] where
  ofNat : Nat → ν
  toNat : ν → Nat
  add : ν → ν → m ν
  /-- The offset of a character that comes after so many bytes. -/
  arrive : Nat → Char → m ν
  Reaches : Nat → Prop
  reaches_of_le : ∀ {a b : Nat}, a ≤ b → Reaches b → Reaches a
  add_ofNat : ∀ {a b : Nat}, Reaches (a + b) → add (ofNat a) (ofNat b) = pure (ofNat (a + b))
  arrive_eq : ∀ {start : Nat} {ch : Char}, Reaches (start + ch.utf8Size) →
    arrive start ch = pure (ofNat start)
  holds_of_le : ∀ {a b : Nat}, a ≤ b → toNat (ofNat b) = b → toNat (ofNat a) = a
  reaches_of_holds : ∀ {n : Nat}, toNat (ofNat n) = n → Reaches n

namespace Counter

/-- The number is told apart from all others that are counted. -/
def Holds (ν : Type) {m : Type → Type} [Monad m] [Counter ν m] (n : Nat) : Prop :=
  toNat (ofNat n : ν) = n

variable {ν : Type} {m : Type → Type} [Monad m] [Counter ν m]

theorem Holds.of_le {a b : Nat} (h : Holds ν b) (le : a ≤ b) : Holds ν a := holds_of_le le h

theorem Holds.reaches {n : Nat} (h : Holds ν n) : Reaches ν n := reaches_of_holds h

end Counter

instance : Counter Nat Id where
  ofNat n := n
  toNat n := n
  add a b := pure (a + b)
  arrive start _ := pure start
  Reaches _ := True
  reaches_of_le _ _ := trivial
  add_ofNat _ := rfl
  arrive_eq _ := rfl
  holds_of_le _ _ := rfl
  reaches_of_holds _ := trivial

theorem toNat_ofNat_word_iff {n : Nat} : (UInt32.ofNat n).toNat = n ↔ n < UInt32.size := by
  rw [UInt32.toNat_ofNat']
  exact ⟨fun same => same ▸ Nat.mod_lt n (by decide), Nat.mod_eq_of_lt⟩

/-- Words of 32 bits. After the last of them counting goes on from zero. -/
instance : Counter UInt32 Id where
  ofNat := UInt32.ofNat
  toNat := UInt32.toNat
  add a b := pure (a + b)
  arrive start ch := pure (UInt32.ofNat start + UInt32.ofNat ch.utf8Size - UInt32.ofNat ch.utf8Size)
  Reaches _ := True
  reaches_of_le _ _ := trivial
  add_ofNat _ := (UInt32.ofNat_add _ _).symm
  arrive_eq _ := UInt32.add_sub_cancel _ _
  holds_of_le le h := toNat_ofNat_word_iff.2 (Nat.lt_of_le_of_lt le (toNat_ofNat_word_iff.1 h))
  reaches_of_holds _ := trivial

/-- A word of 32 bits, with which nothing can be counted that is no word. -/
structure CheckedWord where
  word : UInt32
deriving DecidableEq, Repr, Inhabited

namespace CheckedWord

def ofNat (n : Nat) : CheckedWord := ⟨.ofNat n⟩

def toNat (a : CheckedWord) : Nat := a.word.toNat

def ofNat? (n : Nat) : Option CheckedWord := if n < UInt32.size then some (ofNat n) else none

def add? (a b : CheckedWord) : Option CheckedWord := ofNat? (a.toNat + b.toNat)

def sub? (a b : CheckedWord) : Option CheckedWord :=
  if b.toNat ≤ a.toNat then ofNat? (a.toNat - b.toNat) else none

def arrive? (start : Nat) (ch : Char) : Option CheckedWord := do
  let before ← ofNat? start
  let total ← before.add? (ofNat ch.utf8Size)
  total.sub? (ofNat ch.utf8Size)

theorem toNat_ofNat_iff {n : Nat} : (ofNat n).toNat = n ↔ n < UInt32.size :=
  toNat_ofNat_word_iff

theorem ofNat?_eq {n : Nat} (h : n < UInt32.size) : ofNat? n = some (ofNat n) := if_pos h

theorem toNat_of_ofNat? {n : Nat} {a : CheckedWord} (h : ofNat? n = some a) : a.toNat = n := by
  rw [ofNat?] at h
  split at h
  · rename_i small
    cases h
    exact toNat_ofNat_iff.2 small
  · cases h

theorem add?_ofNat {a b : Nat} (h : a + b < UInt32.size) :
    (ofNat a).add? (ofNat b) = some (ofNat (a + b)) := by
  rw [add?, toNat_ofNat_iff.2 (by omega), toNat_ofNat_iff.2 (by omega), ofNat?_eq h]

theorem arrive?_eq {start : Nat} {ch : Char} (h : start + ch.utf8Size < UInt32.size) :
    arrive? start ch = some (ofNat start) := by
  have total : (ofNat (start + ch.utf8Size)).toNat = start + ch.utf8Size := toNat_ofNat_iff.2 h
  have width : (ofNat ch.utf8Size).toNat = ch.utf8Size := toNat_ofNat_iff.2 (by omega)
  have before : start < UInt32.size := by omega
  simp [arrive?, ofNat?_eq before, add?_ofNat h, sub?, total, width]

end CheckedWord

instance : Counter CheckedWord Option where
  ofNat := CheckedWord.ofNat
  toNat := CheckedWord.toNat
  add := CheckedWord.add?
  arrive := CheckedWord.arrive?
  Reaches n := n < UInt32.size
  reaches_of_le := Nat.lt_of_le_of_lt
  add_ofNat := CheckedWord.add?_ofNat
  arrive_eq := CheckedWord.arrive?_eq
  holds_of_le le h :=
    CheckedWord.toNat_ofNat_iff.2 (Nat.lt_of_le_of_lt le (CheckedWord.toNat_ofNat_iff.1 h))
  reaches_of_holds := CheckedWord.toNat_ofNat_iff.1

namespace Counter

theorem holds_word_iff {n : Nat} : Holds UInt32 n ↔ n < UInt32.size := toNat_ofNat_word_iff

theorem holds_checkedWord_iff {n : Nat} : Holds CheckedWord n ↔ n < UInt32.size :=
  CheckedWord.toNat_ofNat_iff

end Counter

end AssignLang
