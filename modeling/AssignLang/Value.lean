namespace AssignLang

namespace Value

def lowest : Int := -9223372036854775808

def highest : Int := 9223372036854775807

end Value

structure Value where
  toInt : Int
  bounds : Value.lowest ≤ toInt ∧ toInt ≤ Value.highest
deriving DecidableEq, Repr

namespace Value

@[ext]
theorem ext {a b : Value} (h : a.toInt = b.toInt) : a = b := by
  cases a; cases b; cases h; rfl

def ofInt? (n : Int) : Option Value :=
  if h : lowest ≤ n ∧ n ≤ highest then some ⟨n, h⟩ else none

def zero : Value := ⟨0, by decide⟩

instance : Inhabited Value := ⟨zero⟩

def add? (a b : Value) : Option Value := ofInt? (a.toInt + b.toInt)

def sub? (a b : Value) : Option Value := ofInt? (a.toInt - b.toInt)

def mul? (a b : Value) : Option Value := ofInt? (a.toInt * b.toInt)

def neg? (a : Value) : Option Value := ofInt? (-a.toInt)

def text (a : Value) : String := toString a.toInt

theorem ofInt?_eq_some_iff {n : Int} {a : Value} : ofInt? n = some a ↔ a.toInt = n := by
  unfold ofInt?
  constructor
  · intro h
    split at h
    · rw [← Option.some.inj h]
    · cases h
  · rintro rfl
    rw [dif_pos a.bounds]

theorem ofInt?_eq_none_iff {n : Int} : ofInt? n = none ↔ ¬(lowest ≤ n ∧ n ≤ highest) := by
  unfold ofInt?
  split <;> simp_all

end Value

end AssignLang
