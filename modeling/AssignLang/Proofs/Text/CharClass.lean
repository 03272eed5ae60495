import AssignLang.Text.CharClass

namespace AssignLang

def Unicode.Ranges.Apart (first second : Ranges) : Prop :=
  ∀ range ∈ first, ∀ other ∈ second, range.2 < other.1 ∨ other.2 < range.1

instance (first second : Unicode.Ranges) : Decidable (first.Apart second) :=
  inferInstanceAs (Decidable (∀ range ∈ first, ∀ other ∈ second, _))

theorem Unicode.Ranges.Apart.has_eq_false {first second : Ranges} (apart : first.Apart second)
    {code : Nat} (h : first.has code = true) : second.has code = false := by
  rw [← Bool.not_eq_true]
  intro h'
  obtain ⟨range, member, low, high⟩ := has_iff.1 h
  obtain ⟨other, member', low', high'⟩ := has_iff.1 h'
  rcases apart range member other member' with less | less <;> omega

theorem blankRanges_apart_alphabetic : blankRanges.Apart Unicode.alphabeticRanges := by
  decide +kernel

theorem blankRanges_apart_numeric : blankRanges.Apart Unicode.numericRanges := by
  decide +kernel

theorem isNamePart_of_isBlank {ch : Char} (blank : isBlank ch = true) : isNamePart ch = false := by
  by_cases ascii : ch.toNat < 0x80
  · have table : ∀ code < 0x80, isBlank (Char.ofNat code) = true →
        isNamePart (Char.ofNat code) = false := by decide +kernel
    have row := table ch.toNat ascii
    rw [Char.ofNat_toNat] at row
    exact row blank
  · have mark : ch ≠ '_' := by
      rintro rfl
      exact ascii (by decide)
    simp only [isNamePart, Unicode.isAlphabetic, Unicode.isNumeric, ascii, if_false,
      blankRanges_apart_alphabetic.has_eq_false blank, blankRanges_apart_numeric.has_eq_false blank,
      beq_eq_false_iff_ne.2 mark, Bool.or_self]

theorem isNamePart_of_isDigit {ch : Char} (digit : ch.isDigit = true) : isNamePart ch = true := by
  have most : ch.toNat ≤ 57 := (Char.isDigit_iff_toNat.1 digit).2
  have ascii : ch.toNat < 0x80 := by omega
  simp [isNamePart, Unicode.isNumeric, ascii, digit]

end AssignLang
