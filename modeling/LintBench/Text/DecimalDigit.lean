/-!
# Decimal digits

Every script's decimal digits come as ten consecutive code points, zero first,
so the table lists the zeros alone.
-/

namespace LintBench.Text

/-- The code points of the digit zero, one for each script. -/
def zeroDigits : List Nat := [
  0x30, 0x660, 0x6F0, 0x7C0, 0x966, 0x9E6, 0xA66, 0xAE6, 0xB66, 0xBE6, 0xC66, 0xCE6, 0xD66,
  0xDE6, 0xE50, 0xED0, 0xF20, 0x1040, 0x1090, 0x17E0, 0x1810, 0x1946, 0x19D0, 0x1A80, 0x1A90,
  0x1B50, 0x1BB0, 0x1C40, 0x1C50, 0xA620, 0xA8D0, 0xA900, 0xA9D0, 0xA9F0, 0xAA50, 0xABF0, 0xFF10,
  0x104A0, 0x10D30, 0x11066, 0x110F0, 0x11136, 0x111D0, 0x112F0, 0x11450, 0x114D0, 0x11650,
  0x116C0, 0x11730, 0x118E0, 0x11950, 0x11C50, 0x11D50, 0x11DA0, 0x16A60, 0x16AC0, 0x16B50,
  0x1D7CE, 0x1D7D8, 0x1D7E2, 0x1D7EC, 0x1D7F6, 0x1E140, 0x1E2F0, 0x1E950, 0x1FBF0]

/-- The value of a decimal digit of any script. -/
def digitValue? (c : Char) : Option Nat :=
  (zeroDigits.find? fun start => start ≤ c.toNat && c.toNat < start + 10).map (c.toNat - ·)

/-- Whether the character is a decimal digit of some script. -/
def isDecimalDigit (c : Char) : Bool := (digitValue? c).isSome

/-- A digit is so far from the zero of its script as its value says. -/
theorem exists_zero_of_digitValue? {c : Char} {value : Nat} (h : digitValue? c = some value) :
    ∃ start ∈ zeroDigits, start ≤ c.toNat ∧ c.toNat < start + 10 ∧ c.toNat - start = value := by
  obtain ⟨start, found, same⟩ := Option.map_eq_some_iff.1 h
  have bounds := List.find?_some found
  simp only [Bool.and_eq_true, decide_eq_true_eq] at bounds
  exact ⟨start, List.mem_of_find?_eq_some found, bounds.1, bounds.2, same⟩

/-- A digit stands for a number below ten. -/
theorem digitValue?_lt {c : Char} {value : Nat} (h : digitValue? c = some value) : value < 10 := by
  obtain ⟨start, -, above, below, rfl⟩ := exists_zero_of_digitValue? h
  omega

/-- A decimal digit is among the ten of some script. -/
theorem exists_zero_of_isDecimalDigit {c : Char} (digit : isDecimalDigit c = true) :
    ∃ start ∈ zeroDigits, start ≤ c.toNat ∧ c.toNat < start + 10 := by
  obtain ⟨value, found⟩ := Option.isSome_iff_exists.1 digit
  obtain ⟨start, listed, above, below, -⟩ := exists_zero_of_digitValue? found
  exact ⟨start, listed, above, below⟩

end LintBench.Text
