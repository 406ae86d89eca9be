/-
# SciCalc.Text.Digit -- decimal digits

Every script that writes numbers in the decimal system has ten consecutive digits,
zero first.  A digit of any script counts with its value, so the table holds the
zeros alone.  They are those of Unicode 14, as are all tables of characters here.
-/
namespace SciCalc.Text

set_option autoImplicit false

/-- The zeros of the scripts with decimal digits, in ascending order. -/
def digitZeros : List Nat :=
  [0x30, 0x660, 0x6F0, 0x7C0, 0x966, 0x9E6, 0xA66, 0xAE6, 0xB66, 0xBE6, 0xC66, 0xCE6, 0xD66, 0xDE6,
   0xE50, 0xED0, 0xF20, 0x1040, 0x1090, 0x17E0, 0x1810, 0x1946, 0x19D0, 0x1A80, 0x1A90, 0x1B50,
   0x1BB0, 0x1C40, 0x1C50, 0xA620, 0xA8D0, 0xA900, 0xA9D0, 0xA9F0, 0xAA50, 0xABF0, 0xFF10,
   0x104A0, 0x10D30, 0x11066, 0x110F0, 0x11136, 0x111D0, 0x112F0, 0x11450, 0x114D0, 0x11650,
   0x116C0, 0x11730, 0x118E0, 0x11950, 0x11C50, 0x11D50, 0x11DA0, 0x16A60, 0x16AC0, 0x16B50,
   0x1D7CE, 0x1D7D8, 0x1D7E2, 0x1D7EC, 0x1D7F6, 0x1E140, 0x1E2F0, 0x1E950, 0x1FBF0]

def digitValue? (c : Char) : Option Nat :=
  (digitZeros.find? fun start => start ≤ c.toNat ∧ c.toNat < start + 10).map (c.toNat - ·)

def isDigit (c : Char) : Bool := (digitValue? c).isSome

/-- A digit is one of the ten that begin with a zero. -/
theorem exists_zero_of_isDigit {c : Char} (digit : isDigit c = true) :
    ∃ start ∈ digitZeros, start ≤ c.toNat ∧ c.toNat < start + 10 := by
  obtain ⟨value, known⟩ := Option.isSome_iff_exists.1 digit
  obtain ⟨start, found, -⟩ := Option.map_eq_some_iff.1 known
  have bounds := List.find?_some found
  exact ⟨start, List.mem_of_find?_eq_some found, of_decide_eq_true bounds⟩

/-- A digit is an ASCII digit or lies beyond all ASCII characters. -/
theorem toNat_of_isDigit {c : Char} (digit : isDigit c = true) :
    48 ≤ c.toNat ∧ c.toNat ≤ 57 ∨ 0x660 ≤ c.toNat := by
  have far : ∀ start ∈ digitZeros, start = 48 ∨ 0x660 ≤ start := by decide
  obtain ⟨start, member, low, high⟩ := exists_zero_of_isDigit digit
  rcases far start member with rfl | beyond <;> omega

end SciCalc.Text
