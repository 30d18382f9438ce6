import Mathlib.Data.Nat.Defs

/-!
# `strings.TrimSpace` and `strings.ToUpper`

The two string functions the pg store applies to its configuration and to the column names of its
query results. `TrimSpace` drops the characters `unicode.IsSpace` accepts from both ends of a
string. `ToUpper` is modelled on ASCII: it upper-cases `a` to `z` and leaves every other character
as it is, where Go also maps the other Unicode letters.

## Main results

* `toUpper_toUpper`: upper-casing twice is upper-casing once.
-/

namespace Strings

/-- `unicode.IsSpace`: `\t`, `\n`, `\v`, `\f`, `\r`, space, U+0085 and U+00A0 in Latin-1, and the
other `White_Space` characters U+1680, U+2000 to U+200A, U+2028, U+2029, U+202F, U+205F and
U+3000. -/
def isSpace (c : Char) : Bool :=
  match c.toNat with
  | 0x09 | 0x0a | 0x0b | 0x0c | 0x0d | 0x20 | 0x85 | 0xa0 => true
  | 0x1680 | 0x2028 | 0x2029 | 0x202f | 0x205f | 0x3000 => true
  | n => 0x2000 ≤ n && n ≤ 0x200a

/-- `strings.TrimSpace`: the string without its leading and trailing white space. -/
def trimSpace (s : String) : String :=
  ⟨((s.data.dropWhile isSpace).reverse.dropWhile isSpace).reverse⟩

/-- `strings.ToUpper`, on ASCII letters. -/
def toUpper (s : String) : String := ⟨s.data.map Char.toUpper⟩

theorem toNat_ofNat_of_lt {n : ℕ} (h : n < 0xd800) : (Char.ofNat n).toNat = n := by
  have hv : n.isValidChar := Or.inl h
  simp only [Char.ofNat, hv, dite_true, Char.ofNatAux, Char.toNat, UInt32.toNat,
    BitVec.toNat_ofNatLt]

theorem toUpper_char_toUpper (c : Char) : c.toUpper.toUpper = c.toUpper := by
  unfold Char.toUpper
  dsimp only
  split_ifs with h₁ h₂
  · rw [toNat_ofNat_of_lt (by omega)] at h₂
    omega
  · rfl
  · rfl

/-- Upper-casing twice is upper-casing once. -/
theorem toUpper_toUpper (s : String) : toUpper (toUpper s) = toUpper s := by
  simp [toUpper, Function.comp_def, toUpper_char_toUpper]

end Strings
