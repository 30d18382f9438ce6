import Mathlib.Data.UInt
import Mathlib.Tactic.IntervalCases

/-!
# `encoding/hex`

The two functions of Go's `encoding/hex` that `InfoHash` uses. `EncodeToString` writes each byte
as two lower-case digits, high half first. `DecodeString` reads two digits of either case per
byte; it fails with `InvalidByteError` on the first byte that is not a digit, and with
`ErrLength` on a string of odd length whose digits are all valid.

Strings are byte lists throughout, as Go strings are.

## Main results

* `decodeString_encodeToString`: decoding inverts encoding;
* `decodeString_isOk_iff`: decoding succeeds exactly on even-length strings of digits;
* `length_decodeString` and `encodeToString_decodeString`: a decoded string has half the
  length, and encodes back to the digits it was read from, in lower case.
-/

namespace Hex

/-- `hextable`, the digits `Encode` writes: `"0123456789abcdef"`. -/
def hextable : List UInt8 :=
  [0x30, 0x31, 0x32, 0x33, 0x34, 0x35, 0x36, 0x37, 0x38, 0x39,
    0x61, 0x62, 0x63, 0x64, 0x65, 0x66]

/-- The two digits `Encode` writes for one byte: `hextable[v>>4]`, then `hextable[v&0x0f]`. -/
def encodeByte (v : UInt8) : List UInt8 :=
  [hextable.getD (v >>> 4).toNat 0, hextable.getD (v &&& 0x0f).toNat 0]

/-- `EncodeToString`: the digits of every byte, in order. -/
def encodeToString (src : List UInt8) : List UInt8 :=
  src.flatMap encodeByte

/-- `fromHexChar`: the value of a digit of either case, or `none` for any other byte. -/
def fromHexChar (c : UInt8) : Option UInt8 :=
  if 0x30 ≤ c ∧ c ≤ 0x39 then some (c - 0x30)
  else if 0x61 ≤ c ∧ c ≤ 0x66 then some (c - 0x61 + 10)
  else if 0x41 ≤ c ∧ c ≤ 0x46 then some (c - 0x41 + 10)
  else none

/-- The errors of `Decode`: `InvalidByteError` and `ErrLength`. -/
inductive DecodeError where
  | invalidByte (c : UInt8)
  | errLength
  deriving DecidableEq, Repr

/-- `DecodeString`: two digits per byte, left to right, combined as `a<<4 | b`. An odd trailing
digit is checked before `ErrLength` is reported. -/
def decodeString : List UInt8 → Except DecodeError (List UInt8)
  | [] => .ok []
  | [p] =>
    match fromHexChar p with
    | none => .error (.invalidByte p)
    | some _ => .error .errLength
  | p :: q :: src =>
    match fromHexChar p, fromHexChar q with
    | none, _ => .error (.invalidByte p)
    | some _, none => .error (.invalidByte q)
    | some a, some b => (decodeString src).map (((a <<< 4) ||| b) :: ·)

/-- Whether `c` is a hex digit of either case. -/
def isHexDigit (c : UInt8) : Bool :=
  (fromHexChar c).isSome

/-- ASCII lower-casing, which is what `strings.ToLower` does to a string of hex digits. -/
def toLower (c : UInt8) : UInt8 :=
  if 0x41 ≤ c ∧ c ≤ 0x5a then c + 0x20 else c

/-! ## Byte arithmetic -/

theorem toNat_shiftRight_four (v : UInt8) : (v >>> 4).toNat = v.toNat / 16 := by
  show (v.toBitVec >>> ((4 : UInt8).toBitVec % 8).toNat).toNat = _
  rw [BitVec.toNat_ushiftRight, Nat.shiftRight_eq_div_pow]
  rfl

theorem toNat_and_fifteen (v : UInt8) : (v &&& 0x0f).toNat = v.toNat % 16 := by
  show (v.toBitVec &&& (15 : UInt8).toBitVec).toNat = _
  rw [BitVec.toNat_and]
  exact Nat.and_pow_two_sub_one_eq_mod v.toNat 4

/-- Two nibbles combined as `a<<4 | b` make the byte `16 * a + b`. -/
theorem toNat_shiftLeft_four_or {a b : UInt8} (ha : a.toNat < 16) (hb : b.toNat < 16) :
    ((a <<< 4) ||| b).toNat = 16 * a.toNat + b.toNat := by
  show ((a.toBitVec <<< ((4 : UInt8).toBitVec % 8).toNat) ||| b.toBitVec).toNat = _
  have hshift : (a.toBitVec <<< 4).toNat = 16 * a.toNat := by
    rw [BitVec.toNat_shiftLeft, Nat.shiftLeft_eq, Nat.mod_eq_of_lt]
    · exact Nat.mul_comm _ _
    · change a.toNat * 16 < 256; omega
  rw [BitVec.toNat_or, show ((4 : UInt8).toBitVec % 8).toNat = 4 from rfl, hshift]
  exact (@Nat.mul_add_lt_is_or 4 _ hb _).symm

theorem toNat_hextable_getD {n : ℕ} (hn : n < 16) :
    (hextable.getD n 0).toNat = if n < 10 then 0x30 + n else 0x57 + n := by
  interval_cases n <;> rfl

theorem fromHexChar_hextable_getD {n : ℕ} (hn : n < 16) :
    fromHexChar (hextable.getD n 0) = some (UInt8.ofNat n) := by
  interval_cases n <;> rfl

/-- Byte addition, read on `toNat`. -/
theorem toNat_add (a b : UInt8) : (a + b).toNat = (a.toNat + b.toNat) % 256 :=
  BitVec.toNat_add _ _

theorem toNat_toLower (c : UInt8) :
    (toLower c).toNat = if 0x41 ≤ c.toNat ∧ c.toNat ≤ 0x5a then c.toNat + 0x20 else c.toNat := by
  have hc := c.toNat_lt_size
  unfold toLower
  by_cases h : 0x41 ≤ c.toNat ∧ c.toNat ≤ 0x5a
  · rw [if_pos (show (0x41 : UInt8) ≤ c ∧ c ≤ 0x5a from h), if_pos h, toNat_add]
    change (c.toNat + 32) % 256 = _
    omega
  · rw [if_neg (show ¬((0x41 : UInt8) ≤ c ∧ c ≤ 0x5a) from h), if_neg h]

/-- The value of a digit, read on `toNat`: `c - '0'`, `c - 'a' + 10` or `c - 'A' + 10`. -/
theorem fromHexChar_eq_some_toNat {c a : UInt8} (h : fromHexChar c = some a) :
    (0x30 ≤ c.toNat ∧ c.toNat ≤ 0x39 ∧ a.toNat = c.toNat - 0x30) ∨
      (0x61 ≤ c.toNat ∧ c.toNat ≤ 0x66 ∧ a.toNat = c.toNat - 0x57) ∨
      (0x41 ≤ c.toNat ∧ c.toNat ≤ 0x46 ∧ a.toNat = c.toNat - 0x37) := by
  have hc := c.toNat_lt_size
  unfold fromHexChar at h
  split_ifs at h with h1 h2 h3 <;> cases h
  · exact .inl ⟨h1.1, h1.2, UInt8.toNat_sub_of_le _ _ h1.1⟩
  · have h2' : 0x61 ≤ c.toNat ∧ c.toNat ≤ 0x66 := h2
    refine .inr (.inl ⟨h2.1, h2.2, ?_⟩)
    rw [toNat_add, UInt8.toNat_sub_of_le _ _ h2.1]
    change (c.toNat - 0x61 + 10) % 256 = _
    omega
  · have h3' : 0x41 ≤ c.toNat ∧ c.toNat ≤ 0x46 := h3
    refine .inr (.inr ⟨h3.1, h3.2, ?_⟩)
    rw [toNat_add, UInt8.toNat_sub_of_le _ _ h3.1]
    change (c.toNat - 0x41 + 10) % 256 = _
    omega

/-- A digit's value is below sixteen, and `hextable` writes the digit back in lower case. -/
theorem fromHexChar_eq_some {c a : UInt8} (h : fromHexChar c = some a) :
    a.toNat < 16 ∧ hextable.getD a.toNat 0 = toLower c := by
  have ha : a.toNat < 16 := by rcases fromHexChar_eq_some_toNat h with h | h | h <;> omega
  refine ⟨ha, UInt8.toNat.inj ?_⟩
  rw [toNat_hextable_getD ha, toNat_toLower]
  rcases fromHexChar_eq_some_toNat h with h | h | h <;> split_ifs <;> omega

/-! ## Round trips -/

theorem decodeString_cons_cons {p q : UInt8} {src : List UInt8} {a b : UInt8}
    (hp : fromHexChar p = some a) (hq : fromHexChar q = some b) :
    decodeString (p :: q :: src) = (decodeString src).map (((a <<< 4) ||| b) :: ·) := by
  simp only [decodeString, hp, hq]

/-- Decoding the two digits of a byte gives the byte back. -/
theorem decodeString_encodeByte_append (v : UInt8) (rest : List UInt8) :
    decodeString (encodeByte v ++ rest) = (decodeString rest).map (v :: ·) := by
  have hv : v.toNat < 256 := v.toNat_lt_size
  have hhi : (v >>> 4).toNat < 16 := by rw [toNat_shiftRight_four]; omega
  have hlo : (v &&& 0x0f).toNat < 16 := by rw [toNat_and_fifteen]; omega
  have hofNat : ∀ n, n < 16 → (UInt8.ofNat n).toNat = n := fun n hn => Nat.mod_eq_of_lt (by omega)
  -- The two nibbles put back together are the byte.
  have hbyte : (UInt8.ofNat (v >>> 4).toNat <<< 4) ||| UInt8.ofNat (v &&& 0x0f).toNat = v := by
    apply UInt8.toNat.inj
    rw [toNat_shiftLeft_four_or (by rw [hofNat _ hhi]; exact hhi) (by rw [hofNat _ hlo]; exact hlo),
      hofNat _ hhi, hofNat _ hlo, toNat_shiftRight_four, toNat_and_fifteen]
    omega
  rw [encodeByte, List.cons_append, List.cons_append, List.nil_append,
    decodeString_cons_cons (fromHexChar_hextable_getD hhi) (fromHexChar_hextable_getD hlo), hbyte]

/-- Decoding inverts encoding. -/
theorem decodeString_encodeToString (src : List UInt8) :
    decodeString (encodeToString src) = .ok src := by
  induction src with
  | nil => rfl
  | cons v src ih =>
    rw [encodeToString, List.flatMap_cons, decodeString_encodeByte_append, ← encodeToString, ih]
    rfl

@[simp]
theorem length_encodeToString (src : List UInt8) :
    (encodeToString src).length = 2 * src.length := by
  induction src with
  | nil => rfl
  | cons v src ih =>
    rw [encodeToString, List.flatMap_cons, ← encodeToString, List.length_append, ih]
    simp [encodeByte]
    omega

theorem except_map_eq_ok {ε α β : Type} {f : α → β} {e : Except ε α} {b : β} :
    e.map f = .ok b ↔ ∃ a, e = .ok a ∧ f a = b := by
  cases e <;> simp [Except.map]

theorem exists_map_eq_ok {ε α β : Type} {f : α → β} {e : Except ε α} :
    (∃ b, e.map f = .ok b) ↔ ∃ a, e = .ok a := by
  cases e <;> simp [Except.map]

/-- Decoding succeeds exactly on strings of even length made of hex digits. -/
theorem decodeString_isOk_iff (s : List UInt8) :
    (∃ b, decodeString s = .ok b) ↔ s.length % 2 = 0 ∧ s.all isHexDigit := by
  induction s using decodeString.induct with
  | case1 => simp [decodeString]
  | case2 p hp | case3 p _ hp => simp [decodeString, hp]
  | case4 p q src hp => simp [decodeString, hp, isHexDigit]
  | case5 p q src _ hq hp => simp [decodeString, hp, hq, isHexDigit]
  | case6 p q src a b hq hp ih =>
    rw [decodeString_cons_cons hp hq, exists_map_eq_ok, ih]
    simp only [List.length_cons, List.all_cons, isHexDigit, hp, hq, Option.isSome_some,
      Bool.true_and, Nat.add_assoc, Nat.add_mod_right]

/-- A decoded string has half as many bytes as the digits it was read from. -/
theorem length_decodeString {s b : List UInt8} (h : decodeString s = .ok b) :
    s.length = 2 * b.length := by
  induction s using decodeString.induct generalizing b with
  | case1 => cases h; rfl
  | case2 p hp | case3 p _ hp => simp [decodeString, hp] at h
  | case4 p q src hp => simp [decodeString, hp] at h
  | case5 p q src _ hq hp => simp [decodeString, hp, hq] at h
  | case6 p q src a c hq hp ih =>
    obtain ⟨b₀, h₀, rfl⟩ := except_map_eq_ok.mp ((decodeString_cons_cons hp hq).symm.trans h)
    simp [ih h₀]
    omega

/-- Encoding a byte read from two digits writes those digits back in lower case. -/
theorem encodeByte_shiftLeft_four_or {p q a b : UInt8}
    (hp : fromHexChar p = some a) (hq : fromHexChar q = some b) :
    encodeByte ((a <<< 4) ||| b) = [toLower p, toLower q] := by
  obtain ⟨ha, hpa⟩ := fromHexChar_eq_some hp
  obtain ⟨hb, hqb⟩ := fromHexChar_eq_some hq
  have hab := toNat_shiftLeft_four_or ha hb
  rw [encodeByte, toNat_shiftRight_four, toNat_and_fifteen, hab,
    show (16 * a.toNat + b.toNat) / 16 = a.toNat by omega,
    show (16 * a.toNat + b.toNat) % 16 = b.toNat by omega, hpa, hqb]

/-- A decoded string encodes back to the digits it was read from, in lower case. -/
theorem encodeToString_decodeString {s b : List UInt8} (h : decodeString s = .ok b) :
    encodeToString b = s.map toLower := by
  induction s using decodeString.induct generalizing b with
  | case1 => cases h; rfl
  | case2 p hp | case3 p _ hp => simp [decodeString, hp] at h
  | case4 p q src hp => simp [decodeString, hp] at h
  | case5 p q src _ hq hp => simp [decodeString, hp, hq] at h
  | case6 p q src a c hq hp ih =>
    obtain ⟨b₀, h₀, rfl⟩ := except_map_eq_ok.mp ((decodeString_cons_cons hp hq).symm.trans h)
    rw [encodeToString, List.flatMap_cons, ← encodeToString, ih h₀,
      encodeByte_shiftLeft_four_or hp hq]
    rfl

end Hex
