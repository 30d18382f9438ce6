import Mathlib.Data.Vector.Basic
import Mathlib.Data.UInt

/-!
# `net/netip` and `encoding/binary`

The parts of Go's `net/netip` that peers are built from, and the big-endian port bytes and 64-bit
words of `encoding/binary`.

A `netip.Addr` is the zero value (no address), an IPv4 address, or an IPv6 address with a zone;
`WithZone("")` and an IPv6 address without a zone are the same value. An IPv6 address whose first
twelve bytes are `::ffff:` is an IPv4-mapped address: `Is6` holds of it, and `Unmap` turns it into
the IPv4 address of its last four bytes, dropping the zone.

## Main results

* `uint16_putUint16`, `putUint16_uint16`: the port and its two bytes read back as each other;
* `unmap_unmap`, `isValid_unmap`: `Unmap` is idempotent and keeps a valid address valid;
* `addrFromSlice_asSlice_unmap`: the bytes of an unmapped address read back as that address
  without its zone.
-/

namespace Netip

/-- `netip.Addr`: no address, four IPv4 bytes, or sixteen IPv6 bytes and a zone (`""` for none). -/
inductive Addr where
  | zero
  | v4 (a : Mathlib.Vector UInt8 4)
  | v6 (a : Mathlib.Vector UInt8 16) (zone : String)
  deriving DecidableEq

namespace Addr

/-- The twelve bytes `::ffff:` that start an IPv4-mapped IPv6 address. -/
def v4InV6Prefix : List UInt8 :=
  [0, 0, 0, 0, 0, 0, 0, 0, 0, 0, 0xff, 0xff]

/-- `IsValid`: any address but the zero value. -/
def isValid : Addr → Bool
  | zero => false
  | _ => true

/-- `Is4`. -/
def is4 : Addr → Bool
  | v4 _ => true
  | _ => false

/-- `Is6`, which holds of IPv4-mapped addresses too. -/
def is6 : Addr → Bool
  | v6 _ _ => true
  | _ => false

/-- `Is4In6`: an IPv6 address starting with `::ffff:`. -/
def is4In6 : Addr → Bool
  | v6 a _ => a.toList.take 12 = v4InV6Prefix
  | _ => false

/-- The zone of an IPv6 address; `""` for the others. -/
def zone : Addr → String
  | v6 _ z => z
  | _ => ""

/-- `Unmap`: an IPv4-mapped address becomes the IPv4 address of its last four bytes. -/
def unmap : Addr → Addr
  | v6 a z => if a.toList.take 12 = v4InV6Prefix then v4 ⟨a.toList.drop 12, by simp⟩ else v6 a z
  | ip => ip

/-- `WithZone`: sets the zone of an IPv6 address and leaves the others alone. -/
def withZone (z : String) : Addr → Addr
  | v6 a _ => v6 a z
  | ip => ip

/-- `BitLen`: 0, 32 or 128. -/
def bitLen : Addr → ℕ
  | zero => 0
  | v4 _ => 32
  | v6 _ _ => 128

/-- `AsSlice`: the address bytes, none for the zero value. -/
def asSlice : Addr → List UInt8
  | zero => []
  | v4 a => a.toList
  | v6 a _ => a.toList

/-- `As4`: the four bytes of an IPv4 or IPv4-mapped address; otherwise a panic, whose text is the
error. -/
def as4 : Addr → Except String (Mathlib.Vector UInt8 4)
  | zero => .error "As4 called on IP zero value"
  | v4 a => .ok a
  | v6 a _ =>
    if a.toList.take 12 = v4InV6Prefix then .ok ⟨a.toList.drop 12, by simp⟩
    else .error "As4 called on IPv6 address"

/-- `As16`: the sixteen bytes, an IPv4 address written `::ffff:a.b.c.d`, the zero value as zeros. -/
def as16 : Addr → Mathlib.Vector UInt8 16
  | zero => Mathlib.Vector.replicate 16 0
  | v4 a => ⟨v4InV6Prefix ++ a.toList, by simp [v4InV6Prefix]⟩
  | v6 a _ => a

end Addr

/-- `AddrFromSlice`: four bytes are an IPv4 address, sixteen an IPv6 one without a zone (even a
mapped one); any other length is refused. -/
def addrFromSlice (slice : List UInt8) : Addr × Bool :=
  if h : slice.length = 4 then (.v4 ⟨slice, h⟩, true)
  else if h : slice.length = 16 then (.v6 ⟨slice, h⟩ "", true)
  else (.zero, false)

namespace Addr

@[simp] theorem unmap_v4 (a : Mathlib.Vector UInt8 4) : (v4 a).unmap = v4 a := rfl

@[simp] theorem unmap_zero : zero.unmap = zero := rfl

theorem unmap_v6 (a : Mathlib.Vector UInt8 16) (z : String) :
    (v6 a z).unmap =
      if a.toList.take 12 = v4InV6Prefix then v4 ⟨a.toList.drop 12, by simp⟩ else v6 a z :=
  rfl

/-- `Unmap` is idempotent. -/
@[simp]
theorem unmap_unmap (ip : Addr) : ip.unmap.unmap = ip.unmap := by
  cases ip with
  | v6 a z => rw [unmap_v6]; split_ifs with h <;> simp [unmap, h]
  | _ => rfl

theorem is4In6_unmap (ip : Addr) : ip.unmap.is4In6 = false := by
  cases ip with
  | v6 a z => rw [unmap_v6]; split_ifs with h <;> simp [is4In6, h]
  | _ => rfl

@[simp]
theorem isValid_unmap (ip : Addr) : ip.unmap.isValid = ip.isValid := by
  cases ip with
  | v6 a z => rw [unmap_v6]; split_ifs <;> rfl
  | _ => rfl

/-- A valid address is, once unmapped, exactly one of IPv4 and IPv6. -/
theorem is4_or_is6 {ip : Addr} (h : ip.isValid) : (ip.is4 ∧ !ip.is6) ∨ (ip.is6 ∧ !ip.is4) := by
  cases ip <;> simp_all [is4, is6, isValid]

@[simp]
theorem length_asSlice (ip : Addr) : ip.asSlice.length = ip.bitLen / 8 := by
  cases ip <;> simp only [asSlice, bitLen, List.length_nil, Mathlib.Vector.toList_length]

theorem length_asSlice_of_is4 {ip : Addr} (h : ip.is4) : ip.asSlice.length = 4 := by
  cases ip <;> simp_all [is4, asSlice]

theorem length_asSlice_of_is6 {ip : Addr} (h : ip.is6) : ip.asSlice.length = 16 := by
  cases ip <;> simp_all [is6, asSlice]

/-- The bytes of an unmapped valid address read back as that address without its zone. -/
theorem addrFromSlice_asSlice_unmap {ip : Addr} (h : ip.isValid) :
    addrFromSlice ip.unmap.asSlice = (ip.unmap.withZone "", true) := by
  cases ip with
  | zero => simp [isValid] at h
  | v4 a => simp [addrFromSlice, asSlice, withZone]
  | v6 a z =>
    rw [unmap_v6]
    split_ifs <;> simp [addrFromSlice, asSlice, withZone]

theorem unmap_of_is4In6_eq_false {ip : Addr} (h : ip.is4In6 = false) : ip.unmap = ip := by
  cases ip with
  | v6 a z => rw [unmap_v6, if_neg (by simpa [is4In6] using h)]
  | _ => rfl

theorem withZone_of_zone_eq_empty {ip : Addr} (h : ip.zone = "") : ip.withZone "" = ip := by
  cases ip <;> simp_all [withZone, zone]

@[simp]
theorem asSlice_withZone (z : String) (ip : Addr) : (ip.withZone z).asSlice = ip.asSlice := by
  cases ip <;> rfl

/-- Dropping the zone of an unmapped address leaves it unmapped. -/
theorem unmap_withZone_unmap (ip : Addr) : (ip.unmap.withZone "").unmap = ip.unmap.withZone "" := by
  apply unmap_of_is4In6_eq_false
  have := is4In6_unmap ip
  revert this
  cases ip.unmap <;> simp [withZone, is4In6]

/-- `AddrFromSlice` accepts exactly the slices of four and of sixteen bytes. -/
theorem addrFromSlice_snd (slice : List UInt8) :
    (addrFromSlice slice).2 = true ↔ slice.length = 4 ∨ slice.length = 16 := by
  unfold addrFromSlice
  split_ifs <;> simp_all

/-- An accepted slice is the bytes of its address once unmapped, unless it is sixteen bytes of an
IPv4-mapped address. -/
theorem asSlice_unmap_addrFromSlice {slice : List UInt8} (h : (addrFromSlice slice).2 = true)
    (hm : ¬(slice.length = 16 ∧ slice.take 12 = v4InV6Prefix)) :
    (addrFromSlice slice).1.unmap.asSlice = slice := by
  unfold addrFromSlice at h ⊢
  split_ifs at h ⊢ with h4 h16
  · rfl
  · rw [unmap_v6, if_neg (show ¬(Mathlib.Vector.toList ⟨slice, h16⟩).take 12 = v4InV6Prefix
      from fun hp => hm ⟨h16, hp⟩)]
    rfl

end Addr

/-- `netip.AddrPort`. -/
structure AddrPort where
  /-- The address, as stored. -/
  addr : Addr
  /-- The port. -/
  port : UInt16
  deriving DecidableEq

/-- `AddrPortFrom`. -/
def addrPortFrom (ip : Addr) (port : UInt16) : AddrPort :=
  ⟨ip, port⟩

end Netip

namespace BigEndian

/-- `BigEndian.PutUint16`: `byte(v >> 8)`, then `byte(v)`. -/
def putUint16 (v : UInt16) : List UInt8 :=
  [(v >>> 8).toUInt8, v.toUInt8]

/-- `BigEndian.Uint16`: `uint16(b[1]) | uint16(b[0])<<8`. Go panics on fewer than two bytes; every
caller here passes two, and the model returns `0` there. -/
def uint16 : List UInt8 → UInt16
  | b0 :: b1 :: _ => b1.toUInt16 ||| (b0.toUInt16 <<< 8)
  | _ => 0

/-- `BigEndian.Uint64`: the first eight bytes, most significant first. Go panics on fewer than
eight bytes; every caller here passes eight. -/
def uint64 (b : List UInt8) : UInt64 :=
  (b.take 8).foldl (fun acc x => acc <<< 8 ||| x.toUInt64) 0

@[simp]
theorem length_putUint16 (v : UInt16) : (putUint16 v).length = 2 :=
  rfl

theorem toNat_shiftRight_eight (v : UInt16) : (v >>> 8).toNat = v.toNat / 256 := by
  show (v.toBitVec >>> ((8 : UInt16).toBitVec % 16).toNat).toNat = _
  rw [BitVec.toNat_ushiftRight, Nat.shiftRight_eq_div_pow]
  rfl

/-- Two bytes combined as `b1 | b0<<8` make the port `256 * b0 + b1`. -/
theorem toNat_uint16 (b0 b1 : UInt8) (rest : List UInt8) :
    (uint16 (b0 :: b1 :: rest)).toNat = 256 * b0.toNat + b1.toNat := by
  have h0 : b0.toNat < 256 := b0.toNat_lt_size
  have h1 : b1.toNat < 256 := b1.toNat_lt_size
  show (b1.toUInt16.toBitVec ||| (b0.toUInt16.toBitVec <<< ((8 : UInt16).toBitVec % 16).toNat)).toNat
    = _
  rw [BitVec.toNat_or, BitVec.toNat_shiftLeft, Nat.shiftLeft_eq,
    show ((8 : UInt16).toBitVec % 16).toNat = 8 from rfl, Nat.mod_eq_of_lt]
  · change b1.toNat ||| b0.toNat * 2 ^ 8 = _
    rw [Nat.or_comm, Nat.mul_comm, ← Nat.mul_add_lt_is_or h1]
  · change b0.toNat * 2 ^ 8 < 2 ^ 16
    omega

/-- The port bytes read back as the port. -/
theorem uint16_putUint16 (v : UInt16) (rest : List UInt8) :
    uint16 (putUint16 v ++ rest) = v := by
  apply UInt16.toNat.inj
  have hv : v.toNat < 65536 := v.toNat_lt_size
  rw [putUint16, List.cons_append, List.cons_append, toNat_uint16]
  change 256 * ((v >>> 8).toNat % 256) + v.toNat % 256 = _
  rw [toNat_shiftRight_eight]
  omega

/-- The bytes of a port read back from it. -/
theorem putUint16_uint16 (b0 b1 : UInt8) (rest : List UInt8) :
    putUint16 (uint16 (b0 :: b1 :: rest)) = [b0, b1] := by
  have h0 : b0.toNat < 256 := b0.toNat_lt_size
  have h1 : b1.toNat < 256 := b1.toNat_lt_size
  have hv := toNat_uint16 b0 b1 rest
  simp only [putUint16, List.cons.injEq, and_true]
  constructor <;> apply UInt8.toNat.inj
  · change ((uint16 (b0 :: b1 :: rest) >>> 8).toNat) % 256 = _
    rw [toNat_shiftRight_eight, hv]
    omega
  · change (uint16 (b0 :: b1 :: rest)).toNat % 256 = _
    rw [hv]
    omega

end BigEndian
