import Mathlib.Data.Vector.Basic
import Chihaya.Errors

/-!
# Infohashes

`InfoHash` is a Go string of raw bytes: 20 of them for a v1 torrent, 32 for a v2 one.
`NewInfoHash` builds one from a dynamically typed value: a `[20]byte` or `[32]byte` array, a
`[]byte`, or a string, which is hex-decoded when it has 40 or 64 bytes and taken raw otherwise;
whatever it gets, the result must have 20 or 32 bytes. `String` writes the bytes in lower-case
hex, `RawString` returns them, and `TruncateV1` cuts a v2 hash to its first 20 bytes (BEP 52).

The repository has two copies of this code: `unnamed/part_000` (the `bittorrent` package every
other modelled file imports) and `bittorrent/bittorrent.go`. Their `NewInfoHash` bodies are the
same up to the names of the two errors they return, so both are `newInfoHashWith` applied to their
own errors; `String` is the same function in both.

## Main results

* `newInfoHash_codec`: for both implementations, an infohash read back from its hex form, its raw
  form or its bytes is itself, and a string is accepted exactly when it has 20 or 32 bytes (raw
  form) or 40 or 64 hex digits (hex form).
-/

namespace Bittorrent

/-- `InfoHashV1Len`, the length of a SHA-1 digest. -/
def infoHashV1Len : ℕ := 20

/-- `InfoHashV2Len`, the length of a SHA-256 digest. -/
def infoHashV2Len : ℕ := 32

@[simp] theorem infoHashV1Len_eq : infoHashV1Len = 20 := rfl

@[simp] theorem infoHashV2Len_eq : infoHashV2Len = 32 := rfl

/-- `InfoHash`, a string of raw bytes. -/
structure InfoHash where
  /-- The bytes, as `RawString` returns them. -/
  raw : List UInt8
  deriving DecidableEq, Repr

/-- `NoneInfoHash`, the empty infohash. -/
def noneInfoHash : InfoHash := ⟨[]⟩

namespace InfoHash

/-- `len(i)`. -/
def length (i : InfoHash) : ℕ := i.raw.length

/-- `TruncateV1`: a 32-byte hash cut to its first 20 bytes; any other hash unchanged. -/
def truncateV1 (i : InfoHash) : InfoHash :=
  if i.length = infoHashV2Len then ⟨i.raw.take infoHashV1Len⟩ else i

/-- `String`: the bytes in lower-case hex. -/
def string (i : InfoHash) : List UInt8 := Hex.encodeToString i.raw

/-- `RawString`: the bytes. -/
def rawString (i : InfoHash) : List UInt8 := i.raw

theorem length_truncateV1 {i : InfoHash} (h : i.length = infoHashV2Len) :
    i.truncateV1.length = infoHashV1Len := by
  rw [truncateV1, if_pos h]
  simp only [length, List.length_take, infoHashV2Len, infoHashV1Len] at h ⊢
  omega

theorem truncateV1_of_length_ne {i : InfoHash} (h : i.length ≠ infoHashV2Len) : i.truncateV1 = i :=
  if_neg h

/-- A 32-byte hash is not its own truncation. -/
theorem truncateV1_ne {i : InfoHash} (h : i.length = infoHashV2Len) : i.truncateV1 ≠ i := by
  intro he
  have := length_truncateV1 h
  rw [he, h] at this
  simp at this

end InfoHash

/-- The dynamic types `NewInfoHash` tells apart in its `data any` argument. -/
inductive HashData where
  /-- A nil interface. -/
  | nil
  /-- A `[InfoHashV1Len]byte`. -/
  | array20 (a : Mathlib.Vector UInt8 20)
  /-- A `[InfoHashV2Len]byte`. -/
  | array32 (a : Mathlib.Vector UInt8 32)
  /-- A `[]byte`. -/
  | byteSlice (b : List UInt8)
  /-- A `string`. -/
  | string (s : List UInt8)
  /-- A value of any other type, which no case of the `switch` takes. -/
  | other

/-- The `switch` of `NewInfoHash`: the bytes each type stands for. A string of 40 or 64 bytes is
hex-decoded and any other string taken raw; a type the `switch` does not take leaves `ba` nil. -/
def HashData.bytes : HashData → Except Error (List UInt8)
  | .array20 a => .ok a.toList
  | .array32 a => .ok a.toList
  | .byteSlice b => .ok b
  | .string t =>
    if t.length = infoHashV1Len * 2 ∨ t.length = infoHashV2Len * 2 then
      (Hex.decodeString t).mapError .hex
    else .ok t
  | .nil | .other => .ok []

/-- The body both `NewInfoHash`s share, given their "wrong type" and "wrong size" errors. -/
def newInfoHashWith (errType errSize : Error) : HashData → Except Error InfoHash
  | .nil => .error errType
  | data => data.bytes.bind fun ba =>
    if ba.length ≠ infoHashV1Len ∧ ba.length ≠ infoHashV2Len then .error errSize else .ok ⟨ba⟩

/-- `NewInfoHash` of `unnamed/part_000`. -/
def newInfoHash : HashData → Except Error InfoHash :=
  newInfoHashWith .errInvalidHashType .errInvalidHashSize

section Codec

variable (errType errSize : Error)

/-- Past the `nil` check, `NewInfoHash` keeps the bytes of its argument exactly when there are 20
or 32 of them. -/
theorem newInfoHashWith_of_bytes {data : HashData} (hd : data ≠ .nil) {ba : List UInt8}
    (h : data.bytes = .ok ba) :
    newInfoHashWith errType errSize data =
      if ba.length ≠ 20 ∧ ba.length ≠ 32 then .error errSize else .ok ⟨ba⟩ := by
  cases data <;> first | exact absurd rfl hd | simp only [newInfoHashWith, h, Except.bind,
    infoHashV1Len_eq, infoHashV2Len_eq]

theorem bytes_string_raw {s : List UInt8} (hs : s.length ≠ 40 ∧ s.length ≠ 64) :
    (HashData.string s).bytes = .ok s := by
  rw [HashData.bytes, if_neg (by simp only [infoHashV1Len_eq, infoHashV2Len_eq]; omega)]

/-- A string of 20 or 32 bytes is taken raw. -/
theorem newInfoHashWith_raw {s : List UInt8} (hs : s.length = 20 ∨ s.length = 32) :
    newInfoHashWith errType errSize (.string s) = .ok ⟨s⟩ := by
  rw [newInfoHashWith_of_bytes errType errSize (by simp) (bytes_string_raw (by omega)),
    if_neg (by omega)]

/-- A byte slice of 20 or 32 bytes is taken as it is. -/
theorem newInfoHashWith_byteSlice {b : List UInt8} (hb : b.length = 20 ∨ b.length = 32) :
    newInfoHashWith errType errSize (.byteSlice b) = .ok ⟨b⟩ := by
  rw [@newInfoHashWith_of_bytes errType errSize (.byteSlice b) (by simp) b rfl, if_neg (by omega)]

/-- A string of 40 or 64 bytes is hex-decoded, and accepted exactly when the decoding succeeds. -/
theorem newInfoHashWith_hex {s : List UInt8} (hs : s.length = 40 ∨ s.length = 64) :
    newInfoHashWith errType errSize (.string s) =
      ((Hex.decodeString s).mapError Error.hex).map InfoHash.mk := by
  cases hd : Hex.decodeString s with
  | error e => simp [newInfoHashWith, HashData.bytes, hs, hd, Except.mapError, Except.map,
      Except.bind]
  | ok b =>
    have hb := Hex.length_decodeString hd
    have hbytes : (HashData.string s).bytes = .ok b := by
      simp [HashData.bytes, hs, hd, Except.mapError]
    rw [newInfoHashWith_of_bytes errType errSize (by simp) hbytes, if_neg (by omega)]
    rfl

/-- A string is accepted exactly in its raw form (20 or 32 bytes) or its hex form (40 or 64 hex
digits). -/
theorem newInfoHashWith_string_isOk_iff (s : List UInt8) :
    (∃ i, newInfoHashWith errType errSize (.string s) = .ok i) ↔
      (s.length = 20 ∨ s.length = 32) ∨
        ((s.length = 40 ∨ s.length = 64) ∧ s.all Hex.isHexDigit) := by
  by_cases hraw : s.length = 20 ∨ s.length = 32
  · simp [newInfoHashWith_raw errType errSize hraw, hraw]
  by_cases hhex : s.length = 40 ∨ s.length = 64
  · rw [newInfoHashWith_hex errType errSize hhex]
    have hiff := Hex.decodeString_isOk_iff s
    have heven : s.length % 2 = 0 := by omega
    cases hd : Hex.decodeString s <;> simp_all [Except.mapError, Except.map]
  · rw [newInfoHashWith_of_bytes errType errSize (by simp) (bytes_string_raw (by omega)),
      if_pos (by omega)]
    simp [hraw, hhex]

end Codec

end Bittorrent

namespace ChihayaBittorrent

open Bittorrent

/-- `NewInfoHash` of `bittorrent/bittorrent.go`. -/
def newInfoHash : HashData → Except Error InfoHash :=
  newInfoHashWith .invalidHashTypeError .invalidHashSizeError

end ChihayaBittorrent

namespace Bittorrent

/-- Both `NewInfoHash`s read an infohash back from its hex form, its raw form and its bytes, and
accept a string exactly in raw form (20 or 32 bytes, kept as they are) or in hex form (40 or 64 hex
digits, which `String` writes back in lower case). -/
theorem newInfoHash_codec :
    ∀ newIH ∈ [newInfoHash, ChihayaBittorrent.newInfoHash],
      (∀ b : List UInt8, b.length = 20 ∨ b.length = 32 →
        newIH (.string (InfoHash.mk b).string) = .ok ⟨b⟩ ∧
          newIH (.string (InfoHash.mk b).rawString) = .ok ⟨b⟩ ∧
          newIH (.byteSlice b) = .ok ⟨b⟩) ∧
      ∀ s : List UInt8,
        ((∃ i, newIH (.string s) = .ok i) ↔
          (s.length = 20 ∨ s.length = 32) ∨
            ((s.length = 40 ∨ s.length = 64) ∧ s.all Hex.isHexDigit)) ∧
        ∀ i, newIH (.string s) = .ok i →
          (s.length = 20 ∨ s.length = 32 → i.rawString = s) ∧
          (s.length = 40 ∨ s.length = 64 → i.string = s.map Hex.toLower) := by
  intro newIH hmem
  obtain ⟨errType, errSize, rfl⟩ : ∃ errType errSize, newIH = newInfoHashWith errType errSize := by
    simp only [List.mem_cons, List.mem_singleton, List.not_mem_nil, or_false] at hmem
    rcases hmem with rfl | rfl
    exacts [⟨_, _, rfl⟩, ⟨_, _, rfl⟩]
  refine ⟨fun b hb => ⟨?_, newInfoHashWith_raw _ _ hb, newInfoHashWith_byteSlice _ _ hb⟩,
    fun s => ⟨newInfoHashWith_string_isOk_iff _ _ s, fun i hi => ⟨fun hs => ?_, fun hs => ?_⟩⟩⟩
  · rw [InfoHash.string, newInfoHashWith_hex _ _ (by simp; omega),
      Hex.decodeString_encodeToString]
    rfl
  · rw [newInfoHashWith_raw _ _ hs] at hi
    cases hi
    rfl
  · rw [newInfoHashWith_hex _ _ hs] at hi
    cases hd : Hex.decodeString s with
    | error e => simp [hd, Except.mapError, Except.map] at hi
    | ok b =>
      simp only [hd, Except.mapError, Except.map, Except.ok.injEq] at hi
      rw [← hi, InfoHash.string, Hex.encodeToString_decodeString hd]

/-- `TestInfoHash_String`'s bytes `1, …, 20`: their hex form reads back as the infohash. -/
theorem newInfoHash_codec_testVector :
    newInfoHash (.string (InfoHash.mk ((List.range 20).map fun n => UInt8.ofNat (n + 1))).string) =
      .ok ⟨(List.range 20).map fun n => UInt8.ofNat (n + 1)⟩ :=
  ((newInfoHash_codec _ (List.mem_cons_self _ _)).1 _ (Or.inl (by simp))).1

end Bittorrent
