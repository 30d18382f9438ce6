import Chihaya.Storage.Memory

/-!
# Endpoint equality of the peers of `bittorrent.go`

`bittorrent/bittorrent.go` keeps a second peer type, whose address is a `net.IP` with an address
family, and compares the endpoints of two peers with `EqualEndpoint`: the ports, and the addresses
by `net.IP.Equal`, under which an IPv4 address equals the IPv4-mapped IPv6 address of the same four
bytes. The stores identify peers by `Peer.endpoint`: the `netip` address, unmapped, and the port.

`toPeer` reads a peer of `bittorrent.go` as a peer of `unnamed/part_000`, its address through
`netip.AddrFromSlice`. For addresses of 4 or 16 bytes, two peers are equal under `EqualEndpoint`
exactly when their endpoints are, so both packages identify the same peers. For other lengths they
part: `AddrFromSlice` reads every such address as the zero address, which `net.IP.Equal` does not.
The address family is left out: `EqualEndpoint` does not read it.

## Main results

* `ipEqual_iff`: on addresses of 4 or 16 bytes, `net.IP.Equal` is equality of the addresses
  `AddrFromSlice` reads, once unmapped;
* `equalEndpoint_iff`: `EqualEndpoint` is equality of the endpoints the stores key peers by, and
  `Equal` adds equality of the IDs.
-/

namespace Net

open Netip

/-- `net.IP.Equal`: the same bytes, or a 4-byte address and the 16-byte address that maps it. -/
def ipEqual (ip x : List UInt8) : Bool :=
  if ip.length = x.length then ip == x
  else if ip.length = 4 ∧ x.length = 16 then x.take 12 == Addr.v4InV6Prefix && ip == x.drop 12
  else if ip.length = 16 ∧ x.length = 4 then ip.take 12 == Addr.v4InV6Prefix && ip.drop 12 == x
  else false

theorem vector_mk_eq_iff {n : ℕ} {a b : List UInt8} {ha : a.length = n} {hb : b.length = n} :
    (⟨a, ha⟩ : Mathlib.Vector UInt8 n) = ⟨b, hb⟩ ↔ a = b :=
  ⟨congrArg Subtype.val, fun h => by subst h; rfl⟩

theorem unmap_addrFromSlice_of_length_4 {s : List UInt8} (h : s.length = 4) :
    (addrFromSlice s).1.unmap = .v4 ⟨s, h⟩ := by
  simp only [addrFromSlice, h, dif_pos]
  rfl

theorem unmap_addrFromSlice_of_length_16 {s : List UInt8} (h : s.length = 16) :
    (addrFromSlice s).1.unmap =
      if s.take 12 = Addr.v4InV6Prefix then .v4 ⟨s.drop 12, by simp [h]⟩ else .v6 ⟨s, h⟩ "" := by
  simp only [addrFromSlice, h, show (16 : ℕ) ≠ 4 by decide, dif_pos, dif_neg, not_false_eq_true]
  rfl

theorem eq_of_take_drop {s t : List UInt8} (ht : s.take 12 = t.take 12)
    (hd : s.drop 12 = t.drop 12) : s = t := by
  rw [← List.take_append_drop 12 s, ht, hd, List.take_append_drop]

/-- On addresses of 4 or 16 bytes, `net.IP.Equal` holds exactly when `AddrFromSlice` reads the two
as the same address once unmapped. -/
theorem ipEqual_iff {ip x : List UInt8} (hip : ip.length = 4 ∨ ip.length = 16)
    (hx : x.length = 4 ∨ x.length = 16) :
    ipEqual ip x = true ↔ (addrFromSlice ip).1.unmap = (addrFromSlice x).1.unmap := by
  rcases hip with h₁ | h₁ <;> rcases hx with h₂ | h₂
  · rw [unmap_addrFromSlice_of_length_4 h₁, unmap_addrFromSlice_of_length_4 h₂, Addr.v4.injEq,
      vector_mk_eq_iff]
    simp [ipEqual, h₁, h₂]
  · rw [unmap_addrFromSlice_of_length_4 h₁, unmap_addrFromSlice_of_length_16 h₂]
    split_ifs with hp
    · rw [Addr.v4.injEq, vector_mk_eq_iff]
      simp [ipEqual, h₁, h₂, hp]
    · simp [ipEqual, h₁, h₂, hp]
  · rw [unmap_addrFromSlice_of_length_16 h₁, unmap_addrFromSlice_of_length_4 h₂]
    split_ifs with hp
    · rw [Addr.v4.injEq, vector_mk_eq_iff]
      simp [ipEqual, h₁, h₂, hp]
    · simp [ipEqual, h₁, h₂, hp]
  · rw [unmap_addrFromSlice_of_length_16 h₁, unmap_addrFromSlice_of_length_16 h₂]
    simp only [ipEqual, h₁, h₂, if_true, beq_iff_eq]
    split_ifs with hp hq hq
    · -- Both mapped: the same prefix, so the addresses agree exactly when their last bytes do.
      rw [Addr.v4.injEq, vector_mk_eq_iff]
      exact ⟨fun h => h ▸ rfl, eq_of_take_drop (hp.trans hq.symm)⟩
    · simp only [reduceCtorEq, iff_false]
      rintro rfl
      exact hq hp
    · simp only [reduceCtorEq, iff_false]
      rintro rfl
      exact hp hq
    · rw [Addr.v6.injEq, vector_mk_eq_iff, eq_self, and_true]

/-- Outside those lengths the two part: an empty address and one of five bytes. -/
example : ipEqual [] [1, 2, 3, 4, 5] = false ∧
    (addrFromSlice []).1.unmap = (addrFromSlice [1, 2, 3, 4, 5]).1.unmap := by
  decide

end Net

namespace ChihayaBittorrent

open Netip

/-- The `Peer` of `bittorrent.go`: an ID, the address as a `net.IP`, and a port. -/
structure Peer where
  /-- `ID`: the twenty bytes the client identifies itself with. -/
  id : Bittorrent.PeerID
  /-- The bytes of the `net.IP` of `IP`: four for an IPv4 address, sixteen for an IPv6 one. -/
  ip : List UInt8
  /-- `Port`: the port the client listens on. -/
  port : UInt16
  deriving DecidableEq

namespace Peer

/-- `EqualEndpoint`. -/
def equalEndpoint (p x : Peer) : Bool := p.port == x.port && Net.ipEqual p.ip x.ip

/-- `Equal`. -/
def equal (p x : Peer) : Bool := p.equalEndpoint x && p.id == x.id

/-- The peer of `unnamed/part_000` with the same ID and port, and the address `AddrFromSlice` reads:
how the stores would see the peer. -/
def toPeer (p : Peer) : Bittorrent.Peer := ⟨p.id, addrPortFrom (addrFromSlice p.ip).1 p.port⟩

theorem endpoint_toPeer (p : Peer) :
    p.toPeer.endpoint = ((addrFromSlice p.ip).1.unmap, p.port) :=
  rfl

/-- For addresses of 4 or 16 bytes, `EqualEndpoint` holds exactly when the two peers have the same
endpoint, the identity the stores key peers by, and `Equal` exactly when they also have the same
ID. -/
theorem equalEndpoint_iff {p x : Peer} (hp : p.ip.length = 4 ∨ p.ip.length = 16)
    (hx : x.ip.length = 4 ∨ x.ip.length = 16) :
    (p.equalEndpoint x = true ↔ p.toPeer.endpoint = x.toPeer.endpoint) ∧
      (p.equal x = true ↔ p.toPeer.endpoint = x.toPeer.endpoint ∧ p.id = x.id) := by
  have he : p.equalEndpoint x = true ↔ p.toPeer.endpoint = x.toPeer.endpoint := by
    rw [endpoint_toPeer, endpoint_toPeer, Prod.mk.injEq, equalEndpoint, Bool.and_eq_true,
      beq_iff_eq, Net.ipEqual_iff hp hx, and_comm]
  exact ⟨he, by rw [equal, Bool.and_eq_true, he, beq_iff_eq]⟩

/-- An IPv4 peer and a peer of another ID at the IPv4-mapped form of its address and the same port:
`EqualEndpoint` holds and `Equal` does not, as their endpoints agree and their IDs differ. -/
theorem equalEndpoint_iff_mapped :
    let p : Peer := ⟨.replicate 20 1, [10, 0, 0, 1], 6881⟩
    let x : Peer := ⟨.replicate 20 2, Addr.v4InV6Prefix ++ [10, 0, 0, 1], 6881⟩
    p.equalEndpoint x = true ∧ p.equal x = false ∧
      (p.ip.length = 4 ∨ p.ip.length = 16) ∧ (x.ip.length = 4 ∨ x.ip.length = 16) ∧
      ((p.equalEndpoint x = true ↔ p.toPeer.endpoint = x.toPeer.endpoint) ∧
        (p.equal x = true ↔ p.toPeer.endpoint = x.toPeer.endpoint ∧ p.id = x.id)) :=
  ⟨by decide, by decide, by decide, by decide, equalEndpoint_iff (by decide) (by decide)⟩

end Peer

end ChihayaBittorrent
