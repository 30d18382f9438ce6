import Chihaya.Go.Netip
import Chihaya.Errors

/-!
# Peers

`Peer` of `unnamed/part_000`: a 20-byte peer ID and an embedded `netip.AddrPort`. `Addr` shadows
the embedded method and returns the address unmapped. `RawString` writes a peer as its ID, its port
in big-endian order and the bytes of its unmapped address; `NewPeer` reads such a string back,
taking the address from whatever follows the port, and unmapping it.

## Main results

* `newPeer_rawString`: a peer with a valid address reads back from its raw string as itself, with
  the address unmapped and its zone dropped;
* `newPeer_isOk_iff`: `NewPeer` accepts exactly the strings of 26 and 38 bytes;
* `rawString_newPeer`: a string `NewPeer` accepts is the raw string of the peer it builds, unless
  its address is IPv4-mapped;
* `newPeer_codec`: the three together.
-/

namespace Bittorrent

open Netip

/-- `PeerIDLen`. -/
def peerIDLen : ℕ := 20

@[simp] theorem peerIDLen_eq : peerIDLen = 20 := rfl

/-- `PeerID`, 20 bytes. -/
abbrev PeerID := Mathlib.Vector UInt8 peerIDLen

/-- `NewPeerID`: the bytes, if there are 20 of them. -/
def newPeerID (b : List UInt8) : Except Error PeerID :=
  if h : b.length = peerIDLen then .ok ⟨b, h⟩ else .error .errInvalidPeerIDSize

/-- `Peer`: a peer ID and the embedded `netip.AddrPort`. -/
structure Peer where
  /-- `ID`: the twenty bytes the client identifies itself with. -/
  id : PeerID
  /-- The embedded `netip.AddrPort`, with the address as it was stored. -/
  addrPort : AddrPort
  deriving DecidableEq

namespace Peer

/-- `Addr`: the address, unmapped. -/
def addr (p : Peer) : Addr := p.addrPort.addr.unmap

/-- `Port`, promoted from the embedded `AddrPort`. -/
def port (p : Peer) : UInt16 := p.addrPort.port

/-- `RawString`: the ID, the big-endian port and the address bytes. The source fills a buffer of
`PeerIDLen + 2 + BitLen/8` bytes, which `AsSlice` fills exactly (`Addr.length_asSlice`). -/
def rawString (p : Peer) : List UInt8 :=
  p.id.toList ++ BigEndian.putUint16 p.port ++ p.addr.asSlice

end Peer

/-- `PeerMinimumLen`: `PeerIDLen + 2 + net.IPv4len`. -/
def peerMinimumLen : ℕ := peerIDLen + 2 + 4

/-- `NewPeer`: the ID from the first 20 bytes, the port from the next two, and the address from the
rest, unmapped. -/
def newPeer (data : List UInt8) : Except Error Peer :=
  if data.length < peerMinimumLen then .error .errInvalidPeerDataSize
  else (newPeerID (data.take peerIDLen)).bind fun peerID =>
    match addrFromSlice (data.drop (peerIDLen + 2)) with
    | (addr, true) =>
      .ok ⟨peerID, addrPortFrom addr.unmap (BigEndian.uint16 ((data.drop peerIDLen).take 2))⟩
    | (_, false) => .error .errInvalidIP

namespace Peer

theorem rawString_eq (p : Peer) :
    p.rawString = p.id.toList ++ BigEndian.putUint16 p.port ++ p.addr.asSlice :=
  rfl

@[simp]
theorem length_rawString (p : Peer) : p.rawString.length = 22 + p.addr.bitLen / 8 := by
  simp [rawString]
  omega

end Peer

/-- The one spec lemma of `NewPeer`: it succeeds exactly on strings of at least 26 bytes whose
bytes after the port are an address, and then builds the peer from the three parts. -/
theorem newPeer_eq_ok_iff {data : List UInt8} {r : Peer} :
    newPeer data = .ok r ↔
      peerMinimumLen ≤ data.length ∧ (addrFromSlice (data.drop 22)).2 = true ∧
        r.id.toList = data.take 20 ∧
        r.addrPort = addrPortFrom (addrFromSlice (data.drop 22)).1.unmap
          (BigEndian.uint16 ((data.drop 20).take 2)) := by
  unfold newPeer newPeerID
  by_cases hlen : data.length < peerMinimumLen
  · simp only [if_pos hlen, reduceCtorEq, false_iff, not_and]
    intro h; omega
  · have h20 : (data.take peerIDLen).length = peerIDLen := by
      simp only [peerMinimumLen, peerIDLen_eq, List.length_take] at hlen ⊢; omega
    rw [if_neg hlen, dif_pos h20]
    rcases hs : addrFromSlice (data.drop (peerIDLen + 2)) with ⟨a, _ | _⟩
    · simp_all [Except.bind]
    · obtain ⟨id, ap⟩ := r
      simp_all only [Except.bind, peerIDLen_eq, Except.ok.injEq, Peer.mk.injEq, true_and,
        not_lt, peerMinimumLen]
      constructor
      · rintro ⟨rfl, rfl⟩; exact ⟨rfl, rfl⟩
      · rintro ⟨hid, rfl⟩; exact ⟨Mathlib.Vector.eq _ _ hid.symm, rfl⟩


/-- A peer with a valid address reads back from its raw string with the same ID and port, and its
address unmapped and without its zone. -/
theorem newPeer_rawString {p : Peer} (h : p.addr.isValid) :
    newPeer p.rawString = .ok ⟨p.id, addrPortFrom (p.addr.withZone "") p.port⟩ := by
  have hvalid : p.addrPort.addr.isValid := by rwa [Peer.addr, Addr.isValid_unmap] at h
  have hfrom : addrFromSlice p.addr.asSlice = (p.addr.withZone "", true) :=
    Addr.addrFromSlice_asSlice_unmap hvalid
  have hdrop : p.rawString.drop 22 = p.addr.asSlice := List.drop_left' (by simp)
  have hport : (p.rawString.drop 20).take 2 = BigEndian.putUint16 p.port := by
    rw [Peer.rawString_eq, List.append_assoc, List.drop_left' (by simp)]
    exact List.take_left' (by simp)
  rw [newPeer_eq_ok_iff, hdrop, hport, hfrom]
  refine ⟨?_, rfl, ?_, ?_⟩
  · have h32 : 32 ≤ p.addr.bitLen := by
      cases hp : p.addr with
      | zero => rw [hp] at h; cases h
      | v4 _ | v6 _ _ => simp only [Addr.bitLen]; omega
    rw [Peer.length_rawString, peerMinimumLen, peerIDLen_eq]
    omega
  · rw [Peer.rawString_eq, List.append_assoc, List.take_left' (by simp)]
  · rw [Peer.addr, Addr.unmap_withZone_unmap, ← Peer.addr,
      ← List.append_nil (BigEndian.putUint16 p.port), BigEndian.uint16_putUint16]

/-- `NewPeer` accepts exactly the strings of 26 and of 38 bytes. -/
theorem newPeer_isOk_iff (data : List UInt8) :
    (∃ r, newPeer data = .ok r) ↔ data.length = 26 ∨ data.length = 38 := by
  simp only [newPeer_eq_ok_iff, Addr.addrFromSlice_snd, List.length_drop, peerMinimumLen,
    peerIDLen_eq]
  constructor
  · rintro ⟨_, hlen, h, -⟩
    omega
  · intro h
    have h20 : (data.take 20).length = 20 := by simp only [List.length_take]; omega
    exact ⟨⟨⟨data.take 20, h20⟩, _⟩, by omega, by omega, rfl, rfl⟩

/-- A string `NewPeer` accepts is the raw string of the peer it builds, unless its last sixteen
bytes are an IPv4-mapped address. -/
theorem rawString_newPeer {data : List UInt8} {r : Peer} (h : newPeer data = .ok r)
    (hm : ¬(data.length = 38 ∧ (data.drop 22).take 12 = Addr.v4InV6Prefix)) :
    r.rawString = data := by
  obtain ⟨hlen, hslice, hid, hap⟩ := newPeer_eq_ok_iff.mp h
  have hlen' : 26 ≤ data.length := by simpa [peerMinimumLen] using hlen
  obtain ⟨b0, b1, rest, hrest⟩ : ∃ b0 b1 rest, data.drop 20 = b0 :: b1 :: rest := by
    match hd : data.drop 20 with
    | b0 :: b1 :: rest => exact ⟨b0, b1, rest, rfl⟩
    | [] | [_] => have := congrArg List.length hd; simp at this; omega
  have hport : BigEndian.putUint16 r.port = (data.drop 20).take 2 := by
    rw [Peer.port, hap, addrPortFrom, hrest]
    exact BigEndian.putUint16_uint16 b0 b1 (rest.take 0)
  have haddr : r.addr.asSlice = data.drop 22 := by
    rw [Peer.addr, hap, addrPortFrom, Addr.unmap_unmap]
    refine Addr.asSlice_unmap_addrFromSlice hslice fun ⟨h16, hp⟩ => hm ⟨?_, hp⟩
    simp only [List.length_drop] at h16
    omega
  rw [Peer.rawString_eq, hid, hport, haddr, List.append_assoc,
    show data.drop 22 = (data.drop 20).drop 2 by rw [List.drop_drop], List.take_append_drop,
    List.take_append_drop]

/-- `NewPeer` and `RawString` are inverse: a peer with a valid address reads back from its raw
string with the same ID, port and raw string, its address unmapped and without zone (so as itself
when its address is unmapped and zone-free); and a string is accepted exactly when it has 26 or 38
bytes, and is then the raw string of the peer read from it unless that peer's address bytes are
IPv4-mapped. -/
theorem newPeer_codec :
    (∀ p : Peer, p.addr.isValid →
      ∃ r, newPeer p.rawString = .ok r ∧ r.id = p.id ∧ r.port = p.port ∧
        r.addr = p.addr.withZone "" ∧ r.rawString = p.rawString ∧
        (p.addrPort.addr.is4In6 = false → p.addrPort.addr.zone = "" → r = p)) ∧
    ∀ s : List UInt8,
      ((∃ r, newPeer s = .ok r) ↔ s.length = 26 ∨ s.length = 38) ∧
      ∀ r, newPeer s = .ok r →
        ¬(s.length = 38 ∧ (s.drop 22).take 12 = Addr.v4InV6Prefix) → r.rawString = s := by
  refine ⟨fun p hp => ?_, fun s => ⟨newPeer_isOk_iff s, fun r hr hm => rawString_newPeer hr hm⟩⟩
  have hr := newPeer_rawString hp
  have haddr : (⟨p.id, addrPortFrom (p.addr.withZone "") p.port⟩ : Peer).addr = p.addr.withZone "" :=
    by rw [Peer.addr, addrPortFrom, Peer.addr, Addr.unmap_withZone_unmap]
  refine ⟨_, hr, rfl, rfl, haddr, ?_, fun hm hz => ?_⟩
  · rw [Peer.rawString_eq, Peer.rawString_eq, haddr, Addr.asSlice_withZone]
    rfl
  · obtain ⟨id, ⟨a, port⟩⟩ := p
    simp only [Peer.addr, Peer.port, addrPortFrom] at hm hz ⊢
    rw [Addr.unmap_of_is4In6_eq_false hm, Addr.withZone_of_zone_eq_empty hz]

/-- A peer with a zero ID at `10.11.12.1:1234` reads back from its raw string as itself. -/
theorem newPeer_codec_testPeer :
    newPeer (Peer.rawString ⟨.replicate 20 0, ⟨.v4 ⟨[10, 11, 12, 1], rfl⟩, 1234⟩⟩) =
      .ok ⟨.replicate 20 0, ⟨.v4 ⟨[10, 11, 12, 1], rfl⟩, 1234⟩⟩ := by
  obtain ⟨r, hr, -, -, -, -, heq⟩ :=
    newPeer_codec.1 ⟨.replicate 20 0, ⟨.v4 ⟨[10, 11, 12, 1], rfl⟩, 1234⟩⟩ rfl
  rwa [heq rfl rfl] at hr

end Bittorrent
