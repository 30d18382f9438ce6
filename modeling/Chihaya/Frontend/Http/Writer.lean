import Chihaya.Bittorrent.Announce

/-!
# HTTP announce responses

`WriteAnnounceResponse` of the HTTP frontend (`unnamed/part_001`) builds the dictionary it hands to
the bencode encoder: the two counters, the two intervals converted to seconds, and the peers. In
compact mode `peers` holds six bytes per IPv4 peer and `peers6` eighteen per IPv6 peer, each the
address bytes then the big-endian port, and a key is left out when its list is empty; otherwise
`peers` is the list of `{peer id, ip, port}` dictionaries of the IPv4 peers, then the IPv6 peers.
The model stops at that dictionary: the encoder is a library, and what it makes of a value is not
modelled (in dictionary mode the `ip` it is handed is a `netip.Addr`, a struct with no exported
field, which it writes as an empty dictionary). `WriteError` answers a failed request
with a failure reason, the text of a client error and `internal server error` for any other. `compact4` panics (through `As4`) on
a peer whose address is not IPv4 once unmapped, and the model returns the panic as an error.

The conversion of `min interval` is guarded by the converted `Interval`, not by `MinInterval`:
after `resp.Interval /= time.Second`, the test `resp.Interval > 0` fails whenever `Interval` was
below one second, and `MinInterval` is then written in nanoseconds.

## Main results

* `writeAnnounceResponse_intervals`: the counters, `interval` in whole seconds, and `min interval`
  in whole seconds exactly when `Interval` is at least one second, in nanoseconds otherwise;
* `compactPeers_writeAnnounceResponse`: the compact peer strings split back into the address and
  port of each peer, in order, each present exactly when its list is not empty;
* `writeAnnounceResponse_minInterval_nanoseconds`: an announce response whose `min interval` is
  written in nanoseconds.
-/

namespace Http

open Bittorrent Netip Time

/-- A value of a peer's dictionary `dict(peer)`. -/
inductive PeerValue where
  /-- `"peer id"`: the raw ID. -/
  | string (s : List UInt8)
  /-- `"ip"`: the `netip.Addr` itself, as the encoder receives it. -/
  | addr (a : Addr)
  /-- `"port"`. -/
  | uint16 (n : UInt16)
  deriving DecidableEq

/-- A value of the announce dictionary `bdict`. -/
inductive Value where
  /-- A `uint32` counter. -/
  | uint32 (n : UInt32)
  /-- A `time.Duration`, encoded as its integer. -/
  | duration (d : Duration)
  /-- A `[]byte`. -/
  | bytes (b : List UInt8)
  /-- A `[]map[string]any` of peer dictionaries. -/
  | dicts (ds : List (List (String × PeerValue)))
  deriving DecidableEq

/-- `map[string]any`, as its entries in the order the code sets them; every key is set once. -/
abbrev Dict := List (String × Value)

/-- `compact4`: the four address bytes, then the port. -/
def compact4 (peer : Peer) : Except String (List UInt8) := do
  let ip ← peer.addr.as4
  let port := peer.port
  pure (ip.toList ++ [(port >>> 8).toUInt8, (port &&& 0xff).toUInt8])

/-- `compact6`: the sixteen address bytes, then the port. -/
def compact6 (peer : Peer) : List UInt8 :=
  let ip := peer.addr.as16
  let port := peer.port
  ip.toList ++ [(port >>> 8).toUInt8, (port &&& 0xff).toUInt8]

/-- `dict`: a peer's `{peer id, ip, port}` dictionary. -/
def dict (peer : Peer) : List (String × PeerValue) :=
  [("peer id", .string peer.id.toList), ("ip", .addr peer.addr), ("port", .uint16 peer.port)]

/-- The two conversions at the top of `WriteAnnounceResponse`: `Interval` is divided by
`time.Second` when positive, and `MinInterval` when the divided `Interval` is still positive. -/
def intervals (resp : AnnounceResponse) : Duration × Duration :=
  let interval := if 0 < resp.interval.ns then resp.interval / .second else resp.interval
  (interval, if 0 < interval.ns then resp.minInterval / .second else resp.minInterval)

/-- `WriteAnnounceResponse`, up to the dictionary it encodes. -/
def writeAnnounceResponse (resp : AnnounceResponse) : Except String Dict := do
  let bdict : Dict :=
    [("complete", .uint32 resp.complete), ("incomplete", .uint32 resp.incomplete),
      ("interval", .duration (intervals resp).1), ("min interval", .duration (intervals resp).2)]
  if resp.compact then
    let ipv4CompactDict := (← resp.ipv4Peers.mapM compact4).flatten
    let ipv6CompactDict := (resp.ipv6Peers.map compact6).flatten
    pure (bdict ++ (if ipv4CompactDict.length > 0 then [("peers", .bytes ipv4CompactDict)] else [])
      ++ (if ipv6CompactDict.length > 0 then [("peers6", .bytes ipv6CompactDict)] else []))
  else
    pure (bdict ++ [("peers", .dicts (resp.ipv4Peers.map dict ++ resp.ipv6Peers.map dict))])

/-- An error handed to `WriteError`: a `bittorrent.ClientError`, which `errors.As` finds, with its
text; or any other error. -/
inductive HandlerError where
  /-- A `ClientError`. -/
  | client (text : String)
  /-- Any other error. -/
  | internal (e : Error)

/-- `WriteError`, up to the dictionary it encodes: a client error's text as the failure reason, and
`"internal server error"` in place of any other error. -/
def writeError : HandlerError → List (String × String)
  | .client text => [("failure reason", text)]
  | .internal _ => [("failure reason", "internal server error")]

/-- The records of `size` bytes a compact peer string is cut into, as a client reads it. -/
def splitRecords (size : ℕ) (b : List UInt8) : List (List UInt8) :=
  if _h : 0 < size ∧ b ≠ [] then b.take size :: splitRecords size (b.drop size) else []
termination_by b.length
decreasing_by
  simp_wf
  have := List.length_pos.mpr _h.2
  omega

/-- A compact record read as an address of `addrLen` bytes and a big-endian port. -/
def readRecord (addrLen : ℕ) (record : List UInt8) : List UInt8 × UInt16 :=
  (record.take addrLen, BigEndian.uint16 (record.drop addrLen))

/-- The `(address, port)` records a client reads from the compact peer string under `key`, whose
addresses have `addrLen` bytes; none when the key is absent. -/
def compactPeers (d : Dict) (key : String) (addrLen : ℕ) : List (List UInt8 × UInt16) :=
  match d.lookup key with
  | some (.bytes b) => (splitRecords (addrLen + 2) b).map (readRecord addrLen)
  | _ => []

/-! ## Bytes of the compact format -/

theorem toNat_and_0xff (v : UInt16) : (v &&& 0xff).toNat = v.toNat % 256 := by
  show (v.toBitVec &&& (0xff : UInt16).toBitVec).toNat = _
  rw [BitVec.toNat_and]
  exact Nat.and_pow_two_sub_one_eq_mod v.toNat 8

/-- `byte(port>>8), byte(port&0xff)` are the big-endian port bytes. -/
theorem portBytes_eq_putUint16 (port : UInt16) :
    [(port >>> 8).toUInt8, (port &&& 0xff).toUInt8] = BigEndian.putUint16 port := by
  simp only [BigEndian.putUint16, List.cons.injEq, true_and, and_true]
  apply UInt8.toNat.inj
  change (port &&& 0xff).toNat % 256 = port.toNat % 256
  rw [toNat_and_0xff, Nat.mod_mod]

theorem compact4_of_is4 {p : Peer} (h : p.addr.is4) :
    compact4 p = .ok (p.addr.asSlice ++ BigEndian.putUint16 p.port) := by
  rw [compact4, ← portBytes_eq_putUint16]
  cases hp : p.addr <;> simp_all [Addr.is4, Addr.as4, Addr.asSlice, bind, Except.bind, pure,
    Except.pure]

theorem compact6_of_is6 {p : Peer} (h : p.addr.is6) :
    compact6 p = p.addr.asSlice ++ BigEndian.putUint16 p.port := by
  rw [compact6, ← portBytes_eq_putUint16]
  cases hp : p.addr <;> simp_all [Addr.is6, Addr.as16, Addr.asSlice]

theorem mapM_compact4 {ps : List Peer} (h : ∀ p ∈ ps, p.addr.is4) :
    ps.mapM compact4 = .ok (ps.map fun p => p.addr.asSlice ++ BigEndian.putUint16 p.port) := by
  induction ps with
  | nil => rfl
  | cons p ps ih =>
    rw [List.mapM_cons, compact4_of_is4 (h p (List.mem_cons_self _ _)),
      ih fun q hq => h q (List.mem_cons_of_mem _ hq)]
    rfl

/-- Records of `size` bytes, run together, split back into themselves. -/
theorem splitRecords_flatten {size : ℕ} (hs : 0 < size) (rs : List (List UInt8))
    (h : ∀ r ∈ rs, r.length = size) : splitRecords size rs.flatten = rs := by
  induction rs with
  | nil => simp [splitRecords]
  | cons r rs ih =>
    have hr := h r (List.mem_cons_self _ _)
    have hne : r ++ rs.flatten ≠ [] :=
      List.append_ne_nil_of_left_ne_nil (List.ne_nil_of_length_pos (hr ▸ hs)) _
    rw [List.flatten_cons, splitRecords, dif_pos ⟨hs, hne⟩, List.take_left' hr,
      List.drop_left' hr, ih fun q hq => h q (List.mem_cons_of_mem _ hq)]

theorem readRecord_append_putUint16 {a : List UInt8} {n : ℕ} (ha : a.length = n) (port : UInt16) :
    readRecord n (a ++ BigEndian.putUint16 port) = (a, port) := by
  rw [readRecord, List.take_left' ha, List.drop_left' ha, ← List.append_nil (BigEndian.putUint16 port),
    BigEndian.uint16_putUint16]

/-! ## The dictionary -/

/-- The entries `WriteAnnounceResponse` sets first, whatever the mode. -/
theorem writeAnnounceResponse_eq_ok_header {resp : AnnounceResponse} {d : Dict}
    (h : writeAnnounceResponse resp = .ok d) :
    ∃ rest, d = [("complete", .uint32 resp.complete), ("incomplete", .uint32 resp.incomplete),
      ("interval", .duration (intervals resp).1), ("min interval", .duration (intervals resp).2)]
        ++ rest := by
  unfold writeAnnounceResponse at h
  split at h
  · cases hm : resp.ipv4Peers.mapM compact4 <;>
      simp only [hm, bind, Except.bind, pure, Except.pure, reduceCtorEq, Except.ok.injEq] at h
    exact ⟨_, h.symm⟩
  · exact ⟨_, (Except.ok.inj h).symm⟩

/-- The counters and the two intervals, as `intervals` converts them. -/
theorem lookup_header {resp : AnnounceResponse} {d : Dict}
    (h : writeAnnounceResponse resp = .ok d) :
    d.lookup "complete" = some (.uint32 resp.complete) ∧
      d.lookup "incomplete" = some (.uint32 resp.incomplete) ∧
      d.lookup "interval" = some (.duration (intervals resp).1) ∧
      d.lookup "min interval" = some (.duration (intervals resp).2) := by
  obtain ⟨rest, rfl⟩ := writeAnnounceResponse_eq_ok_header h
  simp [List.lookup_cons]

/-- A non-negative `Interval` is written in whole seconds. -/
theorem ns_intervals_fst {resp : AnnounceResponse} (h : 0 ≤ resp.interval.ns) :
    (intervals resp).1.ns = resp.interval.ns / 1000000000 := by
  simp only [intervals]
  split_ifs with hpos
  · exact Duration.ns_div_second h
  · omega

/-- A non-negative `MinInterval` is written in whole seconds when `Interval` is at least one second,
and in nanoseconds otherwise. -/
theorem ns_intervals_snd {resp : AnnounceResponse} (h : 0 ≤ resp.interval.ns)
    (hmin : 0 ≤ resp.minInterval.ns) :
    (intervals resp).2.ns =
      if 1000000000 ≤ resp.interval.ns then resp.minInterval.ns / 1000000000
      else resp.minInterval.ns := by
  have hi := Duration.ns_div_second h
  have hm := Duration.ns_div_second hmin
  simp only [intervals]
  split_ifs <;> omega

/-- Every announce dictionary with non-negative intervals holds the two counters, `interval` in
whole seconds, and `min interval` in whole seconds when `Interval` is at least one second and in
nanoseconds otherwise. -/
theorem writeAnnounceResponse_intervals {resp : AnnounceResponse} {d : Dict}
    (h : writeAnnounceResponse resp = .ok d) (hi : 0 ≤ resp.interval.ns)
    (hm : 0 ≤ resp.minInterval.ns) :
    d.lookup "complete" = some (.uint32 resp.complete) ∧
      d.lookup "incomplete" = some (.uint32 resp.incomplete) ∧
      (∃ i : Duration, d.lookup "interval" = some (.duration i) ∧
        i.ns = resp.interval.ns / 1000000000) ∧
      ∃ m : Duration, d.lookup "min interval" = some (.duration m) ∧
        m.ns = if 1000000000 ≤ resp.interval.ns then resp.minInterval.ns / 1000000000
          else resp.minInterval.ns := by
  obtain ⟨hc, hic, hint, hmin⟩ := lookup_header h
  exact ⟨hc, hic, ⟨_, hint, ns_intervals_fst hi⟩, _, hmin, ns_intervals_snd hi hm⟩

/-- A dictionary-mode response with a 30-minute interval and a 15-minute minimum interval: both are
written in whole seconds. -/
theorem writeAnnounceResponse_intervals_halfHour :
    let resp : AnnounceResponse :=
      ⟨false, 3, 4, .ofInt 1800000000000, .ofInt 900000000000, [], []⟩
    ∃ d, writeAnnounceResponse resp = .ok d ∧ 0 ≤ resp.interval.ns ∧ 0 ≤ resp.minInterval.ns ∧
      d.lookup "complete" = some (.uint32 resp.complete) ∧
      d.lookup "incomplete" = some (.uint32 resp.incomplete) ∧
      (∃ i : Duration, d.lookup "interval" = some (.duration i) ∧
        i.ns = resp.interval.ns / 1000000000) ∧
      ∃ m : Duration, d.lookup "min interval" = some (.duration m) ∧
        m.ns = if 1000000000 ≤ resp.interval.ns then resp.minInterval.ns / 1000000000
          else resp.minInterval.ns :=
  ⟨_, rfl, by decide, by decide, writeAnnounceResponse_intervals rfl (by decide) (by decide)⟩

/-- Peer records of `n`-byte addresses, run together, read back as each peer's address and port. -/
theorem readRecords_flatten {n : ℕ} {ps : List Peer} (h : ∀ p ∈ ps, p.addr.asSlice.length = n) :
    (splitRecords (n + 2) (ps.map fun p => p.addr.asSlice ++ BigEndian.putUint16 p.port).flatten).map
      (readRecord n) = ps.map fun p => (p.addr.asSlice, p.port) := by
  rw [splitRecords_flatten (by omega) _ (by simpa using fun p hp => h p hp), List.map_map]
  exact List.map_congr_left fun p hp => readRecord_append_putUint16 (h p hp) _

theorem length_flatten_pos_iff {rs : List (List UInt8)} (h : ∀ r ∈ rs, 0 < r.length) :
    0 < rs.flatten.length ↔ rs ≠ [] := by
  cases rs with
  | nil => simp
  | cons r rs => simpa using Or.inl (h r (List.mem_cons_self _ _))

/-- In compact mode, with every IPv4 peer IPv4 once unmapped, the two peer strings are the records
of the peers, each set exactly when its list is not empty. -/
theorem writeAnnounceResponse_compact {resp : AnnounceResponse} (hc : resp.compact = true)
    (h4 : ∀ p ∈ resp.ipv4Peers, p.addr.is4) :
    writeAnnounceResponse resp = .ok
      ([("complete", .uint32 resp.complete), ("incomplete", .uint32 resp.incomplete),
        ("interval", .duration (intervals resp).1), ("min interval", .duration (intervals resp).2)] ++
      (if resp.ipv4Peers = [] then [] else [("peers", .bytes
        (resp.ipv4Peers.map fun p => p.addr.asSlice ++ BigEndian.putUint16 p.port).flatten)]) ++
      (if resp.ipv6Peers = [] then [] else [("peers6", .bytes (resp.ipv6Peers.map compact6).flatten)])) := by
  have hpos4 := @length_flatten_pos_iff (resp.ipv4Peers.map fun p => p.addr.asSlice ++
    BigEndian.putUint16 p.port) (by simp)
  have hpos6 := @length_flatten_pos_iff (resp.ipv6Peers.map compact6) (by simp [compact6])
  simp only [List.map_eq_nil_iff, ne_eq] at hpos4 hpos6
  simp only [writeAnnounceResponse, hc, if_true, mapM_compact4 h4, bind, Except.bind, pure,
    Except.pure, gt_iff_lt, hpos4, hpos6, ite_not]

/-- In compact mode, with every IPv4 peer IPv4 and every IPv6 peer IPv6 once unmapped, a client
splitting `peers` into six-byte and `peers6` into eighteen-byte records reads the address and port
of each peer, in order; each key is present exactly when its list is not empty. -/
theorem compactPeers_writeAnnounceResponse {resp : AnnounceResponse} (hc : resp.compact = true)
    (h4 : ∀ p ∈ resp.ipv4Peers, p.addr.is4) (h6 : ∀ p ∈ resp.ipv6Peers, p.addr.is6) :
    ∃ d, writeAnnounceResponse resp = .ok d ∧
      compactPeers d "peers" 4 = resp.ipv4Peers.map (fun p => (p.addr.asSlice, p.port)) ∧
      compactPeers d "peers6" 16 = resp.ipv6Peers.map (fun p => (p.addr.asSlice, p.port)) ∧
      ((d.lookup "peers").isSome ↔ resp.ipv4Peers ≠ []) ∧
      ((d.lookup "peers6").isSome ↔ resp.ipv6Peers ≠ []) := by
  refine ⟨_, writeAnnounceResponse_compact hc h4, ?_⟩
  have hv6 : resp.ipv6Peers.map compact6 =
      resp.ipv6Peers.map fun p => p.addr.asSlice ++ BigEndian.putUint16 p.port :=
    List.map_congr_left fun p hp => compact6_of_is6 (h6 p hp)
  have r4 := @readRecords_flatten 4 resp.ipv4Peers fun p hp => Addr.length_asSlice_of_is4 (h4 p hp)
  have r6 := @readRecords_flatten 16 resp.ipv6Peers fun p hp => Addr.length_asSlice_of_is6 (h6 p hp)
  rw [hv6]
  by_cases e4 : resp.ipv4Peers = [] <;> by_cases e6 : resp.ipv6Peers = [] <;>
    simp [compactPeers, List.lookup_cons, e4, e6, r4, r6]

/-- One IPv4 and one IPv6 peer in compact mode: each key holds one record, which reads back the
peer's address and port. -/
theorem compactPeers_writeAnnounceResponse_mixed :
    let resp : AnnounceResponse := ⟨true, 1, 1, .ofInt 0, .ofInt 0,
      [⟨.replicate 20 1, ⟨.v4 ⟨[10, 0, 0, 1], rfl⟩, 6881⟩⟩],
      [⟨.replicate 20 2, ⟨.v6 ⟨[0, 0, 0, 0, 0, 0, 0, 0, 0, 0, 0, 0, 0, 0, 0, 1], rfl⟩ "", 6882⟩⟩]⟩
    resp.compact = true ∧ (∀ p ∈ resp.ipv4Peers, p.addr.is4) ∧ (∀ p ∈ resp.ipv6Peers, p.addr.is6) ∧
      ∃ d, writeAnnounceResponse resp = .ok d ∧
        compactPeers d "peers" 4 = resp.ipv4Peers.map (fun p => (p.addr.asSlice, p.port)) ∧
        compactPeers d "peers6" 16 = resp.ipv6Peers.map (fun p => (p.addr.asSlice, p.port)) ∧
        ((d.lookup "peers").isSome ↔ resp.ipv4Peers ≠ []) ∧
        ((d.lookup "peers6").isSome ↔ resp.ipv6Peers ≠ []) :=
  ⟨rfl, by decide, by decide, compactPeers_writeAnnounceResponse rfl (by decide) (by decide)⟩

/-- With `Interval` below one second (here zero) and `MinInterval` fifteen minutes, `min interval`
is written as 900000000000, in nanoseconds, where whole seconds give 900. -/
theorem writeAnnounceResponse_minInterval_nanoseconds :
    (writeAnnounceResponse ⟨true, 0, 0, ⟨0, by norm_num, by norm_num⟩,
        ⟨900000000000, by norm_num, by norm_num⟩, [], []⟩).map (·.lookup "min interval") =
      .ok (some (.duration ⟨900000000000, by norm_num, by norm_num⟩)) ∧
    (900000000000 : ℤ) / 1000000000 = 900 := by
  let resp : AnnounceResponse := ⟨true, 0, 0, ⟨0, by norm_num, by norm_num⟩,
    ⟨900000000000, by norm_num, by norm_num⟩, [], []⟩
  have hd := @writeAnnounceResponse_compact resp rfl fun _ h => nomatch h
  -- `Interval` is below one second, so `min interval` keeps its nanoseconds.
  have hns : (intervals resp).2.ns = 900000000000 := by
    rw [ns_intervals_snd le_rfl (by norm_num)]
    rfl
  refine ⟨?_, by norm_num⟩
  show (writeAnnounceResponse resp).map _ = _
  rw [hd, Except.map, (lookup_header hd).2.2.2]
  exact congrArg (fun m : Duration => (.ok (some (.duration m)) : Except String (Option Value)))
    (Duration.ext (y := ⟨900000000000, by norm_num, by norm_num⟩) hns)

end Http
