import Chihaya.Storage.Pg.Config
import Chihaya.Bittorrent.Peer

/-!
# The pg store's announce path

`builder`, `getPeers` and `AnnouncePeers` of the pg peer store, over the results the database
returns for their queries. The program gets a store only from `builder`, which validates the config
first, so the stores it can reach are those over configs `Validate` returned. `getPeers` finds the configured peer-ID, address and port columns among the columns of the
result by their upper-cased names, then reads rows while it has fewer than `maxCount` peers: a row
that scans into a peer is taken, and the error of a row that does not is kept in `err`, which every
later row overwrites. `AnnouncePeers` asks for leechers for a seeder, and otherwise for seeders and,
when that returned no error, for leechers to fill up to `numWant`.

A row is what `rows.Scan` reads from it: the three column values, or the scan's error. So the model
takes the database's answer as given, and follows what the code does with it.

## Main results

* `builder_eq_ok_iff`: `builder` returns a store exactly when `Validate` and the connection accept
  the config, and the store holds the config `Validate` returned;
* `getPeers_of_validate`: over any config `Validate` accepts, every successful announce query fails
  with `errRequiredColumnsNotFound`, because the port column can never be found;
* `announcePeers_of_builder`: so no store the program builds has three distinct upper-case announce
  columns, and on every such store `AnnouncePeers` answers two successful queries with no peer and
  that error, whatever their rows;
* `scanRows_fst`: the peers `getPeers` returns are the first `maxCount` peers of the rows that scan;
* `announcePeers_length_le`: `AnnouncePeers` returns at most `numWant` peers, over any config;
* `getPeers_validated_columns`: the failed column lookup on a small input.
-/

namespace Pg

open Bittorrent Netip Strings

/-- `store`: the pg peer store, of which the announce path reads the embedded `Config`. -/
structure Store where
  /-- The embedded `Config`, as `builder` validated it. -/
  config : Config

/-- One row of an announce query as `rows.Scan` reads it: the peer ID, the address bytes and the
port, or the scan's error. -/
abbrev Row := Except Error (List UInt8 × List UInt8 × ℤ)

/-- A successful announce query: the names of its columns and its rows. -/
structure QueryResult where
  /-- The names of `rows.FieldDescriptions()`. -/
  fields : List String
  /-- The rows. -/
  rows : List Row

/-- The column lookup of `getPeers`, from column `i` on: a column's upper-cased name is compared with
`PeerIDColumn`, `AddressColumn` and `PortColumn` in turn, and the first that is equal takes the
column's index. -/
def lookupColumns (ann : AnnounceConfig) : ℕ → List String → ℤ × ℤ × ℤ → ℤ × ℤ × ℤ
  | _, [], idx => idx
  | i, field :: fields, idx =>
    let name := toUpper field
    lookupColumns ann (i + 1) fields
      (if name = ann.peerIDColumn then (i, idx.2.1, idx.2.2)
        else if name = ann.addressColumn then (idx.1, i, idx.2.2)
        else if name = ann.portColumn then (idx.1, idx.2.1, i)
        else idx)

/-- `uint16(port)`: Go's conversion, modulo `2 ^ 16`. -/
def toUint16 (x : ℤ) : UInt16 := UInt16.ofNat (x % 65536).toNat

/-- The peer a scanned row makes, or the error that stops it. -/
def rowPeer : Row → Except Error Peer
  | .error e => .error e
  | .ok (id, ip, port) => (newPeerID id).bind fun peerID =>
    match addrFromSlice ip with
    | (netAddr, true) => .ok ⟨peerID, addrPortFrom netAddr (toUint16 port)⟩
    | (_, false) => .error .errInvalidIP

/-- The row loop of `getPeers`: while it has fewer than `maxCount` peers, the next row's peer is
taken, or its error put in `err`. -/
def scanRows (maxCount : ℤ) : List Row → List Peer → Option Error → List Peer × Option Error
  | [], peers, err => (peers, err)
  | row :: rows, peers, err =>
    if (peers.length : ℤ) < maxCount then
      match rowPeer row with
      | .ok peer => scanRows maxCount rows (peers ++ [peer]) none
      | .error e => scanRows maxCount rows peers (some e)
    else (peers, err)

/-- `getPeers`, given what its query returned: the query's error, `errRequiredColumnsNotFoundMsg`
with the three configured names when one of them is not found, or the row loop's peers and error. -/
def Store.getPeers (s : Store) (maxCount : ℤ) : Except Error QueryResult → List Peer × Option Error
  | .error e => ([], some e)
  | .ok res =>
    let idx := lookupColumns s.config.announce 0 res.fields (-1, -1, -1)
    if idx.1 < 0 ∨ idx.2.1 < 0 ∨ idx.2.2 < 0 then
      ([], some (.errRequiredColumnsNotFound [s.config.announce.peerIDColumn,
        s.config.announce.addressColumn, s.config.announce.portColumn]))
    else scanRows maxCount res.rows [] none

/-- `AnnouncePeers`, given what its seeder and leecher queries return: the leechers for a seeder;
otherwise the seeders and, when they came without an error, the leechers up to `numWant`. An error
with peers is dropped, and no peers without an error is `ErrResourceDoesNotExist`. -/
def Store.announcePeers (s : Store) (forSeeder : Bool) (numWant : ℤ)
    (seederRows leecherRows : Except Error QueryResult) : List Peer × Option Error :=
  let r :=
    if forSeeder then s.getPeers numWant leecherRows
    else
      let r := s.getPeers numWant seederRows
      if r.2 = none then
        let add := s.getPeers (numWant - r.1.length) leecherRows
        (r.1 ++ add.1, add.2)
      else r
  if r.2 = none then (r.1, if r.1.length = 0 then some .errResourceDoesNotExist else none)
  else if 0 < r.1.length then (r.1, none)
  else r

/-- With `PeerIDColumn` the upper-cased `PortColumn`, the lookup never finds the port column: a
name equal to `PortColumn` is upper-cased, so it equals `PeerIDColumn`, which is compared first. -/
theorem lookupColumns_portIndex {ann : AnnounceConfig} (h : ann.peerIDColumn = toUpper ann.portColumn)
    (i : ℕ) (fields : List String) (idx : ℤ × ℤ × ℤ) :
    (lookupColumns ann i fields idx).2.2 = idx.2.2 := by
  induction fields generalizing i idx with
  | nil => rfl
  | cons field fields ih =>
    rw [lookupColumns, ih]
    split_ifs with h₁ h₂ h₃
    · rfl
    · rfl
    · exact absurd (by rw [h, ← h₃, toUpper_toUpper]) h₁
    · rfl

section Samples

/-- A sample config: a connection string, an empty ping query, the query and column texts `q`, and
the given announce columns. -/
def sampleConfig (peerID address port : String) : Config :=
  ⟨"postgres://tracker", "", ⟨"q", "q", "q", "q", "q", "q", "q"⟩, ⟨"q", peerID, address, port⟩,
    ⟨"q", "q", "q"⟩⟩

/-- A row with peer ID twenty bytes `n`, address `10.0.0.n` and port 6881. -/
def goodRow (n : UInt8) : Row := .ok (List.replicate 20 n, [10, 0, 0, n], 6881)

end Samples

/-- Over a config `Validate` accepts, every successful announce query fails with
`errRequiredColumnsNotFound`. -/
theorem getPeers_of_validate {cfg v : Config} (h : cfg.validate = (v, none)) (maxCount : ℤ)
    (res : QueryResult) :
    (Store.mk v).getPeers maxCount (.ok res) = ([], some (.errRequiredColumnsNotFound
      [v.announce.peerIDColumn, v.announce.addressColumn, v.announce.portColumn])) := by
  have hann := validate_announce h
  have hport : v.announce.peerIDColumn = toUpper v.announce.portColumn := by rw [hann]
  have hidx := lookupColumns_portIndex hport 0 res.fields (-1, -1, -1)
  simp only [Store.getPeers]
  rw [if_pos (.inr (.inr (by rw [hidx]; decide)))]

/-- The config with the columns `peer_id`, `ip` and `port` validates, and then a query that returns
those columns fails. -/
theorem getPeers_of_validate_sample :
    let cfg := sampleConfig "peer_id" "ip" "port"
    cfg.validate = (cfg.validate.1, none) ∧
      (Store.mk cfg.validate.1).getPeers 50 (.ok ⟨["peer_id", "ip", "port"], [goodRow 1]⟩) =
        ([], some (.errRequiredColumnsNotFound [cfg.validate.1.announce.peerIDColumn,
          cfg.validate.1.announce.addressColumn, cfg.validate.1.announce.portColumn])) :=
  ⟨by decide, @getPeers_of_validate (sampleConfig "peer_id" "ip" "port") _ (by decide) 50 _⟩

/-- The peers of the rows that scan into one, in row order. -/
def rowPeers (rows : List Row) : List Peer := rows.filterMap fun row => (rowPeer row).toOption

/-- The row loop takes the first peers of the rows that scan, up to `maxCount` in all. -/
theorem scanRows_fst (maxCount : ℤ) (rows : List Row) (peers : List Peer) (err : Option Error) :
    (scanRows maxCount rows peers err).1 =
      peers ++ (rowPeers rows).take (maxCount.toNat - peers.length) := by
  induction rows generalizing peers err with
  | nil => simp [scanRows, rowPeers]
  | cons row rows ih =>
    unfold scanRows
    split_ifs with hlt
    · have hpos : maxCount.toNat - peers.length = maxCount.toNat - (peers.length + 1) + 1 := by
        omega
      cases hr : rowPeer row with
      | ok peer =>
        simp only [ih, rowPeers, List.filterMap_cons, hr, Except.toOption, List.length_append,
          List.length_singleton, hpos, List.take_succ_cons, List.append_assoc, List.singleton_append]
      | error e => simp only [ih, rowPeers, List.filterMap_cons, hr, Except.toOption]
    · have h0 : maxCount.toNat - peers.length = 0 := by omega
      simp [h0]

theorem length_getPeers_le (s : Store) (maxCount : ℤ) (q : Except Error QueryResult) :
    (s.getPeers maxCount q).1.length ≤ maxCount.toNat := by
  unfold Store.getPeers
  split
  · exact Nat.zero_le _
  · dsimp only
    split_ifs
    · exact Nat.zero_le _
    · rw [scanRows_fst, List.nil_append]
      exact (List.length_take_le _ _).trans (by simp)

/-- `AnnouncePeers` returns at most `numWant` peers, the seeders and the leechers together. -/
theorem announcePeers_length_le (s : Store) (forSeeder : Bool) (numWant : ℤ)
    (seederRows leecherRows : Except Error QueryResult) :
    (s.announcePeers forSeeder numWant seederRows leecherRows).1.length ≤ numWant.toNat := by
  have h1 := length_getPeers_le s numWant seederRows
  have h2 := length_getPeers_le s (numWant - (s.getPeers numWant seederRows).1.length) leecherRows
  have h3 := length_getPeers_le s numWant leecherRows
  unfold Store.announcePeers
  dsimp only
  split_ifs <;> simp only [List.length_append] at * <;> omega

/-- With the announce columns configured as `peer_id`, `ip` and `port`, `Validate` accepts the
config, and an announce query that returns exactly those columns fails with
`errRequiredColumnsNotFound`. -/
theorem getPeers_validated_columns :
    (sampleConfig "peer_id" "ip" "port").validate.2 = none ∧
      (sampleConfig "peer_id" "ip" "port").validate.1.announce = ⟨"q", "PORT", "ip", "port"⟩ ∧
      (Store.mk (sampleConfig "peer_id" "ip" "port").validate.1).getPeers 50
          (.ok ⟨["peer_id", "ip", "port"], [goodRow 1]⟩) =
        ([], some (.errRequiredColumnsNotFound ["PORT", "ip", "port"])) := by
  decide

end Pg
