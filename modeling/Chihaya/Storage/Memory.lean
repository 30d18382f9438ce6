import Chihaya.Bittorrent.Announce
import Mathlib.Logic.Function.Basic
import Mathlib.Data.List.Dedup
import Mathlib.Data.List.Rotate

/-!
# The peer store

`storage.PeerStorage` as the hooks call it, and the in-memory store that implements it.

The interface is written in state-passing form over the store's state `σ`: a write returns the new
state and its error (`none` for Go's `nil`), a read only looks at the state.

The in-memory store itself is not part of the repository (only its test is), so it is modelled from
the contract table of the specification: a swarm per infohash, with its seeders and leechers and a
completion counter. Peers are identified inside a swarm by their *endpoint*, the unmapped address
and the port: a write replaces an endpoint-equal entry instead of adding a second one.
`AnnouncePeers` walks the leechers, and the seeders, from a random starting offset modulo their
number, as the specification asks of swarms larger than `maxCount`; the offset is a parameter, so
every result holds whichever offset the store draws.

## Main results

* `Store.WellFormed`: no endpoint is stored twice in one swarm, in particular never both as a seeder
  and as a leecher; every write keeps this (`wellFormed_putSeeder` and the like);
* `not_mem_announcePeers`, `nodup_announcePeers`, `length_announcePeers_le`: the peers offered to a
  client never include the client's endpoint, never repeat an endpoint, and are at most as many as
  asked for;
* `exists_offset_mem_announcePeers_iff`: a peer is offered from some offset exactly when it leeches,
  or it seeds and the leechers do not fill a leecher's budget;
* `scrapeSwarm_eq`: the counters of a swarm are its numbers of distinct leecher and seeder
  endpoints and its completions.
-/

namespace Bittorrent

open Netip

/-- The endpoint of a peer, its unmapped address and its port: two peers are *endpoint-equal* when
their endpoints are equal. -/
def Peer.endpoint (p : Peer) : Addr × UInt16 := (p.addr, p.port)

end Bittorrent

namespace Storage

open Bittorrent

/-- `storage.PeerStorage`: the operations on swarms that the hooks call. -/
structure PeerStorage (σ : Type) where
  /-- `PutSeeder(ih, peer)`: records the peer as a seeder of the swarm. -/
  putSeeder : InfoHash → Peer → σ → σ × Option Error
  /-- `DeleteSeeder(ih, peer)`: removes the peer from the seeders of the swarm. -/
  deleteSeeder : InfoHash → Peer → σ → σ × Option Error
  /-- `PutLeecher(ih, peer)`: records the peer as a leecher of the swarm. -/
  putLeecher : InfoHash → Peer → σ → σ × Option Error
  /-- `DeleteLeecher(ih, peer)`: removes the peer from the leechers of the swarm. -/
  deleteLeecher : InfoHash → Peer → σ → σ × Option Error
  /-- `GraduateLeecher(ih, peer)`: moves the peer to the seeders and counts a completion. -/
  graduateLeecher : InfoHash → Peer → σ → σ × Option Error
  /-- `AnnouncePeers(ih, seeding, maxCount, requester)`: at most `maxCount` peers of the swarm
  for the requester. -/
  announcePeers : InfoHash → Bool → ℤ → Peer → σ → List Peer × Option Error
  /-- `ScrapeSwarm(ih)`: the leechers, the seeders and the snatches. -/
  scrapeSwarm : InfoHash → σ → UInt32 × UInt32 × UInt32

end Storage

namespace Memory

open Bittorrent Storage

/-- Modelled from the spec: a swarm, its seeders and leechers in the order they were last
announced, and its completed downloads. -/
structure Swarm where
  /-- `Seeders`: the peers with nothing left to download, oldest announce first. -/
  seeders : List Peer
  /-- `Leechers`: the peers still downloading, oldest announce first. -/
  leechers : List Peer
  /-- `Snatches`: the completed downloads recorded so far. -/
  snatches : ℕ
  deriving DecidableEq

namespace Swarm

/-- Modelled from the spec: the swarm a first write creates. -/
def empty : Swarm := ⟨[], [], 0⟩

/-- The peers of `ps` that are not endpoint-equal to `p`. -/
def without (p : Peer) (ps : List Peer) : List Peer :=
  ps.filter fun q => q.endpoint != p.endpoint

/-- Modelled from the spec: `PutSeeder` inserts or refreshes the peer among the seeders and
removes it from the leechers. -/
def putSeeder (p : Peer) (sw : Swarm) : Swarm :=
  { sw with seeders := without p sw.seeders ++ [p], leechers := without p sw.leechers }

/-- Modelled from the spec: `PutLeecher`, symmetric to `PutSeeder`. -/
def putLeecher (p : Peer) (sw : Swarm) : Swarm :=
  { sw with seeders := without p sw.seeders, leechers := without p sw.leechers ++ [p] }

/-- Modelled from the spec: `GraduateLeecher` is `PutSeeder` and counts a completion, also for a
peer that already seeds. -/
def graduateLeecher (p : Peer) (sw : Swarm) : Swarm :=
  { sw.putSeeder p with snatches := sw.snatches + 1 }

/-- Modelled from the spec: `DeleteSeeder` removes the endpoint from the seeders; `none` when no
seeder has it. -/
def deleteSeeder (p : Peer) (sw : Swarm) : Option Swarm :=
  if sw.seeders.any (·.endpoint == p.endpoint) then some { sw with seeders := without p sw.seeders }
  else none

/-- Modelled from the spec: `DeleteLeecher`, symmetric to `DeleteSeeder`. -/
def deleteLeecher (p : Peer) (sw : Swarm) : Option Swarm :=
  if sw.leechers.any (·.endpoint == p.endpoint) then
    some { sw with leechers := without p sw.leechers }
  else none

/-- Modelled from the spec: the peers a swarm offers to `requester`, the leechers to a seeder and
the leechers then the seeders to a leecher, each list walked from the starting offset `offset` modulo
its length, never the requester's endpoint. -/
def offered (offset : ℕ) (seeding : Bool) (requester : Peer) (sw : Swarm) : List Peer :=
  without requester
    (if seeding then sw.leechers.rotate offset else sw.leechers.rotate offset ++ sw.seeders.rotate offset)

/-- The endpoints of a swarm's peers. -/
def endpoints (sw : Swarm) : List (Netip.Addr × UInt16) :=
  (sw.seeders ++ sw.leechers).map Peer.endpoint

/-- A swarm stores each endpoint once: among the seeders, among the leechers, and not in both. -/
def WellFormed (sw : Swarm) : Prop := sw.endpoints.Nodup

end Swarm

/-- Modelled from the spec: the state of the in-memory store, a swarm for every infohash that has
one. -/
structure Store where
  /-- The swarm of each infohash. -/
  swarms : InfoHash → Option Swarm

namespace Store

/-- Modelled from the spec: the store before any write. -/
def empty : Store := ⟨fun _ => none⟩

/-- The store with the swarm of `ih` replaced. -/
def set (st : Store) (ih : InfoHash) (sw : Swarm) : Store := ⟨Function.update st.swarms ih (some sw)⟩

/-- Modelled from the spec: a write that creates the swarm when it is missing and never fails. -/
def put (f : Swarm → Swarm) (ih : InfoHash) (st : Store) : Store × Option Error :=
  (st.set ih (f ((st.swarms ih).getD .empty)), none)

/-- Modelled from the spec: a write that fails with `ErrResourceDoesNotExist`, changing nothing,
when the swarm or the peer is missing. -/
def delete (f : Swarm → Option Swarm) (ih : InfoHash) (st : Store) : Store × Option Error :=
  match (st.swarms ih).bind f with
  | some sw => (st.set ih sw, none)
  | none => (st, some .errResourceDoesNotExist)

/-- Modelled from the spec: `AnnouncePeers`, at most `maxCount` of the peers the swarm offers from
the random starting offset `offset`, so that no fixed prefix of a swarm larger than `maxCount` is
favoured; `ErrResourceDoesNotExist` for an unknown swarm. -/
def announcePeers (offset : ℕ) (ih : InfoHash) (seeding : Bool) (maxCount : ℤ) (requester : Peer)
    (st : Store) : List Peer × Option Error :=
  match st.swarms ih with
  | some sw => ((sw.offered offset seeding requester).take maxCount.toNat, none)
  | none => ([], some .errResourceDoesNotExist)

/-- Modelled from the spec: `ScrapeSwarm`, the numbers of leechers and seeders and the snatches,
zeros for an unknown swarm. -/
def scrapeSwarm (ih : InfoHash) (st : Store) : UInt32 × UInt32 × UInt32 :=
  match st.swarms ih with
  | some sw => (.ofNat sw.leechers.length, .ofNat sw.seeders.length, .ofNat sw.snatches)
  | none => (0, 0, 0)

end Store

/-- The in-memory store as a `storage.PeerStorage`, whose `AnnouncePeers` starts from the offset
`offset` it drew. -/
def peerStorage (offset : ℕ) : PeerStorage Store where
  putSeeder ih p := Store.put (Swarm.putSeeder p) ih
  deleteSeeder ih p := Store.delete (Swarm.deleteSeeder p) ih
  putLeecher ih p := Store.put (Swarm.putLeecher p) ih
  deleteLeecher ih p := Store.delete (Swarm.deleteLeecher p) ih
  graduateLeecher ih p := Store.put (Swarm.graduateLeecher p) ih
  announcePeers := Store.announcePeers offset
  scrapeSwarm := Store.scrapeSwarm

/-- Every member of a list comes first in one of its rotations. -/
theorem exists_rotate_eq_cons {α : Type} {a : α} {l : List α} (h : a ∈ l) :
    ∃ n t, l.rotate n = a :: t := by
  obtain ⟨i, hi, rfl⟩ := List.getElem_of_mem h
  exact ⟨i, _, by rw [List.rotate_eq_drop_append_take hi.le, List.drop_eq_getElem_cons hi,
    List.cons_append]⟩

namespace Swarm

variable {p : Peer} {sw sw' : Swarm}

theorem mem_without {q : Peer} {ps : List Peer} :
    q ∈ without p ps ↔ q ∈ ps ∧ q.endpoint ≠ p.endpoint := by
  simp [without]

theorem without_append (ps qs : List Peer) : without p (ps ++ qs) = without p ps ++ without p qs :=
  List.filter_append _ _

theorem without_sublist (ps : List Peer) : List.Sublist (without p ps) ps := List.filter_sublist _

/-- Putting a peer in front of the others of a list with distinct endpoints keeps them distinct. -/
theorem nodup_cons_without {ps : List Peer} (h : (ps.map Peer.endpoint).Nodup) :
    ((p :: without p ps).map Peer.endpoint).Nodup := by
  simp only [List.map_cons, List.nodup_cons, List.mem_map, mem_without]
  exact ⟨fun ⟨q, ⟨_, hq⟩, he⟩ => hq he, ((without_sublist ps).map _).nodup h⟩

@[simp] theorem wellFormed_empty : empty.WellFormed := List.nodup_nil

theorem wellFormed_putSeeder (h : sw.WellFormed) : (sw.putSeeder p).WellFormed := by
  have hperm : List.Perm (without p sw.seeders ++ [p] ++ without p sw.leechers)
      (p :: without p (sw.seeders ++ sw.leechers)) := by
    rw [without_append, List.append_assoc, List.singleton_append]
    exact List.perm_middle
  exact ((hperm.map _).nodup_iff).mpr (nodup_cons_without h)

theorem wellFormed_putLeecher (h : sw.WellFormed) : (sw.putLeecher p).WellFormed := by
  have hperm : List.Perm (without p sw.seeders ++ (without p sw.leechers ++ [p]))
      (p :: without p (sw.seeders ++ sw.leechers)) := by
    rw [without_append, ← List.append_assoc]
    exact List.perm_append_singleton _ _
  exact ((hperm.map _).nodup_iff).mpr (nodup_cons_without h)

theorem wellFormed_graduateLeecher (h : sw.WellFormed) : (sw.graduateLeecher p).WellFormed :=
  wellFormed_putSeeder h

theorem wellFormed_deleteSeeder (h : sw.WellFormed) (hd : sw.deleteSeeder p = some sw') :
    sw'.WellFormed := by
  unfold deleteSeeder at hd
  split at hd <;> cases hd
  exact (((without_sublist _).append (List.Sublist.refl _)).map _).nodup h

theorem wellFormed_deleteLeecher (h : sw.WellFormed) (hd : sw.deleteLeecher p = some sw') :
    sw'.WellFormed := by
  unfold deleteLeecher at hd
  split at hd <;> cases hd
  exact (((List.Sublist.refl _).append (without_sublist _)).map _).nodup h

theorem nodup_leechers (h : sw.WellFormed) : (sw.leechers.map Peer.endpoint).Nodup :=
  (List.nodup_append.mp (by simpa [WellFormed, endpoints] using h)).2.1

theorem nodup_seeders (h : sw.WellFormed) : (sw.seeders.map Peer.endpoint).Nodup :=
  (List.nodup_append.mp (by simpa [WellFormed, endpoints] using h)).1

/-- The peers a well-formed swarm offers, from any offset, have distinct endpoints. -/
theorem nodup_offered (h : sw.WellFormed) (offset : ℕ) (seeding : Bool) :
    ((sw.offered offset seeding p).map Peer.endpoint).Nodup := by
  have hls : ((sw.leechers.rotate offset ++ sw.seeders.rotate offset).map Peer.endpoint).Nodup :=
    (((List.rotate_perm _ _).append (List.rotate_perm _ _)).trans List.perm_append_comm |>.map _
      |>.nodup_iff).mpr h
  refine ((without_sublist _).map _).nodup ?_
  cases seeding
  · exact hls
  · exact ((List.rotate_perm _ _).map _).nodup_iff.mpr (nodup_leechers h)

theorem without_cons_of_ne {q : Peer} (ps : List Peer) (hq : q.endpoint ≠ p.endpoint) :
    without p (q :: ps) = q :: without p ps :=
  List.filter_cons_of_pos (by simpa using hq)

theorem length_without_rotate (ps : List Peer) (n : ℕ) :
    (without p (ps.rotate n)).length = (without p ps).length :=
  ((List.rotate_perm ps n).filter _).length_eq

theorem mem_of_mem_without_rotate {q : Peer} {ps : List Peer} {n : ℕ}
    (h : q ∈ without p (ps.rotate n)) : q ∈ ps :=
  List.mem_rotate.mp (mem_without.mp h).1

/-- The first `m` peers a swarm offers: the first `m` leechers, then, to a leecher, as many seeders
as the leechers leave room for. -/
theorem take_offered (offset m : ℕ) (seeding : Bool) :
    (sw.offered offset seeding p).take m = (without p (sw.leechers.rotate offset)).take m ++
      if seeding then [] else
        (without p (sw.seeders.rotate offset)).take (m - (without p sw.leechers).length) := by
  cases seeding <;>
    simp [offered, without_append, List.take_append_eq_append_take, length_without_rotate]

end Swarm

namespace Store

variable {st : Store} {ih k : InfoHash}

@[simp] theorem swarms_empty : empty.swarms k = none := rfl

theorem swarms_set (sw : Swarm) :
    (st.set ih sw).swarms k = if k = ih then some sw else st.swarms k :=
  Function.update_apply _ _ _ _

@[simp] theorem snd_put (f : Swarm → Swarm) : (put f ih st).2 = none := rfl

/-- A write through `put` changes the swarm of its infohash alone. -/
theorem swarms_put (f : Swarm → Swarm) :
    (put f ih st).1.swarms k = if k = ih then some (f ((st.swarms ih).getD .empty)) else st.swarms k :=
  swarms_set _

/-- A write through `delete` changes the swarm of its infohash alone, and only when it succeeds. -/
theorem swarms_delete (f : Swarm → Option Swarm) :
    (delete f ih st).1.swarms k = if k = ih then ((st.swarms ih).bind f).or (st.swarms ih)
      else st.swarms k := by
  unfold delete
  split <;> rename_i h
  · rw [swarms_set, h]; rfl
  · split_ifs with hk
    · subst hk; rw [h]; rfl
    · rfl

theorem snd_delete (f : Swarm → Option Swarm) :
    (delete f ih st).2 = if ((st.swarms ih).bind f).isSome then none
      else some .errResourceDoesNotExist := by
  unfold delete
  split <;> rename_i h <;> simp [h]

/-- Every swarm of the store stores each endpoint once. -/
def WellFormed (st : Store) : Prop := ∀ ih sw, st.swarms ih = some sw → sw.WellFormed

theorem wellFormed_empty : empty.WellFormed := fun _ _ h => nomatch h

theorem wellFormed_put {f : Swarm → Swarm} (hf : ∀ sw, sw.WellFormed → (f sw).WellFormed)
    (h : st.WellFormed) : (put f ih st).1.WellFormed := by
  intro k sw hk
  rw [swarms_put] at hk
  split_ifs at hk
  · cases hk
    cases hs : st.swarms ih
    · exact hf _ Swarm.wellFormed_empty
    · exact hf _ (h _ _ hs)
  · exact h _ _ hk

theorem wellFormed_delete {f : Swarm → Option Swarm}
    (hf : ∀ sw sw', sw.WellFormed → f sw = some sw' → sw'.WellFormed) (h : st.WellFormed) :
    (delete f ih st).1.WellFormed := by
  unfold delete
  split <;> rename_i hb
  · intro k sw hk
    rw [swarms_set] at hk
    split_ifs at hk
    · cases hk
      obtain ⟨sw₀, hs, hfs⟩ := Option.bind_eq_some.mp hb
      exact hf _ _ (h _ _ hs) hfs
    · exact h _ _ hk
  · exact h

/-- The leechers stored under an infohash. -/
def leechers (st : Store) (ih : InfoHash) : List Peer := ((st.swarms ih).map Swarm.leechers).getD []

/-- The seeders stored under an infohash. -/
def seeders (st : Store) (ih : InfoHash) : List Peer := ((st.swarms ih).map Swarm.seeders).getD []

/-- The number of distinct endpoints among the leechers stored under an infohash. -/
def leecherCount (st : Store) (ih : InfoHash) : ℕ := ((st.leechers ih).map Peer.endpoint).dedup.length

/-- The number of distinct endpoints among the seeders stored under an infohash. -/
def seederCount (st : Store) (ih : InfoHash) : ℕ := ((st.seeders ih).map Peer.endpoint).dedup.length

/-- The completions recorded under an infohash. -/
def snatches (st : Store) (ih : InfoHash) : ℕ := ((st.swarms ih).map Swarm.snatches).getD 0

/-- On a well-formed store `ScrapeSwarm` counts distinct leecher and seeder endpoints, and reports
the completions. -/
theorem scrapeSwarm_eq (h : st.WellFormed) (ih : InfoHash) :
    scrapeSwarm ih st = (.ofNat (st.leecherCount ih), .ofNat (st.seederCount ih), .ofNat (st.snatches ih)) := by
  unfold scrapeSwarm leecherCount seederCount leechers seeders snatches
  cases hs : st.swarms ih with
  | none => rfl
  | some sw =>
    simp only [Option.map_some', Option.getD_some, List.Nodup.dedup (Swarm.nodup_leechers (h _ _ hs)),
      List.Nodup.dedup (Swarm.nodup_seeders (h _ _ hs)), List.length_map]

variable {offset : ℕ} {seeding : Bool} {maxCount : ℤ} {requester : Peer}

/-- `AnnouncePeers` never offers the requester's endpoint. -/
theorem not_mem_announcePeers {q : Peer}
    (hq : q ∈ (announcePeers offset ih seeding maxCount requester st).1) :
    q.endpoint ≠ requester.endpoint := by
  unfold announcePeers at hq
  split at hq
  · exact (Swarm.mem_without.mp (List.mem_of_mem_take hq)).2
  · cases hq

/-- `AnnouncePeers` on a well-formed store never offers one endpoint twice. -/
theorem nodup_announcePeers (h : st.WellFormed) :
    ((announcePeers offset ih seeding maxCount requester st).1.map Peer.endpoint).Nodup := by
  unfold announcePeers
  split <;> rename_i sw hs
  · exact ((List.take_sublist _ _).map _).nodup (Swarm.nodup_offered (h _ _ hs) offset seeding)
  · exact List.nodup_nil

/-- `AnnouncePeers` offers at most `maxCount` peers. -/
theorem length_announcePeers_le :
    (announcePeers offset ih seeding maxCount requester st).1.length ≤ maxCount.toNat := by
  unfold announcePeers
  split
  · exact List.length_take_le _ _
  · exact Nat.zero_le _

/-- Over every state of the store, a peer of another endpoint than the requester's is offered from
some starting offset exactly when it leeches in the swarm, or it seeds, the requester leeches, and
fewer than `maxCount` leechers of other endpoints than the requester's are stored: the random offset
starves no leecher, and the seeders come after the leechers. -/
theorem exists_offset_mem_announcePeers_iff {q : Peer} (hq : q.endpoint ≠ requester.endpoint)
    (hmax : 0 < maxCount) :
    (∃ offset, q ∈ (announcePeers offset ih seeding maxCount requester st).1) ↔
      q ∈ st.leechers ih ∨ seeding = false ∧ q ∈ st.seeders ih ∧
        (Swarm.without requester (st.leechers ih)).length < maxCount.toNat := by
  unfold announcePeers leechers seeders
  cases hs : st.swarms ih with
  | none => simp
  | some sw =>
    simp only [Option.map_some', Option.getD_some, Swarm.take_offered, List.mem_append]
    constructor
    · rintro ⟨o, ho | ho⟩
      · exact .inl (Swarm.mem_of_mem_without_rotate (List.mem_of_mem_take ho))
      · -- Past the leechers: only a leecher is offered seeders, and only when they fit.
        cases seeding
        · have hfit : maxCount.toNat - (Swarm.without requester sw.leechers).length ≠ 0 :=
            fun h0 => by simp [h0] at ho
          exact .inr ⟨rfl, Swarm.mem_of_mem_without_rotate (List.mem_of_mem_take ho), by omega⟩
        · cases ho
    · rintro (hl | ⟨rfl, hsd, hlt⟩)
      · -- The offset that puts `q` first among the leechers.
        obtain ⟨n, t, ht⟩ := exists_rotate_eq_cons hl
        exact ⟨n, .inl (by
          simp [ht, Swarm.without_cons_of_ne _ hq, List.take_cons (Int.lt_toNat.mpr hmax)])⟩
      · -- The offset that puts `q` first among the seeders, within the budget the leechers leave.
        obtain ⟨n, t, ht⟩ := exists_rotate_eq_cons hsd
        exact ⟨n, .inr (by
          simp [ht, Swarm.without_cons_of_ne _ hq, List.take_cons (Nat.sub_pos_of_lt hlt)])⟩

/-- Two leechers and a third peer asking for one: from offset 0 it gets the older leecher only, and
the younger one from offset 1. -/
theorem exists_offset_mem_announcePeers_iff_twoLeechers :
    let a : Peer := ⟨.replicate 20 1, ⟨.v4 ⟨[10, 0, 0, 1], rfl⟩, 6881⟩⟩
    let b : Peer := ⟨.replicate 20 2, ⟨.v4 ⟨[10, 0, 0, 2], rfl⟩, 6881⟩⟩
    let c : Peer := ⟨.replicate 20 3, ⟨.v4 ⟨[10, 0, 0, 3], rfl⟩, 6881⟩⟩
    let ih : InfoHash := ⟨.replicate 20 7⟩
    let st := empty.set ih ⟨[], [a, b], 0⟩
    b ∉ (announcePeers 0 ih false 1 c st).1 ∧ b ∈ (announcePeers 1 ih false 1 c st).1 ∧
      b.endpoint ≠ c.endpoint ∧ (0 : ℤ) < 1 ∧
      ((∃ offset, b ∈ (announcePeers offset ih false 1 c st).1) ↔
        b ∈ st.leechers ih ∨ false = false ∧ b ∈ st.seeders ih ∧
          (Swarm.without c (st.leechers ih)).length < (1 : ℤ).toNat) :=
  ⟨by decide, by decide, by decide, by decide,
    exists_offset_mem_announcePeers_iff (by decide) (by decide)⟩

end Store

end Memory
