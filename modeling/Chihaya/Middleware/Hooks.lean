import Chihaya.Storage.Memory

/-!
# The swarm-interaction and response hooks

`swarmInteractionHook` and `responseHook` of the middleware package, over any
`storage.PeerStorage`. The pipeline runs the first and then the second on every announce; a scrape
only reaches the second.

The swarm-interaction hook routes an announce to one store write (`storeFn`), chosen by the event and
by `Left`, and applies it to the infohash and, when the infohash is 32 bytes long and the first write
succeeded, to its 20-byte truncation. The response hook fills in the swarm counters from
`ScrapeSwarm`, summing the two keys of a 32-byte infohash, and then `appendPeers` merges the peers
earlier hooks put in the response with those of the store: a loop over the candidates that skips
peers already taken, sorts the others into an IPv4 and an IPv6 list, and stops at the first address
of neither family or once more than `NumWant` peers are taken.

Each hook's context is the pair of flags it reads; a hook returns the new store state or response and
its error, `none` for `nil`.
-/

namespace Middleware

open Bittorrent Storage

/-- The context keys the hooks read: whether any value is set for `SkipSwarmInteractionKey` and for
`SkipResponseHookKey`. -/
structure Context where
  /-- A value is set for `SkipSwarmInteractionKey`. -/
  skipSwarmInteraction : Bool
  /-- A value is set for `SkipResponseHookKey`. -/
  skipResponseHook : Bool

/-- `err != nil && !errors.Is(err, storage.ErrResourceDoesNotExist)`: an error the hooks pass on. -/
def failed : Option Error → Bool
  | some e => e != .errResourceDoesNotExist
  | none => false

@[simp] theorem failed_none : failed none = false := rfl

@[simp] theorem failed_notExist : failed (some .errResourceDoesNotExist) = false := rfl

variable {σ : Type}

/-- `swarmInteractionHook`. -/
structure SwarmInteractionHook (σ : Type) where
  /-- `store`: the peer store every announce is written to. -/
  store : PeerStorage σ

namespace SwarmInteractionHook

/-- The `storeFn` of a stopped announce: `DeleteSeeder` then `DeleteLeecher`, each passing on any
error but `ErrResourceDoesNotExist`. -/
def stop (h : SwarmInteractionHook σ) (hash : InfoHash) (peer : Peer) (st : σ) : σ × Option Error :=
  let r := h.store.deleteSeeder hash peer st
  if failed r.2 then r
  else
    let r := h.store.deleteLeecher hash peer r.1
    if failed r.2 then r else (r.1, none)

/-- `storeFn`: the write the announce's event and `Left` select. -/
def storeFn (h : SwarmInteractionHook σ) (req : AnnounceRequest) :
    InfoHash → Peer → σ → σ × Option Error :=
  if req.event = .stopped then h.stop
  else if req.event = .completed then h.store.graduateLeecher
  else if req.left = 0 then h.store.putSeeder
  else h.store.putLeecher

/-- `HandleAnnounce`: `storeFn` on the infohash and, for a 32-byte infohash when that succeeded, on
its truncation. -/
def handleAnnounce (h : SwarmInteractionHook σ) (ctx : Context) (req : AnnounceRequest) (st : σ) :
    σ × Option Error :=
  if ctx.skipSwarmInteraction then (st, none)
  else
    let r := h.storeFn req req.infoHash req.peer st
    if r.2 = none ∧ req.infoHash.length = infoHashV2Len then
      h.storeFn req req.infoHash.truncateV1 req.peer r.1
    else r

/-- A run of announces through `HandleAnnounce`, each on the state the one before left. -/
def run (h : SwarmInteractionHook σ) : List (Context × AnnounceRequest) → σ → σ
  | [], st => st
  | (ctx, req) :: reqs, st => h.run reqs (h.handleAnnounce ctx req st).1

end SwarmInteractionHook

/-- The peers `appendPeers` walks: those already in the response, the requester's address family
first, then the store's. -/
def candidatePeers (req : AnnounceRequest) (resp : AnnounceResponse) (storePeers : List Peer) :
    List Peer :=
  (if req.peer.addr.is6 then resp.ipv6Peers ++ resp.ipv4Peers else resp.ipv4Peers ++ resp.ipv6Peers) ++
    storePeers

/-- The state of the loop of `appendPeers`: the keys of `uniquePeers` in the order they were added,
the two lists it fills, and its error. -/
structure Selection where
  /-- The keys of `uniquePeers`: every candidate taken so far, in the order it was taken. -/
  uniquePeers : List Peer
  /-- `resp.IPv4Peers`: the candidates taken so far whose address is IPv4. -/
  ipv4Peers : List Peer
  /-- `resp.IPv6Peers`: the candidates taken so far whose address is IPv6. -/
  ipv6Peers : List Peer
  /-- `err`: `ErrInvalidIP` once a candidate of neither family was taken, and `none` before. -/
  err : Option Error

namespace Selection

/-- The loop's state before the first peer. -/
def init : Selection := ⟨[], [], [], none⟩

/-- The body of the loop: a peer not yet in `uniquePeers` is added to it and to the list of its
address family; one of neither family sets `ErrInvalidIP`. -/
def add (s : Selection) (p : Peer) : Selection :=
  if p ∈ s.uniquePeers then s
  else if p.addr.is6 then { s with uniquePeers := s.uniquePeers ++ [p], ipv6Peers := s.ipv6Peers ++ [p] }
  else if p.addr.is4 then { s with uniquePeers := s.uniquePeers ++ [p], ipv4Peers := s.ipv4Peers ++ [p] }
  else { s with uniquePeers := s.uniquePeers ++ [p], err := some .errInvalidIP }

end Selection

/-- The loop of `appendPeers`: it breaks before a peer once there is an error or more than `max`
unique peers. -/
def select (max : ℕ) : List Peer → Selection → Selection
  | [], s => s
  | p :: ps, s => if s.err.isSome ∨ max < s.uniquePeers.length then s else select max ps (s.add p)

/-- `responseHook`. -/
structure ResponseHook (σ : Type) where
  /-- `store`: the peer store the counters and the peers of a response are read from. -/
  store : PeerStorage σ

namespace ResponseHook

/-- `appendPeers`: the store's peers for the announce, merged with those of the response by
`select`; the requester itself, counted on its side, when there are none. -/
def appendPeers (h : ResponseHook σ) (req : AnnounceRequest) (resp : AnnounceResponse) (st : σ) :
    AnnounceResponse × Option Error :=
  let seeding := req.left == 0
  let max := req.numWant.toNat
  let r := h.store.announcePeers req.infoHash seeding max req.peer st
  if failed r.2 then (resp, r.2)
  else
    let peers := candidatePeers req resp r.1
    let resp :=
      if peers = [] then
        if seeding then { resp with complete := resp.complete + 1 }
        else { resp with incomplete := resp.incomplete + 1 }
      else resp
    let s := select max (if peers = [] then [req.peer] else peers) .init
    ({ resp with ipv4Peers := s.ipv4Peers, ipv6Peers := s.ipv6Peers }, s.err)

/-- `HandleAnnounce`: the counters from `ScrapeSwarm`, those of the truncation added for a 32-byte
infohash, then `appendPeers`. -/
def handleAnnounce (h : ResponseHook σ) (ctx : Context) (req : AnnounceRequest)
    (resp : AnnounceResponse) (st : σ) : AnnounceResponse × Option Error :=
  if ctx.skipResponseHook then (resp, none)
  else
    let s := h.store.scrapeSwarm req.infoHash st
    let resp := { resp with incomplete := s.1, complete := s.2.1 }
    let resp :=
      if req.infoHash.length = infoHashV2Len then
        let t := h.store.scrapeSwarm req.infoHash.truncateV1 st
        { resp with incomplete := resp.incomplete + t.1, complete := resp.complete + t.2.1 }
      else resp
    h.appendPeers req resp st

/-- The `Scrape` the loop of `HandleScrape` builds for one infohash. -/
def scrape (h : ResponseHook σ) (st : σ) (infoHash : InfoHash) : Scrape :=
  let s := h.store.scrapeSwarm infoHash st
  if infoHash.length = infoHashV2Len then
    let t := h.store.scrapeSwarm infoHash.truncateV1 st
    ⟨infoHash, s.2.2 + t.2.2, s.2.1 + t.2.1, s.1 + t.1⟩
  else ⟨infoHash, s.2.2, s.2.1, s.1⟩

/-- `HandleScrape`: one `Scrape` per requested infohash, appended in request order. -/
def handleScrape (h : ResponseHook σ) (ctx : Context) (req : ScrapeRequest) (resp : ScrapeResponse)
    (st : σ) : ScrapeResponse :=
  if ctx.skipResponseHook then resp else ⟨resp.files ++ req.infoHashes.map (h.scrape st)⟩

end ResponseHook

end Middleware
