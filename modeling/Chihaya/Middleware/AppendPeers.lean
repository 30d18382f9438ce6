import Chihaya.Middleware.Hooks

/-!
# The peers of an announce response

What the loop of `appendPeers` computes. It walks the candidates (the peers earlier hooks put in the
response, the requester's address family first, then the store's peers, or the requester alone when
there are none) and takes each peer it has not taken yet, until it has taken more than `NumWant`.
So it takes the first `NumWant + 1` distinct candidates, not `NumWant`; and "distinct" is equality
of the whole `Peer` value, ID and stored address included, so two endpoint-equal peers are both
taken.

## Main results

* `select_eq`: the loop, from any error-free state, takes the first `max + 1 - n` new distinct
  candidates, or stops with `ErrInvalidIP` if one of them has an address of neither family;
* `appendPeers_ok`: what `appendPeers` returns when it returns `nil`;
* `appendPeers_first_distinct`: with the candidates taken as the response's peers of the requester's
  family, then of the other family, then the store's, the buckets hold the first distinct
  candidates, each of its family, and the requester's counter is raised exactly when there were
  none;
* `appendPeers_nodup`: no peer value is returned twice;
* `appendPeers_exceeds_numWant`, `appendPeers_endpoint_duplicate`: one peer more than asked for, and
  two endpoint-equal peers, on small inputs.
-/

namespace Middleware

open Bittorrent Storage Netip

section NewDistinct

variable {α : Type} [DecidableEq α]

/-- The elements of `l` that are not in `seen`, each once, in the order of their first
occurrence. -/
def newDistinct (seen : List α) : List α → List α
  | [] => []
  | a :: l => if a ∈ seen then newDistinct seen l else a :: newDistinct (seen ++ [a]) l

/-- `newDistinct` repeats nothing and takes nothing already seen. -/
theorem nodup_newDistinct (seen l : List α) :
    (newDistinct seen l).Nodup ∧ ∀ a ∈ newDistinct seen l, a ∉ seen := by
  induction l generalizing seen with
  | nil => simp [newDistinct]
  | cons a l ih =>
    unfold newDistinct
    split_ifs with ha
    · exact ih seen
    · obtain ⟨hnd, hnew⟩ := ih (seen ++ [a])
      refine ⟨List.nodup_cons.mpr ⟨fun h => hnew a h (by simp), hnd⟩, ?_⟩
      rintro b (_ | ⟨_, hb⟩)
      · exact ha
      · exact fun h => hnew b hb (List.mem_append_left _ h)

end NewDistinct

/-- A peer the loop can put in a list: its unmapped address is IPv6 or IPv4. -/
def bucketable (p : Peer) : Bool := p.addr.is6 || p.addr.is4

namespace Selection

/-- The loop's state after taking the peers `new`, each into the list of its address family. -/
def extend (s : Selection) (new : List Peer) : Selection :=
  { s with uniquePeers := s.uniquePeers ++ new,
           ipv4Peers := s.ipv4Peers ++ new.filter fun p => !p.addr.is6,
           ipv6Peers := s.ipv6Peers ++ new.filter fun p => p.addr.is6 }

variable {s : Selection} {p : Peer}

@[simp] theorem uniquePeers_extend (new : List Peer) :
    (s.extend new).uniquePeers = s.uniquePeers ++ new := rfl

@[simp] theorem err_extend (new : List Peer) : (s.extend new).err = s.err := rfl

@[simp] theorem extend_nil : s.extend [] = s := by simp [extend]

theorem extend_extend (a b : List Peer) : (s.extend a).extend b = s.extend (a ++ b) := by
  simp [extend, List.filter_append]

theorem add_of_mem (h : p ∈ s.uniquePeers) : s.add p = s := if_pos h

theorem add_of_bucketable (h : p ∉ s.uniquePeers) (hb : bucketable p) : s.add p = s.extend [p] := by
  unfold add extend bucketable at *
  by_cases h6 : p.addr.is6 <;> simp_all

theorem err_add_of_not_bucketable (h : p ∉ s.uniquePeers) (hb : ¬bucketable p) :
    (s.add p).err = some .errInvalidIP := by
  unfold add bucketable at *
  simp_all

end Selection

variable {max : ℕ}

/-- The loop stops at once on an error or with more than `max` unique peers. -/
theorem select_of_stop {s : Selection} (h : s.err.isSome ∨ max < s.uniquePeers.length)
    (ps : List Peer) : select max ps s = s := by
  cases ps with
  | nil => rfl
  | cons p ps => exact if_pos h

/-- The loop from an error-free state: with `new` the first `max + 1 - n` candidates not among the
`n` unique peers, it takes them all when each has an address family, and otherwise ends with
`ErrInvalidIP`. -/
theorem select_eq (ps : List Peer) {s : Selection} (hs : s.err = none) :
    let new := (newDistinct s.uniquePeers ps).take (max + 1 - s.uniquePeers.length)
    (new.all bucketable → select max ps s = s.extend new) ∧
      (new.all bucketable = false → (select max ps s).err = some .errInvalidIP) := by
  induction ps generalizing s with
  | nil => simp [select, newDistinct]
  | cons p ps ih =>
    by_cases hstop : max < s.uniquePeers.length
    · have h0 : max + 1 - s.uniquePeers.length = 0 := by omega
      simp [select_of_stop (.inr hstop), h0]
    rw [select, if_neg (by simp [hs, hstop])]
    by_cases hmem : p ∈ s.uniquePeers
    · rw [Selection.add_of_mem hmem, newDistinct, if_pos hmem]
      exact ih hs
    have htake : max + 1 - s.uniquePeers.length = max + 1 - (s.uniquePeers ++ [p]).length + 1 := by
      simp only [List.length_append, List.length_singleton]; omega
    rw [newDistinct, if_neg hmem, htake, List.take_succ_cons]
    by_cases hb : bucketable p
    · have hadd := Selection.add_of_bucketable hmem hb
      obtain ⟨ih₁, ih₂⟩ := @ih (s.extend [p]) hs
      rw [hadd]
      simp only [Selection.uniquePeers_extend] at ih₁ ih₂
      refine ⟨fun hall => ?_, fun hall => ih₂ ?_⟩
      · rw [List.all_cons, hb, Bool.true_and] at hall
        rw [ih₁ hall, Selection.extend_extend, List.singleton_append]
      · rwa [List.all_cons, hb, Bool.true_and] at hall
    · have herr := Selection.err_add_of_not_bucketable hmem hb
      refine ⟨fun hall => absurd (List.all_eq_true.mp hall p (List.mem_cons_self _ _)) hb,
        fun _ => ?_⟩
      rw [select_of_stop (.inl (by simp [herr])), herr]

namespace ResponseHook

variable {σ : Type} (h : ResponseHook σ) (req : AnnounceRequest) (resp : AnnounceResponse) (st : σ)

/-- When the store's answer lets `appendPeers` go on, it raises the requester's counter, and only
that one, exactly when there are no candidates. -/
theorem appendPeers_counters
    (hr : failed (h.store.announcePeers req.infoHash (req.left == 0) req.numWant.toNat req.peer st).2
      = false) :
    let cands := candidatePeers req resp
      (h.store.announcePeers req.infoHash (req.left == 0) req.numWant.toNat req.peer st).1
    (h.appendPeers req resp st).1.complete =
        (if cands = [] ∧ req.left = 0 then resp.complete + 1 else resp.complete) ∧
      (h.appendPeers req resp st).1.incomplete =
        (if cands = [] ∧ req.left ≠ 0 then resp.incomplete + 1 else resp.incomplete) := by
  unfold appendPeers
  dsimp only
  rw [if_neg (by simp [hr])]
  generalize candidatePeers req resp _ = cands
  constructor <;> by_cases hc : cands = [] <;> by_cases hl : req.left = 0 <;> simp [hc, hl]

/-- What `appendPeers` returns with `nil`: all of `new`, the first `NumWant + 1` distinct candidates,
have an address family; the IPv4 list holds those that are not IPv6 and the IPv6 list the others,
both in candidate order; and the requester's counter went up exactly when there were no
candidates. -/
theorem appendPeers_ok {resp' : AnnounceResponse} (hok : h.appendPeers req resp st = (resp', none)) :
    let cands := candidatePeers req resp
      (h.store.announcePeers req.infoHash (req.left == 0) req.numWant.toNat req.peer st).1
    let new := (newDistinct [] (if cands = [] then [req.peer] else cands)).take (req.numWant.toNat + 1)
    new.all bucketable ∧ resp'.ipv4Peers = new.filter (fun p => !p.addr.is6) ∧
      resp'.ipv6Peers = new.filter (fun p => p.addr.is6) ∧
      resp'.complete = (if cands = [] ∧ req.left = 0 then resp.complete + 1 else resp.complete) ∧
      resp'.incomplete =
        (if cands = [] ∧ req.left ≠ 0 then resp.incomplete + 1 else resp.incomplete) := by
  dsimp only
  have hresp' := congrArg Prod.fst hok
  unfold appendPeers at hok
  dsimp only at hok
  split at hok
  · next hf => exact absurd ((Prod.mk.inj hok).2 ▸ hf) (by simp)
  rename_i hf
  obtain ⟨hc₁, hc₂⟩ := appendPeers_counters h req resp st (by simpa using hf)
  rw [hresp'] at hc₁ hc₂
  generalize candidatePeers req resp _ = cands at hok hc₁ hc₂ ⊢
  generalize (if cands = [] then [req.peer] else cands) = ps at hok ⊢
  obtain ⟨h₁, h₂⟩ := @select_eq req.numWant.toNat ps .init rfl
  obtain ⟨hresp, herr⟩ := Prod.mk.inj hok
  cases hb : ((newDistinct [] ps).take (req.numWant.toNat + 1)).all bucketable
  · rw [h₂ hb] at herr
    cases herr
  rw [h₁ hb] at hresp
  subst hresp
  exact ⟨rfl, rfl, rfl, hc₁, hc₂⟩

/-- The two lists `appendPeers` returns with `nil` are, together, a permutation of the first
`NumWant + 1` distinct candidates, and so repeat no peer. -/
theorem appendPeers_perm {resp' : AnnounceResponse} (hok : h.appendPeers req resp st = (resp', none)) :
    let cands := candidatePeers req resp
      (h.store.announcePeers req.infoHash (req.left == 0) req.numWant.toNat req.peer st).1
    let new := (newDistinct [] (if cands = [] then [req.peer] else cands)).take (req.numWant.toNat + 1)
    (resp'.ipv4Peers ++ resp'.ipv6Peers).Perm new ∧ new.Nodup := by
  obtain ⟨-, h4, h6, -⟩ := appendPeers_ok h req resp st hok
  rw [h4, h6]
  exact ⟨List.perm_append_comm.trans (List.filter_append_perm _ _),
    (List.take_sublist _ _).nodup (nodup_newDistinct _ _).1⟩

/-- The candidates `appendPeers` walks, as the peers earlier hooks put in the response of the
requester's address family, then those of the other family, then the store's. -/
theorem candidatePeers_eq (storePeers : List Peer) :
    candidatePeers req resp storePeers =
      (if req.peer.addr.is6 then resp.ipv6Peers else resp.ipv4Peers) ++
        (if req.peer.addr.is6 then resp.ipv4Peers else resp.ipv6Peers) ++ storePeers := by
  unfold candidatePeers
  split_ifs <;> rfl

/-- When `appendPeers` returns `nil`, take the candidates to be the peers earlier hooks put in the
response of the requester's address family, then those of the other family, then the store's, or the
requester alone when there are none. The IPv4 list then holds IPv4 peers and the IPv6 list IPv6 ones;
together they are the first `m` distinct candidates, for an `m` that is the number of distinct
candidates whenever that is at most `NumWant`, each list in candidate order and without repeats;
and the requester's counter went up by one exactly when there were no candidates. -/
theorem appendPeers_first_distinct {resp' : AnnounceResponse}
    (hok : h.appendPeers req resp st = (resp', none)) :
    let storePeers :=
      (h.store.announcePeers req.infoHash (req.left == 0) req.numWant.toNat req.peer st).1
    let ownFamily := if req.peer.addr.is6 then resp.ipv6Peers else resp.ipv4Peers
    let otherFamily := if req.peer.addr.is6 then resp.ipv4Peers else resp.ipv6Peers
    let cands := ownFamily ++ otherFamily ++ storePeers
    let distinct := newDistinct [] (if cands = [] then [req.peer] else cands)
    (∀ p ∈ resp'.ipv4Peers, p.addr.is4) ∧ (∀ p ∈ resp'.ipv6Peers, p.addr.is6) ∧
      (∃ m, (resp'.ipv4Peers ++ resp'.ipv6Peers).Perm (distinct.take m) ∧
        resp'.ipv4Peers.Sublist (distinct.take m) ∧ resp'.ipv6Peers.Sublist (distinct.take m) ∧
        resp'.ipv4Peers.Nodup ∧ resp'.ipv6Peers.Nodup ∧
        (distinct.length ≤ req.numWant.toNat → m = distinct.length)) ∧
      resp'.complete = (if cands = [] ∧ req.left = 0 then resp.complete + 1 else resp.complete) ∧
      resp'.incomplete =
        (if cands = [] ∧ req.left ≠ 0 then resp.incomplete + 1 else resp.incomplete) := by
  intro storePeers ownFamily otherFamily cands distinct
  have hcands : candidatePeers req resp storePeers = cands := candidatePeers_eq req resp storePeers
  obtain ⟨hall, h4, h6, hc, hi⟩ := appendPeers_ok h req resp st hok
  obtain ⟨hperm, hnd⟩ := appendPeers_perm h req resp st hok
  rw [hcands] at hall h4 h6 hc hi hperm hnd
  have hs4 : resp'.ipv4Peers.Sublist (distinct.take (req.numWant.toNat + 1)) :=
    h4 ▸ List.filter_sublist _
  have hs6 : resp'.ipv6Peers.Sublist (distinct.take (req.numWant.toNat + 1)) :=
    h6 ▸ List.filter_sublist _
  refine ⟨fun p hp => ?_, fun p hp => ?_, ⟨if distinct.length ≤ req.numWant.toNat then distinct.length
    else req.numWant.toNat + 1, ?_⟩, hc, hi⟩
  · rw [h4, List.mem_filter] at hp
    have hb : bucketable p := List.all_eq_true.mp hall p hp.1
    have h6' : p.addr.is6 = false := by simpa using hp.2
    simpa [bucketable, h6'] using hb
  · rw [h6, List.mem_filter] at hp
    exact hp.2
  · have htake : distinct.take (if distinct.length ≤ req.numWant.toNat then distinct.length
        else req.numWant.toNat + 1) = distinct.take (req.numWant.toNat + 1) := by
      split_ifs with hle
      · rw [List.take_length, List.take_of_length_le (by omega)]
      · rfl
    rw [htake]
    exact ⟨hperm, hs4, hs6, hs4.nodup hnd, hs6.nodup hnd, fun hle => if_pos hle⟩

/-- No peer value comes back twice from `appendPeers` with `nil`. -/
theorem appendPeers_nodup {resp' : AnnounceResponse} (hok : h.appendPeers req resp st = (resp', none)) :
    (resp'.ipv4Peers ++ resp'.ipv6Peers).Nodup :=
  (appendPeers_perm h req resp st hok).1.nodup_iff.mpr (appendPeers_perm h req resp st hok).2

end ResponseHook

section Samples

/-- A sample peer: ID twenty bytes `id`, address `10.0.0.n`, port 6881. -/
def samplePeer (id n : UInt8) : Peer := ⟨.replicate 20 id, ⟨.v4 ⟨[10, 0, 0, n], rfl⟩, 6881⟩⟩

/-- A sample v1 infohash. -/
def sampleHash : InfoHash := ⟨List.replicate 20 7⟩

/-- A leecher's announce of `samplePeer 0 1` on `sampleHash`, asking for `numWant` peers. -/
def sampleAnnounce (numWant : UInt32) : AnnounceRequest :=
  ⟨.started, sampleHash, numWant, 100, samplePeer 0 1⟩

/-- A response with no counters and no peers yet. -/
def emptyResponse : AnnounceResponse := ⟨false, 0, 0, .ofInt 0, .ofInt 0, [], []⟩

/-- A sample IPv6 peer: ID twenty bytes `5`, address `2001:db8::5`, port 6881. -/
def sampleV6Peer : Peer :=
  ⟨.replicate 20 5, ⟨.v6 ⟨[0x20, 0x01, 0x0d, 0xb8, 0, 0, 0, 0, 0, 0, 0, 0, 0, 0, 0, 5], rfl⟩ "", 6881⟩⟩

/-- The response hook over the in-memory store, whose `AnnouncePeers` starts from `offset`. -/
def memoryResponseHook (offset : ℕ) : ResponseHook Memory.Store := ⟨Memory.peerStorage offset⟩

end Samples

/-- An IPv4 leecher, with an IPv4 and an IPv6 peer put in the response by an earlier hook and a
leecher in the store: the candidates are the IPv4 peer, the IPv6 peer and the stored leecher, and
the response keeps all three, each in the list of its family, with no counter raised. -/
theorem appendPeers_first_distinct_mixed :
    let req := sampleAnnounce 50
    let resp : AnnounceResponse :=
      { emptyResponse with ipv4Peers := [samplePeer 2 2], ipv6Peers := [sampleV6Peer] }
    let st := ((Memory.peerStorage 0).putLeecher sampleHash (samplePeer 3 3) .empty).1
    let resp' : AnnounceResponse := { resp with ipv4Peers := [samplePeer 2 2, samplePeer 3 3] }
    (memoryResponseHook 0).appendPeers req resp st = (resp', none) ∧
      let storePeers := ((memoryResponseHook 0).store.announcePeers req.infoHash (req.left == 0)
        req.numWant.toNat req.peer st).1
      let ownFamily := if req.peer.addr.is6 then resp.ipv6Peers else resp.ipv4Peers
      let otherFamily := if req.peer.addr.is6 then resp.ipv4Peers else resp.ipv6Peers
      let cands := ownFamily ++ otherFamily ++ storePeers
      let distinct := newDistinct [] (if cands = [] then [req.peer] else cands)
      (∀ p ∈ resp'.ipv4Peers, p.addr.is4) ∧ (∀ p ∈ resp'.ipv6Peers, p.addr.is6) ∧
        (∃ m, (resp'.ipv4Peers ++ resp'.ipv6Peers).Perm (distinct.take m) ∧
          resp'.ipv4Peers.Sublist (distinct.take m) ∧ resp'.ipv6Peers.Sublist (distinct.take m) ∧
          resp'.ipv4Peers.Nodup ∧ resp'.ipv6Peers.Nodup ∧
          (distinct.length ≤ req.numWant.toNat → m = distinct.length)) ∧
        resp'.complete = (if cands = [] ∧ req.left = 0 then resp.complete + 1 else resp.complete) ∧
        resp'.incomplete =
          (if cands = [] ∧ req.left ≠ 0 then resp.incomplete + 1 else resp.incomplete) :=
  ⟨by decide, ResponseHook.appendPeers_first_distinct _ _ _ _ (by decide)⟩

/-- A peer put twice in the response by an earlier hook comes back once. -/
theorem appendPeers_nodup_repeated :
    let out := (memoryResponseHook 0).appendPeers (sampleAnnounce 50)
      { emptyResponse with ipv4Peers := [samplePeer 2 2, samplePeer 2 2] } .empty
    (out.1.ipv4Peers ++ out.1.ipv6Peers).Nodup := by
  intro out
  exact ResponseHook.appendPeers_nodup _ _ _ _ (Prod.ext rfl (by decide))

/-- Asking for one peer, with one peer put in the response by an earlier hook and another in the
store, a leecher gets both. -/
theorem appendPeers_exceeds_numWant :
    (memoryResponseHook 0).appendPeers (sampleAnnounce 1)
        { emptyResponse with ipv4Peers := [samplePeer 2 2] }
        ((Memory.peerStorage 0).putLeecher sampleHash (samplePeer 3 3) .empty).1 =
      ({ emptyResponse with ipv4Peers := [samplePeer 2 2, samplePeer 3 3] }, none) := by
  decide

/-- Two peers with one ID and one endpoint, one stored as IPv4 and one as IPv4-mapped IPv6, both
come back from `appendPeers` with `nil`. -/
theorem appendPeers_endpoint_duplicate :
    let mapped : Peer := ⟨.replicate 20 2,
      ⟨.v6 ⟨[0, 0, 0, 0, 0, 0, 0, 0, 0, 0, 0xff, 0xff, 10, 0, 0, 2], rfl⟩ "", 6881⟩⟩
    (memoryResponseHook 0).appendPeers (sampleAnnounce 50)
        { emptyResponse with ipv4Peers := [samplePeer 2 2, mapped] } .empty =
      ({ emptyResponse with ipv4Peers := [samplePeer 2 2, mapped] }, none) ∧
      (samplePeer 2 2).endpoint = mapped.endpoint ∧ samplePeer 2 2 ≠ mapped := by
  decide

end Middleware
