import Chihaya.Middleware.Lifecycle

/-!
# Announce responses over reachable stores

The pipeline runs the swarm-interaction hook and then the response hook on every announce, so the
response to an announce is computed on a store that a run of announces from the empty store has
reached. This module follows the peers of such a response back to the announces that put them in
the store.

With no peers from an earlier hook, the candidates of `appendPeers` are the store's peers alone. The
in-memory store offers a requester only peers of other endpoints, from the leechers to a seeder and
from the leechers and the seeders to a leecher, each endpoint once and at most `NumWant` of them; and
after a run, a stored peer is one whose last announce to the swarm was its own and not `stopped`
(`mem_seeders_run_iff`, `mem_leechers_run_iff`).

## Main results

* `handleAnnounce_peers_live`: every peer of a response is the requester alone, or a peer of another
  endpoint whose last announce to the swarm was its own and not `stopped`, and, for a seeding
  requester, neither `completed` nor with `Left = 0`;
* `handleAnnounce_endpoints_nodup`: a response repeats no endpoint and holds at most
  `max NumWant 1` peers, where `appendPeers` alone allows `NumWant + 1`.
-/

namespace Memory.Store

open Bittorrent

variable {st : Store} {offset : ℕ} {ih : InfoHash} {seeding : Bool} {maxCount : ℤ}
  {requester q : Peer}

/-- A peer `AnnouncePeers` offers, from any offset, has another endpoint than the requester's and is
a leecher of the swarm, or a seeder of it offered to a leecher. -/
theorem mem_announcePeers (hq : q ∈ (announcePeers offset ih seeding maxCount requester st).1) :
    q.endpoint ≠ requester.endpoint ∧ (q ∈ st.leechers ih ∨ seeding = false ∧ q ∈ st.seeders ih) := by
  refine ⟨not_mem_announcePeers hq, ?_⟩
  unfold announcePeers at hq
  split at hq
  · next sw hs =>
    have hmem := (Swarm.mem_without.mp (List.mem_of_mem_take hq)).1
    simp only [leechers, seeders, hs, Option.map_some', Option.getD_some]
    cases seeding
    · simpa [List.mem_rotate] using hmem
    · exact .inl (List.mem_rotate.mp hmem)
  · cases hq

end Memory.Store

namespace Middleware

open Bittorrent Netip Memory

section NewDistinct

variable {α : Type} [DecidableEq α]

theorem newDistinct_sublist (seen l : List α) : (newDistinct seen l).Sublist l := by
  induction l generalizing seen with
  | nil => exact List.Sublist.slnil
  | cons a l ih =>
    unfold newDistinct
    split_ifs
    · exact (ih seen).cons a
    · exact (ih _).cons₂ a

end NewDistinct

section Responses

variable {st : Store} {offset : ℕ} {ctx : Context} {req : AnnounceRequest}
  {resp resp' : AnnounceResponse}

/-- Over the in-memory store, when no earlier hook gave the response peers and the response hook
returns `nil`, the response holds the requester alone, or else, in some order, distinct peers that
the store offered, in the order it offered them. -/
theorem handleAnnounce_peers_cases (hctx : ctx.skipResponseHook = false)
    (hresp : resp.ipv4Peers = [] ∧ resp.ipv6Peers = [])
    (hok : (memoryResponseHook offset).handleAnnounce ctx req resp st = (resp', none)) :
    resp'.ipv4Peers ++ resp'.ipv6Peers = [req.peer] ∨
      ∃ new, new.Sublist
          (Store.announcePeers offset req.infoHash (req.left == 0) req.numWant.toNat req.peer st).1 ∧
        (resp'.ipv4Peers ++ resp'.ipv6Peers).Perm new := by
  rw [ResponseHook.handleAnnounce_eq _ _ _ _ hctx] at hok
  have hperm := (ResponseHook.appendPeers_perm _ _ _ _ hok).1
  simp only [candidatePeers, hresp.1, hresp.2, List.append_nil, ite_self, List.nil_append] at hperm
  split_ifs at hperm
  · exact .inl (List.perm_singleton.mp (by simpa [newDistinct] using hperm))
  · exact .inr ⟨_, (List.take_sublist _ _).trans (newDistinct_sublist [] _), hperm⟩

/-- After any run of announces from the empty store, every peer of an announce response that the
response hook completes with `nil`, over a response no earlier hook gave peers, is the requester
alone, or a peer of another endpoint whose last announce reaching the swarm was its own and not
`stopped` and, when the requester seeds, neither `completed` nor with `Left = 0`: the tracker never
hands out a peer that has stopped since, nor a seeder to a seeder. -/
theorem handleAnnounce_peers_live (reqs : List (Context × AnnounceRequest))
    (hctx : ctx.skipResponseHook = false) (hresp : resp.ipv4Peers = [] ∧ resp.ipv6Peers = [])
    (hok : (memoryResponseHook offset).handleAnnounce ctx req resp (memorySwarmHook.run reqs .empty) =
      (resp', none)) :
    resp'.ipv4Peers ++ resp'.ipv6Peers = [req.peer] ∨
      ∀ q ∈ resp'.ipv4Peers ++ resp'.ipv6Peers, q.endpoint ≠ req.peer.endpoint ∧
        ∃ r, lastFrom req.infoHash q.endpoint reqs = some r ∧ r.2.peer = q ∧
          r.2.event ≠ .stopped ∧ (req.left = 0 → r.2.event ≠ .completed ∧ r.2.left ≠ 0) := by
  rcases handleAnnounce_peers_cases hctx hresp hok with hout | ⟨new, hsub, hperm⟩
  · exact .inl hout
  refine .inr fun q hq => ?_
  have hoff := hsub.subset (hperm.subset hq)
  obtain ⟨hne, hl | ⟨hs, hm⟩⟩ := Store.mem_announcePeers hoff
  · obtain ⟨r, hr, hp, hst, hc, hleft⟩ := (mem_leechers_run_iff reqs q).mp hl
    exact ⟨hne, r, hr, hp, hst, fun _ => ⟨hc, hleft⟩⟩
  · obtain ⟨r, hr, hp, hst, -⟩ := (mem_seeders_run_iff reqs q).mp hm
    exact ⟨hne, r, hr, hp, hst, fun h0 => absurd hs (by simp [h0])⟩

/-- Two leechers announce; the first then gets the second back, a leecher whose last announce was
its own `started`. -/
theorem handleAnnounce_peers_live_twoLeechers :
    let reqs := [(sampleContext, sampleAnnounce 50),
      (sampleContext, { sampleAnnounce 50 with peer := samplePeer 4 4 })]
    let out : AnnounceResponse := { emptyResponse with incomplete := 2, ipv4Peers := [samplePeer 4 4] }
    (memoryResponseHook 0).handleAnnounce sampleContext (sampleAnnounce 50) emptyResponse
        (memorySwarmHook.run reqs .empty) = (out, none) ∧
      (out.ipv4Peers ++ out.ipv6Peers = [(sampleAnnounce 50).peer] ∨
        ∀ q ∈ out.ipv4Peers ++ out.ipv6Peers, q.endpoint ≠ (sampleAnnounce 50).peer.endpoint ∧
          ∃ r, lastFrom (sampleAnnounce 50).infoHash q.endpoint reqs = some r ∧ r.2.peer = q ∧
            r.2.event ≠ .stopped ∧
            ((sampleAnnounce 50).left = 0 → r.2.event ≠ .completed ∧ r.2.left ≠ 0)) :=
  ⟨by decide, @handleAnnounce_peers_live 0 sampleContext _ emptyResponse _ _ rfl ⟨rfl, rfl⟩ (by decide)⟩

/-- After any run of announces from the empty store, an announce response that the response hook
completes with `nil`, over a response no earlier hook gave peers, repeats no endpoint and holds at
most `NumWant` peers, or the requester alone. -/
theorem handleAnnounce_endpoints_nodup (reqs : List (Context × AnnounceRequest))
    (hctx : ctx.skipResponseHook = false) (hresp : resp.ipv4Peers = [] ∧ resp.ipv6Peers = [])
    (hok : (memoryResponseHook offset).handleAnnounce ctx req resp (memorySwarmHook.run reqs .empty) =
      (resp', none)) :
    ((resp'.ipv4Peers ++ resp'.ipv6Peers).map Peer.endpoint).Nodup ∧
      (resp'.ipv4Peers ++ resp'.ipv6Peers).length ≤ max req.numWant.toNat 1 := by
  rcases handleAnnounce_peers_cases hctx hresp hok with hout | ⟨new, hsub, hperm⟩
  · rw [hout]
    simp
  have hwf := wellFormed_run reqs Store.wellFormed_empty
  refine ⟨(hperm.map _).nodup_iff.mpr ((hsub.map _).nodup (Store.nodup_announcePeers hwf)), ?_⟩
  calc (resp'.ipv4Peers ++ resp'.ipv6Peers).length
      ≤ (Store.announcePeers offset req.infoHash (req.left == 0) req.numWant.toNat req.peer
          (memorySwarmHook.run reqs .empty)).1.length := hperm.length_eq ▸ hsub.length_le
    _ ≤ req.numWant.toNat := by simpa using Store.length_announcePeers_le
    _ ≤ max req.numWant.toNat 1 := le_max_left _ _

/-- The same two leechers: the response to the first holds one endpoint, within `NumWant`. -/
theorem handleAnnounce_endpoints_nodup_twoLeechers :
    let reqs := [(sampleContext, sampleAnnounce 50),
      (sampleContext, { sampleAnnounce 50 with peer := samplePeer 4 4 })]
    let out : AnnounceResponse := { emptyResponse with incomplete := 2, ipv4Peers := [samplePeer 4 4] }
    (memoryResponseHook 0).handleAnnounce sampleContext (sampleAnnounce 50) emptyResponse
        (memorySwarmHook.run reqs .empty) = (out, none) ∧
      ((out.ipv4Peers ++ out.ipv6Peers).map Peer.endpoint).Nodup ∧
        (out.ipv4Peers ++ out.ipv6Peers).length ≤ max (sampleAnnounce 50).numWant.toNat 1 := by
  intro reqs out
  exact ⟨by decide, @handleAnnounce_endpoints_nodup 0 sampleContext _ emptyResponse out reqs rfl ⟨rfl, rfl⟩
    (by decide)⟩

end Responses

end Middleware
