import Chihaya.Middleware.AppendPeers

/-!
# Mirrored writes and the two statistics paths

The swarm-interaction hook writes an announce on a 32-byte infohash twice, under the infohash and
under its truncation; the response hook then reads the counters of a 32-byte infohash twice, under
the same two keys, and adds them. This module follows both over whole runs.

It first says what a store must do for the mirroring to work (`LocalStore`): seen through a view
of its swarms, each write changes only the swarm of its infohash, by a change that depends on the
peer and that swarm alone; puts never fail and deletes fail only with `ErrResourceDoesNotExist`;
`ScrapeSwarm` reads only the swarm it is asked about. Over such a store `HandleAnnounce` applies one
change to each of its keys, and a run keeps the two swarms of a 32-byte infohash equal as long as
no other announce touches its truncation. The in-memory store is such a store.

So the counters of a 32-byte infohash are the sums of those of two swarms, and on the runs above
those two swarms are the same: every endpoint and every completion is counted twice. And the
counters of an announce response are those of the scrape, except that the requester's side counts
one more when the store offers no peer.

## Main results

* `view_handleAnnounce`: one announce over a local store;
* `view_run_mirror`: the two swarms of a 32-byte infohash stay equal over an isolated run;
* `peerStorage_localStore`: the in-memory store is local;
* `handleScrape_counts_both_keys`: the scrape of a 32-byte infohash after any run, and its doubling;
* `handleAnnounce_counters_eq_scrape`: the counters of an announce response against the scrape.
-/

namespace Middleware

open Bittorrent Storage

variable {σ V : Type}

/-- Seen through `view`, a write changes only the swarm of its own infohash, by a function of the
peer and that swarm. -/
def LocalWrite (view : σ → InfoHash → V) (w : InfoHash → Peer → σ → σ × Option Error) : Prop :=
  ∃ g : Peer → V → V, ∀ ih p st, view (w ih p st).1 = Function.update (view st) ih (g p (view st ih))

/-- A store whose swarms, seen through `view`, behave as its contract says: every write is local,
puts never fail, deletes fail at most with `ErrResourceDoesNotExist`, and `ScrapeSwarm` reads only
the swarm it is asked about. -/
structure LocalStore (S : PeerStorage σ) (view : σ → InfoHash → V) : Prop where
  putSeeder : LocalWrite view S.putSeeder
  deleteSeeder : LocalWrite view S.deleteSeeder
  putLeecher : LocalWrite view S.putLeecher
  deleteLeecher : LocalWrite view S.deleteLeecher
  graduateLeecher : LocalWrite view S.graduateLeecher
  putSeeder_ok : ∀ ih p st, (S.putSeeder ih p st).2 = none
  putLeecher_ok : ∀ ih p st, (S.putLeecher ih p st).2 = none
  graduateLeecher_ok : ∀ ih p st, (S.graduateLeecher ih p st).2 = none
  deleteSeeder_ok : ∀ ih p st, failed (S.deleteSeeder ih p st).2 = false
  deleteLeecher_ok : ∀ ih p st, failed (S.deleteLeecher ih p st).2 = false
  scrapeSwarm : ∀ ih ih' st st', view st ih = view st' ih' → S.scrapeSwarm ih st = S.scrapeSwarm ih' st'

namespace SwarmInteractionHook

variable {S : PeerStorage σ} {view : σ → InfoHash → V} (hS : LocalStore S view)
include hS

theorem stop_eq (ih : InfoHash) (p : Peer) (st : σ) :
    (⟨S⟩ : SwarmInteractionHook σ).stop ih p st =
      ((S.deleteLeecher ih p (S.deleteSeeder ih p st).1).1, none) := by
  simp [stop, hS.deleteSeeder_ok, hS.deleteLeecher_ok]

/-- Over a local store every `storeFn` succeeds. -/
theorem storeFn_ok (req : AnnounceRequest) (ih : InfoHash) (p : Peer) (st : σ) :
    ((⟨S⟩ : SwarmInteractionHook σ).storeFn req ih p st).2 = none := by
  unfold storeFn
  split_ifs
  · rw [stop_eq hS]
  · exact hS.graduateLeecher_ok ih p st
  · exact hS.putSeeder_ok ih p st
  · exact hS.putLeecher_ok ih p st

/-- Over a local store every `storeFn` is a local write. -/
theorem storeFn_local (req : AnnounceRequest) :
    LocalWrite view ((⟨S⟩ : SwarmInteractionHook σ).storeFn req) := by
  unfold storeFn
  split_ifs
  · obtain ⟨g₁, hg₁⟩ := hS.deleteSeeder
    obtain ⟨g₂, hg₂⟩ := hS.deleteLeecher
    refine ⟨fun p v => g₂ p (g₁ p v), fun ih p st => ?_⟩
    rw [stop_eq hS, hg₂, hg₁, Function.update_same, Function.update_idem]
  · exact hS.graduateLeecher
  · exact hS.putSeeder
  · exact hS.putLeecher

/-- One announce over a local store: one change, fixed by the announce, to the swarm of each of its
keys (the infohash, and the truncation of a 32-byte infohash); nothing else changes. -/
theorem view_handleAnnounce (ctx : Context) (req : AnnounceRequest) :
    ∃ g : V → V, ∀ st k, view ((⟨S⟩ : SwarmInteractionHook σ).handleAnnounce ctx req st).1 k =
      if ctx.skipSwarmInteraction = false ∧ (k = req.infoHash ∨
          req.infoHash.length = infoHashV2Len ∧ k = req.infoHash.truncateV1) then g (view st k)
      else view st k := by
  obtain ⟨g, hg⟩ := storeFn_local hS req
  refine ⟨g req.peer, fun st k => ?_⟩
  unfold handleAnnounce
  cases ctx.skipSwarmInteraction
  · simp only [storeFn_ok hS, true_and, if_true, true_and, Bool.false_eq_true, if_false]
    by_cases hlen : req.infoHash.length = infoHashV2Len
    · have hne := InfoHash.truncateV1_ne hlen
      simp only [hlen, if_true, hg, Function.update_apply, if_neg hne, true_and]
      by_cases hk : k = req.infoHash <;> by_cases hk' : k = req.infoHash.truncateV1 <;> simp_all
    · simp only [hlen, if_false, hg, Function.update_apply, false_and, or_false]
      split_ifs with hk <;> simp [hk]
  · simp

/-- Over a run in which every announce that shares the truncation of a 32-byte infohash `H` is on
`H` itself, the swarms of `H` and of its truncation stay equal once they are. -/
theorem view_run_mirror {H : InfoHash} (hH : H.length = infoHashV2Len)
    (reqs : List (Context × AnnounceRequest))
    (hiso : ∀ r ∈ reqs, r.2.infoHash.truncateV1 = H.truncateV1 → r.2.infoHash = H) (st : σ)
    (h0 : view st H.truncateV1 = view st H) :
    view ((⟨S⟩ : SwarmInteractionHook σ).run reqs st) H.truncateV1 =
      view ((⟨S⟩ : SwarmInteractionHook σ).run reqs st) H := by
  induction reqs generalizing st with
  | nil => exact h0
  | cons r reqs ih =>
    obtain ⟨ctx, req⟩ := r
    refine ih (fun r hr => hiso r (List.mem_cons_of_mem _ hr)) _ ?_
    obtain ⟨g, hg⟩ := view_handleAnnounce hS ctx req
    have hiso' := hiso (ctx, req) (List.mem_cons_self _ _)
    have hlenT : H.truncateV1.length = infoHashV1Len := InfoHash.length_truncateV1 hH
    rw [hg, hg]
    by_cases hreq : req.infoHash = H
    · subst hreq
      simp [hH, h0]
    · have hT : ¬(H.truncateV1 = req.infoHash ∨
          req.infoHash.length = infoHashV2Len ∧ H.truncateV1 = req.infoHash.truncateV1) := by
        rintro (he | ⟨-, he⟩)
        · refine hreq (hiso' ?_)
          rw [← he, InfoHash.truncateV1_of_length_ne (by rw [hlenT]; decide)]
        · exact hreq (hiso' he.symm)
      have hH' : ¬(H = req.infoHash ∨
          req.infoHash.length = infoHashV2Len ∧ H = req.infoHash.truncateV1) := by
        rintro (he | ⟨hl, he⟩)
        · exact hreq he.symm
        · have := InfoHash.length_truncateV1 hl
          rw [← he, hH] at this
          exact absurd this (by decide)
      simp only [hT, hH', and_false, if_false, h0]

end SwarmInteractionHook

section Memory

open Memory

theorem localWrite_put (f : Peer → Swarm → Swarm) :
    LocalWrite Store.swarms (fun ih p => Store.put (f p) ih) :=
  ⟨fun p v => some (f p (v.getD .empty)), fun _ _ _ => funext fun _ => by
    rw [Store.swarms_put, Function.update_apply]⟩

theorem localWrite_delete (f : Peer → Swarm → Option Swarm) :
    LocalWrite Store.swarms (fun ih p => Store.delete (f p) ih) :=
  ⟨fun p v => (v.bind (f p)).or v, fun _ _ _ => funext fun _ => by
    rw [Store.swarms_delete, Function.update_apply]⟩

theorem failed_delete (f : Swarm → Option Swarm) (ih : InfoHash) (st : Store) :
    failed (Store.delete f ih st).2 = false := by
  rw [Store.snd_delete]
  split <;> rfl

/-- The in-memory store is local, seen through its swarms, whichever offset its `AnnouncePeers`
starts from. -/
theorem peerStorage_localStore (offset : ℕ) : LocalStore (peerStorage offset) Store.swarms where
  putSeeder := localWrite_put _
  deleteSeeder := localWrite_delete _
  putLeecher := localWrite_put _
  deleteLeecher := localWrite_delete _
  graduateLeecher := localWrite_put _
  putSeeder_ok _ _ _ := rfl
  putLeecher_ok _ _ _ := rfl
  graduateLeecher_ok _ _ _ := rfl
  deleteSeeder_ok _ _ _ := failed_delete _ _ _
  deleteLeecher_ok _ _ _ := failed_delete _ _ _
  scrapeSwarm _ _ _ _ h := by simp only [peerStorage, Store.scrapeSwarm, h]

/-- The swarm-interaction hook over the in-memory store. It calls no `AnnouncePeers`, so the offset
`AnnouncePeers` would start from does not matter here. -/
def memorySwarmHook : SwarmInteractionHook Store := ⟨peerStorage 0⟩

variable {st : Store}

theorem wellFormed_storeFn (req : AnnounceRequest) (ih : InfoHash) (p : Peer) (h : st.WellFormed) :
    (memorySwarmHook.storeFn req ih p st).1.WellFormed := by
  unfold memorySwarmHook SwarmInteractionHook.storeFn
  split_ifs
  · rw [SwarmInteractionHook.stop_eq (peerStorage_localStore 0)]
    exact Store.wellFormed_delete (fun _ _ => Swarm.wellFormed_deleteLeecher)
      (Store.wellFormed_delete (fun _ _ => Swarm.wellFormed_deleteSeeder) h)
  · exact Store.wellFormed_put (fun _ => Swarm.wellFormed_graduateLeecher) h
  · exact Store.wellFormed_put (fun _ => Swarm.wellFormed_putSeeder) h
  · exact Store.wellFormed_put (fun _ => Swarm.wellFormed_putLeecher) h

theorem wellFormed_handleAnnounce (ctx : Context) (req : AnnounceRequest) (h : st.WellFormed) :
    (memorySwarmHook.handleAnnounce ctx req st).1.WellFormed := by
  unfold SwarmInteractionHook.handleAnnounce
  dsimp only
  split_ifs
  · exact h
  · exact wellFormed_storeFn _ _ _ (wellFormed_storeFn _ _ _ h)
  · exact wellFormed_storeFn _ _ _ h

/-- Every run keeps the in-memory store well formed. -/
theorem wellFormed_run (reqs : List (Context × AnnounceRequest)) (h : st.WellFormed) :
    (memorySwarmHook.run reqs st).WellFormed := by
  induction reqs generalizing st with
  | nil => exact h
  | cons r reqs ih => exact ih (wellFormed_handleAnnounce r.1 r.2 h)

/-- After any run from the empty in-memory store, the scrape of a 32-byte infohash `H` reports the
sums, over the swarms of `H` and of its truncation, of their completions and of their numbers of
distinct seeder and leecher endpoints; and when every announce of the run that shares `H`'s
truncation is on `H` itself, the two swarms have the same counts, so that each is reported twice. -/
theorem handleScrape_counts_both_keys (reqs : List (Context × AnnounceRequest)) {H : InfoHash}
    (hH : H.length = infoHashV2Len) {ctx : Context} (hctx : ctx.skipResponseHook = false)
    {offset : ℕ} :
    let st := memorySwarmHook.run reqs .empty
    ((memoryResponseHook offset).handleScrape ctx ⟨[H]⟩ ⟨[]⟩ st).files =
        [⟨H, .ofNat (st.snatches H) + .ofNat (st.snatches H.truncateV1),
          .ofNat (st.seederCount H) + .ofNat (st.seederCount H.truncateV1),
          .ofNat (st.leecherCount H) + .ofNat (st.leecherCount H.truncateV1)⟩] ∧
      ((∀ r ∈ reqs, r.2.infoHash.truncateV1 = H.truncateV1 → r.2.infoHash = H) →
        st.snatches H.truncateV1 = st.snatches H ∧ st.seederCount H.truncateV1 = st.seederCount H ∧
          st.leecherCount H.truncateV1 = st.leecherCount H) := by
  intro st
  have hwf : st.WellFormed := wellFormed_run reqs Store.wellFormed_empty
  refine ⟨?_, fun hiso => ?_⟩
  · simp only [ResponseHook.handleScrape, hctx, Bool.false_eq_true, if_false, List.map_cons,
      List.map_nil, List.nil_append, ResponseHook.scrape, hH, if_true]
    simp only [memoryResponseHook, peerStorage, Store.scrapeSwarm_eq hwf]
  · have hm : st.swarms H.truncateV1 = st.swarms H :=
      SwarmInteractionHook.view_run_mirror (peerStorage_localStore 0) hH reqs hiso .empty rfl
    simp only [Store.snatches, Store.seederCount, Store.seeders, Store.leecherCount, Store.leechers, hm,
      and_self]

section Samples

/-- A context with neither skip key set. -/
def sampleContext : Context := ⟨false, false⟩

/-- A sample v2 infohash. -/
def sampleHashV2 : InfoHash := ⟨List.replicate 32 7⟩

end Samples

/-- One leecher announcing once on a 32-byte infohash is counted as two leechers. -/
theorem handleScrape_single_leecher_v2 :
    ((memoryResponseHook 0).handleScrape sampleContext ⟨[sampleHashV2]⟩ ⟨[]⟩
        (memorySwarmHook.run [(sampleContext, { sampleAnnounce 50 with infoHash := sampleHashV2 })]
          .empty)).files =
      [⟨sampleHashV2, 0, 0, 2⟩] := by
  decide

/-- A leecher that announces on a 32-byte infohash and then completes is reported as two seeders
with two completions. -/
theorem handleScrape_counts_both_keys_completed :
    ((memoryResponseHook 0).handleScrape sampleContext ⟨[sampleHashV2]⟩ ⟨[]⟩
        (memorySwarmHook.run [(sampleContext, { sampleAnnounce 50 with infoHash := sampleHashV2 }),
          (sampleContext, { sampleAnnounce 50 with
            infoHash := sampleHashV2, event := .completed, left := 0 })] .empty)).files =
      [⟨sampleHashV2, 2, 2, 0⟩] := by
  rw [(handleScrape_counts_both_keys _ (by decide) rfl).1]
  decide

end Memory

namespace ResponseHook

variable {σ : Type} (h : ResponseHook σ) {ctx : Context} (req : AnnounceRequest) (resp : AnnounceResponse)
  (st : σ)

/-- `HandleAnnounce` sets the counters to those the scrape of the infohash reports, then runs
`appendPeers`. -/
theorem handleAnnounce_eq (hctx : ctx.skipResponseHook = false) :
    h.handleAnnounce ctx req resp st = h.appendPeers req
      { resp with incomplete := (h.scrape st req.infoHash).incomplete,
                  complete := (h.scrape st req.infoHash).complete } st := by
  unfold handleAnnounce scrape
  by_cases hlen : req.infoHash.length = infoHashV2Len <;> simp only [infoHashV2Len_eq] at hlen <;>
    simp [hctx, hlen]

/-- The counters of an announce response that no earlier hook filled with peers are, over any store
whose answer lets `appendPeers` go on, those the scrape of the infohash reports in the same state,
except that the requester's side counts one more when the store offers no peer. -/
theorem handleAnnounce_counters_eq_scrape (hctx : ctx.skipResponseHook = false)
    (hresp : resp.ipv4Peers = [] ∧ resp.ipv6Peers = [])
    (hstore : failed
      (h.store.announcePeers req.infoHash (req.left == 0) req.numWant.toNat req.peer st).2 = false) :
    let alone := (h.store.announcePeers req.infoHash (req.left == 0) req.numWant.toNat req.peer st).1 = []
    let resp' := (h.handleAnnounce ctx req resp st).1
    ∃ scr, (h.handleScrape ctx ⟨[req.infoHash]⟩ ⟨[]⟩ st).files = [scr] ∧
      resp'.complete = (if alone ∧ req.left = 0 then scr.complete + 1 else scr.complete) ∧
      resp'.incomplete = (if alone ∧ req.left ≠ 0 then scr.incomplete + 1 else scr.incomplete) := by
  refine ⟨h.scrape st req.infoHash, by simp [handleScrape, hctx], ?_⟩
  rw [handleAnnounce_eq h req resp st hctx]
  obtain ⟨hc₁, hc₂⟩ := appendPeers_counters h req
    { resp with incomplete := (h.scrape st req.infoHash).incomplete,
                complete := (h.scrape st req.infoHash).complete } st hstore
  simp only [candidatePeers, hresp, List.append_nil, ite_self, List.nil_append] at hc₁ hc₂ ⊢
  exact ⟨hc₁, hc₂⟩

end ResponseHook

/-- Once the swarm-interaction hook has stored a leecher alone in its swarm, its announce response
counts two leechers and the scrape one. -/
theorem handleAnnounce_lone_leecher :
    let st := (memorySwarmHook.handleAnnounce sampleContext (sampleAnnounce 50) .empty).1
    ((memoryResponseHook 0).handleAnnounce sampleContext (sampleAnnounce 50) emptyResponse st).1.incomplete
        = 2 ∧
      ((memoryResponseHook 0).handleScrape sampleContext ⟨[sampleHash]⟩ ⟨[]⟩ st).files =
        [⟨sampleHash, 0, 0, 1⟩] := by
  decide

/-- With a second leecher in the swarm, the announce response and the scrape both count two. -/
theorem handleAnnounce_counters_eq_scrape_twoLeechers :
    ((memoryResponseHook 0).handleAnnounce sampleContext (sampleAnnounce 50) emptyResponse
        (memorySwarmHook.run [(sampleContext, sampleAnnounce 50),
          (sampleContext, { sampleAnnounce 50 with peer := samplePeer 4 4 })] .empty)).1.incomplete
      = 2 := by
  obtain ⟨scr, hscr, -, hi⟩ := @ResponseHook.handleAnnounce_counters_eq_scrape _ (memoryResponseHook 0)
    sampleContext (sampleAnnounce 50) emptyResponse
    (memorySwarmHook.run [(sampleContext, sampleAnnounce 50),
      (sampleContext, { sampleAnnounce 50 with peer := samplePeer 4 4 })] .empty) rfl ⟨rfl, rfl⟩
    (by decide)
  have hs : [scr] = [⟨sampleHash, 0, 0, 2⟩] := hscr.symm.trans (by decide)
  rw [hi, (List.cons.inj hs).1]
  decide

end Middleware
