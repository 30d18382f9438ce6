import Chihaya.Middleware.Mirror

/-!
# Peer lifecycle over runs

What the swarm-interaction hook leaves in the in-memory store after any run of announces. Seen per
endpoint, a swarm is a map: `Swarm.find` gives the peer stored for an endpoint and whether it
seeds. Every announce that reaches a swarm (it is not skipped, and the swarm is that of its
infohash or, for a 32-byte infohash, of the truncation) sets the entry of its own endpoint: a
`stopped` announce removes it, any other stores the announcing peer, as a seeder after `completed`
or with `Left = 0` and as a leecher otherwise (`entryAfter`). Entries of other endpoints and other
swarms stay as they are. So the store after a run is the last write per endpoint, and a swarm's
snatches count its `completed` announces.

## Main results

* `find_handleAnnounce`: one announce, on the entry of every endpoint of every swarm;
* `find_run`: after any run, an endpoint's entry is the one its last announce reaching the swarm
  left (`lastFrom`), or the one it had before the run when there is none;
* `snatches_run`: a run adds to a swarm's snatches the number of its `completed` announces that
  reach the swarm;
* `mem_run_iff`: after any run from the empty store, the seeders and the leechers of a swarm are
  exactly the peers whose announce is the last from their endpoint, was not `stopped`, and
  completed or had `Left = 0` (seeders), or neither (leechers);
* `scrapeSwarm_run`: after any run from the empty store, the counters `ScrapeSwarm` reports are the
  numbers of distinct endpoints whose last announce left them leeching or seeding, and the number of
  `completed` announces.
-/

namespace Memory

open Bittorrent Netip

namespace Swarm

/-- The entry of an endpoint: the seeder with that endpoint, or else the leecher, with whether it
seeds. -/
def find (sw : Swarm) (e : Addr × UInt16) : Option (Peer × Bool) :=
  match sw.seeders.find? (·.endpoint == e) with
  | some p => some (p, true)
  | none => (sw.leechers.find? (·.endpoint == e)).map (·, false)

/-- The swarm without the endpoint of `p` among its seeders and its leechers: what `DeleteSeeder`
then `DeleteLeecher` leave. -/
def strip (p : Peer) (sw : Swarm) : Swarm :=
  { sw with seeders := without p sw.seeders, leechers := without p sw.leechers }

variable {p : Peer} {e : Addr × UInt16} {sw : Swarm}

theorem find?_without_self (ps : List Peer) :
    (without p ps).find? (·.endpoint == p.endpoint) = none := by
  rw [List.find?_eq_none]
  intro q hq
  simpa using (mem_without.mp hq).2

theorem find?_without_of_ne (h : p.endpoint ≠ e) (ps : List Peer) :
    (without p ps).find? (·.endpoint == e) = ps.find? (·.endpoint == e) := by
  rw [without, List.find?_filter]
  congr 1
  funext q
  by_cases hq : q.endpoint = e
  · simp [hq, Ne.symm h]
  · simp [hq]

theorem find_putSeeder :
    (sw.putSeeder p).find e = if p.endpoint = e then some (p, true) else sw.find e := by
  unfold find putSeeder
  split_ifs with h
  · subst h
    simp [find?_without_self]
  · have hb : (p.endpoint == e) = false := by simpa using h
    simp only [List.find?_append, find?_without_of_ne h, List.find?_cons, List.find?_nil, hb,
      Option.or_none]

theorem find_putLeecher :
    (sw.putLeecher p).find e = if p.endpoint = e then some (p, false) else sw.find e := by
  unfold find putLeecher
  split_ifs with h
  · subst h
    simp [find?_without_self]
  · have hb : (p.endpoint == e) = false := by simpa using h
    simp only [List.find?_append, find?_without_of_ne h, List.find?_cons, List.find?_nil, hb,
      Option.or_none]

theorem find_graduateLeecher : (sw.graduateLeecher p).find e = (sw.putSeeder p).find e := rfl

theorem find_strip : (sw.strip p).find e = if p.endpoint = e then none else sw.find e := by
  unfold find strip
  split_ifs with h
  · subst h
    simp [find?_without_self]
  · simp only [find?_without_of_ne h]

/-- `DeleteSeeder` removes the endpoint from the seeders, or changes nothing when no seeder has it. -/
theorem deleteSeeder_or : (sw.deleteSeeder p).getD sw = { sw with seeders := without p sw.seeders } := by
  unfold deleteSeeder
  split_ifs with h
  · rfl
  · simp only [Option.getD_none]
    rw [without, List.filter_eq_self.mpr]
    simpa using h

/-- `DeleteLeecher` removes the endpoint from the leechers, or changes nothing when no leecher has
it. -/
theorem deleteLeecher_or : (sw.deleteLeecher p).getD sw = { sw with leechers := without p sw.leechers } := by
  unfold deleteLeecher
  split_ifs with h
  · rfl
  · simp only [Option.getD_none]
    rw [without, List.filter_eq_self.mpr]
    simpa using h

theorem find?_endpoint_of_mem {q : Peer} {ps : List Peer} (hn : (ps.map Peer.endpoint).Nodup)
    (hq : q ∈ ps) : ps.find? (·.endpoint == q.endpoint) = some q := by
  have hs : (ps.find? (·.endpoint == q.endpoint)).isSome := List.find?_isSome.mpr ⟨q, hq, by simp⟩
  obtain ⟨x, hx⟩ := Option.isSome_iff_exists.mp hs
  have hxe : x.endpoint = q.endpoint := by simpa using List.find?_some hx
  rw [hx, List.inj_on_of_nodup_map hn (List.mem_of_find?_eq_some hx) hq hxe]

/-- In a well-formed swarm the seeders are the peers whose endpoint's entry is themselves, seeding. -/
theorem mem_seeders_iff (h : sw.WellFormed) {q : Peer} :
    q ∈ sw.seeders ↔ sw.find q.endpoint = some (q, true) := by
  unfold find
  constructor
  · intro hq
    rw [find?_endpoint_of_mem (nodup_seeders h) hq]
  · split <;> rename_i x hx
    · rintro ⟨⟩
      exact List.mem_of_find?_eq_some hx
    · simp

/-- In a well-formed swarm the leechers are the peers whose endpoint's entry is themselves, not
seeding. -/
theorem mem_leechers_iff (h : sw.WellFormed) {q : Peer} :
    q ∈ sw.leechers ↔ sw.find q.endpoint = some (q, false) := by
  have hd := (List.nodup_append.mp (by simpa [WellFormed, endpoints] using h)).2.2
  unfold find
  constructor
  · intro hq
    have hs : sw.seeders.find? (·.endpoint == q.endpoint) = none := by
      rw [List.find?_eq_none]
      intro x hx he
      have he' : x.endpoint = q.endpoint := by simpa using he
      exact hd (List.mem_map_of_mem _ hx) (by rw [he']; exact List.mem_map_of_mem _ hq)
    rw [hs, find?_endpoint_of_mem (nodup_leechers h) hq]
    rfl
  · split
    · simp
    · simpa using List.mem_of_find?_eq_some

/-- The entry found for an endpoint is a peer of that endpoint. -/
theorem endpoint_of_find {q : Peer} {b : Bool} (h : sw.find e = some (q, b)) : q.endpoint = e := by
  unfold find at h
  split at h <;> rename_i p hp
  · cases h
    simpa using List.find?_some hp
  · obtain ⟨p, hp, ⟨⟩⟩ := Option.map_eq_some'.mp h
    simpa using List.find?_some hp

end Swarm

namespace Store

/-- The entry of an endpoint in the swarm of an infohash; none when the swarm is missing. -/
def find (st : Store) (ih : InfoHash) (e : Addr × UInt16) : Option (Peer × Bool) :=
  (st.swarms ih).bind (·.find e)

variable {st : Store} {ih : InfoHash} {q : Peer}

theorem mem_seeders_iff_find (h : st.WellFormed) :
    q ∈ st.seeders ih ↔ st.find ih q.endpoint = some (q, true) := by
  unfold seeders find
  cases hs : st.swarms ih with
  | none => simp
  | some sw => exact Swarm.mem_seeders_iff (h _ _ hs)

theorem mem_leechers_iff_find (h : st.WellFormed) :
    q ∈ st.leechers ih ↔ st.find ih q.endpoint = some (q, false) := by
  unfold leechers find
  cases hs : st.swarms ih with
  | none => simp
  | some sw => exact Swarm.mem_leechers_iff (h _ _ hs)

theorem endpoint_of_find {e : Addr × UInt16} {b : Bool} (h : st.find ih e = some (q, b)) :
    q.endpoint = e := by
  obtain ⟨sw, -, hf⟩ := Option.bind_eq_some.mp h
  exact Swarm.endpoint_of_find hf

/-- When the members of `ps` are the peers whose endpoint's entry is themselves with the flag `b`,
the endpoints of `ps` are those whose entry has the flag `b`. -/
theorem mem_map_endpoint_iff {ps : List Peer} {b : Bool}
    (hps : ∀ q, q ∈ ps ↔ st.find ih q.endpoint = some (q, b)) (e : Addr × UInt16) :
    e ∈ ps.map Peer.endpoint ↔ ∃ q, st.find ih e = some (q, b) := by
  simp only [List.mem_map, hps]
  constructor
  · rintro ⟨q, hq, rfl⟩
    exact ⟨q, hq⟩
  · rintro ⟨q, hq⟩
    have he := endpoint_of_find hq
    exact ⟨q, by rwa [he], he⟩

end Store

end Memory

namespace Middleware

open Bittorrent Netip Memory

/-- The entry an announce leaves for its own endpoint: none after `stopped`; otherwise its peer,
seeding after `completed` or with `Left = 0`. -/
def entryAfter (req : AnnounceRequest) : Option (Peer × Bool) :=
  if req.event = .stopped then none else some (req.peer, req.event == .completed || req.left == 0)

/-- An announce writes the swarm of `H`: it is not skipped, and `H` is its infohash or, for a
32-byte infohash, the truncation. -/
def touches (H : InfoHash) (r : Context × AnnounceRequest) : Prop :=
  r.1.skipSwarmInteraction = false ∧
    (H = r.2.infoHash ∨ r.2.infoHash.length = infoHashV2Len ∧ H = r.2.infoHash.truncateV1)

instance (H : InfoHash) : DecidablePred (touches H) :=
  fun _ => inferInstanceAs (Decidable (_ ∧ _))

/-- The last announce of a run that reaches the swarm of `H` from the endpoint `e`. -/
def lastFrom (H : InfoHash) (e : Addr × UInt16) (reqs : List (Context × AnnounceRequest)) :
    Option (Context × AnnounceRequest) :=
  (reqs.filter fun r => decide (touches H r ∧ r.2.peer.endpoint = e)).getLast?

variable {st : Store} {H : InfoHash} {e : Addr × UInt16}

/-- The last announce reaching a swarm from an endpoint is an announce of the run, reaches the swarm
and comes from the endpoint. -/
theorem lastFrom_spec {reqs : List (Context × AnnounceRequest)} {r : Context × AnnounceRequest}
    (h : lastFrom H e reqs = some r) : r ∈ reqs ∧ touches H r ∧ r.2.peer.endpoint = e := by
  obtain ⟨hr, hd⟩ := List.mem_filter.mp (List.mem_of_getLast?_eq_some h)
  exact ⟨hr, of_decide_eq_true hd⟩

theorem or_some_eq_getD (o : Option Swarm) (sw : Swarm) : o.or (some sw) = some (o.getD sw) := by
  cases o <;> rfl

/-- `stop` strips the peer's endpoint from the swarm of its infohash, when there is one. -/
theorem swarms_stop (ih : InfoHash) (p : Peer) (k : InfoHash) :
    (memorySwarmHook.stop ih p st).1.swarms k =
      if k = ih then (st.swarms ih).map (Swarm.strip p) else st.swarms k := by
  rw [memorySwarmHook, SwarmInteractionHook.stop_eq (peerStorage_localStore 0)]
  simp only [peerStorage, Store.swarms_delete, if_pos rfl]
  split_ifs with hk
  · cases st.swarms ih with
    | none => rfl
    | some sw =>
      simp only [Option.some_bind, or_some_eq_getD, Swarm.deleteSeeder_or, Swarm.deleteLeecher_or,
        Option.map_some']
      rfl
  · rfl

theorem find_eq_getD (k : InfoHash) (e : Addr × UInt16) :
    st.find k e = ((st.swarms k).getD .empty).find e := by
  unfold Store.find
  cases st.swarms k <;> rfl

/-- A `put` whose change sets the entry of `p`'s endpoint to `v` and keeps the others sets that
entry in the swarm of its infohash alone. -/
theorem find_put (f : Swarm → Swarm) {p : Peer} {v : Option (Peer × Bool)}
    (hf : ∀ sw e, (f sw).find e = if p.endpoint = e then v else sw.find e) (ih k : InfoHash) :
    (Store.put f ih st).1.find k e =
      if k = ih then (if p.endpoint = e then v else st.find k e) else st.find k e := by
  by_cases hk : k = ih
  · subst hk
    simp only [find_eq_getD, Store.swarms_put, if_true, Option.getD_some, hf]
  · simp only [Store.find, Store.swarms_put, hk, if_false]

theorem find_stop (ih : InfoHash) (p : Peer) (k : InfoHash) :
    (memorySwarmHook.stop ih p st).1.find k e =
      if k = ih then (if p.endpoint = e then none else st.find k e) else st.find k e := by
  unfold Store.find
  rw [swarms_stop]
  by_cases hk : k = ih
  · subst hk
    cases st.swarms k <;> simp [Swarm.find_strip]
  · simp only [hk, if_false]

/-- Every `storeFn` of an announce sets the entry of the announcing endpoint in the swarm of its
infohash to `entryAfter`, and no other entry. -/
theorem find_storeFn (req : AnnounceRequest) (ih k : InfoHash) :
    (memorySwarmHook.storeFn req ih req.peer st).1.find k e =
      if k = ih then (if req.peer.endpoint = e then entryAfter req else st.find k e)
      else st.find k e := by
  unfold SwarmInteractionHook.storeFn
  by_cases hs : req.event = .stopped
  · rw [if_pos hs, entryAfter, if_pos hs]
    exact find_stop ih req.peer k
  by_cases hc : req.event = .completed
  · have hv : entryAfter req = some (req.peer, true) := by simp [entryAfter, hs, hc]
    rw [if_neg hs, if_pos hc, hv]
    exact find_put _ (fun _ _ => Swarm.find_graduateLeecher.trans Swarm.find_putSeeder) ih k
  by_cases hl : req.left = 0
  · have hv : entryAfter req = some (req.peer, true) := by simp [entryAfter, hs, hl]
    rw [if_neg hs, if_neg hc, if_pos hl, hv]
    exact find_put _ (fun _ _ => Swarm.find_putSeeder) ih k
  · have hv : entryAfter req = some (req.peer, false) := by simp [entryAfter, hs, hc, hl]
    rw [if_neg hs, if_neg hc, if_neg hl, hv]
    exact find_put _ (fun _ _ => Swarm.find_putLeecher) ih k

theorem snatches_eq_getD (k : InfoHash) : st.snatches k = ((st.swarms k).getD .empty).snatches := by
  unfold Store.snatches
  cases st.swarms k <;> rfl

/-- A `put` whose change adds `n` completions adds them to the swarm of its infohash alone. -/
theorem snatches_put (f : Swarm → Swarm) {n : ℕ} (hf : ∀ sw, (f sw).snatches = sw.snatches + n)
    (ih k : InfoHash) :
    (Store.put f ih st).1.snatches k = if k = ih then st.snatches k + n else st.snatches k := by
  by_cases hk : k = ih
  · subst hk
    simp only [snatches_eq_getD, Store.swarms_put, if_true, Option.getD_some, hf]
  · simp only [Store.snatches, Store.swarms_put, hk, if_false]

theorem snatches_stop (ih : InfoHash) (p : Peer) (k : InfoHash) :
    (memorySwarmHook.stop ih p st).1.snatches k = st.snatches k := by
  unfold Store.snatches
  rw [swarms_stop]
  split_ifs with hk
  · subst hk
    cases st.swarms k <;> rfl
  · rfl

/-- Only the `storeFn` of a `completed` announce counts a completion, in the swarm of its infohash. -/
theorem snatches_storeFn (req : AnnounceRequest) (ih k : InfoHash) :
    (memorySwarmHook.storeFn req ih req.peer st).1.snatches k =
      if k = ih then st.snatches k + (if req.event = .completed then 1 else 0)
      else st.snatches k := by
  unfold SwarmInteractionHook.storeFn
  by_cases hs : req.event = .stopped
  · have hc : req.event ≠ .completed := by rw [hs]; decide
    rw [if_pos hs, snatches_stop, if_neg hc]
    split_ifs <;> rfl
  by_cases hc : req.event = .completed
  · rw [if_neg hs, if_pos hc, if_pos hc]
    exact snatches_put _ (fun _ => rfl) ih k
  rw [if_neg hs, if_neg hc, if_neg hc]
  by_cases hl : req.left = 0
  · rw [if_pos hl]
    exact snatches_put (Swarm.putSeeder req.peer) (n := 0) (fun _ => rfl) ih k
  · rw [if_neg hl]
    exact snatches_put (Swarm.putLeecher req.peer) (n := 0) (fun _ => rfl) ih k

section Keys

variable {α : Type} (obs : Store → InfoHash → α) (g : α → α)

/-- What each `storeFn` of an announce changes by `g` at its own infohash and nowhere else,
`HandleAnnounce` changes by `g` at every infohash the announce reaches, and nowhere else. -/
theorem obs_handleAnnounce (ctx : Context) (req : AnnounceRequest)
    (h : ∀ ih st k, obs (memorySwarmHook.storeFn req ih req.peer st).1 k =
      if k = ih then g (obs st k) else obs st k) (st : Store) (k : InfoHash) :
    obs (memorySwarmHook.handleAnnounce ctx req st).1 k =
      if touches k (ctx, req) then g (obs st k) else obs st k := by
  have hok : ∀ ih (st : Store), (memorySwarmHook.storeFn req ih req.peer st).2 = none :=
    fun ih st => SwarmInteractionHook.storeFn_ok (peerStorage_localStore 0) req ih req.peer st
  obtain ⟨_ | _, _⟩ := ctx
  · unfold SwarmInteractionHook.handleAnnounce touches
    dsimp only
    by_cases hlen : req.infoHash.length = infoHashV2Len
    · have hne := InfoHash.truncateV1_ne hlen
      simp only [hok, hlen, and_self, if_true, h, true_and, Bool.false_eq_true, if_false]
      by_cases hk : k = req.infoHash
      · subst hk
        simp [hne.symm]
      · by_cases hk' : k = req.infoHash.truncateV1 <;> simp [hk, hk', hne]
    · simp only [hok, hlen, and_false, if_false, h, true_and, false_and, or_false, Bool.false_eq_true]
  · simp [SwarmInteractionHook.handleAnnounce, touches]

end Keys

/-- One announce sets the entry of its endpoint in every swarm it reaches, and no other entry. -/
theorem find_handleAnnounce (ctx : Context) (req : AnnounceRequest) (k : InfoHash) :
    (memorySwarmHook.handleAnnounce ctx req st).1.find k e =
      if touches k (ctx, req) ∧ req.peer.endpoint = e then entryAfter req else st.find k e := by
  rw [ite_and]
  exact obs_handleAnnounce (fun st k => st.find k e) _ ctx req (fun _ _ _ => find_storeFn req _ _) st k

/-- One announce counts a completion in every swarm it reaches when it is `completed`. -/
theorem snatches_handleAnnounce (ctx : Context) (req : AnnounceRequest) (k : InfoHash) :
    (memorySwarmHook.handleAnnounce ctx req st).1.snatches k =
      st.snatches k + if touches k (ctx, req) ∧ req.event = .completed then 1 else 0 := by
  rw [obs_handleAnnounce Store.snatches (· + if req.event = .completed then 1 else 0) ctx req
    (fun _ _ _ => snatches_storeFn req _ _) st k]
  split_ifs <;> simp_all

theorem run_append (reqs reqs' : List (Context × AnnounceRequest)) (st : Store) :
    memorySwarmHook.run (reqs ++ reqs') st = memorySwarmHook.run reqs' (memorySwarmHook.run reqs st) := by
  induction reqs generalizing st with
  | nil => rfl
  | cons r reqs ih => exact ih _

/-- After any run, the entry of an endpoint in a swarm is the one the last announce reaching the
swarm from that endpoint left; with no such announce, the entry before the run. -/
theorem find_run (reqs : List (Context × AnnounceRequest)) (st : Store) :
    (memorySwarmHook.run reqs st).find H e =
      ((lastFrom H e reqs).map (entryAfter ·.2)).getD (st.find H e) := by
  induction reqs generalizing st with
  | nil => rfl
  | cons r reqs ih =>
    obtain ⟨ctx, req⟩ := r
    rw [SwarmInteractionHook.run, ih, find_handleAnnounce]
    unfold lastFrom
    rw [List.filter_cons]
    by_cases ht : touches H (ctx, req) ∧ req.peer.endpoint = e
    · rw [if_pos ht, if_pos (decide_eq_true ht), List.getLast?_cons]
      cases (reqs.filter fun r => decide (touches H r ∧ r.2.peer.endpoint = e)).getLast? <;> rfl
    · rw [if_neg ht, if_neg (by simpa using ht)]

/-- A run adds to the snatches of a swarm one for each of its `completed` announces that reach it. -/
theorem snatches_run (reqs : List (Context × AnnounceRequest)) (st : Store) :
    (memorySwarmHook.run reqs st).snatches H =
      st.snatches H + (reqs.filter fun r => decide (touches H r ∧ r.2.event = .completed)).length := by
  induction reqs generalizing st with
  | nil => rfl
  | cons r reqs ih =>
    obtain ⟨ctx, req⟩ := r
    rw [SwarmInteractionHook.run, ih, snatches_handleAnnounce, List.filter_cons]
    by_cases ht : touches H (ctx, req) ∧ req.event = .completed
    · rw [if_pos ht, if_pos (decide_eq_true ht), List.length_cons]
      omega
    · rw [if_neg ht, if_neg (by simpa using ht), Nat.add_zero]

theorem entryAfter_eq_some_iff (req : AnnounceRequest) (q : Peer) (b : Bool) :
    entryAfter req = some (q, b) ↔
      req.peer = q ∧ req.event ≠ .stopped ∧ (b = true ↔ req.event = .completed ∨ req.left = 0) := by
  unfold entryAfter
  split_ifs with hs
  · simp [hs]
  · simp only [Option.some.injEq, Prod.mk.injEq, ne_eq, hs, not_false_eq_true, true_and]
    cases b <;> simp

/-- After any run from the empty store, an endpoint's entry in a swarm is the one its last announce
reaching the swarm left. -/
theorem find_run_empty_eq_some_iff (reqs : List (Context × AnnounceRequest)) (q : Peer) (b : Bool) :
    (memorySwarmHook.run reqs .empty).find H e = some (q, b) ↔
      ∃ r, lastFrom H e reqs = some r ∧ r.2.peer = q ∧ r.2.event ≠ .stopped ∧
        (b = true ↔ r.2.event = .completed ∨ r.2.left = 0) := by
  rw [find_run]
  cases lastFrom H e reqs with
  | none => simp [Store.find]
  | some r => simp only [Option.map_some', Option.getD_some, entryAfter_eq_some_iff, Option.some.injEq,
      exists_eq_left']

theorem mem_seeders_run_iff (reqs : List (Context × AnnounceRequest)) (q : Peer) :
    q ∈ (memorySwarmHook.run reqs .empty).seeders H ↔
      ∃ r, lastFrom H q.endpoint reqs = some r ∧ r.2.peer = q ∧ r.2.event ≠ .stopped ∧
        (r.2.event = .completed ∨ r.2.left = 0) := by
  rw [Store.mem_seeders_iff_find (wellFormed_run reqs Store.wellFormed_empty),
    find_run_empty_eq_some_iff]
  simp only [true_iff]

theorem mem_leechers_run_iff (reqs : List (Context × AnnounceRequest)) (q : Peer) :
    q ∈ (memorySwarmHook.run reqs .empty).leechers H ↔
      ∃ r, lastFrom H q.endpoint reqs = some r ∧ r.2.peer = q ∧ r.2.event ≠ .stopped ∧
        r.2.event ≠ .completed ∧ r.2.left ≠ 0 := by
  rw [Store.mem_leechers_iff_find (wellFormed_run reqs Store.wellFormed_empty),
    find_run_empty_eq_some_iff]
  simp only [Bool.false_eq_true, false_iff, not_or]

/-- After any run from the empty store, the seeders of a swarm are exactly the peers whose last
announce reaching it from their endpoint is their own, was not `stopped`, and was `completed` or had
`Left = 0`; the leechers, exactly those whose last such announce is their own and was none of these. -/
theorem mem_run_iff (reqs : List (Context × AnnounceRequest)) (H : InfoHash) (q : Peer) :
    let st := memorySwarmHook.run reqs .empty
    (q ∈ st.seeders H ↔ ∃ r, lastFrom H q.endpoint reqs = some r ∧ r.2.peer = q ∧
        r.2.event ≠ .stopped ∧ (r.2.event = .completed ∨ r.2.left = 0)) ∧
      (q ∈ st.leechers H ↔ ∃ r, lastFrom H q.endpoint reqs = some r ∧ r.2.peer = q ∧
        r.2.event ≠ .stopped ∧ r.2.event ≠ .completed ∧ r.2.left ≠ 0) :=
  ⟨mem_seeders_run_iff reqs q, mem_leechers_run_iff reqs q⟩

/-! ## Counters -/

/-- The distinct endpoints of a run's announces whose last announce reaching the swarm of `H` left
them seeding (`b = true`) or leeching (`b = false`). -/
def endpointsAfter (H : InfoHash) (b : Bool) (reqs : List (Context × AnnounceRequest)) :
    List (Addr × UInt16) :=
  (reqs.map (·.2.peer.endpoint)).dedup.filter fun e =>
    ((lastFrom H e reqs).bind (entryAfter ·.2)).map Prod.snd = some b

/-- An endpoint is listed exactly when its entry in the swarm after the run has the flag `b`. -/
theorem mem_endpointsAfter_iff (reqs : List (Context × AnnounceRequest)) (b : Bool) :
    e ∈ endpointsAfter H b reqs ↔ ∃ q, (memorySwarmHook.run reqs .empty).find H e = some (q, b) := by
  rw [find_run, endpointsAfter, List.mem_filter, List.mem_dedup]
  cases hl : lastFrom H e reqs with
  | none => simp [Store.find]
  | some r =>
    obtain ⟨hr, -, he⟩ := lastFrom_spec hl
    have hmem : e ∈ reqs.map (·.2.peer.endpoint) := List.mem_map.mpr ⟨r, hr, he⟩
    simp only [Option.map_some', Option.getD_some, Option.some_bind, hmem, true_and,
      decide_eq_true_eq]
    rcases entryAfter r.2 with _ | ⟨q, c⟩ <;> simp

/-- Peers that are exactly those whose entry after the run has the flag `b` have as many distinct
endpoints as `endpointsAfter` lists. -/
theorem length_endpoints_run {reqs : List (Context × AnnounceRequest)} {ps : List Peer} {b : Bool}
    (hps : ∀ q, q ∈ ps ↔ (memorySwarmHook.run reqs .empty).find H q.endpoint = some (q, b)) :
    (ps.map Peer.endpoint).dedup.length = (endpointsAfter H b reqs).length := by
  refine List.Perm.length_eq ((List.perm_ext_iff_of_nodup (List.nodup_dedup _)
    ((List.nodup_dedup _).filter _)).mpr fun e => ?_)
  rw [List.mem_dedup, Store.mem_map_endpoint_iff hps]
  exact (mem_endpointsAfter_iff reqs b).symm

/-- After any run from the empty store, `ScrapeSwarm` reports as leechers and as seeders of a swarm
the numbers of distinct endpoints whose last announce reaching it left them leeching or seeding, and
as snatches the number of its `completed` announces that reached it: what a scrape answers is a
function of each endpoint's last announce and of the completions alone. -/
theorem scrapeSwarm_run (reqs : List (Context × AnnounceRequest)) (H : InfoHash) :
    Store.scrapeSwarm H (memorySwarmHook.run reqs .empty) =
      (.ofNat (endpointsAfter H false reqs).length, .ofNat (endpointsAfter H true reqs).length,
        .ofNat (reqs.filter fun r => decide (touches H r ∧ r.2.event = .completed)).length) := by
  have hwf := wellFormed_run reqs Store.wellFormed_empty
  rw [Store.scrapeSwarm_eq hwf, Store.leecherCount, Store.seederCount,
    length_endpoints_run fun q => Store.mem_leechers_iff_find hwf,
    length_endpoints_run fun q => Store.mem_seeders_iff_find hwf, snatches_run,
    show Store.empty.snatches H = 0 from rfl, Nat.zero_add]

end Middleware
