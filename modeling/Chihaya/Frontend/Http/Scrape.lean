import Chihaya.Middleware.Hooks

/-!
# HTTP scrape responses

`WriteScrapeResponse` of the HTTP frontend (`unnamed/part_001`) builds a Go map `filesDict`, keyed
by the raw bytes of each scrape's infohash, whose value is the scrape's `{complete, incomplete}`
dictionary, and encodes `{files: filesDict}`. As for announces, the model stops at the dictionary
handed to the encoder.

A Go map holds each key once and assigning to a present key replaces its value; it has no order (the
bencode encoder writes a dictionary's keys sorted). `GoMap` keeps its entries with distinct keys as
a field, and the results are stated through `GoMap.lookup` and up to permutation of the keys.

So the files dictionary has one entry per distinct infohash of the response, the one of the last
scrape of that infohash, and the completions (`Snatches`) are never written. For a scrape request
that the response hook answers, a repeated infohash collapses to one entry, and every entry holds the
counters `ScrapeSwarm` reported for its infohash.

## Main results

* `lookup_set`: assignment to a Go map;
* `writeScrapeResponse_files`: the keys of the files dictionary are the distinct infohashes of the
  response, and each holds the counters of the last scrape of it;
* `writeScrapeResponse_handleScrape`: for any request the response hook answers, the keys are the
  distinct requested infohashes, each holding the counters of its scrape.
-/

namespace Http

open Bittorrent Middleware

/-- A Go `map[K]V`, as its entries with distinct keys. -/
structure GoMap (K V : Type) where
  /-- The entries, in no meaningful order. -/
  entries : List (K × V)
  /-- A key is held once. -/
  nodup_keys : (entries.map Prod.fst).Nodup

namespace GoMap

variable {K V : Type} [DecidableEq K]

/-- `make(map[K]V)`. -/
def empty : GoMap K V := ⟨[], List.nodup_nil⟩

/-- The keys of a map. -/
def keys (m : GoMap K V) : List K := m.entries.map Prod.fst

/-- `m[k]`, with `none` for a missing key. -/
def lookup (m : GoMap K V) (k : K) : Option V := (m.entries.find? (·.1 = k)).map Prod.snd

theorem nodup_cons_filter {es : List (K × V)} (h : (es.map Prod.fst).Nodup) (k : K) (v : V) :
    (((k, v) :: es.filter fun e => e.1 ≠ k).map Prod.fst).Nodup := by
  refine List.nodup_cons.mpr ⟨?_, ((List.filter_sublist _).map _).nodup h⟩
  simp

/-- `m[k] = v`: the entry of `k` replaced, or added. -/
def set (m : GoMap K V) (k : K) (v : V) : GoMap K V :=
  ⟨(k, v) :: m.entries.filter (fun e => e.1 ≠ k), nodup_cons_filter m.nodup_keys k v⟩

@[simp] theorem lookup_empty (k : K) : (empty : GoMap K V).lookup k = none := rfl

theorem lookup_set (m : GoMap K V) (k k' : K) (v : V) :
    (m.set k v).lookup k' = if k = k' then some v else m.lookup k' := by
  unfold set lookup
  split_ifs with h
  · simp [h]
  · simp only [List.find?_cons, h, decide_False, List.find?_filter]
    congr 2
    funext e
    by_cases he : e.1 = k'
    · simp [he, Ne.symm h]
    · simp [he]

/-- A key is in a map exactly when the map holds a value for it. -/
theorem mem_keys_iff (m : GoMap K V) (k : K) : k ∈ m.keys ↔ (m.lookup k).isSome := by
  simp [keys, lookup, List.find?_isSome]

/-- A loop that assigns `g x` to the key `f x` for each `x` in turn leaves, at each key, the value of
the last `x` with that key, or the value it had before. -/
theorem lookup_foldl_set {α : Type} (f : α → K) (g : α → V) (xs : List α) (m : GoMap K V) (k : K) :
    (xs.foldl (fun m x => m.set (f x) (g x)) m).lookup k =
      (((xs.filter fun x => f x = k).getLast?).map g).or (m.lookup k) := by
  induction xs generalizing m with
  | nil => rfl
  | cons x xs ih =>
    rw [List.foldl_cons, ih, lookup_set, List.filter_cons]
    by_cases hx : f x = k
    · rw [if_pos hx, if_pos (decide_eq_true hx), List.getLast?_cons]
      cases (xs.filter fun x => f x = k).getLast? <;> rfl
    · rw [if_neg hx, if_neg (by simpa using hx)]

/-- The keys such a loop leaves, from the empty map, are the distinct keys it assigned. -/
theorem keys_foldl_set_perm {α : Type} (f : α → K) (g : α → V) (xs : List α) :
    (xs.foldl (fun m x => m.set (f x) (g x)) empty).keys.Perm (xs.map f).dedup := by
  refine (List.perm_ext_iff_of_nodup (xs.foldl _ empty).nodup_keys (List.nodup_dedup _)).mpr
    fun k => ?_
  have hk := mem_keys_iff (xs.foldl (fun m x => m.set (f x) (g x)) empty) k
  rw [keys] at hk
  rw [hk, lookup_foldl_set, List.mem_dedup, lookup_empty, Option.or_none, Option.isSome_map',
    Option.isSome_iff_ne_none, Ne, List.getLast?_eq_none_iff, List.filter_eq_nil_iff]
  simp [List.mem_map]

end GoMap

/-- The `{complete, incomplete}` dictionary of one scrape. -/
def scrapeDict (scrape : Scrape) : List (String × UInt32) :=
  [("complete", scrape.complete), ("incomplete", scrape.incomplete)]

/-- The loop of `WriteScrapeResponse`: each scrape's raw infohash set to its dictionary. -/
def filesDict (files : List Scrape) : GoMap (List UInt8) (List (String × UInt32)) :=
  files.foldl (fun d scrape => d.set scrape.infoHash.raw (scrapeDict scrape)) .empty

/-- `WriteScrapeResponse`, up to the dictionary it encodes. -/
def writeScrapeResponse (resp : ScrapeResponse) :
    List (String × GoMap (List UInt8) (List (String × UInt32))) :=
  [("files", filesDict resp.files)]

/-- The files dictionary of any scrape response has one key per distinct infohash of the response,
and each key holds the `{complete, incomplete}` dictionary of the last scrape of that infohash; any
other key holds nothing. -/
theorem writeScrapeResponse_files (resp : ScrapeResponse) :
    ∃ files, writeScrapeResponse resp = [("files", files)] ∧
      files.keys.Perm (resp.files.map (·.infoHash.raw)).dedup ∧
      ∀ k, files.lookup k =
        ((resp.files.filter fun s => s.infoHash.raw = k).getLast?).map scrapeDict :=
  ⟨_, rfl, GoMap.keys_foldl_set_perm _ _ _, fun k => by
    rw [filesDict, GoMap.lookup_foldl_set, GoMap.lookup_empty, Option.or_none]⟩

section Hook

variable {σ : Type} (h : ResponseHook σ)

theorem infoHash_scrape (st : σ) (ih : InfoHash) : (h.scrape st ih).infoHash = ih := by
  unfold ResponseHook.scrape
  split_ifs <;> rfl

/-- For any scrape request that the response hook answers, over any store, the files dictionary has
one key per distinct requested infohash, and each holds the counters of that infohash's scrape: a
repeated infohash is written once. -/
theorem writeScrapeResponse_handleScrape {ctx : Context} (hctx : ctx.skipResponseHook = false)
    (req : ScrapeRequest) (st : σ) :
    let files := filesDict (h.handleScrape ctx req ⟨[]⟩ st).files
    files.keys.Perm (req.infoHashes.map InfoHash.raw).dedup ∧
      ∀ ih ∈ req.infoHashes, files.lookup ih.raw = some (scrapeDict (h.scrape st ih)) := by
  have hfiles : (h.handleScrape ctx req ⟨[]⟩ st).files = req.infoHashes.map (h.scrape st) := by
    simp [ResponseHook.handleScrape, hctx]
  have hraw : (fun s : Scrape => s.infoHash.raw) ∘ h.scrape st = InfoHash.raw := by
    funext ih
    simp [infoHash_scrape]
  refine ⟨?_, fun ih hih => ?_⟩
  · have hperm := GoMap.keys_foldl_set_perm (fun s : Scrape => s.infoHash.raw) scrapeDict
      (req.infoHashes.map (h.scrape st))
    rwa [List.map_map, hraw, ← hfiles] at hperm
  · -- The scrapes under `ih`'s key are those of `ih`: one per occurrence, so the last is its own.
    have hkey : (fun s : Scrape => decide (s.infoHash.raw = ih.raw)) ∘ h.scrape st =
        fun i => decide (i = ih) := by
      funext ⟨r⟩
      cases ih
      simp [infoHash_scrape]
    rw [filesDict, hfiles, GoMap.lookup_foldl_set, GoMap.lookup_empty, Option.or_none,
      List.filter_map, hkey, List.filter_eq, List.getLast?_map, List.getLast?_replicate,
      if_neg (List.count_pos_iff.mpr hih).ne']
    rfl

/-- A request that names one infohash twice, answered over the empty in-memory store: one entry. -/
theorem writeScrapeResponse_handleScrape_repeated :
    let h : ResponseHook Memory.Store := ⟨Memory.peerStorage 0⟩
    let ctx : Context := ⟨false, false⟩
    let req : ScrapeRequest := ⟨[⟨List.replicate 20 7⟩, ⟨List.replicate 20 7⟩]⟩
    let files := filesDict (h.handleScrape ctx req ⟨[]⟩ .empty).files
    ctx.skipResponseHook = false ∧
      (files.keys.Perm (req.infoHashes.map InfoHash.raw).dedup ∧
        ∀ ih ∈ req.infoHashes, files.lookup ih.raw = some (scrapeDict (h.scrape .empty ih))) :=
  ⟨rfl, writeScrapeResponse_handleScrape _ rfl _ _⟩

end Hook

end Http
