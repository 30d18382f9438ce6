import Chihaya.Storage.Pg.Store
import Chihaya.Bittorrent.InfoHash

/-!
# The pg store's counts

`countPeers` of the pg peer store and its two callers, `ScrapeSwarm` and the statistics collector
of `ScheduleStatisticsCollection`. `countPeers` sends `CountQuery`, followed by `ByInfoHashClause`
for any infohash but `NoneInfoHash`; when the result has a row, it finds the configured
`CountSeedersColumn` and `CountLeechersColumn` among the upper-cased column names and scans the
first row's two values into `seeders` and `leechers`. It returns `(leechers, seeders)`, in that
order, and only logs its error.

Both callers read that pair as `sc, lc`: `ScrapeSwarm` then returns the seeders count as its
leechers and the leechers count as its seeders, and the collector publishes the leechers count as
the seeder gauge and the seeders count as the leecher gauge.

The database is a function from a query's text and arguments to what the query returns. A row is
what `rows.Scan` reads from it: the column values, or the scan's error, on which both counts stay
zero.

## Main results

* `countPeers_of_columns`: with each count column named once in the result, `countPeers` returns
  the values of the leechers and of the seeders column, in that order;
* `scrapeSwarm_of_columns`, `statisticsTick_of_columns`: `ScrapeSwarm` and the collector report
  those two values the other way round;
* `countPeers_same_columns`: with the two count columns named alike, which `Validate` accepts,
  `countPeers` never counts;
* `scrapeSwarm_swaps_counts`: the swap on a result of one seeder and two leechers.
-/

namespace Pg

open Bittorrent Strings

/-- What a count query returns: the names of its columns, and its first row as `rows.Scan` reads it
(one value per column, or the scan's error), `none` when it returned no row. -/
structure CountResult where
  /-- The names of `rows.FieldDescriptions()`. -/
  fields : List String
  /-- The first row. -/
  firstRow : Option (Except Error (List ℤ))

/-- The text and the arguments of `countPeers`'s query: `CountQuery` alone for `NoneInfoHash`, and
otherwise followed by `ByInfoHashClause`, with the infohash's bytes. -/
def countQuery (p : PeerConfig) (ih : InfoHash) : String × List (List UInt8) :=
  if ih = noneInfoHash then (p.countQuery, [])
  else (p.countQuery ++ " " ++ p.byInfoHashClause, [ih.raw])

/-- The column lookup of `countPeers`, from column `i` on: a column's upper-cased name is switched
on `CountSeedersColumn`, then `CountLeechersColumn`, and the first case that is equal takes the
column's index. -/
def lookupCountColumns (p : PeerConfig) : ℕ → List String → ℤ × ℤ → ℤ × ℤ
  | _, [], idx => idx
  | i, field :: fields, idx =>
    let name := toUpper field
    lookupCountColumns p (i + 1) fields
      (if name = p.countSeedersColumn then (i, idx.2)
        else if name = p.countLeechersColumn then (idx.1, i)
        else idx)

/-- `countPeers`, over the database `query`: the leechers and the seeders it returns, in that
order, and the error it logs. -/
def Store.countPeers (s : Store) (query : String → List (List UInt8) → Except Error CountResult)
    (ih : InfoHash) : ℤ × ℤ × Option Error :=
  let q := countQuery s.config.peer ih
  match query q.1 q.2 with
  | .error e => (0, 0, some e)
  | .ok ⟨_, none⟩ => (0, 0, none)
  | .ok ⟨fields, some row⟩ =>
    let idx := lookupCountColumns s.config.peer 0 fields (-1, -1)
    if idx.1 < 0 ∨ idx.2 < 0 then
      (0, 0, some (.errRequiredColumnsNotFound
        [s.config.peer.countSeedersColumn, s.config.peer.countLeechersColumn]))
    else
      match row with
      | .error e => (0, 0, some e)
      | .ok values => (values.getD idx.2.toNat 0, values.getD idx.1.toNat 0, none)

/-- `uint32(x)`: Go's conversion, modulo `2 ^ 32`. -/
def toUint32 (x : ℤ) : UInt32 := UInt32.ofNat (x % 4294967296).toNat

/-- `ScrapeSwarm`: `sc, lc := s.countPeers(ih)`, then `seeders, leechers = uint32(sc), uint32(lc)`,
returned as `(leechers, seeders, snatched)` with no snatches. -/
def Store.scrapeSwarm (s : Store) (query : String → List (List UInt8) → Except Error CountResult)
    (ih : InfoHash) : UInt32 × UInt32 × UInt32 :=
  let (sc, lc, _) := s.countPeers query ih
  let seeders := toUint32 sc
  let leechers := toUint32 lc
  (leechers, seeders, 0)

/-- The three gauges the statistics collector sets, with the integers it converts to `float64`. -/
@[ext] structure Gauges where
  /-- `PromInfoHashesCount`: the number of infohashes published. -/
  infoHashes : ℤ
  /-- `PromSeedersCount`: the number of seeders published. -/
  seeders : ℤ
  /-- `PromLeechersCount`: the number of leechers published. -/
  leechers : ℤ
  deriving DecidableEq

/-- What one tick of the collector reads: whether `metrics.Enabled()`, the database, and what
`row.Scan(&hc)` reads from the row of `InfoHashCountQuery`. -/
structure Tick where
  /-- `metrics.Enabled()`: whether the tick publishes anything. -/
  enabled : Bool
  /-- The database at the tick. -/
  query : String → List (List UInt8) → Except Error CountResult
  /-- The info-hash count, or the error of its scan. -/
  infoHashCount : Except Error ℤ

/-- One tick of the goroutine of `ScheduleStatisticsCollection`: with metrics enabled,
`sc, lc := s.countPeers(bittorrent.NoneInfoHash)`, `hc` from the info-hash count row (`0` when it
does not scan), and the three gauges set to `hc`, `sc` and `lc`. -/
def Store.statisticsTick (s : Store) (g : Gauges) (t : Tick) : Gauges :=
  if t.enabled then
    let (sc, lc, _) := s.countPeers t.query noneInfoHash
    let hc := match t.infoHashCount with
      | .ok n => n
      | .error _ => 0
    ⟨hc, sc, lc⟩
  else g

/-- The goroutine of `ScheduleStatisticsCollection`, over the ticks it sees before the store
closes. -/
def Store.scheduleStatisticsCollection (s : Store) (ticks : List Tick) (g : Gauges) : Gauges :=
  ticks.foldl s.statisticsTick g

section Samples

/-- A config whose count columns are `seeders` and `leechers`. -/
def countConfig : Config :=
  { sampleConfig "peer_id" "ip" "port" with
    peer := ⟨"q", "q", "q", "q", "seeders", "leechers", "q"⟩ }

/-- A database whose count query returns the columns `seeders` and `leechers`, with `seeders`
and `leechers` in its first row. -/
def countDb (seeders leechers : ℤ) (_ : String) (_ : List (List UInt8)) :
    Except Error CountResult :=
  .ok ⟨["seeders", "leechers"], some (.ok [seeders, leechers])⟩

end Samples

section Lookup

variable {p : PeerConfig}

theorem fst_lookupCountColumns_of_not_mem {fields : List String}
    (h : p.countSeedersColumn ∉ fields.map toUpper) (i : ℕ) (idx : ℤ × ℤ) :
    (lookupCountColumns p i fields idx).1 = idx.1 := by
  induction fields generalizing i idx with
  | nil => rfl
  | cons field fields ih =>
    rw [List.map_cons, List.mem_cons, not_or] at h
    rw [lookupCountColumns, ih h.2, if_neg (Ne.symm h.1)]
    split_ifs <;> rfl

theorem snd_lookupCountColumns_of_not_mem {fields : List String}
    (h : p.countLeechersColumn ∉ fields.map toUpper) (i : ℕ) (idx : ℤ × ℤ) :
    (lookupCountColumns p i fields idx).2 = idx.2 := by
  induction fields generalizing i idx with
  | nil => rfl
  | cons field fields ih =>
    rw [List.map_cons, List.mem_cons, not_or] at h
    rw [lookupCountColumns, ih h.2]
    split_ifs with h₁ h₂
    · rfl
    · exact absurd h₂.symm h.1
    · rfl

/-- With `CountSeedersColumn` once among the upper-cased names, the lookup finds its index. -/
theorem fst_lookupCountColumns {fields : List String}
    (h : (fields.map toUpper).count p.countSeedersColumn = 1) (i : ℕ) (idx : ℤ × ℤ) :
    (lookupCountColumns p i fields idx).1 =
      ((i + (fields.map toUpper).indexOf p.countSeedersColumn : ℕ) : ℤ) := by
  induction fields generalizing i idx with
  | nil => simp at h
  | cons field fields ih =>
    rw [lookupCountColumns]
    by_cases hf : toUpper field = p.countSeedersColumn
    · rw [List.map_cons, hf, List.count_cons_self, add_left_eq_self, List.count_eq_zero] at h
      rw [fst_lookupCountColumns_of_not_mem h, if_pos hf, List.map_cons, hf, List.indexOf_cons_self]
      rfl
    · rw [List.map_cons, List.count_cons_of_ne (Ne.symm hf)] at h
      rw [ih h, List.map_cons, List.indexOf_cons_ne _ hf]
      omega

/-- With `CountLeechersColumn` once among the upper-cased names, and apart from
`CountSeedersColumn`, the lookup finds its index. -/
theorem snd_lookupCountColumns {fields : List String} (hne : p.countSeedersColumn ≠ p.countLeechersColumn)
    (h : (fields.map toUpper).count p.countLeechersColumn = 1) (i : ℕ) (idx : ℤ × ℤ) :
    (lookupCountColumns p i fields idx).2 =
      ((i + (fields.map toUpper).indexOf p.countLeechersColumn : ℕ) : ℤ) := by
  induction fields generalizing i idx with
  | nil => simp at h
  | cons field fields ih =>
    rw [lookupCountColumns]
    by_cases hf : toUpper field = p.countLeechersColumn
    · rw [List.map_cons, hf, List.count_cons_self, add_left_eq_self, List.count_eq_zero] at h
      rw [snd_lookupCountColumns_of_not_mem h, if_neg fun h' => hne (h'.symm.trans hf), if_pos hf,
        List.map_cons, hf, List.indexOf_cons_self]
      rfl
    · rw [List.map_cons, List.count_cons_of_ne (Ne.symm hf)] at h
      rw [ih h, List.map_cons, List.indexOf_cons_ne _ hf]
      omega

/-- With the two count columns named alike, the lookup never finds the leechers column: a name
equal to it is taken by the seeders case, which comes first. -/
theorem snd_lookupCountColumns_of_eq (heq : p.countSeedersColumn = p.countLeechersColumn)
    (i : ℕ) (fields : List String) (idx : ℤ × ℤ) :
    (lookupCountColumns p i fields idx).2 = idx.2 := by
  induction fields generalizing i idx with
  | nil => rfl
  | cons field fields ih =>
    rw [lookupCountColumns, ih]
    split_ifs with h₁ h₂
    · rfl
    · exact absurd (h₂.trans heq.symm) h₁
    · rfl

end Lookup

section Counts

variable {s : Store} {query : String → List (List UInt8) → Except Error CountResult} {ih : InfoHash}
  {fields : List String} {values : List ℤ}

/-- With each count column named once among the upper-cased names of the result, `countPeers`
returns the values of the leechers column and of the seeders column, in that order. -/
theorem countPeers_of_columns
    (hq : query (countQuery s.config.peer ih).1 (countQuery s.config.peer ih).2 =
      .ok ⟨fields, some (.ok values)⟩)
    (hne : s.config.peer.countSeedersColumn ≠ s.config.peer.countLeechersColumn)
    (hs : (fields.map toUpper).count s.config.peer.countSeedersColumn = 1)
    (hl : (fields.map toUpper).count s.config.peer.countLeechersColumn = 1) :
    s.countPeers query ih =
      (values.getD ((fields.map toUpper).indexOf s.config.peer.countLeechersColumn) 0,
        values.getD ((fields.map toUpper).indexOf s.config.peer.countSeedersColumn) 0, none) := by
  unfold Store.countPeers
  simp only [hq, fst_lookupCountColumns hs, snd_lookupCountColumns hne hl, zero_add, Int.toNat_ofNat]
  rw [if_neg (by omega)]

/-- `ScrapeSwarm` returns the value of the seeders column as its leechers, and that of the
leechers column as its seeders. -/
theorem scrapeSwarm_of_columns
    (hq : query (countQuery s.config.peer ih).1 (countQuery s.config.peer ih).2 =
      .ok ⟨fields, some (.ok values)⟩)
    (hne : s.config.peer.countSeedersColumn ≠ s.config.peer.countLeechersColumn)
    (hs : (fields.map toUpper).count s.config.peer.countSeedersColumn = 1)
    (hl : (fields.map toUpper).count s.config.peer.countLeechersColumn = 1) :
    s.scrapeSwarm query ih =
      (toUint32 (values.getD ((fields.map toUpper).indexOf s.config.peer.countSeedersColumn) 0),
        toUint32 (values.getD ((fields.map toUpper).indexOf s.config.peer.countLeechersColumn) 0),
        0) := by
  unfold Store.scrapeSwarm
  rw [countPeers_of_columns hq hne hs hl]

/-- A tick with metrics enabled publishes the value of the leechers column as the seeder gauge, and
that of the seeders column as the leecher gauge. -/
theorem statisticsTick_of_columns {t : Tick} (he : t.enabled = true)
    (hq : t.query (countQuery s.config.peer noneInfoHash).1 (countQuery s.config.peer noneInfoHash).2 =
      .ok ⟨fields, some (.ok values)⟩)
    (hne : s.config.peer.countSeedersColumn ≠ s.config.peer.countLeechersColumn)
    (hs : (fields.map toUpper).count s.config.peer.countSeedersColumn = 1)
    (hl : (fields.map toUpper).count s.config.peer.countLeechersColumn = 1) (g : Gauges) :
    (s.statisticsTick g t).seeders =
        values.getD ((fields.map toUpper).indexOf s.config.peer.countLeechersColumn) 0 ∧
      (s.statisticsTick g t).leechers =
        values.getD ((fields.map toUpper).indexOf s.config.peer.countSeedersColumn) 0 := by
  unfold Store.statisticsTick
  rw [if_pos he, countPeers_of_columns hq hne hs hl]
  exact ⟨rfl, rfl⟩

/-- With the two count columns named alike, `countPeers` logs `errRequiredColumnsNotFound` for
every result with a row, and counts nothing. -/
theorem countPeers_same_columns
    (heq : s.config.peer.countSeedersColumn = s.config.peer.countLeechersColumn)
    {row : Except Error (List ℤ)}
    (hq : query (countQuery s.config.peer ih).1 (countQuery s.config.peer ih).2 =
      .ok ⟨fields, some row⟩) :
    s.countPeers query ih = (0, 0, some (.errRequiredColumnsNotFound
      [s.config.peer.countSeedersColumn, s.config.peer.countLeechersColumn])) := by
  unfold Store.countPeers
  simp only [hq, snd_lookupCountColumns_of_eq heq]
  rw [if_pos (.inr (by decide))]

/-- Count columns both named `N`: a result with a row counts nothing. -/
theorem countPeers_same_columns_sample :
    let s : Store := ⟨{ countConfig with peer := ⟨"q", "q", "q", "q", "N", "N", "q"⟩ }⟩
    let q := countQuery s.config.peer ⟨List.replicate 20 7⟩
    s.config.peer.countSeedersColumn = s.config.peer.countLeechersColumn ∧
      countDb 1 2 q.1 q.2 = .ok ⟨["seeders", "leechers"], some (.ok [1, 2])⟩ ∧
      s.countPeers (countDb 1 2) ⟨List.replicate 20 7⟩ = (0, 0, some (.errRequiredColumnsNotFound
        [s.config.peer.countSeedersColumn, s.config.peer.countLeechersColumn])) :=
  ⟨rfl, rfl, countPeers_same_columns rfl rfl⟩

end Counts

/-- Over a store with a validated config and a result of one seeder and two leechers,
`ScrapeSwarm` returns one leecher and two seeders, and the collector publishes two seeders and one
leecher. -/
theorem scrapeSwarm_swaps_counts :
    countConfig.validate.2 = none ∧
      (Store.mk countConfig.validate.1).scrapeSwarm (countDb 1 2) ⟨List.replicate 20 7⟩ =
        (1, 2, 0) ∧
      (Store.mk countConfig.validate.1).statisticsTick ⟨0, 0, 0⟩ ⟨true, countDb 1 2, .ok 1⟩ =
        ⟨1, 2, 1⟩ := by
  -- The validated config names the columns `SEEDERS` and `LEECHERS`, each once in the result.
  have hq : countDb 1 2 (countQuery countConfig.validate.1.peer ⟨List.replicate 20 7⟩).1
      (countQuery countConfig.validate.1.peer ⟨List.replicate 20 7⟩).2 =
      .ok ⟨["seeders", "leechers"], some (.ok [1, 2])⟩ := rfl
  have hne : countConfig.validate.1.peer.countSeedersColumn ≠
      countConfig.validate.1.peer.countLeechersColumn := by decide
  have hs : (["seeders", "leechers"].map toUpper).count
      countConfig.validate.1.peer.countSeedersColumn = 1 := by decide
  have hl : (["seeders", "leechers"].map toUpper).count
      countConfig.validate.1.peer.countLeechersColumn = 1 := by decide
  obtain ⟨hsd, hlc⟩ := statisticsTick_of_columns (s := ⟨countConfig.validate.1⟩)
    (t := ⟨true, countDb 1 2, .ok 1⟩) rfl rfl hne hs hl ⟨0, 0, 0⟩
  refine ⟨by decide, ?_, ?_⟩
  · rw [scrapeSwarm_of_columns (s := ⟨countConfig.validate.1⟩) hq hne hs hl]
    decide
  · ext
    · rfl
    · rw [hsd]; decide
    · rw [hlc]; decide

end Pg
