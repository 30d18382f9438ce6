import Chihaya.Middleware.AppendPeers
import Mathlib.Algebra.Order.Ring.Rat

/-!
# The varinterval hook

The hook of `varinterval` lengthens announce intervals. `checkConfig` accepts a `Config` whose
`ModifyResponseProbability` is in `(0, 1]` and whose `MaxIncreaseDelta` is positive; a NaN
probability fails both comparisons, so it is accepted too. `HandleAnnounce` derives two 64-bit
words of entropy from the request's infohash and peer ID, draws a value below `1 << 24` from them
as a probability, and when that is below `ModifyResponseProbability`, or that is `1`, draws `v`
below `MaxIncreaseDelta` and adds `time.Duration(v+1) * time.Second` to `Interval`, and to
`MinInterval` when `ModifyMinInterval` is set.

`random.Intn` is not among the sources. The hook is modelled for any generator `intn`, and the
results assume only its contract, `IntnContract`: for `n > 0` it returns a value in `[0, n)`.

The increase is an `int64` product, so it wraps: it is `v + 1` seconds only while `v + 1` is at
most `9223372036`, and `checkConfig` admits every positive `MaxIncreaseDelta`.

## Main results

* `checkConfig_eq_none_iff`: the configs `checkConfig` accepts, NaN among them;
* `ns_increase_eq_wrap`, `ns_increase`: the increase is `(v + 1) * 10 ^ 9` nanoseconds wrapped
  into `int64`, which is `v + 1` seconds when `v + 1 ≤ 9223372036`;
* `handleAnnounce_adds_seconds`: below that bound the hook keeps the promise of
  `MaxIncreaseDelta`: it leaves the response as it is, or adds the same `1` to `MaxIncreaseDelta`
  seconds to `Interval` and, exactly when `ModifyMinInterval` is set, to `MinInterval`;
* `handleAnnounce_interval_wraps`: with `MaxIncreaseDelta = 10 ^ 10`, the hook lowers a
  30-minute interval.
-/

namespace Random

open Bittorrent

/-- `DeriveEntropyFromRequest`: the sums, wrapping as `uint64`s do, of the two big-endian words of
the infohash's first sixteen bytes (`0` for an infohash shorter than twenty bytes) and of the two of
the peer ID's. -/
def deriveEntropyFromRequest (req : AnnounceRequest) : UInt64 × UInt64 :=
  (if infoHashV1Len ≤ req.infoHash.length then
      BigEndian.uint64 (req.infoHash.raw.take 8) + BigEndian.uint64 ((req.infoHash.raw.drop 8).take 8)
    else 0,
    BigEndian.uint64 (req.peer.id.toList.take 8) +
      BigEndian.uint64 ((req.peer.id.toList.drop 8).take 8))

/-- The contract of `random.Intn(s0, s1, n)`: for `n > 0`, the value it returns is in `[0, n)`. -/
def IntnContract (intn : UInt64 → UInt64 → ℤ → ℤ × UInt64 × UInt64) : Prop :=
  ∀ s0 s1 n, 0 < n → 0 ≤ (intn s0 s1 n).1 ∧ (intn s0 s1 n).1 < n

end Random

namespace VarInterval

open Bittorrent Time Random

/-- Go's `float32`, as the hook compares it: NaN or a finite value. The infinities, which
`checkConfig` rejects, are left out. -/
inductive Float32 where
  | nan
  | finite (x : ℚ)
  deriving DecidableEq

namespace Float32

/-- `<`, false when a side is NaN. -/
def lt : Float32 → Float32 → Bool
  | finite x, finite y => decide (x < y)
  | _, _ => false

/-- `<=`, false when a side is NaN. -/
def le : Float32 → Float32 → Bool
  | finite x, finite y => decide (x ≤ y)
  | _, _ => false

/-- `==`, false when a side is NaN. -/
def beq : Float32 → Float32 → Bool
  | finite x, finite y => decide (x = y)
  | _, _ => false

end Float32

/-- `Config`. -/
structure Config where
  /-- `ModifyResponseProbability`: the probability that a response is modified. -/
  modifyResponseProbability : Float32
  /-- `MaxIncreaseDelta`: the most seconds added. -/
  maxIncreaseDelta : ℤ
  /-- `ModifyMinInterval`: whether `MinInterval` is increased as well. -/
  modifyMinInterval : Bool
  deriving DecidableEq

/-- `checkConfig`: `ErrInvalidModifyResponseProbability` for a probability at most `0` or above `1`,
then `ErrInvalidMaxIncreaseDelta` for a `MaxIncreaseDelta` at most `0`. -/
def checkConfig (cfg : Config) : Option Error :=
  if cfg.modifyResponseProbability.le (.finite 0) || (Float32.finite 1).lt cfg.modifyResponseProbability
  then some .errInvalidModifyResponseProbability
  else if cfg.maxIncreaseDelta ≤ 0 then some .errInvalidMaxIncreaseDelta
  else none

/-- `float32(v) / (1 << 24)`, exact for the values `random.Intn(s0, s1, 1<<24)` returns. -/
def fraction (v : ℤ) : Float32 := .finite (Rat.divInt v 16777216)

/-- `time.Duration(v+1) * time.Second`, wrapping as `int64` arithmetic does. -/
def increase (v : ℤ) : Duration := Duration.ofInt (v + 1) * Duration.second

/-- `hook.HandleAnnounce`, with `random.Intn` as `intn`; the error it returns is always nil. -/
def handleAnnounce (intn : UInt64 → UInt64 → ℤ → ℤ × UInt64 × UInt64) (cfg : Config)
    (req : AnnounceRequest) (resp : AnnounceResponse) : AnnounceResponse :=
  let (s0, s1) := deriveEntropyFromRequest req
  let (v, s0, s1) := intn s0 s1 16777216
  let p := fraction v
  if cfg.modifyResponseProbability.beq (.finite 1) || p.lt cfg.modifyResponseProbability then
    let add := increase (intn s0 s1 cfg.maxIncreaseDelta).1
    let resp := { resp with interval := resp.interval + add }
    if cfg.modifyMinInterval then { resp with minInterval := resp.minInterval + add } else resp
  else resp

/-- `checkConfig` accepts a NaN probability, and a finite one in `(0, 1]`, with a positive
`MaxIncreaseDelta`. -/
theorem checkConfig_eq_none_iff (cfg : Config) :
    checkConfig cfg = none ↔
      (cfg.modifyResponseProbability = .nan ∨
        ∃ x, cfg.modifyResponseProbability = .finite x ∧ 0 < x ∧ x ≤ 1) ∧
      0 < cfg.maxIncreaseDelta := by
  obtain ⟨_ | x, max, _⟩ := cfg
  · simp [checkConfig, Float32.le, Float32.lt]
  · have hx : (x ≤ 0 ∨ 1 < x) ↔ ¬(0 < x ∧ x ≤ 1) := by rw [not_and_or, not_lt, not_le]
    by_cases h : 0 < x ∧ x ≤ 1
    · simp [checkConfig, Float32.le, Float32.lt, hx, h]
    · simp [checkConfig, Float32.le, Float32.lt, if_pos (hx.mpr h), h]

/-- The increase is `(v + 1) * 10 ^ 9` nanoseconds, wrapped into `int64`. -/
theorem ns_increase_eq_wrap (v : ℤ) : (increase v).ns = wrap ((v + 1) * 1000000000) := by
  show wrap (wrap (v + 1) * 1000000000) = _
  unfold wrap
  omega

/-- While `v + 1 ≤ 9223372036`, the increase is `v + 1` seconds. -/
theorem ns_increase {v : ℤ} (h0 : 0 ≤ v) (h : v + 1 ≤ 9223372036) :
    (increase v).ns = (v + 1) * 1000000000 := by
  rw [ns_increase_eq_wrap]
  unfold wrap
  omega

section Samples

open Middleware

/-- A generator that meets `IntnContract`: the sum of the two words modulo `n`, with the words
unchanged. -/
def sampleIntn (s0 s1 : UInt64) (n : ℤ) : ℤ × UInt64 × UInt64 :=
  ((s0.toNat + s1.toNat : ℤ) % n, s0, s1)

theorem intnContract_sampleIntn : IntnContract sampleIntn :=
  fun _ _ _ hn => ⟨Int.emod_nonneg _ hn.ne', Int.emod_lt_of_pos _ hn⟩

/-- A config that modifies every response, `MinInterval` included, by up to ten billion seconds. -/
def wideConfig : Config := ⟨.finite 1, 10000000000, true⟩

/-- A config that modifies every response, `MinInterval` included, by up to a minute. -/
def minuteConfig : Config := ⟨.finite 1, 60, true⟩

/-- An announce response with a 30-minute interval and a 15-minute minimum interval. -/
def halfHourResponse : AnnounceResponse :=
  { emptyResponse with interval := .ofInt 1800000000000, minInterval := .ofInt 900000000000 }

end Samples

section Hook

variable {intn : UInt64 → UInt64 → ℤ → ℤ × UInt64 × UInt64}

/-- Over an accepted config, the hook leaves the response as it is, or adds one increase with
`0 ≤ v < MaxIncreaseDelta` to `Interval`, and to `MinInterval` exactly when `ModifyMinInterval` is
set. -/
theorem handleAnnounce_eq_or (hintn : IntnContract intn) {cfg : Config}
    (hcfg : checkConfig cfg = none) (req : AnnounceRequest) (resp : AnnounceResponse) :
    handleAnnounce intn cfg req resp = resp ∨
      ∃ v, 0 ≤ v ∧ v < cfg.maxIncreaseDelta ∧
        handleAnnounce intn cfg req resp =
          { resp with
            interval := resp.interval + increase v
            minInterval :=
              if cfg.modifyMinInterval then resp.minInterval + increase v else resp.minInterval } := by
  have hmax := ((checkConfig_eq_none_iff cfg).mp hcfg).2
  unfold handleAnnounce
  rcases deriveEntropyFromRequest req with ⟨s0, s1⟩
  dsimp only
  rcases intn s0 s1 16777216 with ⟨v, s0, s1⟩
  dsimp only
  split
  · obtain ⟨h0, hlt⟩ := hintn s0 s1 _ hmax
    refine .inr ⟨_, h0, hlt, ?_⟩
    cases cfg.modifyMinInterval <;> rfl
  · exact .inl rfl

/-- With `ModifyResponseProbability = 1` the hook always modifies the response: it adds the increase
of `v`, the second draw, made from the state the first draw left. -/
theorem handleAnnounce_of_certain {cfg : Config} (h : cfg.modifyResponseProbability = .finite 1)
    {req : AnnounceRequest} {s0 s1 : UInt64} {d : ℤ × UInt64 × UInt64} {v : ℤ}
    (he : deriveEntropyFromRequest req = (s0, s1)) (hd : intn s0 s1 16777216 = d)
    (hv : (intn d.2.1 d.2.2 cfg.maxIncreaseDelta).1 = v) (resp : AnnounceResponse) :
    handleAnnounce intn cfg req resp =
      { resp with
        interval := resp.interval + increase v
        minInterval :=
          if cfg.modifyMinInterval then resp.minInterval + increase v else resp.minInterval } := by
  obtain ⟨v', s0', s1'⟩ := d
  simp only [handleAnnounce, he, hd, h, Float32.beq, decide_True, Bool.true_or, if_true, hv]
  cases cfg.modifyMinInterval <;> rfl

/-- Below the wrap, the hook keeps the promise of `MaxIncreaseDelta`: over an accepted config and a
response whose intervals are non-negative and leave room for `MaxIncreaseDelta` seconds below the
`int64` bound (so that `MaxIncreaseDelta` is at most `9223372036`), the hook leaves the response as
it is, or adds the same `k` seconds, `1 ≤ k ≤ MaxIncreaseDelta`, to `Interval` and, exactly when
`ModifyMinInterval` is set, to `MinInterval`. -/
theorem handleAnnounce_adds_seconds (hintn : IntnContract intn) {cfg : Config}
    (hcfg : checkConfig cfg = none) (req : AnnounceRequest) {resp : AnnounceResponse}
    (hi : 0 ≤ resp.interval.ns ∧ resp.interval.ns + cfg.maxIncreaseDelta * 1000000000 < 2 ^ 63)
    (hm : 0 ≤ resp.minInterval.ns ∧
      resp.minInterval.ns + cfg.maxIncreaseDelta * 1000000000 < 2 ^ 63) :
    handleAnnounce intn cfg req resp = resp ∨
      ∃ k, 1 ≤ k ∧ k ≤ cfg.maxIncreaseDelta ∧
        (handleAnnounce intn cfg req resp).interval.ns = resp.interval.ns + k * 1000000000 ∧
        (handleAnnounce intn cfg req resp).minInterval.ns =
          if cfg.modifyMinInterval then resp.minInterval.ns + k * 1000000000
          else resp.minInterval.ns := by
  rcases handleAnnounce_eq_or hintn hcfg req resp with h | ⟨v, h0, hv, h⟩
  · exact .inl h
  have hinc := ns_increase h0 (by omega)
  have hadd : ∀ d : Duration, 0 ≤ d.ns → d.ns + cfg.maxIncreaseDelta * 1000000000 < 2 ^ 63 →
      (d + increase v).ns = d.ns + (v + 1) * 1000000000 := fun d h1 h2 => by
    rw [Duration.ns_add_of_mem (by omega) (by omega), hinc]
  refine .inr ⟨v + 1, by omega, by omega, ?_, ?_⟩ <;> rw [h]
  · exact hadd _ hi.1 hi.2
  · split_ifs
    · exact hadd _ hm.1 hm.2
    · rfl

/-- A config that adds up to a minute, over the half-hour response: the hook leaves it as it is or
adds the same whole number of seconds, at most sixty, to both intervals. -/
theorem handleAnnounce_adds_seconds_minute :
    IntnContract sampleIntn ∧ checkConfig minuteConfig = none ∧
      (0 ≤ halfHourResponse.interval.ns ∧
        halfHourResponse.interval.ns + minuteConfig.maxIncreaseDelta * 1000000000 < 2 ^ 63) ∧
      (0 ≤ halfHourResponse.minInterval.ns ∧
        halfHourResponse.minInterval.ns + minuteConfig.maxIncreaseDelta * 1000000000 < 2 ^ 63) ∧
      (handleAnnounce sampleIntn minuteConfig (Middleware.sampleAnnounce 50) halfHourResponse =
          halfHourResponse ∨
        ∃ k, 1 ≤ k ∧ k ≤ minuteConfig.maxIncreaseDelta ∧
          (handleAnnounce sampleIntn minuteConfig (Middleware.sampleAnnounce 50)
            halfHourResponse).interval.ns = halfHourResponse.interval.ns + k * 1000000000 ∧
          (handleAnnounce sampleIntn minuteConfig (Middleware.sampleAnnounce 50)
            halfHourResponse).minInterval.ns =
            if minuteConfig.modifyMinInterval then halfHourResponse.minInterval.ns + k * 1000000000
            else halfHourResponse.minInterval.ns) :=
  ⟨intnContract_sampleIntn, by decide, ⟨by decide, by decide⟩, ⟨by decide, by decide⟩,
    handleAnnounce_adds_seconds intnContract_sampleIntn (by decide) _ ⟨by decide, by decide⟩
      ⟨by decide, by decide⟩⟩

end Hook

/-- With `MaxIncreaseDelta = 10 ^ 10`, which `checkConfig` accepts, and a generator that meets the
contract, the hook draws `v = 9733073422` from the request's entropy, and
`time.Duration(v+1) * time.Second` wraps to a negative duration: both intervals of the response
become negative. -/
theorem handleAnnounce_interval_wraps :
    IntnContract sampleIntn ∧ checkConfig wideConfig = none ∧
      deriveEntropyFromRequest (Middleware.sampleAnnounce 50) = (1012762419733073422, 0) ∧
      (sampleIntn 1012762419733073422 0 wideConfig.maxIncreaseDelta).1 = 9733073422 ∧
      (increase 9733073422).ns = -8713670650709551616 ∧
      (handleAnnounce sampleIntn wideConfig (Middleware.sampleAnnounce 50) halfHourResponse).interval.ns =
        -8713668850709551616 ∧
      (handleAnnounce sampleIntn wideConfig (Middleware.sampleAnnounce 50)
        halfHourResponse).minInterval.ns = -8713669750709551616 := by
  have he : deriveEntropyFromRequest (Middleware.sampleAnnounce 50) = (1012762419733073422, 0) := by
    decide
  have hv : (sampleIntn 1012762419733073422 0 wideConfig.maxIncreaseDelta).1 = 9733073422 := by
    decide
  have hinc : (increase 9733073422).ns = -8713670650709551616 := by
    rw [ns_increase_eq_wrap]
    norm_num [wrap]
  have hmod := @handleAnnounce_of_certain sampleIntn wideConfig rfl _ _ _ _ _ he rfl hv
    halfHourResponse
  refine ⟨intnContract_sampleIntn, by decide, he, hv, hinc, ?_, ?_⟩ <;>
    rw [hmod] <;> simp only [wideConfig, if_true, Duration.ns_add, hinc] <;>
    norm_num [halfHourResponse, Duration.ofInt, wrap]

end VarInterval
