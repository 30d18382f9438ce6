import Mathlib.Tactic.NormNum
import Mathlib.Data.Int.Defs

/-!
# `time.Duration`

A `time.Duration` is a signed 64-bit count of nanoseconds, and its arithmetic wraps around as Go's
`int64` arithmetic does. The structure carries the range, so no out-of-range duration can be built;
`Duration.ofInt` wraps an integer into it.

## Main results

* `ns_ofInt_of_mem`, `ns_add_of_mem`: wrapping leaves an integer, and a sum, already in range
  unchanged;
* `ns_div_second`: a non-negative duration divided by `time.Second` is its number of whole seconds.
-/

namespace Time

/-- The integer of the `int64` range congruent to `x` modulo `2 ^ 64`. -/
def wrap (x : ℤ) : ℤ := (x + 2 ^ 63) % 2 ^ 64 - 2 ^ 63

theorem wrap_mem (x : ℤ) : -2 ^ 63 ≤ wrap x ∧ wrap x < 2 ^ 63 := by
  unfold wrap
  constructor <;> omega

/-- `time.Duration`: a signed 64-bit count of nanoseconds. -/
@[ext] structure Duration where
  /-- The nanoseconds. -/
  ns : ℤ
  min_le : -2 ^ 63 ≤ ns
  lt_max : ns < 2 ^ 63
  deriving DecidableEq

namespace Duration

/-- An integer as a duration, wrapped into the `int64` range. -/
def ofInt (x : ℤ) : Duration := ⟨wrap x, (wrap_mem x).1, (wrap_mem x).2⟩

/-- `time.Second`. -/
def second : Duration := ⟨1000000000, by norm_num, by norm_num⟩

/-- Go's `/` on durations, which truncates toward zero. -/
instance : Div Duration := ⟨fun a b => ofInt (a.ns.tdiv b.ns)⟩

/-- Go's `+` on durations, which wraps. -/
instance : Add Duration := ⟨fun a b => ofInt (a.ns + b.ns)⟩

/-- Go's `*` on durations, which wraps. -/
instance : Mul Duration := ⟨fun a b => ofInt (a.ns * b.ns)⟩

theorem ns_ofInt_of_mem {x : ℤ} (h1 : -2 ^ 63 ≤ x) (h2 : x < 2 ^ 63) : (ofInt x).ns = x := by
  show (x + 2 ^ 63) % 2 ^ 64 - 2 ^ 63 = x
  omega

/-- Go's `+` on durations: the sum wrapped into the `int64` range. -/
theorem ns_add (a b : Duration) : (a + b).ns = wrap (a.ns + b.ns) := rfl

/-- A sum of durations that stays in the `int64` range does not wrap. -/
theorem ns_add_of_mem {a b : Duration} (h1 : -2 ^ 63 ≤ a.ns + b.ns) (h2 : a.ns + b.ns < 2 ^ 63) :
    (a + b).ns = a.ns + b.ns :=
  ns_ofInt_of_mem h1 h2

/-- A non-negative duration divided by `time.Second` is its number of whole seconds. -/
theorem ns_div_second {d : Duration} (h : 0 ≤ d.ns) : (d / second).ns = d.ns / 1000000000 := by
  have := d.lt_max
  show (ofInt (d.ns.tdiv 1000000000)).ns = _
  rw [Int.tdiv_eq_ediv h (by norm_num)]
  exact ns_ofInt_of_mem (by omega) (by omega)

end Duration

end Time
