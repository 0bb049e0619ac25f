import MemoryWatchdog.Monitor.Limits
import MemoryWatchdog.Proofs.Nearest

/-!
# Laws of the ratios

The two ratios are computed with up to four roundings. For every rounding that keeps the order, zero and one, the fragmentation is a share
between zero and one that is zero when nothing is unused, it does not fall when less is in use or more is held from the system, and the
growth does not fall when the current amount grows. So a monitor that finds its limit violated finds every smaller limit violated too, on
every measurement that is no better (`ratio_limits_monotone`).
-/

namespace MemoryWatchdog

/-! ## What a rounding keeps -/

namespace Rounding

variable {round : Rat → Rat} (hround : Rounding round)
include hround

theorem nonneg {q : Rat} (h : 0 ≤ q) : 0 ≤ round q :=
  hround.zero ▸ hround.monotone h

theorem le_one {q : Rat} (h : q ≤ 1) : round q ≤ 1 :=
  hround.one ▸ hround.monotone h

/-- A positive count is not rounded to zero. -/
theorem toNat_pos {n : UInt64} (h : 0 < n) : 0 < round (n.toNat : Rat) := by
  have hone : (1 : Rat) ≤ n.toNat := by exact_mod_cast UInt64.lt_iff_toNat_lt.mp h
  exact lt_of_lt_of_le one_pos (hround.one ▸ hround.monotone hone)

theorem toNat_le_toNat {m n : UInt64} (h : m ≤ n) : round (m.toNat : Rat) ≤ round (n.toNat : Rat) :=
  hround.monotone (by exact_mod_cast UInt64.le_iff_toNat_le.mp h)

end Rounding

/-! ## Fragmentation and growth -/

namespace HeapStats

/-- The second heap has at least as much unused memory as the first: no more in use, and no less from the system. -/
structure NoTighter (heap heap' : HeapStats) : Prop where
  inUse : heap'.inUse ≤ heap.inUse
  system : heap.system ≤ heap'.system

variable {round : Rat → Rat} {heap heap' : HeapStats}

/-- A heap that has less in use than it has is fragmented by the share of the rest. -/
theorem fragmentationWith_of_lt (h : heap.inUse < heap.system) :
    heap.fragmentationWith round = round (1 - round (round (heap.inUse.toNat : Rat) / round (heap.system.toNat : Rat))) := by
  have hsystem : heap.system ≠ 0 := by
    intro hzero
    rw [hzero] at h
    exact absurd h (by simp)
  have hused : min heap.inUse.toNat heap.system.toNat = heap.inUse.toNat := min_eq_left (UInt64.lt_iff_toNat_lt.mp h).le
  simp only [fragmentationWith, if_neg hsystem, hused]

variable (hround : Rounding round)
include hround

/-- A heap that has everything in use is not fragmented. -/
theorem fragmentationWith_of_le (h : heap.system ≤ heap.inUse) : heap.fragmentationWith round = 0 := by
  unfold fragmentationWith
  split
  · rfl
  · have hused : min heap.inUse.toNat heap.system.toNat = heap.system.toNat := min_eq_right (UInt64.le_iff_toNat_le.mp h)
    have hpos := hround.toNat_pos (UInt64.pos_iff_ne_zero.mpr ‹_›)
    simp only [hused, div_self hpos.ne', hround.one, sub_self, hround.zero]

/-- Fragmentation is a share. -/
theorem fragmentationWith_bounds (heap : HeapStats) : 0 ≤ heap.fragmentationWith round ∧ heap.fragmentationWith round ≤ 1 := by
  by_cases hfull : heap.system ≤ heap.inUse
  · rw [fragmentationWith_of_le hround hfull]
    exact ⟨le_rfl, zero_le_one⟩
  · have h := UInt64.not_le.mp hfull
    have hused := hround.nonneg (Nat.cast_nonneg (α := Rat) heap.inUse.toNat)
    have hsystem := hused.trans (hround.toNat_le_toNat (UInt64.le_of_lt h))
    have hshare := div_le_one_of_le₀ (hround.toNat_le_toNat (UInt64.le_of_lt h)) hsystem
    have hrounded := hround.le_one hshare
    have hrounded' := hround.nonneg (div_nonneg hused hsystem)
    rw [fragmentationWith_of_lt h]
    exact ⟨hround.nonneg (by linarith), hround.le_one (by linarith)⟩

/-- More unused memory does not make a heap less fragmented. -/
theorem fragmentationWith_monotone (h : heap.NoTighter heap') : heap.fragmentationWith round ≤ heap'.fragmentationWith round := by
  by_cases hfull : heap.system ≤ heap.inUse
  · rw [fragmentationWith_of_le hround hfull]
    exact (fragmentationWith_bounds hround heap').1
  · have hspare := UInt64.not_le.mp hfull
    -- What is in use stays below what is held, so that neither computation is cut off.
    have hspare' : heap'.inUse < heap'.system := UInt64.lt_of_le_of_lt h.inUse (UInt64.lt_of_lt_of_le hspare h.system)
    have hpos := hround.toNat_pos (UInt64.lt_of_le_of_lt UInt64.zero_le hspare)
    have hshare : round (heap'.inUse.toNat : Rat) / round (heap'.system.toNat : Rat)
        ≤ round (heap.inUse.toNat : Rat) / round (heap.system.toNat : Rat) :=
      div_le_div₀ (hround.nonneg (Nat.cast_nonneg _)) (hround.toNat_le_toNat h.inUse) hpos (hround.toNat_le_toNat h.system)
    rw [fragmentationWith_of_lt hspare, fragmentationWith_of_lt hspare']
    exact hround.monotone (sub_le_sub_left (hround.monotone hshare) 1)

end HeapStats

/-- More memory has not grown less over the same reference. -/
theorem growthWith_monotone {round : Rat → Rat} (hround : Rounding round) {reference current current' : UInt64} (h : 0 < reference)
    (hle : current ≤ current') : growthWith round current reference ≤ growthWith round current' reference := by
  have hpos := hround.toNat_pos h
  exact hround.monotone (div_le_div_of_nonneg_right (hround.toNat_le_toNat hle) hpos.le)

/-! ## Limits -/

namespace Binary64

/-- The first number is at most the second: neither is no number, and the second is not less. -/
structure AtMost (x y : Binary64) : Prop where
  left : x ≠ .nan
  right : y ≠ .nan
  notLess : y.lt x = false

/-- A ratio that exceeds a limit exceeds every smaller one, and so does every larger ratio. -/
theorem lt_of_atMost_of_lt {x y : Binary64} {p q : Rat} (h : x.AtMost y) (hlt : y.lt (.finite false p) = true) (hpq : p ≤ q) :
    x.lt (.finite false q) = true := by
  obtain ⟨hx, hy, hnot⟩ := h
  cases y with
  | nan => exact absurd rfl hy
  | infinite negative =>
    obtain rfl : negative = true := hlt
    cases x with
    | nan => exact absurd rfl hx
    | infinite negative' => simpa [lt] using hnot
    | finite => cases hnot
  | finite negative m =>
    have hp : signed negative m < p := of_decide_eq_true hlt
    cases x with
    | nan => exact absurd rfl hx
    | infinite negative' => simpa [lt] using hnot
    | finite negative' n =>
      have hn : ¬ signed negative m < signed negative' n := of_decide_eq_false hnot
      have hq : signed negative' n < q := by linarith
      exact decide_eq_true hq

end Binary64

namespace Monitor

variable {σ : Type} {probe : Probe σ} {limit : Binary64} {s : σ}

/-- The monitor, called in some surroundings, finds its limit violated. -/
def ViolatesIn (m : Monitor σ) (s : σ) : Prop :=
  ∃ v, (m.check s).ending = .returned (.ok v) ∧ v.violated = true

/-- A limit is found violated if a value was measured whose verdict says so. -/
theorem judging_violated_iff {α : Type} {measured : Reading α × σ} {judge : α → Verdict} :
    (∃ v, (judging measured judge).ending = .returned (.ok v) ∧ v.violated = true)
      ↔ ∃ a, measured.1 = .returned (.ok a) ∧ (judge a).violated = true := by
  unfold judging
  rcases measured with ⟨(_ | _) | _, _⟩ <;> simp

/-- A limit on fragmentation is violated by a heap whose fragmentation exceeds it. -/
theorem fragmentationLimit_violatesIn_iff :
    (fragmentationLimit probe limit).ViolatesIn s
      ↔ ∃ heap, (probe.heap s).1 = .returned (.ok heap) ∧ limit.lt heap.fragmentation = true :=
  judging_violated_iff

/-- A limit on growth is violated by an amount that has grown over the reference by more than it. -/
theorem growthLimit_violatesIn_iff {reference : UInt64} :
    (growthLimit probe limit (some reference)).ViolatesIn s
      ↔ ∃ current, (probe.unique s).1 = .returned (.ok current) ∧ limit.lt (growth current reference) = true :=
  judging_violated_iff

end Monitor

open Monitor in
/-- Under every rounding that keeps the order, zero and one, the fragmentation is between zero and one, it is zero if everything is in
use, and neither ratio falls when its measurement gets worse; so what exceeds a limit exceeds every smaller limit and stays above it on
every worse measurement. The monitors, which round to the nearest number, do find it violated there. -/
theorem ratio_limits_monotone :
    (∀ round, Rounding round →
      (∀ heap : HeapStats, 0 ≤ heap.fragmentationWith round ∧ heap.fragmentationWith round ≤ 1
        ∧ (heap.system ≤ heap.inUse → heap.fragmentationWith round = 0))
      ∧ (∀ heap heap' : HeapStats, heap.NoTighter heap' → heap.fragmentationWith round ≤ heap'.fragmentationWith round)
      ∧ (∀ reference current current' : UInt64, 0 < reference → current ≤ current' →
          growthWith round current reference ≤ growthWith round current' reference)
      ∧ (∀ (heap heap' : HeapStats) (limit limit' : Binary64), heap.NoTighter heap' → limit'.AtMost limit →
          limit.lt (.finite false (heap.fragmentationWith round)) = true →
          limit'.lt (.finite false (heap'.fragmentationWith round)) = true)
      ∧ ∀ (reference current current' : UInt64) (limit limit' : Binary64), 0 < reference → current ≤ current' → limit'.AtMost limit →
          limit.lt (.finite false (growthWith round current reference)) = true →
          limit'.lt (.finite false (growthWith round current' reference)) = true)
    ∧ ∀ (σ : Type) (probe probe' : Probe σ) (s s' : σ) (limit limit' : Binary64), limit'.AtMost limit →
      (∀ heap heap', (probe.heap s).1 = .returned (.ok heap) → (probe'.heap s').1 = .returned (.ok heap') → heap.NoTighter heap' →
        (fragmentationLimit probe limit).ViolatesIn s → (fragmentationLimit probe' limit').ViolatesIn s')
      ∧ ∀ reference current current', (probe.unique s).1 = .returned (.ok current) → (probe'.unique s').1 = .returned (.ok current') →
        0 < reference → current ≤ current' →
        (growthLimit probe limit (some reference)).ViolatesIn s → (growthLimit probe' limit' (some reference)).ViolatesIn s' := by
  refine ⟨fun round hround => ⟨fun heap => ?_, fun heap heap' h => HeapStats.fragmentationWith_monotone hround h, ?_, ?_, ?_⟩, ?_⟩
  · obtain ⟨hlow, hhigh⟩ := HeapStats.fragmentationWith_bounds hround heap
    exact ⟨hlow, hhigh, HeapStats.fragmentationWith_of_le hround⟩
  · intro reference current current' hreference hle
    exact growthWith_monotone hround hreference hle
  · intro heap heap' limit limit' hheap hlimit hlt
    exact Binary64.lt_of_atMost_of_lt hlimit hlt (HeapStats.fragmentationWith_monotone hround hheap)
  · intro reference current current' limit limit' hreference hle hlimit hlt
    exact Binary64.lt_of_atMost_of_lt hlimit hlt (growthWith_monotone hround hreference hle)
  · intro σ probe probe' s s' limit limit' hlimit
    constructor
    · intro heap heap' hread hread' hheap hviolates
      obtain ⟨_, hread₁, hlt⟩ := fragmentationLimit_violatesIn_iff.mp hviolates
      rw [hread] at hread₁
      cases hread₁
      have hmonotone := HeapStats.fragmentationWith_monotone Binary64.rounding_nearest hheap
      exact fragmentationLimit_violatesIn_iff.mpr ⟨heap', hread', Binary64.lt_of_atMost_of_lt hlimit hlt hmonotone⟩
    · intro reference current current' hread hread' hreference hle hviolates
      obtain ⟨_, hread₁, hlt⟩ := growthLimit_violatesIn_iff.mp hviolates
      rw [hread] at hread₁
      cases hread₁
      have hmonotone := growthWith_monotone Binary64.rounding_nearest hreference hle
      exact growthLimit_violatesIn_iff.mpr ⟨current', hread', Binary64.lt_of_atMost_of_lt hlimit hlt hmonotone⟩

/-- A probe that reads the heap and the process's own memory off its surroundings. -/
def Probe.given : Probe (HeapStats × UInt64) where
  resident s := (.returned (.ok s.2), s)
  unique s := (.returned (.ok s.2), s)
  heap s := (.returned (.ok s.1), s)

open Monitor in
/-- Amounts that 53 bits do not hold: the limits are violated, and on the next larger measurement the smaller limits are. -/
theorem ratio_limits_monotone_beyond_mantissa :
    let half : Binary64 := .finite false (1 / 2)
    let quarter : Binary64 := .finite false (1 / 4)
    let heap : HeapStats := ⟨9007199254740993, 36028797018963969⟩
    let heap' : HeapStats := ⟨9007199254740992, 36028797018963971⟩
    Rounding Binary64.nearest ∧ heap.NoTighter heap' ∧ quarter.AtMost half
      ∧ 0 ≤ heap.fragmentationWith Binary64.nearest ∧ heap.fragmentationWith Binary64.nearest ≤ 1
      ∧ heap.fragmentationWith Binary64.nearest ≤ heap'.fragmentationWith Binary64.nearest
      ∧ (fragmentationLimit .given half).ViolatesIn (heap, 9007199254740993)
      ∧ (fragmentationLimit .given quarter).ViolatesIn (heap', 9007199254740995)
      ∧ (growthLimit .given half (some 9007199254740993)).ViolatesIn (heap, 9007199254740993)
      ∧ (growthLimit .given quarter (some 9007199254740993)).ViolatesIn (heap', 9007199254740995) := by
  intro half quarter heap heap'
  have hheap : heap.NoTighter heap' := ⟨by decide, by decide⟩
  have hlimit : quarter.AtMost half := ⟨by decide, by decide, by decide +kernel⟩
  have hfragmented : (fragmentationLimit .given half).ViolatesIn (heap, 9007199254740993) :=
    fragmentationLimit_violatesIn_iff.mpr ⟨heap, rfl, by decide +kernel⟩
  have hgrown : (growthLimit .given half (some 9007199254740993)).ViolatesIn (heap, 9007199254740993) :=
    growthLimit_violatesIn_iff.mpr ⟨9007199254740993, rfl, by decide +kernel⟩
  obtain ⟨hbounds, hmonotone, -⟩ := ratio_limits_monotone.1 Binary64.nearest Binary64.rounding_nearest
  obtain ⟨hheaps, hgrowths⟩ :=
    ratio_limits_monotone.2 _ .given .given (heap, 9007199254740993) (heap', 9007199254740995) half quarter hlimit
  exact ⟨Binary64.rounding_nearest, hheap, hlimit, (hbounds heap).1, (hbounds heap).2.1, hmonotone heap heap' hheap, hfragmented,
    hheaps heap heap' rfl rfl hheap hfragmented, hgrown,
    hgrowths 9007199254740993 9007199254740993 9007199254740995 rfl rfl (by decide) (by decide) hgrown⟩

end MemoryWatchdog
