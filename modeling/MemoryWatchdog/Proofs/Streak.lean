import Mathlib.Data.List.DropRight
import MemoryWatchdog.Watchdog.Scene
import MemoryWatchdog.Watchdog.Strikes

/-!
# Streaks of violations

The findings of one monitor end with a streak: the longest run of violations up to the last finding. A counter that a single monitor
would keep on its own (`tally`) adds one for each violation, starts anew after anything else, and stays at the greatest 32-bit number
once it is there. The statements say that it holds the length of the streak, cut at that number, and when it exceeds a limit.
-/

namespace MemoryWatchdog

/-- Whether a finding is a violation. A monitor that failed or panicked found none. -/
def Finding.violates : Finding → Bool
  | .ok v => v.violated
  | .error _ => false

/-- The count of a monitor after one more finding. -/
def nextCount (n : UInt32) (f : Finding) : UInt32 :=
  if f.violates then saturatingSucc n else 0

/-- The counter that a monitor would keep on its own. -/
def tally (findings : List Finding) : UInt32 :=
  findings.foldl nextCount 0

/-- How many violations the findings end with. -/
def streak (findings : List Finding) : Nat :=
  (findings.rtakeWhile Finding.violates).length

/-- A count goes up by one, or stays at the greatest one. -/
theorem toNat_saturatingSucc (n : UInt32) : (saturatingSucc n).toNat = min (n.toNat + 1) (UInt32.size - 1) := by
  unfold saturatingSucc
  rw [UInt32.toNat_ofNat_of_lt']
  have : 0 < UInt32.size := by decide
  omega

theorem nextCount_of_violates {f : Finding} (n : UInt32) (h : f.violates = true) : nextCount n f = saturatingSucc n := by
  simp [nextCount, h]

theorem nextCount_of_not_violates {f : Finding} (n : UInt32) (h : f.violates = false) : nextCount n f = 0 := by
  simp [nextCount, h]

theorem tally_concat (findings : List Finding) (f : Finding) : tally (findings ++ [f]) = nextCount (tally findings) f := by
  simp [tally]

/-- A violation makes the streak longer. -/
theorem streak_concat_of_violates {findings : List Finding} {f : Finding} (h : f.violates = true) :
    streak (findings ++ [f]) = streak findings + 1 := by
  rw [streak, List.rtakeWhile_concat_pos _ _ _ h, List.length_append, List.length_singleton, streak]

/-- Everything else ends it. -/
theorem streak_concat_of_not_violates {findings : List Finding} {f : Finding} (h : f.violates = false) :
    streak (findings ++ [f]) = 0 := by
  rw [streak, List.rtakeWhile_concat_neg _ _ _ (by simp [h]), List.length_nil]

/-- A monitor's own counter holds the length of its streak, or the greatest number once the streak has that length. -/
theorem toNat_tally (findings : List Finding) : (tally findings).toNat = min (UInt32.size - 1) (streak findings) := by
  induction findings using List.reverseRecOn with
  | nil => simp [tally, streak]
  | append_singleton findings f ih =>
    rw [tally_concat]
    cases h : f.violates with
    | false =>
      rw [nextCount_of_not_violates _ h, streak_concat_of_not_violates h]
      simp
    | true =>
      rw [nextCount_of_violates _ h, streak_concat_of_violates h, toNat_saturatingSucc, ih]
      omega

/-- A streak is longer than a number exactly when there are more findings than that and the last of them, one more than the number,
are all violations. -/
theorem lt_streak_iff {findings : List Finding} {k : Nat} :
    k < streak findings ↔
      k < findings.length ∧ ∀ i f, findings[i]? = some f → findings.length ≤ i + k + 1 → f.violates = true := by
  induction findings using List.reverseRecOn generalizing k with
  | nil => simp [streak]
  | append_singleton findings f ih =>
    have hlast : (findings ++ [f])[findings.length]? = some f := by simp
    rw [List.length_append, List.length_singleton]
    cases h : f.violates with
    | false =>
      rw [streak_concat_of_not_violates h]
      refine ⟨fun hk => absurd hk (Nat.not_lt_zero k), fun ⟨_, hall⟩ => ?_⟩
      rw [hall _ f hlast (by omega)] at h
      cases h
    | true =>
      rw [streak_concat_of_violates h]
      constructor
      · intro hk
        refine ⟨?_, fun i g hi hle => ?_⟩
        · rcases k with _ | k
          · omega
          · have := (ih.mp (Nat.lt_of_succ_lt_succ hk)).1
            omega
        · by_cases hlt : i < findings.length
          · -- The finding is an earlier one, so the streak before the last finding reaches back to it.
            rcases k with _ | k
            · omega
            · rw [List.getElem?_append_left hlt] at hi
              exact (ih.mp (Nat.lt_of_succ_lt_succ hk)).2 i g hi (by omega)
          · have hbound := (List.getElem?_eq_some_iff.mp hi).1
            rw [List.length_append, List.length_singleton] at hbound
            have hi' : i = findings.length := by omega
            rw [hi', hlast, Option.some.injEq] at hi
            rw [← hi, h]
      · rintro ⟨hlen, hall⟩
        rcases k with _ | k
        · omega
        · refine Nat.succ_lt_succ (ih.mpr ⟨by omega, fun i g hi hle => ?_⟩)
          have hlt := (List.getElem?_eq_some_iff.mp hi).1
          exact hall i g (by rw [List.getElem?_append_left hlt, hi]) (by omega)

/-- A monitor's own counter exceeds a limit exactly when the limit is not the greatest number and the streak is longer. -/
theorem lt_tally_iff {findings : List Finding} {limit : UInt32} :
    limit < tally findings ↔ limit.toNat + 1 < UInt32.size ∧ limit.toNat < streak findings := by
  rw [UInt32.lt_iff_toNat_lt, toNat_tally]
  omega

end MemoryWatchdog
