/-!
# Strikes

The ledger of a loop: for each name the number of violations in a row, up to the greatest 32-bit number. A violation adds one, and
anything else sets the count back. A name that was never recorded has none. What is done to one name leaves the others alone.
-/

namespace MemoryWatchdog

/-- The next count, or the greatest number. -/
def saturatingSucc (n : UInt32) : UInt32 :=
  .ofNat (min (n.toNat + 1) (UInt32.size - 1))

/-- Counts by name. -/
structure Strikes where
  counts : List (String × UInt32) := []
  deriving Repr

namespace Strikes

/-- The count of a name in a list of counts. -/
def countIn (name : String) : List (String × UInt32) → UInt32
  | [] => 0
  | (m, k) :: rest => if m = name then k else countIn name rest

/-- The count of a name. -/
def count (s : Strikes) (name : String) : UInt32 :=
  countIn name s.counts

/-- The counts with another one for a name. -/
def putIn (name : String) (n : UInt32) : List (String × UInt32) → List (String × UInt32)
  | [] => [(name, n)]
  | (m, k) :: rest => if m = name then (m, n) :: rest else (m, k) :: putIn name n rest

/-- The ledger with another count for a name. -/
def put (s : Strikes) (name : String) (n : UInt32) : Strikes :=
  ⟨putIn name n s.counts⟩

/-- Records a violation. -/
def record (s : Strikes) (name : String) : Strikes :=
  s.put name (saturatingSucc (s.count name))

/-- Sets the count of a name back, if it has one. -/
def reset (s : Strikes) (name : String) : Strikes :=
  ⟨s.counts.map fun (m, k) => (m, if m = name then 0 else k)⟩

/-- A count that is put in replaces the count of its name and no other. -/
theorem countIn_putIn (name other : String) (n : UInt32) (counts : List (String × UInt32)) :
    countIn other (putIn name n counts) = if name = other then n else countIn other counts := by
  induction counts with
  | nil => simp [putIn, countIn]
  | cons e rest ih =>
    by_cases hm : e.1 = name
    · by_cases h : name = other <;> simp [putIn, countIn, hm, h]
    · by_cases h : e.1 = other
      · have hne : name ≠ other := fun hn => hm (h.trans hn.symm)
        simp [putIn, countIn, h, hne, Ne.symm hne]
      · simp [putIn, countIn, hm, h, ih]

@[simp] theorem count_put_self (s : Strikes) (name : String) (n : UInt32) : (s.put name n).count name = n := by
  simp [count, put, countIn_putIn]

theorem count_put_of_ne (s : Strikes) {name other : String} (n : UInt32) (h : other ≠ name) :
    (s.put name n).count other = s.count other := by
  simp [count, put, countIn_putIn, Ne.symm h]

/-- A count that is taken back is that of one name. -/
theorem countIn_map_reset (name other : String) (counts : List (String × UInt32)) :
    countIn other (counts.map fun (m, k) => (m, if m = name then 0 else k)) = if name = other then 0 else countIn other counts := by
  induction counts with
  | nil => simp [countIn]
  | cons e rest ih =>
    by_cases h : e.1 = other
    · simp [countIn, h, eq_comm]
    · simp [countIn, h, ih]

@[simp] theorem count_reset_self (s : Strikes) (name : String) : (s.reset name).count name = 0 := by
  simp [count, reset, countIn_map_reset]

theorem count_reset_of_ne (s : Strikes) {name other : String} (h : other ≠ name) : (s.reset name).count other = s.count other := by
  simp [count, reset, countIn_map_reset, Ne.symm h]

@[simp] theorem count_record_self (s : Strikes) (name : String) : (s.record name).count name = saturatingSucc (s.count name) := by
  simp [record]

theorem count_record_of_ne (s : Strikes) {name other : String} (h : other ≠ name) :
    (s.record name).count other = s.count other :=
  count_put_of_ne s _ h

@[simp] theorem count_empty (name : String) : ({} : Strikes).count name = 0 := rfl

end Strikes

end MemoryWatchdog
