import Mathlib.Data.List.NodupEquivFin
import Mathlib.Order.Bounds.Basic
import MemoryWatchdog.Proofs.Course

/-!
# Which configurations are refused

Strikes are counted by name, so the names in a stack must be distinct. A stack grows by one monitor after the other, each under its own
name or under another one, and a name is found used twice with the first monitor that repeats it (`firstDuplicate?_concat`). Hence what
is found in a whole stack is the name at the first position that repeats an earlier one (`firstDuplicate?_eq_some_iff`), and a
configuration is refused exactly for a zero interval, or else for such a name (`refused_for_first_repetition`).
-/

namespace MemoryWatchdog

variable {σ ρ : Type}

namespace Stack

/-! ## Stacks as they grow -/

/-- A monitor on its way into a stack: under its own name, or under another one. -/
inductive Push (σ : Type)
  | own (monitor : Monitor σ) (maxStrikes : UInt32)
  | named (name : String) (monitor : Monitor σ) (maxStrikes : UInt32)

namespace Push

/-- The name that the strikes will be counted under. -/
def name : Push σ → String
  | own monitor _ => monitor.name
  | named name _ _ => name

/-- What is put into the stack. -/
def entry : Push σ → Monitor.Entry σ
  | own monitor maxStrikes => monitor.entry maxStrikes
  | named name monitor maxStrikes => ⟨name, maxStrikes, monitor⟩

theorem name_entry (p : Push σ) : p.entry.name = p.name := by
  cases p <;> rfl

end Push

/-- The stack with one more monitor at its end. -/
def push (stack : Stack σ) (p : Push σ) : Stack σ :=
  stack ++ [p.entry]

/-- The stack of the monitors that were put into it. -/
def built (pushes : List (Push σ)) : Stack σ :=
  pushes.foldl push []

/-- An entry that comes to the end brings its name to the end. -/
theorem names_concat (stack : Stack σ) (e : Monitor.Entry σ) : names (stack ++ [e]) = stack.names ++ [e.name] := by
  simp [names]

theorem length_names (stack : Stack σ) : stack.names.length = stack.length :=
  List.length_map _

/-- A monitor that is put in brings its name to the end. -/
theorem names_push (stack : Stack σ) (p : Push σ) : (stack.push p).names = stack.names ++ [p.name] := by
  rw [push, names_concat, p.name_entry]

theorem built_concat (pushes : List (Push σ)) (p : Push σ) : built (pushes ++ [p]) = (built pushes).push p := by
  simp [built]

/-- The names of a stack are those that the monitors were put into it under, in that order. -/
theorem names_built (pushes : List (Push σ)) : (built pushes).names = pushes.map Push.name := by
  induction pushes using List.reverseRecOn with
  | nil => rfl
  | append_singleton pushes p ih => rw [built_concat, names_push, ih, List.map_append, List.map_singleton]

/-! ## Positions that repeat a name -/

/-- The position has the name that an earlier one has already. -/
def RepeatsAt (stack : Stack σ) (i : Nat) : Prop :=
  i < stack.length ∧ ∃ j < i, stack.names[j]? = stack.names[i]?

instance (stack : Stack σ) (i : Nat) : Decidable (stack.RepeatsAt i) :=
  inferInstanceAs (Decidable (_ ∧ _))

variable {stack : Stack σ} {e : Monitor.Entry σ} {name : String} {i : Nat}

/-- The names of a stack are distinct if no position repeats one. -/
theorem nodup_iff_not_repeatsAt : stack.names.Nodup ↔ ∀ i, ¬ stack.RepeatsAt i := by
  rw [List.nodup_iff_getElem?_ne_getElem?, length_names]
  constructor
  · rintro hne i ⟨hi, j, hj, hsame⟩
    exact hne j i hj hi hsame
  · intro hnone j i hj hi hsame
    exact hnone i ⟨hi, j, hj, hsame⟩

/-- What is put at the end changes nothing about the positions before. -/
theorem getElem?_names_concat (h : i < stack.length) : (names (stack ++ [e]))[i]? = stack.names[i]? := by
  rw [names_concat, List.getElem?_append_left (by rwa [length_names])]

/-- So whether one of these repeats a name does not change. -/
theorem repeatsAt_concat_iff_of_lt (h : i < stack.length) : RepeatsAt (stack ++ [e]) i ↔ stack.RepeatsAt i := by
  have hlonger : i < (stack ++ [e]).length := by simp [Nat.lt_succ_of_lt h]
  refine and_congr (iff_of_true hlonger h) (exists_congr fun j => and_congr_right fun hj => ?_)
  rw [getElem?_names_concat h, getElem?_names_concat (hj.trans h)]

/-- What is put at the end repeats a name exactly when the stack has it already. -/
theorem repeatsAt_concat_length_iff : RepeatsAt (stack ++ [e]) stack.length ↔ e.name ∈ stack.names := by
  have hlast : (names (stack ++ [e]))[stack.length]? = some e.name := by
    rw [names_concat, ← length_names, List.getElem?_concat_length]
  rw [RepeatsAt, hlast, List.mem_iff_getElem?]
  constructor
  · rintro ⟨-, j, hj, hsame⟩
    exact ⟨j, (getElem?_names_concat hj).symm.trans hsame⟩
  · rintro ⟨j, hsame⟩
    have hj : j < stack.length := length_names stack ▸ (List.getElem?_eq_some_iff.mp hsame).1
    exact ⟨by simp, j, hj, (getElem?_names_concat hj).trans hsame⟩

/-- The first position that repeats a name stays the first when the stack grows. -/
theorem isLeast_concat (h : IsLeast {i | stack.RepeatsAt i} i) : IsLeast {i | RepeatsAt (stack ++ [e]) i} i := by
  have hi : i < stack.length := h.1.1
  refine ⟨(repeatsAt_concat_iff_of_lt hi).mpr h.1, fun k hk => ?_⟩
  by_cases hlast : k < stack.length
  · exact h.2 ((repeatsAt_concat_iff_of_lt hlast).mp hk)
  · omega

/-- The end is the first position that repeats a name if no position before it does. -/
theorem isLeast_concat_length (hdistinct : stack.names.Nodup) (hmem : e.name ∈ stack.names) :
    IsLeast {i | RepeatsAt (stack ++ [e]) i} stack.length := by
  refine ⟨repeatsAt_concat_length_iff.mpr hmem, fun k hk => ?_⟩
  by_contra hlt
  exact nodup_iff_not_repeatsAt.mp hdistinct k ((repeatsAt_concat_iff_of_lt (by omega)).mp hk)

/-- Below the first position that repeats a name the names are distinct. -/
theorem nodup_names_take (h : IsLeast {i | stack.RepeatsAt i} i) : (names (stack.take i)).Nodup := by
  rw [nodup_iff_not_repeatsAt]
  rintro k ⟨hk, j, hj, hsame⟩
  have hnames : names (stack.take i) = stack.names.take i := List.map_take
  obtain ⟨hki, hlength⟩ : k < i ∧ k < stack.length := by simpa using hk
  rw [hnames, List.getElem?_take_of_lt hki, List.getElem?_take_of_lt (hj.trans hki)] at hsame
  have hle : i ≤ k := h.2 ⟨hlength, j, hj, hsame⟩
  omega

/-- A name that is repeated occurs twice. -/
theorem two_le_count (h : stack.RepeatsAt i) (hname : stack.names[i]? = some name) : 2 ≤ stack.names.count name := by
  obtain ⟨-, j, hj, hsame⟩ := h
  rw [hname] at hsame
  obtain ⟨hilt, hi⟩ := List.getElem?_eq_some_iff.mp hname
  obtain ⟨hjlt, hj'⟩ := List.getElem?_eq_some_iff.mp hsame
  exact List.duplicate_iff_two_le_count.mp
    (List.duplicate_iff_exists_distinct_get.mpr ⟨⟨j, hjlt⟩, ⟨i, hilt⟩, hj, hj'.symm, hi.symm⟩)

/-! ## The name that is found -/

/-- One more name changes what is found only if nothing was found before, and only if it repeats a name. -/
theorem duplicateAfter?_concat (seen names : List String) (last : String) :
    duplicateAfter? seen (names ++ [last]) =
      (duplicateAfter? seen names).or (if last ∈ seen ∨ last ∈ names then some last else none) := by
  induction names generalizing seen with
  | nil => simp [duplicateAfter?]
  | cons first rest ih =>
    by_cases h : first ∈ seen
    · simp [duplicateAfter?, h]
    · simp only [List.cons_append, duplicateAfter?, h, if_false, ih, List.mem_cons]
      simp only [or_left_comm, or_assoc]

/-- One more entry is what is found only if nothing was found before, and only if it repeats a name. -/
theorem firstDuplicate?_concat (stack : Stack σ) (e : Monitor.Entry σ) :
    firstDuplicate? (stack ++ [e]) = stack.firstDuplicate?.or (if e.name ∈ stack.names then some e.name else none) := by
  simp [firstDuplicate?, names_concat, duplicateAfter?_concat]

/-- What is found is the name at the first position that repeats one. -/
theorem exists_isLeast_of_firstDuplicate? (h : stack.firstDuplicate? = some name) :
    ∃ i, IsLeast {i | stack.RepeatsAt i} i ∧ stack.names[i]? = some name := by
  induction stack using List.reverseRecOn with
  | nil => cases h
  | append_singleton stack e ih =>
    rw [firstDuplicate?_concat, Option.or_eq_some_iff] at h
    rcases h with hbefore | ⟨hnone, hlast⟩
    · obtain ⟨i, hleast, hname⟩ := ih hbefore
      exact ⟨i, isLeast_concat hleast, (getElem?_names_concat hleast.1.1).trans hname⟩
    · have hdistinct : (names stack).Nodup := firstDuplicate?_eq_none_iff.mp hnone
      obtain ⟨hmem, rfl⟩ : e.name ∈ names stack ∧ e.name = name := by simpa using hlast
      refine ⟨stack.length, isLeast_concat_length hdistinct hmem, ?_⟩
      rw [names_concat, ← length_names, List.getElem?_concat_length]

/-- What is found is the name at the first position that repeats an earlier one. -/
theorem firstDuplicate?_eq_some_iff :
    stack.firstDuplicate? = some name ↔ ∃ i, IsLeast {i | stack.RepeatsAt i} i ∧ stack.names[i]? = some name := by
  refine ⟨exists_isLeast_of_firstDuplicate?, ?_⟩
  rintro ⟨i, hleast, hname⟩
  cases hfound : stack.firstDuplicate? with
  | none =>
    have hdistinct : stack.names.Nodup := firstDuplicate?_eq_none_iff.mp hfound
    exact absurd hleast.1 (nodup_iff_not_repeatsAt.mp hdistinct i)
  | some other =>
    obtain ⟨k, hleast', hother⟩ := exists_isLeast_of_firstDuplicate? hfound
    rw [hleast'.unique hleast, hname] at hother
    exact hother.symm

/-- What is found occurs twice. -/
theorem two_le_count_of_firstDuplicate? (h : stack.firstDuplicate? = some name) : 2 ≤ stack.names.count name := by
  obtain ⟨i, hleast, hname⟩ := firstDuplicate?_eq_some_iff.mp h
  exact two_le_count hleast.1 hname

end Stack

/-! ## Refused configurations -/

namespace Watchdog

variable {c : Configuration σ ρ}

/-- A configuration makes a watchdog, and makes it as it is, if its interval is not zero and its names are distinct. -/
theorem exists_ofConfiguration_iff :
    (∃ w, ofConfiguration c = .ok w ∧ w.toConfiguration = c) ↔ c.interval.nanoseconds ≠ 0 ∧ c.monitors.names.Nodup := by
  constructor
  · rintro ⟨w, -, rfl⟩
    exact ⟨w.interval_ne_zero, w.names_nodup⟩
  · rintro ⟨hinterval, hdistinct⟩
    exact ⟨{ c with interval_ne_zero := hinterval, names_nodup := hdistinct }, ofConfiguration_eq_ok_iff.mpr rfl, rfl⟩

/-- It is refused for a name if its interval is not zero and this name is found. -/
theorem ofConfiguration_eq_duplicateMonitor_iff {name : String} :
    ofConfiguration c = .error (.duplicateMonitor name) ↔ c.interval.nanoseconds ≠ 0 ∧ c.monitors.firstDuplicate? = some name :=
  ofConfiguration_eq_error_iff.trans Configuration.fault?_eq_duplicateMonitor_iff

end Watchdog

/-- A stack is found to use a name twice unless its names are distinct, and then it is the name at the first position that repeats an
earlier one, below which the names are distinct. A configuration is refused for a zero interval, whatever its names, or else for a name
that occurs twice, and otherwise makes a watchdog. -/
theorem Configuration.refused_for_first_repetition (pushes : List (Stack.Push σ)) (c : Configuration σ ρ) :
    (Stack.built pushes).names = pushes.map Stack.Push.name ∧
      ((Stack.built pushes).firstDuplicate? = none ↔ (Stack.built pushes).names.Nodup) ∧
      (∀ name, (Stack.built pushes).firstDuplicate? = some name ↔
        ∃ i, IsLeast {i | (Stack.built pushes).RepeatsAt i} i ∧ (Stack.built pushes).names[i]? = some name) ∧
      (∀ i, IsLeast {i | (Stack.built pushes).RepeatsAt i} i → (Stack.names ((Stack.built pushes).take i)).Nodup) ∧
      ((∃ w, Watchdog.ofConfiguration c = .ok w ∧ w.toConfiguration = c) ↔
        c.interval.nanoseconds ≠ 0 ∧ c.monitors.names.Nodup) ∧
      (Watchdog.ofConfiguration c = .error .zeroInterval ↔ c.interval.nanoseconds = 0) ∧
      (c.interval.nanoseconds ≠ 0 ∧ ¬ c.monitors.names.Nodup ↔
        ∃ name, Watchdog.ofConfiguration c = .error (.duplicateMonitor name) ∧ c.monitors.firstDuplicate? = some name ∧
          2 ≤ c.monitors.names.count name) := by
  refine ⟨Stack.names_built pushes, Stack.firstDuplicate?_eq_none_iff, fun _ => Stack.firstDuplicate?_eq_some_iff,
    fun _ => Stack.nodup_names_take, Watchdog.exists_ofConfiguration_iff,
    Watchdog.ofConfiguration_eq_error_iff.trans fault?_eq_zeroInterval_iff, ?_⟩
  rw [← Stack.firstDuplicate?_eq_none_iff, ← ne_eq, Option.ne_none_iff_exists']
  constructor
  · rintro ⟨hinterval, name, hfound⟩
    have hrefused := Watchdog.ofConfiguration_eq_duplicateMonitor_iff.mpr ⟨hinterval, hfound⟩
    exact ⟨name, hrefused, hfound, Stack.two_le_count_of_firstDuplicate? hfound⟩
  · rintro ⟨name, hrefused, hfound, -⟩
    exact ⟨(Watchdog.ofConfiguration_eq_duplicateMonitor_iff.mp hrefused).1, name, hfound⟩

/-- Two monitors, and both once more, in the other order and under names of the first two. -/
def Stack.nested : List (Stack.Push Nat) :=
  let steady := Monitor.scripted "steady" (fun _ => true) fun _ => false
  let late := Monitor.scripted "late" (· == 2) fun _ => false
  [.own steady 1, .own late 0, .named "late" steady 3, .named "steady" late 0]

/-- A configuration with these monitors. -/
def Configuration.nested : Configuration Nat Unit :=
  { (Watchdog.pair fun _ => false).toConfiguration with monitors := .built Stack.nested }

/-- The inner of the two names is repeated first, and the configuration is refused. -/
theorem Configuration.nested_refused_for_inner :
    IsLeast {i | (Stack.built Stack.nested).RepeatsAt i} 2 ∧ (Stack.names ((Stack.built Stack.nested).take 2)).Nodup ∧
      (Stack.built Stack.nested).firstDuplicate? = some "late" ∧
      ∃ name, Watchdog.ofConfiguration nested = .error (.duplicateMonitor name) ∧ nested.monitors.firstDuplicate? = some name ∧
        2 ≤ nested.monitors.names.count name := by
  have hleast : IsLeast {i | (Stack.built Stack.nested).RepeatsAt i} 2 := by
    refine ⟨by decide, fun k hk => ?_⟩
    by_contra hlt
    have hnone : ∀ k < 2, ¬ (Stack.built Stack.nested).RepeatsAt k := by decide
    exact hnone k (by omega) hk
  obtain ⟨-, -, hfound, hdistinct, -, -, hrefused⟩ := refused_for_first_repetition Stack.nested nested
  exact ⟨hleast, hdistinct 2 hleast, (hfound "late").mpr ⟨2, hleast, rfl⟩, hrefused.mp ⟨by decide, by decide⟩⟩

end MemoryWatchdog
