import Confine.Host.Rlimits
import Confine.Proofs.Data.Reading
import Mathlib.Order.MinMax

/-!
The plan that the limits of a child make. A limit is a word of 32 bits and the kernel counts in
words of 64 bits, which are never too short for a plan.
-/

namespace Confine

/-- Division of words, rounded up. -/
def ceilDiv (a b : UInt64) : UInt64 := if 0 < a % b then a / b + 1 else a / b

theorem toNat_mul_of_lt {a b : UInt64} (h : a.toNat * b.toNat < wordBound) :
    (a * b).toNat = a.toNat * b.toNat := by
  rw [UInt64.toNat_mul]
  exact Nat.mod_eq_of_lt h

theorem toNat_add_one_of_lt {a : UInt64} (h : a.toNat + 1 < wordBound) :
    (a + 1).toNat = a.toNat + 1 := by
  rw [UInt64.toNat_add]
  exact Nat.mod_eq_of_lt h

theorem toNat_ceilDiv (n : UInt32) :
    (ceilDiv n.toUInt64 1000).toNat = (n.toNat + 999) / 1000 := by
  have hn : n.toNat < 2 ^ 32 := n.toNat_lt
  have hdiv : (n.toUInt64 / 1000).toNat = n.toNat / 1000 := rfl
  have hmod : 0 < n.toUInt64 % 1000 ↔ 0 < n.toNat % 1000 := Iff.rfl
  rw [ceilDiv]
  split
  · next hpos =>
    have hlt : (n.toUInt64 / 1000).toNat + 1 < wordBound := by
      rw [hdiv, wordBound]
      omega
    rw [toNat_add_one_of_lt hlt, hdiv]
    have := hmod.mp hpos
    omega
  · next hpos =>
    rw [hdiv]
    have := mt hmod.mpr hpos
    omega

theorem toNat_max (a b : UInt64) : (max a b).toNat = max a.toNat b.toNat := by
  change (if a ≤ b then b else a).toNat = _
  split
  · next h => exact (Nat.max_eq_right h).symm
  · next h => exact (Nat.max_eq_left (Nat.le_of_not_le h)).symm

/-- What a plan can limit. -/
inductive LimitKind where
  | cpuTime
  | memory
  | processes
  | openFiles
  | fileSize
deriving DecidableEq

namespace LimitKind

def asked : LimitKind → Limits → Option Nat
  | cpuTime => Limits.cpuTimeMs
  | memory => Limits.memoryMb
  | processes => Limits.processes
  | openFiles => Limits.openFiles
  | fileSize => Limits.fsizeKb

def planned : LimitKind → RlimitPlan → Option Nat
  | cpuTime => RlimitPlan.cpuSecs
  | memory => RlimitPlan.addressSpace
  | processes => RlimitPlan.processes
  | openFiles => RlimitPlan.openFiles
  | fileSize => RlimitPlan.fileSize

/-- What a limit comes to in the unit of the kernel. -/
def amount : LimitKind → Nat → Nat
  | cpuTime, n => RlimitPlan.wholeSeconds n
  | memory, n => n * 1024 * 1024
  | processes, n => n
  | openFiles, n => n
  | fileSize, n => n * 1024

/-- The same, reckoned in words. -/
def word : LimitKind → UInt32 → UInt64
  | cpuTime, n => max (ceilDiv n.toUInt64 1000) 1
  | memory, n => n.toUInt64 * 1024 * 1024
  | processes, n => n.toUInt64
  | openFiles, n => n.toUInt64
  | fileSize, n => n.toUInt64 * 1024

def resource : LimitKind → Host.Resource
  | cpuTime => .cpuTime
  | memory => .addressSpace
  | processes => .processes
  | openFiles => .openFiles
  | fileSize => .fileSize

/-- How the kernel is told of an amount. -/
def bound : LimitKind → Nat → Host.Bound
  | cpuTime, n => ⟨some n, some (RlimitPlan.cpuHard n)⟩
  | _, n => .both n

/-- A plan is made kind by kind. -/
theorem planned_ofLimits (kind : LimitKind) (l : Limits) (debug : Bool) :
    kind.planned (.ofLimits l debug) = (kind.asked l).map kind.amount := by
  cases kind with
  | cpuTime | memory | fileSize => rfl
  | processes | openFiles => exact Option.map_id'.symm

theorem asked_lt {l : Limits} (h : l.Fits) {kind : LimitKind} {n : Nat}
    (hn : kind.asked l = some n) : n < limitBound := by
  cases kind with
  | cpuTime => exact h.cpuTimeMs n hn
  | memory => exact h.memoryMb n hn
  | processes => exact h.processes n hn
  | openFiles => exact h.openFiles n hn
  | fileSize => exact h.fsizeKb n hn

theorem amount_mono (kind : LimitKind) : Monotone kind.amount := by
  intro m n h
  cases kind with
  | cpuTime => exact max_le_max (Nat.div_le_div_right (Nat.add_le_add_right h 999)) le_rfl
  | memory => exact Nat.mul_le_mul_right 1024 (Nat.mul_le_mul_right 1024 h)
  | processes | openFiles => exact h
  | fileSize => exact Nat.mul_le_mul_right 1024 h

theorem amount_cpuTime (ms : Nat) :
    1 ≤ amount cpuTime ms ∧ ms ≤ 1000 * amount cpuTime ms ∧
      (ms ≠ 0 → 1000 * (amount cpuTime ms - 1) < ms) := by
  rw [amount, RlimitPlan.wholeSeconds]
  omega

/-- There is room for one second more than the limit, or one more of anything. -/
theorem amount_add_one_lt (kind : LimitKind) {n : Nat} (h : n < limitBound) :
    kind.amount n + 1 < wordBound := by
  rw [limitBound] at h
  rw [wordBound]
  cases kind <;> simp only [amount, RlimitPlan.wholeSeconds] <;> omega

/-- No step of the reckoning in words wraps around. -/
theorem toNat_word (kind : LimitKind) (n : UInt32) : (kind.word n).toNat = kind.amount n.toNat := by
  have hn : n.toNat < 2 ^ 32 := n.toNat_lt
  have hkilo : (n.toUInt64 * 1024).toNat = n.toNat * 1024 :=
    toNat_mul_of_lt (show n.toNat * 1024 < wordBound by rw [wordBound]; omega)
  cases kind with
  | cpuTime =>
    rw [word, toNat_max, toNat_ceilDiv]
    rfl
  | memory =>
    have hmega : (n.toUInt64 * 1024).toNat * 1024 < wordBound := by
      rw [hkilo, wordBound]
      omega
    rw [word, toNat_mul_of_lt hmega, hkilo]
    rfl
  | processes | openFiles => rfl
  | fileSize => exact hkilo

end LimitKind

namespace Host.Rlimits

/-- A table with a line for each resource. -/
def Complete (table : Rlimits) : Prop := ∀ r, (List.lookup r table).isSome

theorem complete_inherited : Complete inherited := by
  intro r
  cases r <;> rfl

/-- Sets a bound, or leaves the table alone. -/
def put (table : Rlimits) (r : Resource) (b : Option Bound) : Rlimits :=
  match b with
  | some b => table.set r b
  | none => table

theorem lookup_set (table : Rlimits) (r x : Resource) (b : Bound) :
    List.lookup x (table.set r b) =
      (List.lookup x table).map fun old => if x = r then b else old := by
  induction table with
  | nil => rfl
  | cons line table ih =>
    obtain ⟨y, old⟩ := line
    have hline : set ((y, old) :: table) r b = (y, if y = r then b else old) :: set table r b := by
      change (if y = r then (y, b) else (y, old)) :: set table r b = _
      split <;> rfl
    rw [hline, List.lookup_cons, List.lookup_cons]
    split
    · next hxy =>
      rw [eq_of_beq hxy, Option.map_some]
    · exact ih

theorem Complete.set {table : Rlimits} (h : Complete table) (r : Resource) (b : Bound) :
    Complete (table.set r b) := by
  intro x
  rw [lookup_set, Option.isSome_map]
  exact h x

theorem Complete.put {table : Rlimits} (h : Complete table) (r : Resource) (b : Option Bound) :
    Complete (table.put r b) := by
  cases b with
  | none => exact h
  | some b => exact h.set r b

theorem Complete.get_put {table : Rlimits} (h : Complete table) (r x : Resource)
    (b : Option Bound) :
    (table.put r b).get x = if x = r then b.getD (table.get x) else table.get x := by
  cases b with
  | none => exact (ite_self _).symm
  | some b =>
    obtain ⟨old, hold⟩ := Option.isSome_iff_exists.mp (h x)
    rw [Rlimits.put, get, get, lookup_set, hold]
    rfl

theorem restrict_eq (table : Rlimits) (r : Resource) (n : Option Nat) :
    table.restrict r n = table.put r (n.map .both) := by
  cases n <;> rfl

theorem apply_eq (table : Rlimits) (plan : RlimitPlan) :
    table.apply plan =
      (((((table.put .cpuTime (plan.cpuSecs.map (LimitKind.bound .cpuTime))).put
        .addressSpace (plan.addressSpace.map .both)).put
        .processes (plan.processes.map .both)).put
        .openFiles (plan.openFiles.map .both)).put
        .fileSize (plan.fileSize.map .both)).put
        .coreSize (if plan.unlimitedCore then some .unlimited else none) := by
  rw [apply]
  simp only [restrict_eq]
  cases plan.cpuSecs <;> cases plan.unlimitedCore <;> rfl

/-- Each kind of limit has a resource to itself. -/
theorem Complete.get_apply {table : Rlimits} (h : Complete table) (plan : RlimitPlan)
    (kind : LimitKind) :
    (table.apply plan).get kind.resource =
      ((kind.planned plan).map kind.bound).getD (table.get kind.resource) := by
  have hcpu := h.put .cpuTime (plan.cpuSecs.map (LimitKind.bound .cpuTime))
  have hmemory := hcpu.put .addressSpace (plan.addressSpace.map .both)
  have hprocesses := hmemory.put .processes (plan.processes.map .both)
  have hfiles := hprocesses.put .openFiles (plan.openFiles.map .both)
  have hsize := hfiles.put .fileSize (plan.fileSize.map .both)
  rw [apply_eq, hsize.get_put, hfiles.get_put, hprocesses.get_put, hmemory.get_put, hcpu.get_put,
    h.get_put]
  cases kind <;> rfl

end Host.Rlimits

namespace RlimitPlan

open LimitKind

/-- The plan of limits that fit: what it holds, in numbers and in words, what it depends on, and
the bounds that it puts into force. -/
theorem ofLimits_exact {l : Limits} (h : l.Fits) (debug : Bool) :
    let plan := ofLimits l debug
    (∀ kind : LimitKind, kind.planned plan = none ↔ kind.asked l = none) ∧
    (plan.addressSpace = l.memoryMb.map (· * 1048576) ∧
      plan.fileSize = l.fsizeKb.map (· * 1024) ∧
      plan.processes = l.processes ∧ plan.openFiles = l.openFiles) ∧
    (∀ (kind : LimitKind) (v : Nat), kind.planned plan = some v → v < wordBound ∧
      ∃ n : UInt32, kind.asked l = some n.toNat ∧ (kind.word n).toNat = v) ∧
    (∀ ms s, l.cpuTimeMs = some ms → plan.cpuSecs = some s →
      1 ≤ s ∧ ms ≤ 1000 * s ∧ (ms ≠ 0 → 1000 * (s - 1) < ms)) ∧
    (∀ s, plan.cpuSecs = some s → s < cpuHard s ∧ cpuHard s < wordBound ∧
      ∀ w : UInt64, w.toNat = s → (w + 1).toNat = cpuHard s) ∧
    (∀ (other : Limits) (debug' : Bool) (kind : LimitKind),
      (∀ m n v w, kind.asked l = some m → kind.asked other = some n → m ≤ n →
        kind.planned plan = some v → kind.planned (ofLimits other debug') = some w → v ≤ w) ∧
      (kind.asked other = kind.asked l →
        kind.planned (ofLimits other debug') = kind.planned plan)) ∧
    plan.unlimitedCore = debug ∧
    (∀ table, Host.Rlimits.Complete table → ∀ kind : LimitKind,
      (table.apply plan).get kind.resource =
        ((kind.planned plan).map kind.bound).getD (table.get kind.resource)) := by
  intro plan
  have hplanned {kind : LimitKind} {v : Nat} (hv : kind.planned plan = some v) :
      ∃ n, n < limitBound ∧ kind.asked l = some n ∧ kind.amount n = v := by
    rw [planned_ofLimits] at hv
    obtain ⟨n, hn, rfl⟩ := Option.map_eq_some_iff.mp hv
    exact ⟨n, asked_lt h hn, hn, rfl⟩
  refine ⟨?absent, ⟨?memory, rfl, rfl, rfl⟩, ?words, ?seconds, ?hard, ?depends, rfl, ?force⟩
  case absent =>
    intro kind
    rw [planned_ofLimits, Option.map_eq_none_iff]
  case memory =>
    change l.memoryMb.map (· * 1024 * 1024) = _
    simp only [Nat.mul_assoc, Nat.reduceMul]
  case words =>
    intro kind v hv
    obtain ⟨n, hlt, hn, rfl⟩ := hplanned hv
    have hword : (UInt32.ofNat n).toNat = n := UInt32.toNat_ofNat_of_lt' hlt
    refine ⟨Nat.lt_of_succ_lt (amount_add_one_lt kind hlt), .ofNat n, ?_, ?_⟩
    · rw [hword, hn]
    · rw [toNat_word, hword]
  case seconds =>
    intro ms s hms (hs : LimitKind.planned .cpuTime plan = some s)
    obtain ⟨n, -, hn, rfl⟩ := hplanned hs
    cases hms.symm.trans hn
    exact amount_cpuTime ms
  case hard =>
    intro s (hs : LimitKind.planned .cpuTime plan = some s)
    obtain ⟨n, hlt, -, rfl⟩ := hplanned hs
    have hhard := amount_add_one_lt .cpuTime hlt
    refine ⟨Nat.lt_succ_self _, hhard, fun w hw => ?_⟩
    rw [← hw] at hhard ⊢
    exact toNat_add_one_of_lt hhard
  case depends =>
    intro other debug' kind
    simp only [plan, planned_ofLimits]
    refine ⟨fun m n v w hm hn hle hv hw => ?_, fun heq => by rw [heq]⟩
    rw [hm, Option.map_some] at hv
    rw [hn, Option.map_some] at hw
    cases hv
    cases hw
    exact kind.amount_mono hle
  case force =>
    intro table htable kind
    exact htable.get_apply plan kind

/-- Every limit but one is the largest there is, and one is missing. -/
theorem largest_limits_exact :
    let l : Limits := {
      cpuTimeMs := some 0xffffffff
      memoryMb := some 0xffffffff
      processes := some 0xffffffff
      openFiles := none
      fsizeKb := some 0xffffffff }
    l.Fits ∧ (ofLimits l true).openFiles = none ∧
      (0xffffffff ≤ 1000 * 4294968 ∧ 1000 * (4294968 - 1) < 0xffffffff) ∧
      4503599626321920 < wordBound ∧
      (Host.Rlimits.inherited.apply (ofLimits l true)).get .cpuTime =
        ⟨some 4294968, some 4294969⟩ := by
  intro l
  have hl : l.Fits := by
    constructor <;> simp [l, FitsLimit, limitBound]
  obtain ⟨habsent, -, hwords, hseconds, -, -, -, hforce⟩ := ofLimits_exact hl true
  have hms := hseconds 0xffffffff 4294968 rfl rfl
  exact ⟨hl, (habsent .openFiles).mpr rfl, ⟨hms.2.1, hms.2.2 (by decide)⟩,
    (hwords .memory 4503599626321920 rfl).1, hforce _ Host.Rlimits.complete_inherited .cpuTime⟩

end RlimitPlan

end Confine
