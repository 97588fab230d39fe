import Mathlib.Algebra.GroupWithZero.Nat
import Confine.Json.Parser
import Confine.Proofs.Data.Members
import Confine.Proofs.Toml.Values

/-!
Configurations and limits as the defaults with what an object gives in their place. Main statement:
the members with known names decide alone, one by one, and nothing else in an object counts, except
that the members of a buffer policy must be such that they can be kept until the mode is known.
-/

namespace Confine

open Data (Members Once Gives Alike keepable)

/-- A truth value as data. -/
def IsFlag (d : Data) (b : Bool) : Prop := d = .bool b

/-- A size or capacity as data. -/
def IsSize (d : Data) (n : Nat) : Prop := d = .int n ∧ n < 2 ^ 64

/-- A limit as data, `null` for none. -/
inductive IsLimit : Data → Option Nat → Prop
  | null : IsLimit .null none
  | int {n : Nat} (h : n < 2 ^ 32) : IsLimit (.int n) (some n)

/-- A directory as data, `null` for none. -/
inductive IsDir : Data → Option String → Prop
  | null : IsDir .null none
  | text (s : String) : IsDir (.text s) (some s)

namespace Data

variable {d : Data}

theorem bool?_eq_some {b : Bool} : bool? d = some b ↔ IsFlag d b := by
  cases d <;> simp [bool?, IsFlag]

theorem nat?_eq_some {bound n : Nat} : nat? bound d = some n ↔ d = .int n ∧ n < bound := by
  cases d with
  | int i =>
    rw [nat?, int.injEq]
    split
    · next h =>
      rw [Option.some.injEq]
      omega
    · next h =>
      refine iff_of_false (by rintro ⟨⟩) ?_
      omega
  | _ => simp [nat?]

theorem size_eq_some {n : Nat} : nat? wordBound d = some n ↔ IsSize d n := nat?_eq_some

theorem limit_eq_some {limit : Option Nat} :
    optional? (nat? limitBound) d = some limit ↔ IsLimit d limit := by
  constructor
  · intro h
    cases d with
    | null =>
      cases h
      exact .null
    | _ =>
      rw [optional?, Option.map_eq_some_iff] at h
      · obtain ⟨n, hn, rfl⟩ := h
        obtain ⟨hd, hlt⟩ := nat?_eq_some.mp hn
        exact hd ▸ .int hlt
      · exact Data.noConfusion
  · rintro (_ | h)
    · rfl
    · exact optional?_nat h

theorem dir_eq_some {dir : Option String} :
    optional? text? d = some dir ↔ IsDir d dir := by
  constructor
  · intro h
    cases d with
    | null =>
      cases h
      exact .null
    | text s =>
      cases h
      exact .text s
    | _ => cases h
  · rintro (_ | s) <;> rfl

end Data

namespace Limits

/-- The names of the limits. -/
def names : List String :=
  ["cpu_time_ms", "wall_time_ms", "memory_mb", "processes", "open_files", "fsize_kb"]

/-- The limits that the members of an object give. -/
structure From (ms : Members) (l : Limits) : Prop where
  once : ∀ name ∈ names, Once name ms
  cpuTimeMs : Gives IsLimit none "cpu_time_ms" ms l.cpuTimeMs
  wallTimeMs : Gives IsLimit none "wall_time_ms" ms l.wallTimeMs
  memoryMb : Gives IsLimit none "memory_mb" ms l.memoryMb
  processes : Gives IsLimit none "processes" ms l.processes
  openFiles : Gives IsLimit (some 256) "open_files" ms l.openFiles
  fsizeKb : Gives IsLimit (some 262144) "fsize_kb" ms l.fsizeKb

/-- Limits as data: by their names, or as a list in their order. -/
def Means (f : DataFormat) (d : Data) (l : Limits) : Prop :=
  ∃ ms, Data.Holds f names d ms ∧ From ms l

theorem ofData_eq_some {f : DataFormat} {d : Data} {l : Limits} :
    ofData f d = some l ↔ Means f d l := by
  have hlimit {ms : Members} (honce : ∀ name ∈ names, Once name ms) {name : String}
      (hname : name ∈ names) {default limit : Option Nat} :
      limitOf default (ms.lookup name) = some limit ↔ Gives IsLimit default name ms limit :=
    Data.orDefault?_lookup (fun _ _ => Data.limit_eq_some) (honce name hname)
  simp only [ofData, Option.bind_eq_bind, Option.bind_eq_some_iff]
  constructor
  · rintro ⟨given, hfields, h⟩
    obtain ⟨ms, hholds, honce, rfl⟩ := (Data.fields_eq_some (by decide)).mp hfields
    simp only [List.map_cons, List.map_nil, Option.bind_eq_some_iff, Option.some.injEq] at h
    obtain ⟨cpu, hcpu, wall, hwall, memory, hmemory, processes, hprocesses, files, hfiles, fsize,
      hfsize, rfl⟩ := h
    exact ⟨ms, hholds, {
      once := honce
      cpuTimeMs := (hlimit honce (by decide)).mp hcpu
      wallTimeMs := (hlimit honce (by decide)).mp hwall
      memoryMb := (hlimit honce (by decide)).mp hmemory
      processes := (hlimit honce (by decide)).mp hprocesses
      openFiles := (hlimit honce (by decide)).mp hfiles
      fsizeKb := (hlimit honce (by decide)).mp hfsize }⟩
  · rintro ⟨ms, hholds, hms⟩
    refine ⟨_, (Data.fields_eq_some (by decide)).mpr ⟨ms, hholds, hms.once, rfl⟩, ?_⟩
    simp only [List.map_cons, List.map_nil, Option.bind_eq_some_iff, Option.some.injEq]
    exact ⟨_, (hlimit hms.once (by decide)).mpr hms.cpuTimeMs,
      _, (hlimit hms.once (by decide)).mpr hms.wallTimeMs,
      _, (hlimit hms.once (by decide)).mpr hms.memoryMb,
      _, (hlimit hms.once (by decide)).mpr hms.processes,
      _, (hlimit hms.once (by decide)).mpr hms.openFiles,
      _, (hlimit hms.once (by decide)).mpr hms.fsizeKb, rfl⟩

theorem From.alike {ms ms' : Members} {l : Limits} (h : Alike names ms ms') (hl : From ms l) :
    From ms' l where
  once name hname := h.once hname (hl.once name hname)
  cpuTimeMs := h.gives (by decide) hl.cpuTimeMs
  wallTimeMs := h.gives (by decide) hl.wallTimeMs
  memoryMb := h.gives (by decide) hl.memoryMb
  processes := h.gives (by decide) hl.processes
  openFiles := h.gives (by decide) hl.openFiles
  fsizeKb := h.gives (by decide) hl.fsizeKb

theorem ofData_object {f : DataFormat} {ms : Members} {l : Limits} :
    ofData f (.object ms) = some l ↔ From ms l := by
  rw [ofData_eq_some]
  constructor
  · rintro ⟨_, hholds, h⟩
    cases hholds
    exact h
  · intro h
    exact ⟨ms, .object ms, h⟩

end Limits

namespace BufferPolicy

/-- The name of a mode. -/
def modeName : BufferPolicy → String
  | unbounded => "unbounded"
  | dropNewest _ => "drop_newest"
  | suspend _ => "suspend"

/-- Whether the members beside the mode can be kept until it is known. -/
def Kept (f : DataFormat) (ms : Members) : Prop :=
  ∀ m ∈ ms, m.1 ≠ "mode" → keepable f 2 m.2 = true

/-- The policy that the members of an object give. -/
structure From (f : DataFormat) (ms : Members) (p : BufferPolicy) : Prop where
  once : Once "mode" ms
  mode : ("mode", .text p.modeName) ∈ ms
  kept : Kept f ms
  capacity : ∀ n, p.capacity? = some n →
    Once "capacity" ms ∧ ∃ d, ("capacity", d) ∈ ms ∧ IsSize d n

/-- A policy as data: by its names, or as a list of the mode and the capacity if it has one. -/
inductive Means (f : DataFormat) : Data → BufferPolicy → Prop
  | object {ms : Members} {p : BufferPolicy} (h : From f ms p) : Means f (.object ms) p
  | list {ds : List Data} {p : BufferPolicy} (kept : ∀ d ∈ ds, keepable f 2 d = true)
      (capacity : ∀ n, p.capacity? = some n → ∃ d, ds = [d] ∧ IsSize d n)
      (alone : p = .unbounded → ds = []) : Means f (.list (.text p.modeName :: ds)) p

theorem capacityOf_eq_some {rest : Data.Rest} {n : Nat} :
    capacityOf rest = some n ↔ ∃ d, rest.fields ["capacity"] = some [some d] ∧ IsSize d n := by
  simp only [capacityOf, Option.bind_eq_bind, Option.bind_eq_some_iff]
  constructor
  · rintro ⟨given, hfields, h⟩
    split at h
    · next capacity =>
      cases capacity with
      | none => cases h
      | some d => exact ⟨d, hfields, Data.size_eq_some.mp h⟩
    · cases h
  · rintro ⟨d, hfields, hd⟩
    exact ⟨_, hfields, Data.size_eq_some.mpr hd⟩

theorem capacityOf_members_iff {ms : Members} {n : Nat} :
    capacityOf (.members (ms.filter fun m => m.1 ≠ "mode")) = some n ↔
      Once "capacity" ms ∧ ∃ d, ("capacity", d) ∈ ms ∧ IsSize d n := by
  have hkeep : decide ("capacity" ≠ "mode") = true := by decide
  have honce := Data.once_filter ms (fun name => decide (name ≠ "mode")) hkeep
  simp only [capacityOf_eq_some, Data.Rest.fields, Data.mapM_member?_eq_some,
    List.mem_singleton, forall_eq, honce, List.map_cons, List.map_nil, List.cons.injEq, and_true,
    ← exists_and_left, and_assoc]
  apply exists_congr
  intro d
  apply and_congr_right
  intro h
  rw [Data.lookup_eq_some (honce.mpr h),
    Data.mem_filter_name (fun name => decide (name ≠ "mode")) hkeep]

theorem capacityOf_items_iff {ds : List Data} {n : Nat} :
    capacityOf (.items ds) = some n ↔ ∃ d, ds = [d] ∧ IsSize d n := by
  rw [capacityOf_eq_some]
  apply exists_congr
  intro d
  rw [Data.Rest.fields]
  obtain - | ⟨first, - | ⟨second, others⟩⟩ := ds
  · simp
  · simp
  · simp

/-- A policy is read by the name of its mode. -/
theorem ofData_eq_some_iff {f : DataFormat} {level : Nat} {d : Data} {p : BufferPolicy} :
    ofData f level d = some p ↔ ∃ rest, d.taggedInside f level "mode" = some (p.modeName, rest) ∧
      (∀ n, p.capacity? = some n → capacityOf rest = some n) ∧
      (p = .unbounded → rest.noFields = true) := by
  simp only [ofData, Option.bind_eq_bind, Option.bind_eq_some_iff]
  constructor
  · rintro ⟨⟨name, rest⟩, ht, h⟩
    simp only at h
    split at h
    · next =>
      split at h
      · next hno =>
        cases h
        refine ⟨rest, ht, ?_, fun _ => hno⟩
        rintro _ ⟨⟩
      · cases h
    · next =>
      obtain ⟨n, hn, rfl⟩ := Option.map_eq_some_iff.mp h
      refine ⟨rest, ht, ?_, BufferPolicy.noConfusion⟩
      rintro _ ⟨⟩
      exact hn
    · next =>
      obtain ⟨n, hn, rfl⟩ := Option.map_eq_some_iff.mp h
      refine ⟨rest, ht, ?_, BufferPolicy.noConfusion⟩
      rintro _ ⟨⟩
      exact hn
    · cases h
  · rintro ⟨rest, ht, hcapacity, hnone⟩
    refine ⟨_, ht, ?_⟩
    cases p with
    | unbounded => exact if_pos (hnone rfl)
    | dropNewest n => exact Option.map_eq_some_iff.mpr ⟨n, hcapacity n rfl, rfl⟩
    | suspend n => exact Option.map_eq_some_iff.mpr ⟨n, hcapacity n rfl, rfl⟩

theorem ofData_eq_some {f : DataFormat} {d : Data} {p : BufferPolicy} :
    ofData f 2 d = some p ↔ Means f d p := by
  rw [ofData_eq_some_iff]
  constructor
  · rintro ⟨rest, ht, hcapacity, hnone⟩
    cases d with
    | object ms =>
      obtain ⟨honce, hmode, hkept, rfl⟩ := Data.taggedInside_object_eq_some.mp ht
      exact .object ⟨honce, hmode, hkept, fun n hn => capacityOf_members_iff.mp (hcapacity n hn)⟩
    | list items =>
      obtain ⟨ds, rfl, hkept, rfl⟩ := Data.taggedInside_list_eq_some.mp ht
      exact .list hkept (fun n hn => capacityOf_items_iff.mp (hcapacity n hn))
        fun hp => List.isEmpty_iff.mp (hnone hp)
    | _ => cases ht
  · rintro (h | ⟨hkept, hcapacity, halone⟩)
    · exact ⟨_, Data.taggedInside_object_eq_some.mpr ⟨h.once, h.mode, h.kept, rfl⟩,
        fun n hn => capacityOf_members_iff.mpr (h.capacity n hn), fun _ => rfl⟩
    · exact ⟨_, Data.taggedInside_list_eq_some.mpr ⟨_, rfl, hkept, rfl⟩,
        fun n hn => capacityOf_items_iff.mpr (hcapacity n hn),
        fun hp => List.isEmpty_iff.mpr (halone hp)⟩

theorem From.alike {f : DataFormat} {ms ms' : Members} {p : BufferPolicy}
    (h : Alike ["mode", "capacity"] ms ms') (hk : Kept f ms → Kept f ms') (hp : From f ms p) :
    From f ms' p where
  once := h.once (by decide) hp.once
  mode := h.mem (by decide) hp.mode
  kept := hk hp.kept
  capacity n hn := by
    obtain ⟨honce, d, hmem, hd⟩ := hp.capacity n hn
    exact ⟨h.once (by decide) honce, d, h.mem (by decide) hmem, hd⟩

end BufferPolicy

namespace Config

/-- The names of the fields of a configuration. -/
def names : List String :=
  ["debug_on_crash", "output_buffer", "high_water_mark", "event_capacity", "working_dir", "limits"]

/-- The configuration that the members of an object give. -/
structure From (f : DataFormat) (ms : Members) (c : Config) : Prop where
  once : ∀ name ∈ names, Once name ms
  debugOnCrash : Gives IsFlag false "debug_on_crash" ms c.debugOnCrash
  outputBuffer : Gives (BufferPolicy.Means f) .unbounded "output_buffer" ms c.outputBuffer
  highWaterMark : Gives IsSize 16384 "high_water_mark" ms c.highWaterMark
  eventCapacity : Gives IsSize 256 "event_capacity" ms c.eventCapacity
  workingDir : Gives IsDir none "working_dir" ms c.workingDir
  limits : Gives (Limits.Means f) {} "limits" ms c.limits

theorem ofData_eq_some {f : DataFormat} {d : Data} {c : Config} :
    ofData f d = some c ↔ ∃ ms, Data.Holds f names d ms ∧ From f ms c := by
  have hread {ms : Members} (honce : ∀ name ∈ names, Once name ms) {α : Type}
      {read : Data → Option α} {Means : Data → α → Prop}
      (heq : ∀ d a, read d = some a ↔ Means d a) {name : String} (hname : name ∈ names)
      {default a : α} :
      Data.orDefault? read default (ms.lookup name) = some a ↔ Gives Means default name ms a :=
    Data.orDefault?_lookup heq (honce name hname)
  simp only [ofData, Option.bind_eq_bind, Option.bind_eq_some_iff]
  constructor
  · rintro ⟨given, hfields, h⟩
    obtain ⟨ms, hholds, honce, rfl⟩ := (Data.fields_eq_some (by decide)).mp hfields
    simp only [List.map_cons, List.map_nil, Option.bind_eq_some_iff, Option.some.injEq] at h
    obtain ⟨debug, hdebug, buffer, hbuffer, mark, hmark, capacity, hcapacity, dir, hdir, limits,
      hlimits, rfl⟩ := h
    exact ⟨ms, hholds, {
      once := honce
      debugOnCrash := (hread honce (fun _ _ => Data.bool?_eq_some) (by decide)).mp hdebug
      outputBuffer :=
        (hread honce (fun _ _ => BufferPolicy.ofData_eq_some) (by decide)).mp hbuffer
      highWaterMark := (hread honce (fun _ _ => Data.size_eq_some) (by decide)).mp hmark
      eventCapacity := (hread honce (fun _ _ => Data.size_eq_some) (by decide)).mp hcapacity
      workingDir := (hread honce (fun _ _ => Data.dir_eq_some) (by decide)).mp hdir
      limits := (hread honce (fun _ _ => Limits.ofData_eq_some) (by decide)).mp hlimits }⟩
  · rintro ⟨ms, hholds, hms⟩
    refine ⟨_, (Data.fields_eq_some (by decide)).mpr ⟨ms, hholds, hms.once, rfl⟩, ?_⟩
    simp only [List.map_cons, List.map_nil, Option.bind_eq_some_iff, Option.some.injEq]
    have honce := hms.once
    exact ⟨_, (hread honce (fun _ _ => Data.bool?_eq_some) (by decide)).mpr hms.debugOnCrash,
      _, (hread honce (fun _ _ => BufferPolicy.ofData_eq_some) (by decide)).mpr hms.outputBuffer,
      _, (hread honce (fun _ _ => Data.size_eq_some) (by decide)).mpr hms.highWaterMark,
      _, (hread honce (fun _ _ => Data.size_eq_some) (by decide)).mpr hms.eventCapacity,
      _, (hread honce (fun _ _ => Data.dir_eq_some) (by decide)).mpr hms.workingDir,
      _, (hread honce (fun _ _ => Limits.ofData_eq_some) (by decide)).mpr hms.limits, rfl⟩

theorem From.alike {f : DataFormat} {ms ms' : Members} {c : Config} (h : Alike names ms ms')
    (hc : From f ms c) : From f ms' c where
  once name hname := h.once hname (hc.once name hname)
  debugOnCrash := h.gives (by decide) hc.debugOnCrash
  outputBuffer := h.gives (by decide) hc.outputBuffer
  highWaterMark := h.gives (by decide) hc.highWaterMark
  eventCapacity := h.gives (by decide) hc.eventCapacity
  workingDir := h.gives (by decide) hc.workingDir
  limits := h.gives (by decide) hc.limits

/-- Two values of a member that differ in nothing that counts. -/
inductive Same (f : DataFormat) : String → Data → Data → Prop
  | limits {ms ms' : Members} (h : Alike Limits.names ms ms') :
      Same f "limits" (.object ms) (.object ms')
  | outputBuffer {ms ms' : Members} (h : Alike ["mode", "capacity"] ms ms')
      (hk : BufferPolicy.Kept f ms ↔ BufferPolicy.Kept f ms') :
      Same f "output_buffer" (.object ms) (.object ms')

variable {f : DataFormat} {name : String} {d d' : Data}

theorem Same.symm (h : Same f name d d') : Same f name d' d := by
  cases h with
  | limits h => exact .limits h.symm
  | outputBuffer h hk => exact .outputBuffer h.symm hk.symm

theorem Same.policy (h : Same f name d d') (hn : "output_buffer" = name) (p : BufferPolicy)
    (hp : BufferPolicy.Means f d p) : BufferPolicy.Means f d' p := by
  cases h with
  | limits => exact absurd hn (by decide)
  | outputBuffer h hk =>
    cases hp with
    | object hp => exact .object (hp.alike h hk.mp)

theorem Same.limits_means (h : Same f name d d') (hn : "limits" = name) (l : Limits)
    (hl : Limits.Means f d l) : Limits.Means f d' l := by
  cases h with
  | limits h =>
    obtain ⟨_, hholds, hl⟩ := hl
    cases hholds
    exact ⟨_, .object _, hl.alike h⟩
  | outputBuffer => exact absurd hn (by decide)

/-- The other fields are read from values without members. -/
theorem Same.name_eq (h : Same f name d d') : name = "limits" ∨ name = "output_buffer" := by
  cases h with
  | limits => exact .inl rfl
  | outputBuffer => exact .inr rfl

theorem From.replace {before after : Members} {c : Config} (h : Same f name d d')
    (hc : From f (before ++ (name, d) :: after) c) :
    From f (before ++ (name, d') :: after) c := by
  have hother (other : String) (hl : other ≠ "limits") (hb : other ≠ "output_buffer")
      (heq : other = name) : False := by
    obtain hname | hname := h.name_eq
    · exact hl (heq.trans hname)
    · exact hb (heq.trans hname)
  exact {
    once := fun name hname => Data.once_replace.mpr (hc.once name hname)
    debugOnCrash := hc.debugOnCrash.replace fun heq =>
      (hother "debug_on_crash" (by decide) (by decide) heq).elim
    outputBuffer := hc.outputBuffer.replace h.policy
    highWaterMark := hc.highWaterMark.replace fun heq =>
      (hother "high_water_mark" (by decide) (by decide) heq).elim
    eventCapacity := hc.eventCapacity.replace fun heq =>
      (hother "event_capacity" (by decide) (by decide) heq).elim
    workingDir := hc.workingDir.replace fun heq =>
      (hother "working_dir" (by decide) (by decide) heq).elim
    limits := hc.limits.replace h.limits_means }

theorem ofData_object {ms : Members} {c : Config} :
    ofData f (.object ms) = some c ↔ From f ms c := by
  rw [ofData_eq_some]
  constructor
  · rintro ⟨_, hholds, h⟩
    cases hholds
    exact h
  · intro h
    exact ⟨ms, .object ms, h⟩

end Config

end Confine
