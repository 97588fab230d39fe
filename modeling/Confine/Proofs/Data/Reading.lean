import Confine.Data.Typed

/-!
The values of the library read back from the data that they are written as, in every format.
-/

namespace Confine

/-- The signed numbers of 32 bits. -/
def FitsInt32 (i : Int) : Prop := -0x80000000 ≤ i ∧ i < 0x80000000

/-- An absent limit, or one in the range of limits. -/
def FitsLimit (limit : Option Nat) : Prop := ∀ n, limit = some n → n < limitBound

/-- Whether a number or a text found inside so many levels can be kept for later. -/
def DataFormat.Allows (f : DataFormat) (level : Nat) : Prop :=
  match f.maxDepth with
  | some n => level ≤ n
  | none => True

namespace Data

section Parts

variable {f : DataFormat} {level : Nat} {name tag content : String} {d : Data}
variable {ms : List (String × Data)}

theorem int32?_int {i : Int} (h : FitsInt32 i) : int32? (.int i) = some i := if_pos h

theorem nat?_int {bound n : Nat} (h : n < bound) : nat? bound (.int n) = some n :=
  if_pos ⟨Int.natCast_nonneg n, Int.ofNat_lt.mpr h⟩

theorem required?_int32 {i : Int} (h : FitsInt32 i) : required? int32? (some (.int i)) = some i :=
  int32?_int h

theorem required?_nat {bound n : Nat} (h : n < bound) :
    required? (nat? bound) (some (.int n)) = some n := nat?_int h

theorem orDefault?_nat {bound default n : Nat} (h : n < bound) :
    orDefault? (nat? bound) default (some (.int n)) = some n := nat?_int h

theorem optional?_nat {bound n : Nat} (h : n < bound) :
    optional? (nat? bound) (.int n) = some (some n) := by
  rw [optional?, nat?_int h]
  · rfl
  · exact Data.noConfusion

/-- A limit reads back as it was, an absent one included. -/
theorem limitOf_ofNat? {default limit : Option Nat} (h : FitsLimit limit) :
    Limits.limitOf default (some (.ofNat? limit)) = some limit := by
  cases limit with
  | none => rfl
  | some n => rw [Limits.limitOf, orDefault?, ofNat?, optional?_nat (h n rfl)]

theorem keepable_int (h : f.Allows level) (i : Int) : keepable f level (.int i) = true := by
  have hreadable : (int i).readable = true := by simp only [readable]
  have hdepth : (int i).depth = 0 := by simp only [depth]
  rw [keepable, hreadable, hdepth, Bool.true_and]
  rw [DataFormat.Allows] at h
  split
  · next n hn =>
    rw [hn] at h
    exact decide_eq_true h
  · rfl

theorem filter_eq_nil (h : name ∉ ms.map Prod.fst) : ms.filter (fun m => m.1 = name) = [] := by
  rw [List.filter_eq_nil_iff]
  intro m hm heq
  apply h
  rw [← of_decide_eq_true heq]
  exact List.mem_map_of_mem hm

theorem member?_of_mem (hnames : (ms.map Prod.fst).Nodup) (h : (name, d) ∈ ms) :
    member? name ms = some (some d) := by
  have hfilter : ms.filter (fun m => m.1 = name) = [(name, d)] := by
    induction ms with
    | nil => exact absurd h List.not_mem_nil
    | cons m ms ih =>
      rw [List.map_cons, List.nodup_cons] at hnames
      cases List.mem_cons.mp h with
      | inl hm =>
        subst hm
        rw [List.filter_cons_of_pos (by simp), filter_eq_nil hnames.1]
      | inr hm =>
        have hne : m.1 ≠ name := by
          intro heq
          apply hnames.1
          rw [heq]
          exact List.mem_map_of_mem hm
        rw [List.filter_cons_of_neg (by simp [hne])]
        exact ih hnames.2 hm
  rw [member?, hfilter]

/-- The members of an object, read by their names. -/
theorem mapM_member? {names : List String} (hms : ms.map Prod.fst = names) (hnames : names.Nodup) :
    names.mapM (member? · ms) = some (ms.map fun m => some m.2) := by
  subst hms
  suffices h : ∀ part : List (String × Data), (∀ m ∈ part, m ∈ ms) →
      (part.map Prod.fst).mapM (member? · ms) = some (part.map fun m => some m.2) from
    h ms fun m hm => hm
  intro part hpart
  induction part with
  | nil => rfl
  | cons m part ih =>
    have hfirst : member? m.1 ms = some (some m.2) :=
      member?_of_mem hnames (hpart m List.mem_cons_self)
    have hrest := ih fun m' hm' => hpart m' (List.mem_cons_of_mem m hm')
    rw [List.map_cons, List.mapM_cons, hfirst, hrest]
    rfl

theorem taggedInside_object (htag : tag ∉ ms.map Prod.fst)
    (hkept : ∀ m ∈ ms, keepable f level m.2 = true) :
    taggedInside f level tag (.object ((tag, .text name) :: ms)) = some (name, .members ms) := by
  have hmember : member? tag ((tag, .text name) :: ms) = some (some (.text name)) := by
    rw [member?, List.filter_cons_of_pos (by simp), filter_eq_nil htag]
  have hrest : ((tag, .text name) :: ms).filter (fun m => m.1 ≠ tag) = ms := by
    rw [List.filter_cons_of_neg (by simp), List.filter_eq_self]
    intro m hm
    apply decide_eq_true
    intro heq
    exact htag (heq ▸ List.mem_map_of_mem hm)
  have hall : (ms.all fun m => keepable f level m.2) = true := List.all_eq_true.mpr hkept
  simp only [taggedInside, hmember, hrest, hall, required?, text?, Option.bind_eq_bind,
    Option.bind_some, ↓reduceIte]

theorem taggedBeside_alone (hne : tag ≠ content) (kept : Bool) (variants : List String) :
    taggedBeside f level kept tag content variants (.object [(tag, .text name)]) =
      some (name, none, kept) := by
  simp [taggedBeside, member?, required?, variantName?, hne]

theorem taggedBeside_content (hne : tag ≠ content) (kept : Bool) (variants : List String) :
    taggedBeside f level kept tag content variants (.object [(tag, .text name), (content, d)]) =
      some (name, some d, kept) := by
  simp [taggedBeside, member?, required?, variantName?, hne, hne.symm]

end Parts

end Data

section Values

variable {f : DataFormat} {level : Nat}

def DataNotice.Fits (n : DataNotice) : Prop := FitsInt32 n.fd ∧ n.len < wordBound

theorem DataNotice.ofData_toData {n : DataNotice} (h : n.Fits) : ofData f n.toData = some n := by
  have hfields : n.toData.fields f ["fd", "len"] = some [some (.int n.fd), some (.int n.len)] :=
    Data.mapM_member? rfl (by simp)
  rw [ofData, hfields]
  simp only [Data.required?_int32 h.1, Data.required?_nat h.2, Option.bind_eq_bind,
    Option.bind_some]

def EngineFault.Fits : EngineFault → Prop
  | unknownDescriptor fd => FitsInt32 fd
  | bytesDropped fd count => FitsInt32 fd ∧ count < wordBound

theorem EngineFault.ofData_toData (hf : f.Allows level) {e : EngineFault} (h : e.Fits) :
    ofData f level e.toData = some e := by
  cases e with
  | unknownDescriptor fd =>
    have htag : (unknownDescriptor fd).toData.taggedInside f level "fault" =
        some ("unknown_descriptor", .members [("fd", .int fd)]) := by
      apply Data.taggedInside_object
      · simp
      · simp [Data.keepable_int hf]
    have hfields : ["fd"].mapM (Data.member? · [("fd", .int fd)]) = some [some (.int fd)] :=
      Data.mapM_member? rfl (by simp)
    rw [ofData, htag]
    simp only [Data.Rest.fields, hfields, Data.required?_int32 h, Option.bind_eq_bind,
      Option.bind_some]
  | bytesDropped fd count =>
    have htag : (bytesDropped fd count).toData.taggedInside f level "fault" =
        some ("bytes_dropped", .members [("fd", .int fd), ("count", .int count)]) := by
      apply Data.taggedInside_object
      · simp
      · simp [Data.keepable_int hf]
    have hfields : ["fd", "count"].mapM (Data.member? · [("fd", .int fd), ("count", .int count)]) =
        some [some (.int fd), some (.int count)] := Data.mapM_member? rfl (by simp)
    rw [ofData, htag]
    simp only [Data.Rest.fields, hfields, Data.required?_int32 h.1, Data.required?_nat h.2,
      Option.bind_eq_bind, Option.bind_some]

def BufferPolicy.Fits (p : BufferPolicy) : Prop := ∀ n, p.capacity? = some n → n < wordBound

theorem BufferPolicy.capacityOf_members {n : Nat} (h : n < wordBound) :
    capacityOf (.members [("capacity", .int n)]) = some n := by
  have hfields : (Data.Rest.members [("capacity", .int n)]).fields ["capacity"] =
      some [some (.int n)] := Data.mapM_member? rfl (by simp)
  simp only [capacityOf, hfields, Option.bind_eq_bind]
  -- By a lemma on its parts: computing the value would count down from the bound.
  exact Option.bind_eq_some_iff.mpr ⟨_, rfl, Data.required?_nat h⟩

theorem BufferPolicy.ofData_dropNewest {d : Data} {rest : Data.Rest}
    (h : d.taggedInside f level "mode" = some ("drop_newest", rest)) :
    ofData f level d = (capacityOf rest).map dropNewest := by
  rw [ofData, h]
  simp only [Option.bind_eq_bind, Option.bind_some]

theorem BufferPolicy.ofData_suspend {d : Data} {rest : Data.Rest}
    (h : d.taggedInside f level "mode" = some ("suspend", rest)) :
    ofData f level d = (capacityOf rest).map suspend := by
  rw [ofData, h]
  simp only [Option.bind_eq_bind, Option.bind_some]

theorem BufferPolicy.ofData_toData (hf : f.Allows level) {p : BufferPolicy} (h : p.Fits) :
    ofData f level p.toData = some p := by
  have htag (mode : String) (n : Nat) :
      Data.taggedInside f level "mode" (.object [("mode", .text mode), ("capacity", .int n)]) =
        some (mode, .members [("capacity", .int n)]) := by
    apply Data.taggedInside_object
    · simp
    · simp [Data.keepable_int hf]
  cases p with
  | unbounded =>
    have halone : Data.taggedInside f level "mode" (.object [("mode", .text "unbounded")]) =
        some ("unbounded", .members []) := by
      apply Data.taggedInside_object
      · simp
      · simp
    rw [ofData, toData, halone]
    rfl
  | dropNewest n =>
    rw [toData, ofData_dropNewest (htag "drop_newest" n), capacityOf_members (h n rfl),
      Option.map_some]
  | suspend n =>
    rw [toData, ofData_suspend (htag "suspend" n), capacityOf_members (h n rfl), Option.map_some]

def Termination.Fits : Termination → Prop
  | exited code => FitsInt32 code
  | signaled number => FitsInt32 number
  | spawnFailed => True

theorem Termination.ofData_toData (kept : Bool) {t : Termination} (h : t.Fits) :
    ofData f level kept t.toData = some t := by
  cases t with
  | exited code =>
    rw [ofData, toData, Data.taggedBeside_content (by simp)]
    simp only [Data.required?_int32 h, Option.bind_eq_bind, Option.bind_some, Option.map_some]
  | signaled number =>
    rw [ofData, toData, Data.taggedBeside_content (by simp)]
    simp only [Data.required?_int32 h, Option.bind_eq_bind, Option.bind_some, Option.map_some]
  | spawnFailed =>
    rw [ofData, toData, Data.taggedBeside_alone (by simp)]
    rfl

def Lifecycle.Fits (s : Lifecycle) : Prop := ∀ t, s.termination? = some t → t.Fits

theorem Lifecycle.ofData_toData {s : Lifecycle} (h : s.Fits) :
    ofData f level s.toData = some s := by
  cases s with
  | terminated t =>
    have ht : Termination.ofData f (level + 1) false t.toData = some t :=
      Termination.ofData_toData false (h t rfl)
    rw [ofData, toData, Data.taggedBeside_content (by simp)]
    simp only [Data.required?, ht, Option.bind_eq_bind, Option.bind_some, Option.map_some]
  | _ =>
    rw [ofData, toData, Data.taggedBeside_alone (by simp)]
    rfl

def LifecycleEvent.Fits : LifecycleEvent → Prop
  | exit status => FitsInt32 status
  | signal number => FitsInt32 number
  | _ => True

theorem LifecycleEvent.ofData_toData {e : LifecycleEvent} (h : e.Fits) :
    ofData f level e.toData = some e := by
  cases e with
  | started =>
    rw [ofData, toData, Data.taggedBeside_alone (by simp)]
    rfl
  | newSocket path =>
    rw [ofData, toData, Data.taggedBeside_content (by simp)]
    rfl
  | exit status =>
    rw [ofData, toData, Data.taggedBeside_content (by simp)]
    simp only [Data.required?_int32 h, Option.bind_eq_bind, Option.bind_some, Option.map_some]
  | signal number =>
    rw [ofData, toData, Data.taggedBeside_content (by simp)]
    simp only [Data.required?_int32 h, Option.bind_eq_bind, Option.bind_some, Option.map_some]

structure Limits.Fits (l : Limits) : Prop where
  cpuTimeMs : FitsLimit l.cpuTimeMs
  wallTimeMs : FitsLimit l.wallTimeMs
  memoryMb : FitsLimit l.memoryMb
  processes : FitsLimit l.processes
  openFiles : FitsLimit l.openFiles
  fsizeKb : FitsLimit l.fsizeKb

theorem Limits.ofData_toData {l : Limits} (h : l.Fits) : ofData f l.toData = some l := by
  have hfields : l.toData.fields f
      ["cpu_time_ms", "wall_time_ms", "memory_mb", "processes", "open_files", "fsize_kb"] =
      some [some (.ofNat? l.cpuTimeMs), some (.ofNat? l.wallTimeMs), some (.ofNat? l.memoryMb),
        some (.ofNat? l.processes), some (.ofNat? l.openFiles), some (.ofNat? l.fsizeKb)] :=
    Data.mapM_member? rfl (by simp)
  rw [ofData, hfields]
  simp only [Data.limitOf_ofNat? h.cpuTimeMs, Data.limitOf_ofNat? h.wallTimeMs,
    Data.limitOf_ofNat? h.memoryMb, Data.limitOf_ofNat? h.processes,
    Data.limitOf_ofNat? h.openFiles, Data.limitOf_ofNat? h.fsizeKb, Option.bind_eq_bind,
    Option.bind_some]

structure Config.Fits (c : Config) : Prop where
  outputBuffer : c.outputBuffer.Fits
  highWaterMark : c.highWaterMark < wordBound
  eventCapacity : c.eventCapacity < wordBound
  limits : c.limits.Fits

theorem Config.ofData_toData (hf : f.Allows 2) {c : Config} (h : c.Fits) :
    ofData f c.toData = some c := by
  obtain ⟨dir, hfields, hdir⟩ : ∃ dir : Data,
      c.toData.fields f ["debug_on_crash", "output_buffer", "high_water_mark", "event_capacity",
        "working_dir", "limits"] =
        some [some (.bool c.debugOnCrash), some c.outputBuffer.toData, some (.int c.highWaterMark),
          some (.int c.eventCapacity), some dir, some c.limits.toData] ∧
      ∀ default : Option String,
        Data.orDefault? (Data.optional? Data.text?) default (some dir) = some c.workingDir := by
    refine ⟨_, Data.mapM_member? rfl (by simp), fun default => ?_⟩
    cases c.workingDir <;> rfl
  have hdebug (default : Bool) :
      Data.orDefault? Data.bool? default (some (.bool c.debugOnCrash)) = some c.debugOnCrash := rfl
  have hbuffer (default : BufferPolicy) :
      Data.orDefault? (BufferPolicy.ofData f 2) default (some c.outputBuffer.toData) =
        some c.outputBuffer := BufferPolicy.ofData_toData hf h.outputBuffer
  have hlimits (default : Limits) :
      Data.orDefault? (Limits.ofData f) default (some c.limits.toData) = some c.limits :=
    Limits.ofData_toData h.limits
  rw [ofData, hfields]
  simp only [hdebug, hbuffer, Data.orDefault?_nat h.highWaterMark,
    Data.orDefault?_nat h.eventCapacity, hdir, hlimits, Option.bind_eq_bind, Option.bind_some]

end Values

end Confine
