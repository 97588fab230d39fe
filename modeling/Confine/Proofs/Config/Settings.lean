import Confine.Config.Settings
import Confine.Proofs.Data.Reading
import Confine.Proofs.Policy.Grammar

/-!
What each setting gives to a configuration, whatever the others are, and the settings that give a
configuration back.
-/

namespace Confine

open Text (Trimmed Padded Numeral)

namespace Settings

/-- What a setting gives that is read by some rule: what its trimmed text stands for, or the default
if it is missing, blank or malformed. -/
inductive Gives {α : Type} (Stands : List Char → α → Prop) (default : α) : Option String → α → Prop
  | read {v : String} {t : List Char} {a : α} (ht : Trimmed v.toList t) (hne : t ≠ [])
      (h : Stands t a) : Gives Stands default (some v) a
  | missing : Gives Stands default none default
  | blank {v : String} (ht : Trimmed v.toList []) : Gives Stands default (some v) default
  | malformed {v : String} {t : List Char} (ht : Trimmed v.toList t) (hne : t ≠ [])
      (h : ∀ a, ¬ Stands t a) : Gives Stands default (some v) default

section Rules

variable {α : Type} {Stands : List Char → α → Prop} {default a : α} {s : Settings} {name : String}

theorem text?_of_blank {v : String} (hv : s name = some v) (ht : Trimmed v.toList []) :
    s.text? name = none := by
  have hblank : Text.isBlankText v.toList = true := Text.trim_eq_nil.mp ht.eq_trim.symm
  rw [text?, hv, Option.filter_some, hblank]
  rfl

theorem text?_of_not_blank {v : String} {t : List Char} (hv : s name = some v)
    (ht : Trimmed v.toList t) (hne : t ≠ []) : s.text? name = some v := by
  have hblank : Text.isBlankText v.toList = false := by
    rw [Bool.eq_false_iff, ne_eq, ← Text.trim_eq_nil, ← ht.eq_trim]
    exact hne
  rw [text?, hv, Option.filter_some, hblank]
  rfl

variable {read : String → Option α}

theorem Gives.eq_of_read (hread : ∀ v t a, Trimmed v.toList t → (read v = some a ↔ Stands t a))
    (h : Gives Stands default (s name) a) : ((s.text? name).bind read).getD default = a := by
  generalize hv : s name = given at h
  cases h with
  | read ht hne h =>
    rw [text?_of_not_blank hv ht hne, Option.bind_some, (hread _ _ _ ht).mpr h, Option.getD_some]
  | missing =>
    rw [text?, hv]
    rfl
  | blank ht =>
    rw [text?_of_blank hv ht]
    rfl
  | @malformed v t ht hne h =>
    have hnone : read v = none := by
      rw [Option.eq_none_iff_forall_ne_some]
      intro a ha
      exact h a ((hread v t a ht).mp ha)
    rw [text?_of_not_blank hv ht hne, Option.bind_some, hnone, Option.getD_none]

theorem gives_of_read (hread : ∀ v t a, Trimmed v.toList t → (read v = some a ↔ Stands t a)) :
    Gives Stands default (s name) (((s.text? name).bind read).getD default) := by
  cases hv : s name with
  | none =>
    rw [text?, hv]
    exact .missing
  | some v =>
    have ht := Text.trimmed_trim v.toList
    by_cases hne : Text.trim v.toList = []
    · rw [hne] at ht
      rw [text?_of_blank hv ht]
      exact .blank ht
    · rw [text?_of_not_blank hv ht hne, Option.bind_some]
      cases hr : read v with
      | none =>
        apply Gives.malformed ht hne
        intro a ha
        cases hr.symm.trans ((hread _ _ _ ht).mpr ha)
      | some a => exact .read ht hne ((hread _ _ _ ht).mp hr)

/-- A setting gives one thing: what the reader of its rule makes of its text. -/
theorem gives_iff (hread : ∀ v t a, Trimmed v.toList t → (read v = some a ↔ Stands t a)) :
    Gives Stands default (s name) a ↔ a = ((s.text? name).bind read).getD default := by
  constructor
  · intro h
    exact (h.eq_of_read hread).symm
  · rintro rfl
    exact gives_of_read hread

end Rules

/-- A text that writes a number below a bound. -/
def Number (bound : Nat) (t : List Char) (n : Nat) : Prop := Numeral n t ∧ n < bound

/-- A text that writes a limit. -/
def Limit (t : List Char) (limit : Option Nat) : Prop := ∃ n, limit = some n ∧ Number (2 ^ 32) t n

section Readers

variable {s : Settings} {name : String}

theorem gives_policy {default p : BufferPolicy} :
    Gives BufferPolicy.Spells default (s name) p ↔ p = (s.policy? name).getD default := by
  apply gives_iff
  intro v t p ht
  rw [← BufferPolicy.parse_eq_ok ht]
  cases BufferPolicy.parse v <;> simp [Except.toOption]

theorem gives_number {default n : Nat} :
    Gives (Number (2 ^ 64)) default (s name) n ↔ n = (s.nat? wordBound name).getD default := by
  apply gives_iff
  intro v t n ht
  rw [← ht.eq_trim, Text.readNat?_eq_some]
  rfl

theorem gives_limit {default limit : Option Nat} :
    Gives Limit default (s name) limit ↔ limit = s.limit name default := by
  have hlimit : s.limit name default = (((s.text? name).bind fun v =>
      (Text.readNat? limitBound (Text.trim v.toList)).map some)).getD default := by
    rw [Settings.limit, nat?]
    cases s.text? name with
    | none => rfl
    | some v =>
      simp only [Option.bind_some]
      cases Text.readNat? limitBound (Text.trim v.toList) <;> rfl
  rw [hlimit]
  apply gives_iff
  intro v t limit ht
  simp only [← ht.eq_trim, Option.map_eq_some_iff, Text.readNat?_eq_some, Limit]
  constructor
  · rintro ⟨n, hn, rfl⟩
    exact ⟨n, rfl, hn⟩
  · rintro ⟨n, rfl, hn⟩
    exact ⟨n, hn, rfl⟩

theorem text?_eq_some {v : String} :
    s.text? name = some v ↔ s name = some v ∧ Text.isBlankText v.toList = false := by
  rw [text?, Option.filter_eq_some_iff, Bool.not_eq_true']

theorem flag_iff : (s.flag? name).getD false = true ↔ s name = some "true" ∨ s name = some "1" := by
  have htexts : Text.isBlankText "true".toList = false ∧ Text.isBlankText "1".toList = false := by
    decide
  rw [flag?]
  constructor
  · intro h
    cases hv : s.text? name with
    | none =>
      rw [hv] at h
      cases h
    | some v =>
      obtain ⟨hname, -⟩ := text?_eq_some.mp hv
      rw [hv] at h
      simp only [Option.map_some, Option.getD_some, Bool.or_eq_true, decide_eq_true_eq] at h
      obtain rfl | rfl := h
      · exact .inl hname
      · exact .inr hname
  · rintro (h | h)
    · rw [text?_eq_some.mpr ⟨h, htexts.1⟩]
      rfl
    · rw [text?_eq_some.mpr ⟨h, htexts.2⟩]
      rfl

end Readers

end Settings

open Settings (Gives Number Limit)

/-- Limits that are what their settings give. -/
structure Limits.GivenBy (s : Settings) (l : Limits) : Prop where
  cpuTimeMs : Gives Limit none (s "SANDBOX_CPU_TIME_MS") l.cpuTimeMs
  wallTimeMs : Gives Limit none (s "SANDBOX_WALL_TIME_MS") l.wallTimeMs
  memoryMb : Gives Limit none (s "SANDBOX_MEMORY_MB") l.memoryMb
  processes : Gives Limit none (s "SANDBOX_PROCESSES") l.processes
  openFiles : Gives Limit (some 256) (s "SANDBOX_OPEN_FILES") l.openFiles
  fsizeKb : Gives Limit (some 262144) (s "SANDBOX_FSIZE_KB") l.fsizeKb

/-- A configuration whose fields are what their settings give. -/
structure Config.GivenBy (s : Settings) (c : Config) : Prop where
  debugOnCrash : c.debugOnCrash = true ↔
    s "SANDBOX_DEBUG_ON_CRASH" = some "true" ∨ s "SANDBOX_DEBUG_ON_CRASH" = some "1"
  outputBuffer : Gives BufferPolicy.Spells .unbounded (s "SANDBOX_OUTPUT_BUFFER") c.outputBuffer
  highWaterMark : Gives (Number (2 ^ 64)) 16384 (s "SANDBOX_HIGH_WATER_MARK") c.highWaterMark
  eventCapacity : Gives (Number (2 ^ 64)) 256 (s "SANDBOX_EVENT_CAPACITY") c.eventCapacity
  workingDir : ∀ dir, c.workingDir = some dir ↔
    s "SANDBOX_WORKDIR" = some dir ∧ Text.isBlankText dir.toList = false
  limits : c.limits.GivenBy s

theorem Limits.givenBy_iff {s : Settings} {l : Limits} : l.GivenBy s ↔ l = ofSettings s := by
  constructor
  · intro h
    cases l
    rw [ofSettings, Limits.mk.injEq]
    exact ⟨Settings.gives_limit.mp h.cpuTimeMs, Settings.gives_limit.mp h.wallTimeMs,
      Settings.gives_limit.mp h.memoryMb, Settings.gives_limit.mp h.processes,
      Settings.gives_limit.mp h.openFiles, Settings.gives_limit.mp h.fsizeKb⟩
  · rintro rfl
    constructor <;> exact Settings.gives_limit.mpr rfl

theorem Config.givenBy_iff {s : Settings} {c : Config} : c.GivenBy s ↔ c = ofSettings s := by
  have hdir (dir? : Option String) : (∀ dir, dir? = some dir ↔
      s "SANDBOX_WORKDIR" = some dir ∧ Text.isBlankText dir.toList = false) ↔
      dir? = s.text? "SANDBOX_WORKDIR" := by
    simp only [← Settings.text?_eq_some]
    exact Option.ext_iff.symm
  constructor
  · intro h
    cases c
    rw [ofSettings, Config.mk.injEq, Option.or_none]
    refine ⟨?_, Settings.gives_policy.mp h.outputBuffer, Settings.gives_number.mp h.highWaterMark,
      Settings.gives_number.mp h.eventCapacity, (hdir _).mp h.workingDir,
      Limits.givenBy_iff.mp h.limits⟩
    rw [Bool.eq_iff_iff, h.debugOnCrash, Settings.flag_iff]
  · rintro rfl
    exact {
      debugOnCrash := Settings.flag_iff
      outputBuffer := Settings.gives_policy.mpr rfl
      highWaterMark := Settings.gives_number.mpr rfl
      eventCapacity := Settings.gives_number.mpr rfl
      workingDir := (hdir _).mpr Option.or_none
      limits := Limits.givenBy_iff.mpr rfl }

/-- The fields that have a setting. -/
inductive Config.Field where
  | debugOnCrash
  | outputBuffer
  | highWaterMark
  | eventCapacity
  | workingDir
  | cpuTimeMs
  | wallTimeMs
  | memoryMb
  | processes
  | openFiles
  | fsizeKb

namespace Config

/-- The setting of a field. -/
def Field.setting : Field → String
  | debugOnCrash => "SANDBOX_DEBUG_ON_CRASH"
  | outputBuffer => "SANDBOX_OUTPUT_BUFFER"
  | highWaterMark => "SANDBOX_HIGH_WATER_MARK"
  | eventCapacity => "SANDBOX_EVENT_CAPACITY"
  | workingDir => "SANDBOX_WORKDIR"
  | cpuTimeMs => "SANDBOX_CPU_TIME_MS"
  | wallTimeMs => "SANDBOX_WALL_TIME_MS"
  | memoryMb => "SANDBOX_MEMORY_MB"
  | processes => "SANDBOX_PROCESSES"
  | openFiles => "SANDBOX_OPEN_FILES"
  | fsizeKb => "SANDBOX_FSIZE_KB"

/-- Two configurations have the same in a field. -/
def AgreeIn (c c' : Config) : Field → Prop
  | .debugOnCrash => c.debugOnCrash = c'.debugOnCrash
  | .outputBuffer => c.outputBuffer = c'.outputBuffer
  | .highWaterMark => c.highWaterMark = c'.highWaterMark
  | .eventCapacity => c.eventCapacity = c'.eventCapacity
  | .workingDir => c.workingDir = c'.workingDir
  | .cpuTimeMs => c.limits.cpuTimeMs = c'.limits.cpuTimeMs
  | .wallTimeMs => c.limits.wallTimeMs = c'.limits.wallTimeMs
  | .memoryMb => c.limits.memoryMb = c'.limits.memoryMb
  | .processes => c.limits.processes = c'.limits.processes
  | .openFiles => c.limits.openFiles = c'.limits.openFiles
  | .fsizeKb => c.limits.fsizeKb = c'.limits.fsizeKb

theorem ofSettings_agreeIn {s s' : Settings} {field : Field}
    (h : s field.setting = s' field.setting) : (ofSettings s).AgreeIn (ofSettings s') field := by
  have htext : s.text? field.setting = s'.text? field.setting := by
    rw [Settings.text?, h, Settings.text?]
  cases field <;> rw [Field.setting] at htext <;>
    simp only [AgreeIn, ofSettings, Limits.ofSettings, Settings.flag?, Settings.policy?,
      Settings.limit, Settings.nat?, htext]

section Rendering

variable {decorate : String → String → String}

theorem gives_decorated {α : Type} {Stands : List Char → α → Prop} {default a : α} {text : String}
    (hdecorate : ∀ name text, Padded text.toList (decorate name text).toList)
    (hblank : ∀ c ∈ text.toList, Text.isBlank c = false) (hne : text.toList ≠ [])
    (h : Stands text.toList a) (name : String) :
    Gives Stands default (some (decorate name text)) a :=
  .read ((Text.trimmed_self hblank).pad (hdecorate name text)) hne h

theorem gives_natText {α : Type} {Stands : List Char → α → Prop} {default a : α} {n : Nat}
    (hdecorate : ∀ name text, Padded text.toList (decorate name text).toList)
    (h : Stands (Text.natText n) a) (name : String) :
    Gives Stands default (some (decorate name (String.ofList (Text.natText n)))) a := by
  apply gives_decorated hdecorate
  · intro c hc
    rw [String.toList_ofList] at hc
    exact Text.isBlank_of_isDigit (Text.isDigit_of_mem_natText hc)
  · rw [String.toList_ofList]
    exact Text.natText_ne_nil n
  · rw [String.toList_ofList]
    exact h

theorem gives_limitText (hdecorate : ∀ name text, Padded text.toList (decorate name text).toList)
    {limit default : Option Nat} (hlimit : FitsLimit limit)
    (hdefault : limit = none → default = none) (name : String) :
    Gives Limit default (limit.map fun n => decorate name (String.ofList (Text.natText n)))
      limit := by
  cases limit with
  | none =>
    rw [hdefault rfl]
    exact .missing
  | some n =>
    exact gives_natText hdecorate ⟨n, rfl, Text.numeral_natText n, hlimit n rfl⟩ name

/-- A configuration is what its own settings give, however they are decorated. -/
theorem givenBy_toSettings {c : Config} (hc : c.Fits) (hfiles : c.limits.openFiles ≠ none)
    (hfsize : c.limits.fsizeKb ≠ none)
    (hdir : ∀ dir, c.workingDir = some dir → Text.isBlankText dir.toList = false)
    (hdecorate : ∀ name text, Padded text.toList (decorate name text).toList) :
    c.GivenBy (c.toSettings decorate) where
  debugOnCrash := by
    have hflag : c.toSettings decorate "SANDBOX_DEBUG_ON_CRASH" =
        some (if c.debugOnCrash then "true" else "false") := rfl
    rw [hflag]
    cases c.debugOnCrash <;> decide
  outputBuffer := by
    obtain ⟨hne, hblank⟩ := c.outputBuffer.render_letters
    exact gives_decorated hdecorate hblank hne (BufferPolicy.spells_render hc.outputBuffer) _
  highWaterMark := gives_natText hdecorate ⟨Text.numeral_natText _, hc.highWaterMark⟩ _
  eventCapacity := gives_natText hdecorate ⟨Text.numeral_natText _, hc.eventCapacity⟩ _
  workingDir dir := by
    change _ ↔ c.workingDir = some dir ∧ _
    exact (and_iff_left_of_imp (hdir dir)).symm
  limits := {
    cpuTimeMs := gives_limitText hdecorate hc.limits.cpuTimeMs (fun _ => rfl) _
    wallTimeMs := gives_limitText hdecorate hc.limits.wallTimeMs (fun _ => rfl) _
    memoryMb := gives_limitText hdecorate hc.limits.memoryMb (fun _ => rfl) _
    processes := gives_limitText hdecorate hc.limits.processes (fun _ => rfl) _
    openFiles := gives_limitText hdecorate hc.limits.openFiles (fun h => absurd h hfiles) _
    fsizeKb := gives_limitText hdecorate hc.limits.fsizeKb (fun h => absurd h hfsize) _ }

end Rendering

/-- Every field is what its own setting gives, and no other setting has a part in it. So a
configuration comes back from the settings that it is written as, whatever blanks are around them,
unless a default would stand in for an absent limit or its directory is blank. -/
theorem settings_exact :
    (∀ (s : Settings) (c : Config), c.GivenBy s ↔ c = ofSettings s) ∧
    (∀ (s s' : Settings) (field : Field), s field.setting = s' field.setting →
      (ofSettings s).AgreeIn (ofSettings s') field) ∧
    ∀ (c : Config) (decorate : String → String → String), c.Fits → c.limits.openFiles ≠ none →
      c.limits.fsizeKb ≠ none →
      (∀ dir, c.workingDir = some dir → Text.isBlankText dir.toList = false) →
      (∀ name text, Padded text.toList (decorate name text).toList) →
      ofSettings (c.toSettings decorate) = c := by
  refine ⟨fun _ _ => givenBy_iff, fun _ _ _ => ofSettings_agreeIn, ?_⟩
  intro c decorate hc hfiles hfsize hdir hdecorate
  exact (givenBy_iff.mp (givenBy_toSettings hc hfiles hfsize hdir hdecorate)).symm

/-- The capacity and one limit are the largest there are, the directory has blanks of its own, and
every number and the policy stand between a no-break space and a line end. -/
theorem padded_settings_exact :
    let c : Config := {
      debugOnCrash := true
      outputBuffer := .suspend 0xffffffffffffffff
      workingDir := some " /var/box "
      limits := { memoryMb := some 0xffffffff } }
    let decorate := fun (_ text : String) => String.ofList ('\u00a0' :: text.toList ++ ['\n'])
    c.Fits ∧ c.limits.openFiles ≠ none ∧ c.limits.fsizeKb ≠ none ∧
      (∀ dir, c.workingDir = some dir → Text.isBlankText dir.toList = false) ∧
      (∀ name text, Padded text.toList (decorate name text).toList) ∧
      ofSettings (c.toSettings decorate) = c := by
  intro c decorate
  have hlimits : c.limits.Fits := by
    constructor <;> simp [c, FitsLimit, limitBound]
  have hc : c.Fits := {
    outputBuffer := by simp [c, BufferPolicy.Fits, BufferPolicy.capacity?, wordBound]
    highWaterMark := by decide
    eventCapacity := by decide
    limits := hlimits }
  have hfiles : c.limits.openFiles ≠ none := Option.some_ne_none 256
  have hfsize : c.limits.fsizeKb ≠ none := Option.some_ne_none 262144
  have hdir : ∀ dir, c.workingDir = some dir → Text.isBlankText dir.toList = false := by
    rintro dir ⟨⟩
    decide
  have hdecorate : ∀ name text, Padded text.toList (decorate name text).toList := by
    intro name text
    exact ⟨['\u00a0'], ['\n'], by decide, by decide, String.toList_ofList⟩
  exact ⟨hc, hfiles, hfsize, hdir, hdecorate,
    settings_exact.2.2 c decorate hc hfiles hfsize hdir hdecorate⟩

end Config

end Confine
