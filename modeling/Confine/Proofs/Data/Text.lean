import Confine.Data.Typed
import Confine.Json.Printer

/-!
The JSON text of each value of the library: its tags and names, the fields in their order, and no
blanks between them.
-/

namespace Confine

namespace Json

/-- The text of an object whose members are given by their names and texts. -/
def objectText (members : List (String × String)) : String :=
  "\x7b" ++ ",".intercalate (members.map fun m => "\"" ++ m.1 ++ "\":" ++ m.2) ++ "\x7d"

/-- Whether a name is written as it is. -/
def plain (name : String) : Bool := name.toList.all fun c => escape c = [c]

theorem string_of_plain {name : String} (h : plain name = true) :
    string name = '"' :: name.toList ++ ['"'] := by
  have hsame (cs : List Char) (hcs : (cs.all fun c => escape c = [c]) = true) :
      cs.flatMap escape = cs := by
    induction cs with
    | nil => rfl
    | cons c cs ih =>
      rw [List.all_cons, Bool.and_eq_true, decide_eq_true_iff] at hcs
      rw [List.flatMap_cons, hcs.1, ih hcs.2]
      rfl
  rw [string, hsame name.toList h]

theorem toList_toString (i : Int) : (toString i).toList = Text.intText i := by
  cases i with
  | ofNat n => simp [toString, Int.repr, Text.intText, Text.natText, Nat.repr]
  | negSucc n => simp [toString, Int.repr, Text.intText, Text.natText, Nat.repr]

theorem write_int (i : Int) : write (.int i) = toString i := by
  apply String.ext
  rw [write, String.toList_ofList, toList_toString, print]

theorem write_nat (n : Nat) : write (.int n) = toString n := write_int n

theorem commaSeparated_eq (ps : List (List Char)) : commaSeparated ps = [','].intercalate ps := by
  induction ps with
  | nil => rfl
  | cons p ps ih =>
    cases ps with
    | nil => simp [commaSeparated, List.intercalate]
    | cons q ps =>
      rw [commaSeparated, ih]
      · simp [List.intercalate]
      · simp

theorem write_object {ms : List (String × Data)} (h : (ms.all fun m => plain m.1) = true) :
    write (.object ms) = objectText (ms.map fun m => (m.1, write m.2)) := by
  have hmembers : printMembers ms =
      ms.map fun m => '"' :: (m.1.toList ++ '"' :: ':' :: print m.2) := by
    induction ms with
    | nil => rfl
    | cons m ms ih =>
      obtain ⟨name, d⟩ := m
      rw [List.all_cons, Bool.and_eq_true] at h
      rw [printMembers, printMember, string_of_plain h.1, ih h.2]
      simp only [List.map_cons, List.cons_append, List.append_assoc, List.nil_append]
  have htexts : ((ms.map fun m => (m.1, write m.2)).map fun m => "\"" ++ m.1 ++ "\":" ++ m.2).map
      String.toList = printMembers ms := by
    rw [hmembers, List.map_map, List.map_map]
    apply List.map_congr_left
    intro m hm
    simp [write]
  apply String.ext
  rw [write, String.toList_ofList, print, objectText, String.toList_append, String.toList_append,
    String.toList_intercalate, htexts, commaSeparated_eq]
  rfl

theorem write_alone {tag name : String} (h : plain tag = true) :
    write (.object [(tag, .text name)]) = objectText [(tag, write (.text name))] := by
  rw [write_object (by simp [h])]
  rfl

theorem write_tagged {tag name key : String} (h : plain tag = true) (h' : plain key = true)
    (d : Data) : write (.object [(tag, .text name), (key, d)]) =
      objectText [(tag, write (.text name)), (key, write d)] := by
  rw [write_object (by simp [h, h'])]
  rfl

end Json

open Json (objectText)

def DataNotice.jsonText (n : DataNotice) : String :=
  objectText [("fd", toString n.fd), ("len", toString n.len)]

def EngineFault.jsonText : EngineFault → String
  | unknownDescriptor fd =>
    objectText [("fault", "\"unknown_descriptor\""), ("fd", toString fd)]
  | bytesDropped fd count =>
    objectText [("fault", "\"bytes_dropped\""), ("fd", toString fd), ("count", toString count)]

def BufferPolicy.jsonText : BufferPolicy → String
  | unbounded => objectText [("mode", "\"unbounded\"")]
  | dropNewest n => objectText [("mode", "\"drop_newest\""), ("capacity", toString n)]
  | suspend n => objectText [("mode", "\"suspend\""), ("capacity", toString n)]

def Termination.jsonText : Termination → String
  | exited code => objectText [("kind", "\"exited\""), ("code", toString code)]
  | signaled number => objectText [("kind", "\"signaled\""), ("code", toString number)]
  | spawnFailed => objectText [("kind", "\"spawn_failed\"")]

def Lifecycle.jsonText : Lifecycle → String
  | idle => objectText [("state", "\"idle\"")]
  | spawning => objectText [("state", "\"spawning\"")]
  | running => objectText [("state", "\"running\"")]
  | terminated t => objectText [("state", "\"terminated\""), ("termination", t.jsonText)]

def LifecycleEvent.jsonText : LifecycleEvent → String
  | started => objectText [("event", "\"started\"")]
  | newSocket path =>
    objectText [("event", "\"new_socket\""), ("value", String.ofList (Json.string path))]
  | exit status => objectText [("event", "\"exit\""), ("value", toString status)]
  | signal number => objectText [("event", "\"signal\""), ("value", toString number)]

/-- The text of a limit, which may be absent. -/
def limitText : Option Nat → String
  | some n => toString n
  | none => "null"

def Limits.jsonText (l : Limits) : String :=
  objectText [("cpu_time_ms", limitText l.cpuTimeMs), ("wall_time_ms", limitText l.wallTimeMs),
    ("memory_mb", limitText l.memoryMb), ("processes", limitText l.processes),
    ("open_files", limitText l.openFiles), ("fsize_kb", limitText l.fsizeKb)]

def Config.jsonText (c : Config) : String :=
  objectText [("debug_on_crash", toString c.debugOnCrash),
    ("output_buffer", c.outputBuffer.jsonText), ("high_water_mark", toString c.highWaterMark),
    ("event_capacity", toString c.eventCapacity),
    ("working_dir", match c.workingDir with
      | some dir => String.ofList (Json.string dir)
      | none => "null"),
    ("limits", c.limits.jsonText)]

theorem write_limit (limit : Option Nat) : Json.write (.ofNat? limit) = limitText limit := by
  cases limit with
  | none => rfl
  | some n => exact Json.write_nat n

theorem DataNotice.write_toData (n : DataNotice) : Json.write n.toData = n.jsonText := by
  rw [toData, Json.write_object (by simp [Json.plain, Json.escape])]
  simp only [List.map_cons, List.map_nil, Json.write_int]
  rfl

theorem EngineFault.write_toData (e : EngineFault) : Json.write e.toData = e.jsonText := by
  cases e with
  | unknownDescriptor fd =>
    rw [toData, Json.write_tagged (by decide) (by decide), Json.write_int]
    rfl
  | bytesDropped fd count =>
    rw [toData, Json.write_object (by simp [Json.plain, Json.escape])]
    simp only [List.map_cons, List.map_nil, Json.write_int]
    rfl

theorem BufferPolicy.write_toData (p : BufferPolicy) : Json.write p.toData = p.jsonText := by
  have hmode : Json.plain "mode" = true := by decide
  have hcapacity : Json.plain "capacity" = true := by decide
  cases p with
  | unbounded =>
    rw [toData, Json.write_alone hmode]
    rfl
  | dropNewest n =>
    rw [toData, Json.write_tagged hmode hcapacity, Json.write_nat]
    rfl
  | suspend n =>
    rw [toData, Json.write_tagged hmode hcapacity, Json.write_nat]
    rfl

theorem Termination.write_toData (t : Termination) : Json.write t.toData = t.jsonText := by
  have hkind : Json.plain "kind" = true := by decide
  have hcode : Json.plain "code" = true := by decide
  cases t with
  | exited code =>
    rw [toData, Json.write_tagged hkind hcode, Json.write_int]
    rfl
  | signaled number =>
    rw [toData, Json.write_tagged hkind hcode, Json.write_int]
    rfl
  | spawnFailed =>
    rw [toData, Json.write_alone hkind]
    rfl

theorem Lifecycle.write_toData (s : Lifecycle) : Json.write s.toData = s.jsonText := by
  have hstate : Json.plain "state" = true := by decide
  have htermination : Json.plain "termination" = true := by decide
  cases s with
  | terminated t =>
    rw [toData, Json.write_tagged hstate htermination, t.write_toData]
    rfl
  | _ =>
    rw [toData, Json.write_alone hstate]
    rfl

theorem LifecycleEvent.write_toData (e : LifecycleEvent) : Json.write e.toData = e.jsonText := by
  have hevent : Json.plain "event" = true := by decide
  have hvalue : Json.plain "value" = true := by decide
  cases e with
  | started =>
    rw [toData, Json.write_alone hevent]
    rfl
  | newSocket path =>
    rw [toData, Json.write_tagged hevent hvalue]
    rfl
  | exit status =>
    rw [toData, Json.write_tagged hevent hvalue, Json.write_int]
    rfl
  | signal number =>
    rw [toData, Json.write_tagged hevent hvalue, Json.write_int]
    rfl

theorem Limits.write_toData (l : Limits) : Json.write l.toData = l.jsonText := by
  rw [toData, Json.write_object (by simp [Json.plain, Json.escape])]
  simp only [List.map_cons, List.map_nil, write_limit]
  rfl

theorem Config.write_toData (c : Config) : Json.write c.toData = c.jsonText := by
  have hdebug : Json.write (.bool c.debugOnCrash) = toString c.debugOnCrash := by
    cases c.debugOnCrash <;> rfl
  rw [toData, Json.write_object (by simp [Json.plain, Json.escape])]
  simp only [List.map_cons, List.map_nil, hdebug, c.outputBuffer.write_toData, Json.write_nat,
    c.limits.write_toData]
  rw [jsonText]
  cases c.workingDir <;> rfl

end Confine
