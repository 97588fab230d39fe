import Mathlib
import Confine.Config.Load
import Confine.Proofs.Config.Defaults
import Confine.Proofs.Config.Settings
import Confine.Sandbox.Basic

/-!
What configurations ask of the rings of a sandbox. Main statement: a sandbox can be made exactly
where the event capacity is below 2 ^ 63. It is so in whatever a TOML text gives, and it is not where
a setting or a JSON object gives a larger one, as both can.
-/

namespace Confine

open Data (Members Holds)
open Settings (Number)
open Text (Trimmed)

theorem Ring.ofCapacity?_eq_some {α : Type} {capacity : Nat} {r : Ring α} :
    ofCapacity? capacity = some r ↔ Accepts capacity ∧ r = ofCapacity capacity := by
  rw [ofCapacity?]
  split
  · next h =>
    rw [Option.some.injEq, eq_comm]
    exact (and_iff_right h).symm
  · next h => exact iff_of_false (by rintro ⟨⟩) fun hr => h hr.1

theorem Hub.ofCapacity?_eq_some {n : Nat} {h : Hub} :
    ofCapacity? n = some h ↔ Ring.Accepts (ringCapacity n) ∧ h = ofCapacity n := by
  simp only [ofCapacity?, Option.bind_eq_bind, Option.bind_eq_some_iff, Ring.ofCapacity?_eq_some,
    Option.some.injEq]
  constructor
  -- The second ring is asked for as much as the first.
  · rintro ⟨_, ⟨haccepts, rfl⟩, _, ⟨-, rfl⟩, rfl⟩
    exact ⟨haccepts, rfl⟩
  · rintro ⟨haccepts, rfl⟩
    exact ⟨_, ⟨haccepts, rfl⟩, _, ⟨haccepts, rfl⟩, rfl⟩

/-- Whether rings can be made with the capacity that a configuration asks of them. -/
def Config.RingsAccept (c : Config) : Prop := Ring.Accepts (Hub.ringCapacity c.eventCapacity)

theorem Sandbox.ofConfig?_eq_some {c : Config} {s : Sandbox} :
    ofConfig? c = some s ↔ c.RingsAccept ∧ s = ofConfig c := by
  simp only [ofConfig?, Option.map_eq_some_iff, Hub.ofCapacity?_eq_some]
  constructor
  · rintro ⟨_, ⟨haccepts, rfl⟩, rfl⟩
    exact ⟨haccepts, rfl⟩
  · rintro ⟨haccepts, rfl⟩
    exact ⟨_, ⟨haccepts, rfl⟩, rfl⟩

namespace Config

variable {c : Config}

/-- A capacity of zero is raised to one; a large one is left as it is. -/
theorem ringsAccept_iff : c.RingsAccept ↔ c.eventCapacity < 2 ^ 63 := by
  rw [RingsAccept, Ring.Accepts, Hub.ringCapacity]
  omega

theorem not_ringsAccept_iff : ¬ c.RingsAccept ↔ 2 ^ 63 ≤ c.eventCapacity := by
  rw [ringsAccept_iff, Nat.not_lt]

/-- The default is accepted, so what is not accepted is what the setting writes. -/
theorem GivenBy.not_ringsAccept_iff {s : Settings} (h : c.GivenBy s) :
    ¬ c.RingsAccept ↔ ∃ v t n, s "SANDBOX_EVENT_CAPACITY" = some v ∧ Trimmed v.toList t ∧
      Number (2 ^ 64) t n ∧ 2 ^ 63 ≤ n := by
  rw [Config.not_ringsAccept_iff]
  constructor
  · intro hle
    have hgives := h.eventCapacity
    generalize c.eventCapacity = n at hgives hle
    generalize s "SANDBOX_EVENT_CAPACITY" = given at hgives
    cases hgives with
    | read ht _ hn => exact ⟨_, _, _, rfl, ht, hn, hle⟩
    | missing => omega
    | blank => omega
    | malformed => omega
  · rintro ⟨v, t, n, hv, ht, hn, hle⟩
    have hread : Settings.Gives (Number (2 ^ 64)) 256 (s "SANDBOX_EVENT_CAPACITY") n :=
      hv ▸ .read ht hn.1.ne_nil hn
    rw [Settings.gives_number.mp h.eventCapacity, ← Settings.gives_number.mp hread]
    exact hle

/-- The default is accepted, so what is not accepted is what a member gives. -/
theorem From.not_ringsAccept_iff {f : DataFormat} {ms : Members} (h : From f ms c) :
    ¬ c.RingsAccept ↔ ∃ n : Nat, ("event_capacity", .int n) ∈ ms ∧ 2 ^ 63 ≤ n := by
  rw [Config.not_ringsAccept_iff]
  have hgives := h.eventCapacity
  constructor
  · intro hle
    generalize c.eventCapacity = n at hgives hle
    cases hgives with
    | given hmem hd =>
      obtain ⟨rfl, -⟩ := hd
      exact ⟨n, hmem, hle⟩
    | absent => omega
  · rintro ⟨n, hmem, hle⟩
    -- The name is not repeated, so the member given is the one that was read.
    generalize c.eventCapacity = m at hgives
    cases hgives with
    | given hmem' hd =>
      obtain ⟨rfl, -⟩ := hd
      have honce := h.once "event_capacity" (by decide)
      have hsame := ((Data.lookup_eq_some honce).mpr hmem).symm.trans
        ((Data.lookup_eq_some honce).mpr hmem')
      cases hsame
      exact hle
    | absent hno => exact absurd hmem (hno _)

theorem ringsAccept_of_toml {text : String} {d : Data} (hd : Toml.read? text = some d)
    (hc : ofData Toml.format d = some c) : c.RingsAccept := by
  obtain ⟨ms, rfl, htoml⟩ := Toml.isToml_of_read? hd
  have hfrom := ofData_object.mp hc
  by_contra hrefused
  obtain ⟨n, hmem, hle⟩ := hfrom.not_ringsAccept_iff.mp hrefused
  have hlt := (Data.isToml_object.mp htoml _ hmem).int_lt
  omega

theorem ringsAccept_of_ofToml {text : String} (h : ofToml text = .ok c) : c.RingsAccept := by
  rw [ofToml] at h
  split at h
  · next hread =>
    cases h
    obtain ⟨d, hd, hc⟩ := Option.bind_eq_some_iff.mp hread
    exact ringsAccept_of_toml hd hc
  · cases h

theorem ringsAccept_of_load {path : String} {content : Option Bytes}
    (h : load path content = .ok c) : c.RingsAccept := by
  rw [load] at h
  split at h
  · exact ringsAccept_of_ofToml h
  · cases h

/-- A sandbox is made exactly where the event capacity is below 2 ^ 63: a capacity of zero is raised
to one, and nothing lowers a large one. TOML texts and files give none that large, as their integers
have a sign. In settings and in JSON every number from 2 ^ 63 on that is read at all is too large. -/
theorem sandbox_made_iff (c : Config) :
    (c.RingsAccept ↔ c.eventCapacity < 2 ^ 63) ∧
    (∀ s : Sandbox, Sandbox.ofConfig? c = some s ↔ c.RingsAccept ∧ s = Sandbox.ofConfig c) ∧
    (∀ text, ofToml text = .ok c → c.RingsAccept) ∧
    (∀ path content, load path content = .ok c → c.RingsAccept) ∧
    (∀ s : Settings, ofSettings s = c → (¬ c.RingsAccept ↔ ∃ v t n,
      s "SANDBOX_EVENT_CAPACITY" = some v ∧ Trimmed v.toList t ∧ Number (2 ^ 64) t n ∧
        2 ^ 63 ≤ n)) ∧
    (∀ d ms, Holds Json.format names d ms → ofData Json.format d = some c →
      (¬ c.RingsAccept ↔ ∃ n : Nat, ("event_capacity", .int n) ∈ ms ∧ 2 ^ 63 ≤ n)) := by
  refine ⟨ringsAccept_iff, fun _ => Sandbox.ofConfig?_eq_some, fun _ => ringsAccept_of_ofToml,
    fun _ _ => ringsAccept_of_load, ?settings, ?json⟩
  case settings =>
    rintro s rfl
    exact (givenBy_iff.mpr rfl).not_ringsAccept_iff
  case json =>
    intro d ms hholds hc
    obtain ⟨ms', hholds', hfrom⟩ := ofData_eq_some.mp hc
    rw [hholds.unique hholds']
    exact hfrom.not_ringsAccept_iff

/-- A text asks for the largest capacity that there is in TOML, a file for none, and a JSON object
and a setting for one more than the text. -/
theorem sandbox_made_at_bounds :
    let text := "event_capacity = 9223372036854775807"
    let file := Bytes.ofText "event_capacity = 0"
    let ms : Members := [("event_capacity", .int 0x8000000000000000)]
    let s : Settings := fun name =>
      if name = "SANDBOX_EVENT_CAPACITY" then some " +9223372036854775808" else none
    let largest : Config := { eventCapacity := 0x7fffffffffffffff }
    let least : Config := { eventCapacity := 0 }
    let beyond : Config := { eventCapacity := 0x8000000000000000 }
    (ofToml text = .ok largest ∧ largest.RingsAccept) ∧
      (load "box.toml" (some file) = .ok least ∧ least.RingsAccept) ∧
      (Holds Json.format names (.object ms) ms ∧ ofData Json.format (.object ms) = some beyond ∧
        ¬ beyond.RingsAccept) ∧
      ofSettings s = beyond ∧ ∃ v t n, s "SANDBOX_EVENT_CAPACITY" = some v ∧
        Trimmed v.toList t ∧ Number (2 ^ 64) t n ∧ 2 ^ 63 ≤ n := by
  intro text file ms s largest least beyond
  have htext : ofToml "event_capacity = 9223372036854775807" =
      .ok { eventCapacity := 0x7fffffffffffffff } := by cbv
  have hfile : load "box.toml" (some file) = .ok least := by
    have hbytes : Bytes.toText? (Bytes.ofText "event_capacity = 0") =
        some "event_capacity = 0" := by cbv
    have hread : ofToml "event_capacity = 0" = .ok { eventCapacity := 0 } := by cbv
    simp only [load, file, Option.bind_some, hbytes, hread, least]
  have hholds : Holds Json.format names (.object ms) ms := .object ms
  have hms : ofData Json.format (.object ms) = some beyond := rfl
  have hs : ofSettings s = beyond := rfl
  obtain ⟨-, -, htoml, -⟩ := sandbox_made_iff largest
  obtain ⟨-, -, -, hload, -⟩ := sandbox_made_iff least
  obtain ⟨-, -, -, -, hsettings, hjson⟩ := sandbox_made_iff beyond
  have hbeyond : ¬ beyond.RingsAccept :=
    (hjson _ ms hholds hms).mpr ⟨_, List.mem_cons_self, Nat.le_refl _⟩
  exact ⟨⟨htext, htoml text htext⟩, ⟨hfile, hload _ _ hfile⟩, ⟨hholds, hms, hbeyond⟩, hs,
    (hsettings s hs).mp hbeyond⟩

/-- One more than the rings accept is read from a setting and from JSON, and is asked of them. -/
theorem sandbox_not_made :
    let s : Settings := fun name =>
      if name = "SANDBOX_EVENT_CAPACITY" then some "9223372036854775808" else none
    let c : Config := { eventCapacity := 0x8000000000000000 }
    ofSettings s = c ∧
      (Json.read? "\x7b\"event_capacity\":9223372036854775808\x7d").bind (ofData Json.format) =
        some c ∧
      Hub.ringCapacity c.eventCapacity = 0x8000000000000000 ∧
      ¬ Ring.Accepts (Hub.ringCapacity c.eventCapacity) ∧ Sandbox.ofConfig? c = none := by
  intro s c
  have hsettings : ofSettings s = c := rfl
  have hjson : (Json.read? "\x7b\"event_capacity\":9223372036854775808\x7d").bind
      (ofData Json.format) = some c := by cbv
  exact ⟨hsettings, hjson, by decide, by decide, rfl⟩

end Config

end Confine
