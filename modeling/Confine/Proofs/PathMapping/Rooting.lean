import Confine.PathMapping
import Mathlib.Data.List.DropRight

/-!
The laws of moving absolute paths under a root. A root counts without its trailing slashes, and
roots compose. A relative root is where they go wrong: what it makes of an absolute path is a path
that it leaves alone.
-/

namespace Confine

section Paths

variable (root path : List Char)

/-- A path from the top of a file tree. -/
def Absolute : Prop := path.head? = some '/'

instance : Decidable (Absolute path) := inferInstanceAs (Decidable (_ = _))

theorem absolute_cons (path : List Char) : Absolute ('/' :: path) := rfl

theorem not_absolute_nil : ¬Absolute [] := nofun

theorem absolute_append {a : List Char} (h : a ≠ []) (b : List Char) :
    Absolute (a ++ b) ↔ Absolute a := by
  rw [Absolute, Absolute, List.head?_append_of_ne_nil a h]

theorem trimRoot_append_slashes : ∃ n, root = trimRoot root ++ List.replicate n '/' := by
  refine ⟨(root.rtakeWhile (· = '/')).length, ?_⟩
  have hslashes : ∀ c ∈ root.rtakeWhile (· = '/'), c = '/' := by
    intro c hc
    exact of_decide_eq_true (List.mem_rtakeWhile_imp (p := (· = '/')) hc)
  rw [← List.eq_replicate_of_mem hslashes]
  exact List.rdropWhile_append_rtakeWhile.symm

theorem getLast?_trimRoot : (trimRoot root).getLast? ≠ some '/' := by
  intro hlast
  have hne : trimRoot root ≠ [] := by
    intro hnil
    rw [hnil] at hlast
    cases hlast
  rw [List.getLast?_eq_some_getLast hne] at hlast
  exact List.rdropWhile_last_not _ _ hne (decide_eq_true (Option.some.inj hlast))

theorem trimRoot_trimRoot : trimRoot (trimRoot root) = trimRoot root :=
  List.rdropWhile_idempotent _ root

/-- Slashes are trimmed from the second part, and from the first if nothing is left of it. -/
theorem trimRoot_append (a b : List Char) :
    trimRoot (a ++ b) = if trimRoot b = [] then trimRoot a else a ++ trimRoot b := by
  simp only [trimRoot, List.reverse_append, List.dropWhile_append, List.isEmpty_iff,
    List.reverse_eq_nil_iff]
  split
  · rfl
  · rw [List.reverse_append, List.reverse_reverse]

/-- Trimming takes nothing from the front, unless it leaves nothing. -/
theorem absolute_of_trimRoot (h : trimRoot root ≠ []) :
    Absolute (trimRoot root) ↔ Absolute root := by
  obtain ⟨n, hroot⟩ := trimRoot_append_slashes root
  rw [← absolute_append h (List.replicate n '/'), ← hroot]

/-- What is not trimmed away of a relative root is still relative. -/
theorem trimRoot_ne_nil (hne : root ≠ []) (hr : ¬Absolute root) : trimRoot root ≠ [] := by
  intro hnil
  obtain ⟨n, hroot⟩ := trimRoot_append_slashes root
  rw [hnil, List.nil_append] at hroot
  cases n with
  | zero => exact hne hroot
  | succ n => exact hr (hroot ▸ absolute_cons _)

theorem rootedPath_eq :
    rootedPath root path = if Absolute path then trimRoot root ++ path else path := by
  rw [rootedPath.eq_def]
  split
  · rw [if_pos (absolute_cons _)]
  · next hpath =>
    rw [if_neg]
    intro habsolute
    obtain ⟨rest, hrest⟩ := List.head?_eq_some_iff.mp habsolute
    exact hpath rest hrest

theorem rootedPath_absolute {path : List Char} (h : Absolute path) :
    rootedPath root path = trimRoot root ++ path := by
  rw [rootedPath_eq, if_pos h]

theorem rootedPath_relative {path : List Char} (h : ¬Absolute path) :
    rootedPath root path = path := by
  rw [rootedPath_eq, if_neg h]

/-- All that a root does can be seen at the top. -/
theorem rootedPath_top : rootedPath root ['/'] = trimRoot root ++ ['/'] :=
  rootedPath_absolute root (absolute_cons [])

theorem rootedPath_congr {root other : List Char} :
    (∀ path, rootedPath other path = rootedPath root path) ↔ trimRoot other = trimRoot root := by
  constructor
  · intro h
    have htop := h ['/']
    rw [rootedPath_top, rootedPath_top] at htop
    exact List.append_cancel_right htop
  · intro h path
    rw [rootedPath_eq, rootedPath_eq, h]

theorem rootedPath_id : (∀ path, rootedPath root path = path) ↔ trimRoot root = [] := by
  constructor
  · intro h
    have htop := h ['/']
    rw [rootedPath_top] at htop
    exact List.append_left_eq_self.mp htop
  · intro h path
    rw [rootedPath_eq, h, List.nil_append, ite_self]

end Paths

/-- A root that is no relative path, once it is trimmed. -/
def Firm (root : List Char) : Prop := trimRoot root = [] ∨ Absolute (trimRoot root)

theorem firm_iff {root : List Char} : Firm root ↔ root = [] ∨ Absolute root := by
  by_cases hr : Absolute root
  · have hfirm : Firm root := by
      by_cases ht : trimRoot root = []
      · exact .inl ht
      · exact .inr ((absolute_of_trimRoot root ht).mpr hr)
    exact iff_of_true hfirm (.inr hr)
  · by_cases hne : root = []
    · exact iff_of_true (.inl (by rw [hne]; rfl)) (.inl hne)
    · have ht := trimRoot_ne_nil root hne hr
      rw [Firm, absolute_of_trimRoot root ht]
      exact or_congr_left (iff_of_false ht hne)

section Firm

variable {root : List Char}

theorem Firm.absolute (h : Firm root) (path : List Char) :
    Absolute (rootedPath root path) ↔ Absolute path := by
  by_cases hp : Absolute path
  · rw [rootedPath_absolute root hp]
    refine iff_of_true ?_ hp
    obtain hnil | habsolute := h
    · rw [hnil]
      exact hp
    · have hne : trimRoot root ≠ [] := fun hnil => not_absolute_nil (hnil ▸ habsolute)
      exact (absolute_append hne path).mpr habsolute
  · rw [rootedPath_relative root hp]

theorem Firm.injective (h : Firm root) : Function.Injective (rootedPath root) := by
  intro path other heq
  have hiff : Absolute path ↔ Absolute other := by
    rw [← h.absolute path, ← h.absolute other, heq]
  by_cases hp : Absolute path
  · rw [rootedPath_absolute root hp, rootedPath_absolute root (hiff.mp hp)] at heq
    exact List.append_cancel_left heq
  · rwa [rootedPath_relative root hp, rootedPath_relative root (hp ∘ hiff.mpr)] at heq

/-- Under a relative root the top of the tree goes to a relative path, which stays where it is. -/
theorem relative_of_not_firm (h : ¬Firm root) :
    ¬Absolute (rootedPath root ['/']) ∧
      rootedPath root (trimRoot root ++ ['/']) = rootedPath root ['/'] := by
  obtain ⟨hne, hrelative⟩ := not_or.mp h
  have hr : ¬Absolute (trimRoot root ++ ['/']) := by
    rwa [absolute_append hne]
  rw [rootedPath_top, rootedPath_relative root hr]
  exact ⟨hr, rfl⟩

example : rootedPath "box".toList "/a".toList = "box/a".toList ∧
    rootedPath "box".toList "box/a".toList = "box/a".toList := by decide

theorem firm_iff_absolute : (∀ path, Absolute (rootedPath root path) ↔ Absolute path) ↔
    Firm root := by
  refine ⟨fun h => ?_, Firm.absolute⟩
  by_contra hfirm
  exact (relative_of_not_firm hfirm).1 ((h ['/']).mpr (absolute_cons []))

theorem firm_iff_injective : Function.Injective (rootedPath root) ↔ Firm root := by
  refine ⟨fun h => ?_, Firm.injective⟩
  by_contra hfirm
  have hsame := h (relative_of_not_firm hfirm).2
  exact hfirm (.inl (List.append_left_eq_self.mp hsame))

/-- Two roots, one after the other, are one root, unless the inner one is relative. -/
theorem rootedPath_rootedPath (outer inner : List Char) :
    (∀ path, rootedPath outer (rootedPath inner path) =
      rootedPath (trimRoot outer ++ inner) path) ↔ trimRoot outer = [] ∨ Firm inner := by
  have hroot (hne : trimRoot inner ≠ []) :
      trimRoot (trimRoot outer ++ inner) = trimRoot outer ++ trimRoot inner := by
    rw [trimRoot_append, if_neg hne]
  constructor
  · intro h
    by_contra hnot
    obtain ⟨houter, hfirm⟩ := not_or.mp hnot
    have htop := h ['/']
    rw [rootedPath_relative outer (relative_of_not_firm hfirm).1, rootedPath_top, rootedPath_top,
      hroot (not_or.mp hfirm).1, List.append_assoc] at htop
    exact houter (List.self_eq_append_left.mp htop)
  · intro h path
    by_cases hp : Absolute path
    · rw [rootedPath_absolute inner hp, rootedPath_absolute _ hp]
      by_cases hnil : trimRoot inner = []
      · rw [trimRoot_append, if_pos hnil, trimRoot_trimRoot, hnil, List.nil_append,
          rootedPath_absolute outer hp]
      · rw [hroot hnil, List.append_assoc]
        obtain houter | hfirm := h
        · rw [(rootedPath_id outer).mpr houter, houter, List.nil_append]
        · refine rootedPath_absolute outer ?_
          rw [absolute_append hnil]
          exact hfirm.resolve_left hnil
    · rw [rootedPath_relative inner hp, rootedPath_relative outer hp, rootedPath_relative _ hp]

end Firm

/-- The part of a root that counts. -/
def trimmed (root : String) : String := String.ofList (trimRoot root.toList)

section Strings

variable (root : String)

theorem toList_trimmed : (trimmed root).toList = trimRoot root.toList := String.toList_ofList

theorem toList_rooted (path : String) :
    (rooted root path).toList = rootedPath root.toList path.toList := String.toList_ofList

theorem toList_surjective : Function.Surjective String.toList :=
  fun path => ⟨String.ofList path, String.toList_ofList⟩

theorem trimmed_eq_empty : trimmed root = "" ↔ trimRoot root.toList = [] :=
  String.ofList_eq_empty_iff

theorem firm_toList : Firm root.toList ↔ trimmed root = "" ∨ Absolute (trimmed root).toList := by
  rw [Firm, trimmed_eq_empty, toList_trimmed]

theorem trimmed_append_slashes :
    ∃ n, root = trimmed root ++ String.ofList (List.replicate n '/') := by
  obtain ⟨n, hroot⟩ := trimRoot_append_slashes root.toList
  refine ⟨n, ?_⟩
  rw [trimmed, ← String.ofList_append, ← hroot, String.ofList_toList]

theorem rooted_eq (path : String) :
    rooted root path = if Absolute path.toList then trimmed root ++ path else path := by
  rw [← String.toList_inj, toList_rooted, rootedPath_eq]
  split
  · rw [String.toList_append, toList_trimmed]
  · rfl

/-- Maps of strings agree when they agree on the characters. -/
theorem rooted_eq_iff (f : PathMap) :
    rooted root = f ↔ ∀ path, rootedPath root.toList path = (f (String.ofList path)).toList := by
  rw [funext_iff, toList_surjective.forall]
  refine forall_congr' fun path => ?_
  rw [← toList_rooted, String.toList_inj, String.ofList_toList]

theorem rooted_injective :
    Function.Injective (rooted root) ↔ Function.Injective (rootedPath root.toList) := by
  constructor
  · intro h path other heq
    refine String.ofList_injective (h (String.toList_injective ?_))
    rw [toList_rooted, toList_rooted, String.toList_ofList, String.toList_ofList, heq]
  · intro h path other heq
    refine String.toList_injective (h ?_)
    rw [← toList_rooted, ← toList_rooted, heq]

end Strings

/-- The algebra of the maps that move paths under a root. -/
theorem rooted_laws (root : String) :
    ((∃ n, root = trimmed root ++ String.ofList (List.replicate n '/')) ∧
      (trimmed root).toList.getLast? ≠ some '/') ∧
    (∀ other, rooted other = rooted root ↔ trimmed other = trimmed root) ∧
    (∀ path, rooted root path = if Absolute path.toList then trimmed root ++ path else path) ∧
    (rooted root = id ↔ trimmed root = "") ∧
    (Function.Injective (rooted root) ↔ trimmed root = "" ∨ Absolute (trimmed root).toList) ∧
    ((∀ path, Absolute (rooted root path).toList ↔ Absolute path.toList) ↔
      trimmed root = "" ∨ Absolute (trimmed root).toList) ∧
    (∀ outer, rooted outer ∘ rooted root = rooted (trimmed outer ++ root) ↔
      trimmed outer = "" ∨ root = "" ∨ Absolute root.toList) := by
  refine ⟨⟨trimmed_append_slashes root, ?last⟩, ?root, rooted_eq root, ?id, ?injective,
    ?absolute, ?compose⟩
  case last =>
    rw [toList_trimmed]
    exact getLast?_trimRoot _
  case root =>
    intro other
    rw [trimmed, trimmed, String.ofList_inj, ← rootedPath_congr, rooted_eq_iff]
    simp only [toList_rooted, String.toList_ofList]
  case id =>
    rw [trimmed_eq_empty, ← rootedPath_id, rooted_eq_iff]
    simp only [id, String.toList_ofList]
  case injective =>
    rw [← firm_toList, ← firm_iff_injective, rooted_injective]
  case absolute =>
    rw [← firm_toList, ← firm_iff_absolute, toList_surjective.forall]
    simp only [toList_rooted]
  case compose =>
    intro outer
    rw [trimmed_eq_empty, ← String.toList_eq_nil_iff, ← firm_iff, ← rootedPath_rootedPath,
      eq_comm, rooted_eq_iff, String.toList_append, toList_trimmed]
    simp only [Function.comp, toList_rooted, String.toList_ofList]
    exact forall_congr' fun path => eq_comm

end Confine
