/-!
Structured data as a text format carries it, and the parts of it that typed values are read from.
-/

namespace Confine

inductive Data where
  | null
  | bool (b : Bool)
  | int (i : Int)
  /-- A number written with a fraction or an exponent, or beyond the integers of the format. -/
  | real
  | text (s : String)
  | list (items : List Data)
  /-- Members in their order, repeated names included. -/
  | object (members : List (String × Data))
  /-- Well-formed, but without a value: it can be skipped and not be read. -/
  | unreadable

/-- How strictly a text format is read. -/
structure DataFormat where
  /-- Whether a list that stands for a record may have more items than the record has fields. -/
  surplusItems : Bool
  /-- The deepest nesting at which a value can be kept for later. -/
  maxDepth : Option Nat

namespace Data

mutual

/-- How deeply lists and objects are nested. -/
def depth : Data → Nat
  | list items => depthItems items + 1
  | object members => depthMembers members + 1
  | _ => 0

def depthItems : List Data → Nat
  | [] => 0
  | d :: ds => max d.depth (depthItems ds)

def depthMembers : List (String × Data) → Nat
  | [] => 0
  | m :: ms => max (depthMember m) (depthMembers ms)

def depthMember : String × Data → Nat
  | (_, d) => d.depth

end

mutual

/-- Whether every part has a value. -/
def readable : Data → Bool
  | list items => readableItems items
  | object members => readableMembers members
  | unreadable => false
  | _ => true

def readableItems : List Data → Bool
  | [] => true
  | d :: ds => d.readable && readableItems ds

def readableMembers : List (String × Data) → Bool
  | [] => true
  | m :: ms => readableMember m && readableMembers ms

def readableMember : String × Data → Bool
  | (_, d) => d.readable

end

/-- Whether a value found inside so many levels can be kept for later. -/
def keepable (f : DataFormat) (level : Nat) (d : Data) : Bool :=
  d.readable && match f.maxDepth with
    | some n => level + d.depth ≤ n
    | none => true

/-- The value of a member: `some none` if it is missing, `none` if it is repeated. -/
def member? (name : String) (members : List (String × Data)) : Option (Option Data) :=
  match members.filter fun m => m.1 = name with
  | [] => some none
  | [(_, d)] => some (some d)
  | _ => none

/-- The values of the named fields of a record, given by name in any order or as a list in the order
of the fields; the end of a list may be missing, and unknown members do not count. -/
def fields (f : DataFormat) (names : List String) : Data → Option (List (Option Data))
  | object members => names.mapM (member? · members)
  | list items =>
    if items.length ≤ names.length || f.surplusItems then
      some ((List.range names.length).map (items[·]?))
    else none
  | _ => none

def bool? : Data → Option Bool
  | bool b => some b
  | _ => none

def text? : Data → Option String
  | text s => some s
  | _ => none

/-- A natural number below a bound. -/
def nat? (bound : Nat) : Data → Option Nat
  | int i => if 0 ≤ i ∧ i < bound then some i.toNat else none
  | _ => none

/-- A signed number of 32 bits. -/
def int32? : Data → Option Int
  | int i => if -0x80000000 ≤ i ∧ i < 0x80000000 then some i else none
  | _ => none

/-- A value, or nothing for `null`. -/
def optional? (read : Data → Option α) : Data → Option (Option α)
  | null => some none
  | d => (read d).map some

/-- A field that must be there. -/
def required? (read : Data → Option α) : Option Data → Option α
  | some d => read d
  | none => none

/-- A field with a default. -/
def orDefault? (read : Data → Option α) (default : α) : Option Data → Option α
  | some d => read d
  | none => some default

/-- A tag with the members or items beside it. -/
inductive Rest where
  | members (ms : List (String × Data))
  | items (ds : List Data)

/-- The fields beside a tag: by name, or as a list of exactly these fields. -/
def Rest.fields (names : List String) : Rest → Option (List (Option Data))
  | members ms => names.mapM (member? · ms)
  | items ds => if ds.length = names.length then some (ds.map some) else none

/-- Whether a variant without fields can have this beside its tag. -/
def Rest.noFields : Rest → Bool
  | members _ => true
  | items ds => ds.isEmpty

/-- A value whose tag stands among its fields, anywhere in an object and first in a list. All fields
are kept until the tag is known. -/
def taggedInside (f : DataFormat) (level : Nat) (tag : String) : Data → Option (String × Rest)
  | object members => do
    let name ← required? text? (← member? tag members)
    let rest := members.filter fun m => m.1 ≠ tag
    if rest.all fun m => keepable f level m.2 then some (name, .members rest) else none
  | list (d :: ds) => do
    let name ← text? d
    if ds.all (keepable f level) then some (name, .items ds) else none
  | _ => none

/-- A name of a variant where one is expected on its own: as a text, or as an object with the name
and `null`. In a kept value an empty object can stand for `null`. -/
def variantName? (kept : Bool) : Data → Option String
  | text s => some s
  | object [(s, null)] => some s
  | object [(s, object [])] => if kept then some s else none
  | _ => none

/-- A variant as the first item of a list: by its name or, in a kept value, by its number. -/
def variantItem? (kept : Bool) (variants : List String) : Data → Option String
  | text s => some s
  | int i => if kept && decide (0 ≤ i) then variants[i.toNat]? else none
  | _ => none

/-- A value whose content stands beside its tag: the variant, the content if there is one, and
whether the content was kept because it came first. -/
def taggedBeside (f : DataFormat) (level : Nat) (kept : Bool) (tag content : String)
    (variants : List String) : Data → Option (String × Option Data × Bool)
  | object members => do
    let name ← required? (variantName? kept) (← member? tag members)
    let value ← member? content members
    let first := (members.find? fun m => m.1 = tag || m.1 = content).map (·.1)
    if first = some content then
      if (value.map (keepable f level)).getD true then some (name, value, true) else none
    else some (name, value, kept)
  | list [t, d] => do
    let name ← variantItem? kept variants t
    some (name, some d, kept)
  | _ => none

/-- The content of a variant without fields: nothing, or `null`. -/
def noContent : Option Data → Option Unit
  | none | some null => some ()
  | _ => none

end Data

end Confine
