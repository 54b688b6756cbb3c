import Endpoint.Text.Basic
import Endpoint.Text.Utf8

/-!
Headers: an ordered multimap from names to values. The lines are kept in the order in which they
were added, and every view groups them by name: names stand in the order of their first line, and
all values of a name together. Names are in small letters; a value may be any octets without
control characters, and only one of visible ASCII can be read as a text.
-/
namespace Endpoint
open Text

/-- One value under its name. -/
structure HeaderLine where
  name : String
  value : Octets
deriving DecidableEq, Repr, Inhabited

/-- The headers of a request or a response. -/
structure Headers where
  lines : List HeaderLine
deriving DecidableEq, Repr, Inhabited

namespace Headers

/-- Why a line cannot be added. -/
inductive Flaw where
  | badName
  | badValue
deriving DecidableEq, Repr

def Flaw.message (name : String) : Flaw → String
  | badName => s!"Invalid header name '{name}': invalid HTTP header name"
  | badValue => s!"Invalid header value for '{name}': failed to parse header value"

/-! ## Names and values -/

def nameMarks : List Char :=
  ['!', '#', '$', '%', '&', '\x27', '*', '+', '-', '.', '^', '_', Char.ofNat 0x60, '|', '~']

def isNameChar (c : Char) : Bool := isAsciiLetter c || isAsciiDigit c || nameMarks.contains c

def maxNameLength : Nat := 65535

/-- The name in small letters, if it is one. -/
def name? (name : String) : Option String :=
  let cs := name.toList
  if cs ≠ [] ∧ cs.length ≤ maxNameLength ∧ cs.all isNameChar then some (lowerText name) else none

/-- An octet that a value may have: no control octet but the tab. -/
def isValueOctet (b : UInt8) : Bool := (b ≥ 0x20 && b != 0x7F) || b == 0x09

/-- The octets of a value, if it is one. -/
def value? (value : String) : Option Octets :=
  let bs := utf8 value
  if bs.all isValueOctet then some bs else none

/-- An octet of visible ASCII, the space and the tab among it. -/
def isVisible (b : UInt8) : Bool := (0x20 ≤ b && b < 0x7F) || b == 0x09

/-- The text of a value of visible ASCII. -/
def visible? (value : Octets) : Option String :=
  if value.all isVisible then some (String.ofList (value.map fun b => Char.ofNat b.toNat)) else none

/-! ## Views -/

def empty : Headers := ⟨[]⟩

/-- Every element once, where it stands first. -/
def firsts : List String → List String
  | [] => []
  | x :: xs => x :: (firsts xs).filter (· != x)

/-- The names in the order of their first lines. -/
def names (h : Headers) : List String := firsts (h.lines.map (·.name))

/-- The values of a name given in small letters. -/
def valuesOf (h : Headers) (name : String) : List Octets :=
  (h.lines.filter (·.name == name)).map (·.value)

/-- The lines, all values of a name together. -/
def grouped (h : Headers) : List HeaderLine :=
  h.names.flatMap fun name => (h.valuesOf name).map fun value => ⟨name, value⟩

/-- The values of a name in any case. -/
def values (h : Headers) (name : String) : List Octets := h.valuesOf (lowerText name)

def get? (h : Headers) (name : String) : Option String := (h.values name).head?.bind visible?

def getAll (h : Headers) (name : String) : List String := (h.values name).filterMap visible?

def contains (h : Headers) (name : String) : Bool := h.lines.any (·.name == lowerText name)

def size (h : Headers) : Nat := h.names.length

def isEmpty (h : Headers) : Bool := h.lines.isEmpty

def lineText (l : HeaderLine) : String := l.name ++ ": " ++ lossy l.value

def display (h : Headers) : List String := h.grouped.map lineText

def pairs (h : Headers) : List (String × String) := h.grouped.map fun l => (l.name, lossy l.value)

/-- The same values under every name; the order of the names does not matter. -/
def same (a b : Headers) : Bool :=
  a.lines.length == b.lines.length && a.names.all fun name => a.valuesOf name == b.valuesOf name

/-! ## Changes -/

def append (h : Headers) (name : String) (value : Octets) : Headers :=
  ⟨h.lines ++ [⟨name, value⟩]⟩

/-- Leaves one value of a name, in the place of the first. -/
def putLine (name : String) (value : Octets) : List HeaderLine → List HeaderLine
  | [] => [⟨name, value⟩]
  | l :: ls =>
    if l.name = name then ⟨name, value⟩ :: ls.filter (·.name != name)
    else l :: putLine name value ls

def put (h : Headers) (name : String) (value : Octets) : Headers := ⟨putLine name value h.lines⟩

/-- The checked name and value of a line; the value is looked at first. -/
def check (name value : String) : Except Flaw (String × Octets) :=
  match value? value with
  | none => .error .badValue
  | some v => match name? name with
    | none => .error .badName
    | some n => .ok (n, v)

def add (h : Headers) (name value : String) : Except Flaw Headers := do
  let (n, v) ← check name value
  return h.append n v

/-- Sets the only value of a name. -/
def set (h : Headers) (name value : String) : Except Flaw Headers := do
  let (n, v) ← check name value
  return h.put n v

/-- Adds lines one after another; the first that is none decides, and is named. -/
def addAll (h : Headers) : List (String × String) → Except (String × Flaw) Headers
  | [] => .ok h
  | (name, value) :: rest =>
    match h.add name value with
    | .ok next => next.addAll rest
    | .error flaw => .error (name, flaw)

def ofPairs (pairs : List (String × String)) : Except (String × Flaw) Headers := empty.addAll pairs

/-! ## Removal -/

/-- The values of a name as they are taken out of headers: the name comes with the first of them
only. -/
def takenOut (name : String) : List Octets → List (Option String × Octets)
  | [] => []
  | value :: values => (some name, value) :: values.map fun v => (none, v)

/-- All values as they are taken out of headers, one after another. -/
def drained (h : Headers) : List (Option String × Octets) :=
  h.names.flatMap fun name => takenOut name (h.valuesOf name)

/-- What becomes of headers while their values are taken out: the name of the last value, what is
put back, and the values that are not. -/
structure Removal where
  current : Option String
  kept : Headers
  removed : List String
deriving DecidableEq, Repr

/-- A value is put back, but for those of the name to remove. A value that comes without a name has
that of the value before it. -/
def Removal.next (target : String) (r : Removal) (taken : Option String × Octets) : Removal :=
  let current := taken.1 <|> r.current
  match current with
  | none => { r with current }
  | some name =>
    if name = target then { r with current, removed := r.removed ++ [lossy taken.2] }
    else { r with current, kept := r.kept.append name taken.2 }

/-- The values of a name and the headers without them, if there are any. -/
def remove? (h : Headers) (name : String) : Option (List String × Headers) := do
  let target ← name? name
  if h.contains target then
    let r := h.drained.foldl (Removal.next target) ⟨none, .empty, []⟩
    some (r.removed, r.kept)
  else none

/-! ## What changes do to the views -/

theorem mem_firsts {x : String} {xs : List String} : x ∈ firsts xs ↔ x ∈ xs := by
  induction xs with
  | nil => simp [firsts]
  | cons y ys ih => simp only [firsts, List.mem_cons, List.mem_filter, ih]; grind

theorem nodup_firsts (xs : List String) : (firsts xs).Nodup := by
  induction xs with
  | nil => simp [firsts]
  | cons y ys ih =>
    simp only [firsts, List.nodup_cons, List.mem_filter]
    exact ⟨by simp, ih.filter _⟩

theorem contains_iff (h : Headers) (name : String) :
    h.contains name = true ↔ h.values name ≠ [] := by
  simp [contains, values, valuesOf]

/-- A value that is added comes after those of its name and changes no other name. -/
theorem valuesOf_append (h : Headers) (name other : String) (value : Octets) :
    (h.append name value).valuesOf other =
      h.valuesOf other ++ if name = other then [value] else [] := by
  by_cases e : name = other <;> simp [append, valuesOf, e]

/-- A value that is set is the only one of its name, and no other name changes. -/
theorem valuesOf_put (h : Headers) (name other : String) (value : Octets) :
    (h.put name value).valuesOf other = if name = other then [value] else h.valuesOf other := by
  obtain ⟨lines⟩ := h
  simp only [put, valuesOf]
  induction lines with
  | nil => by_cases e : name = other <;> simp [putLine, e]
  | cons l ls ih =>
    simp only [putLine]
    by_cases hl : l.name = name <;> by_cases e : name = other
    · subst e; simp [hl, List.filter_filter]
    · simp only [hl, e, if_true, if_false]
      simp [hl, e, List.filter_filter]
      congr 1
      apply List.filter_congr
      intro x _
      grind
    · subst e; simp_all
    · by_cases ho : l.name = other <;> simp_all

end Headers
end Endpoint
