/-!
# JSON values

The one dynamic value of this library. Properties of nodes, outputs of runs
and what a gate holds back are all JSON, because the runtime may put anything
there.

An object is the list of its members in the order in which they were first
written. That order is part of the value: it is what a definition is written
back in, and without an explicit trace the last member of a run's outputs is
taken for the node that ran last. `Fields.set` keeps the place of a key it
finds and appends a new one. `Fields.swapRemove` fills the place of a removed
member with the last one, so it keeps the members but not their order.

A number is an integer as long as it was written as one and fits in sixty-four
bits; all others are doubles. The two never mix, so `1` and `1.0` stay apart.
-/

namespace AgentWorkflow

/-- A JSON number. -/
inductive JsonNumber where
  /-- An integer between `-2 ^ 63` and `2 ^ 64 - 1`. -/
  | int (n : Int)
  /-- Any other number. -/
  | float (x : Float)
  deriving DecidableEq

namespace JsonNumber

/-- The number as a double, integers rounded to the nearest one. -/
def toFloat : JsonNumber → Float
  | int n => if n < 0 then -(Float.ofNat n.natAbs) else Float.ofNat n.natAbs
  | float x => x

/-- The number as an unsigned 64-bit integer, if it is one. A double is none,
not even a whole one. -/
def toWord? : JsonNumber → Option Nat
  | int n => if 0 ≤ n ∧ n < 0x10000000000000000 then some n.toNat else none
  | float _ => none

end JsonNumber

/-- A JSON value. -/
inductive Json where
  /-- The null value. -/
  | null
  /-- A truth value. -/
  | bool (b : Bool)
  /-- A number. -/
  | num (n : JsonNumber)
  /-- A string. -/
  | str (s : String)
  /-- An array. -/
  | arr (items : List Json)
  /-- An object, its members in order. -/
  | obj (members : List (String × Json))
  deriving Inhabited

/-- The members of an object, in order. -/
abbrev Fields := List (String × Json)

namespace Fields

/-- The value of a key. -/
def get? (fs : Fields) (key : String) : Option Json := fs.lookup key

/-- The keys, in order. -/
def keys (fs : Fields) : List String := fs.map Prod.fst

/-- Sets the value of a key: in its place if the key is there, at the end if
it is not. -/
def set : Fields → String → Json → Fields
  | [], key, value => [(key, value)]
  | (k, v) :: rest, key, value =>
    if k = key then (key, value) :: rest else (k, v) :: set rest key value

/-- Members in the order in which their keys first occur, each with the value
that was written last. -/
def ofMembers (members : List (String × Json)) : Fields :=
  members.foldl (fun fs m => set fs m.1 m.2) []

/-- Removes a key; the last member takes its place. -/
def swapRemove : Fields → String → Fields
  | [], _ => []
  | (k, v) :: rest, key =>
    if k = key then
      match rest.getLast? with
      | none => []
      | some last => last :: rest.dropLast
    else (k, v) :: swapRemove rest key

@[simp] theorem get?_set_self (fs : Fields) (key : String) (value : Json) :
    (set fs key value).get? key = some value := by
  fun_induction set fs key value with
  | case1 => simp [get?]
  | case2 => simp [get?]
  | case3 k v rest key value hne ih =>
    have : (key == k) = false := by simp [Ne.symm hne]
    simpa [get?, List.lookup_cons, this] using ih

theorem get?_set_of_ne (fs : Fields) {key other : String} (value : Json)
    (h : other ≠ key) : (set fs key value).get? other = fs.get? other := by
  have hb : (other == key) = false := by simpa using h
  induction fs with
  | nil => simp [set, get?, List.lookup_cons, hb]
  | cons m rest ih =>
    obtain ⟨k, v⟩ := m
    by_cases hk : k = key
    · subst hk
      simp [set, get?, List.lookup_cons, hb]
    · simp only [set, hk, if_false, get?, List.lookup_cons] at ih ⊢
      split <;> simp_all

end Fields

namespace Json

/-- The value of a member of an object. -/
def get? : Json → String → Option Json
  | obj members, key => Fields.get? members key
  | _, _ => none

/-- The text of a string value. -/
def text? : Json → Option String
  | str s => some s
  | _ => none

/-- What kind of value it is, in a word. -/
def kind : Json → String
  | null => "null"
  | bool _ => "bool"
  | num _ => "number"
  | str _ => "string"
  | arr _ => "array"
  | obj _ => "object"

end Json

end AgentWorkflow
