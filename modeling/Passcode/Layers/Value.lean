import Passcode.Number.Binary64

/-!
# Layered values

Settings come in layers, and a later layer wins over an earlier one. A layer is a tree of tables
and arrays with scalars at its leaves; every value may remember where it came from, so that a
complaint about it can say so.

`Value.put` stores a value under a key: a table is merged key by key into what is there, anything
else replaces it. A table made on the way has no origin.
-/

namespace Passcode.Layers

/-- A scalar. -/
inductive Leaf where
  | nil
  | bool (b : Bool)
  | int (n : Int)
  | float (x : Number.Binary64)
  | text (s : String)
deriving Repr, DecidableEq

/-- A value of a layer, with its origin. -/
inductive Value where
  | leaf (origin : Option String) (l : Leaf)
  | array (origin : Option String) (items : List Value)
  | table (origin : Option String) (entries : List (String × Value))
deriving Repr, Inhabited

/-- The value of a place that was made but never filled. -/
def Value.nil : Value := .leaf none .nil

/-- A table without entries and without origin. -/
def Value.empty : Value := .table none []

/-- A text without origin. -/
def Value.text (s : String) : Value := .leaf none (.text s)

/-- Where a value came from. -/
def Value.origin : Value → Option String
  | .leaf origin _ | .array origin _ | .table origin _ => origin

/-- The entries of a table; other values have none. -/
def Value.entries : Value → List (String × Value)
  | .table _ entries => entries
  | _ => []

/-- The value under a key of a table. -/
def Value.child? (v : Value) (key : String) : Option Value := v.entries.lookup key

/-- Replace or add an entry, keeping the order of the others. -/
def setEntry (key : String) (v : Value) : List (String × Value) → List (String × Value)
  | [] => [(key, v)]
  | (k, w) :: rest => if k = key then (k, v) :: rest else (k, w) :: setEntry key v rest

/-- The value as a table with one entry set. -/
def Value.withEntry (v : Value) (key : String) (w : Value) : Value :=
  match v with
  | .table origin entries => .table origin (setEntry key w entries)
  | _ => .table none [(key, w)]

mutual

/-- Store `v` under `key` of `root`, merging tables. -/
def Value.put (root : Value) (key : String) : Value → Value
  | .table _ incoming =>
    root.withEntry key (putAll ((root.child? key).getD Value.empty) incoming)
  | v => root.withEntry key v

/-- Store every entry of a table in `target`. -/
def putAll (target : Value) : List (String × Value) → Value
  | [] => target
  | (key, v) :: rest => putAll (target.put key v) rest

end

/-- The value as an array: its items, or none in its place. -/
def Value.asArray : Value → Option String × List Value
  | .array origin items => (origin, items)
  | _ => (none, [])

@[simp] theorem lookup_setEntry (key : String) (v : Value) (entries : List (String × Value)) :
    (setEntry key v entries).lookup key = some v := by
  induction entries with
  | nil => simp [setEntry]
  | cons e rest ih =>
    obtain ⟨k, w⟩ := e
    by_cases h : k = key
    · simp [setEntry, h]
    · have hk : (key == k) = false := beq_eq_false_iff_ne.2 (Ne.symm h)
      simp [setEntry, h, List.lookup_cons, ih, hk]

theorem lookup_setEntry_of_ne {key other : String} (h : other ≠ key) (v : Value)
    (entries : List (String × Value)) :
    (setEntry key v entries).lookup other = entries.lookup other := by
  have ho : (other == key) = false := beq_eq_false_iff_ne.2 h
  induction entries with
  | nil => simp [setEntry, List.lookup_cons, ho]
  | cons e rest ih =>
    obtain ⟨k, w⟩ := e
    by_cases hk : k = key
    · subst hk
      simp [setEntry, List.lookup_cons, ho]
    · simp [setEntry, hk, List.lookup_cons, ih]

end Passcode.Layers
