/-!
# Values under keys

A finite collection of values with at most one value under each key. That no key occurs twice is
part of the type, so `find?` tells everything about a collection apart from the order in which its
values came in.

## Main statements

* `Keyed.find?_insert`, `find?_insert_of_ne` — an insertion replaces what is under its key only
* `Keyed.find?_erase`, `find?_erase_of_ne` — so does a removal
* `Keyed.find?_keep` — values are kept or dropped each on its own
-/

namespace Passcode

/-- Values under keys, at most one under each. -/
structure Keyed (α : Type) where
  entries : List (String × α) := []
  distinct : entries.Pairwise (fun a b => a.1 ≠ b.1) := by simp
deriving Repr, DecidableEq

namespace Keyed

variable {α : Type}

instance : Inhabited (Keyed α) := ⟨{}⟩

/-- The value under a key. -/
def find? (m : Keyed α) (key : String) : Option α := m.entries.lookup key

/-- The number of values. -/
def size (m : Keyed α) : Nat := m.entries.length

/-- The values, the latest first. -/
def values (m : Keyed α) : List α := m.entries.map (·.2)

/-- The collection without the value under a key. -/
def erase (m : Keyed α) (key : String) : Keyed α where
  entries := m.entries.filter fun e => e.1 != key
  distinct := m.distinct.filter _

/-- The collection with a value in place of what is under its key. -/
def insert (m : Keyed α) (key : String) (a : α) : Keyed α where
  entries := (key, a) :: (m.erase key).entries
  distinct := by
    refine List.pairwise_cons.2 ⟨fun e he => ?_, (m.erase key).distinct⟩
    have h : e.1 ≠ key := by simpa using (List.mem_filter.1 he).2
    exact h.symm

/-- The collection with the values that satisfy a condition. -/
def keep (p : α → Bool) (m : Keyed α) : Keyed α where
  entries := m.entries.filter fun e => p e.2
  distinct := m.distinct.filter _

/-! ## What is under a key afterwards -/

@[simp] theorem find?_empty (key : String) : ({} : Keyed α).find? key = none := rfl

theorem lookup_filter_ne {key other : String} (h : other ≠ key) (l : List (String × α)) :
    (l.filter fun e => e.1 != key).lookup other = l.lookup other := by
  induction l with
  | nil => rfl
  | cons e rest ih =>
    obtain ⟨k, a⟩ := e
    by_cases hk : k = key
    · subst hk
      simp [List.lookup_cons, beq_eq_false_iff_ne.2 h, ih]
    · simp [hk, List.lookup_cons, ih]

theorem lookup_filter_self (key : String) (l : List (String × α)) :
    (l.filter fun e => e.1 != key).lookup key = none := by
  induction l with
  | nil => rfl
  | cons e rest ih =>
    obtain ⟨k, a⟩ := e
    by_cases hk : k = key
    · simp [hk, ih]
    · simp [hk, List.lookup_cons, beq_eq_false_iff_ne.2 (Ne.symm hk), ih]

@[simp] theorem find?_erase (m : Keyed α) (key : String) : (m.erase key).find? key = none :=
  lookup_filter_self key m.entries

theorem find?_erase_of_ne {key other : String} (h : other ≠ key) (m : Keyed α) :
    (m.erase key).find? other = m.find? other :=
  lookup_filter_ne h m.entries

@[simp] theorem find?_insert (m : Keyed α) (key : String) (a : α) :
    (m.insert key a).find? key = some a := by
  simp [find?, insert]

theorem find?_insert_of_ne {key other : String} (h : other ≠ key) (m : Keyed α) (a : α) :
    (m.insert key a).find? other = m.find? other := by
  have ho : (other == key) = false := beq_eq_false_iff_ne.2 h
  simpa [find?, insert, List.lookup_cons, ho] using find?_erase_of_ne h m

/-- A key that no entry has leads to nothing. -/
theorem lookup_eq_none_of_forall_ne {key : String} {l : List (String × α)}
    (h : ∀ e ∈ l, key ≠ e.1) : l.lookup key = none := by
  induction l with
  | nil => rfl
  | cons e rest ih =>
    obtain ⟨k, a⟩ := e
    have hk : (key == k) = false := beq_eq_false_iff_ne.2 (h (k, a) (by simp))
    simp [List.lookup_cons, hk, ih fun e he => h e (by simp [he])]

@[simp] theorem find?_keep (p : α → Bool) (m : Keyed α) (key : String) :
    (m.keep p).find? key = (m.find? key).filter p := by
  obtain ⟨l, hl⟩ := m
  simp only [find?, keep]
  induction l with
  | nil => rfl
  | cons e rest ih =>
    obtain ⟨k, a⟩ := e
    obtain ⟨hk, hrest⟩ := List.pairwise_cons.1 hl
    by_cases h : key = k
    · subst h
      cases hp : p a with
      | true => simp [hp, Option.filter]
      | false =>
        have hnone : (rest.filter fun e => p e.2).lookup key = none :=
          lookup_eq_none_of_forall_ne fun e he => hk e (List.mem_filter.1 he).1
        simp [hp, hnone, Option.filter]
    · have hb : (key == k) = false := beq_eq_false_iff_ne.2 h
      cases hp : p a <;> simp [List.lookup_cons, hb, hp, ih hrest]

end Keyed

end Passcode
