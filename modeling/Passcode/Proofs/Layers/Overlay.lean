import Passcode.Layers.Path

/-!
# One layer over another

Layers are laid over one another entry by entry. What is found at a path afterwards is what the
last entry has there that has anything there, and otherwise what was there before. This holds at
paths at which every entry has a scalar or nothing: there no entry puts a table in place of a
scalar, or an array in place of a table.

## Main definitions

* `Value.at?` — the value at a path of keys
* `Value.fits` — a value has a scalar at a path, or nothing
* `given?` — what a layer has at a path
* `Value.Distinct` — no table of a value has two entries under one key

## Main statements

* `Value.at?_store` — what one entry leaves at a path
* `Value.at?_overlay` — what a layer leaves at a path
-/

namespace Passcode.Layers

/-! ## Paths of keys -/

/-- The value at a path of keys. -/
def Value.at? : Value → List String → Option Value
  | v, [] => some v
  | v, key :: path => (v.child? key).bind fun w => w.at? path

/-- A value has a scalar at the end of a path, or nothing, and tables on the way. -/
def Value.fits : Value → List String → Bool
  | .leaf _ _, [] => true
  | .table _ entries, key :: path => (entries.lookup key).all fun w => w.fits path
  | _, _ => false

/-- The value that has nothing but `v`, at the end of some steps. -/
def Value.under : List Step → Value → Value
  | [], v => v
  | .key name :: steps, v => .table none [(name, v.under steps)]
  | .index _ :: steps, v => .array none [v.under steps]

/-- The value that has nothing but one entry of a layer. -/
def entryValue (entry : String × Value) : Value := entry.2.under (stepsOf entry.1)

/-- What a layer has at a path. A later entry wins over an earlier one. -/
def given? : List (String × Value) → List String → Option Value
  | [], _ => none
  | entry :: rest, path => (given? rest path).or ((entryValue entry).at? path)

mutual

/-- No table of a value has two entries under one key. -/
def Value.Distinct : Value → Prop
  | .table _ entries => EntriesDistinct entries
  | _ => True

/-- No two entries share a key, and so on inside the entries. -/
def EntriesDistinct : List (String × Value) → Prop
  | [] => True
  | (key, v) :: rest => rest.lookup key = none ∧ v.Distinct ∧ EntriesDistinct rest

end

theorem lookup_eq_none_iff {entries : List (String × Value)} {key : String} :
    entries.lookup key = none ↔ key ∉ entries.map Prod.fst := by
  rw [List.lookup_eq_none_iff]
  simp only [bne_iff_ne, List.mem_map, not_exists, not_and]
  exact forall₂_congr fun e _ => ne_comm

theorem entriesDistinct_iff {entries : List (String × Value)} :
    EntriesDistinct entries
      ↔ (entries.map Prod.fst).Nodup ∧ ∀ entry ∈ entries, entry.2.Distinct := by
  induction entries with
  | nil => simp [EntriesDistinct]
  | cons entry rest ih =>
    obtain ⟨key, v⟩ := entry
    rw [EntriesDistinct, ih, lookup_eq_none_iff, List.map_cons, List.nodup_cons,
      List.forall_mem_cons]
    exact ⟨fun ⟨hkey, hv, hkeys, hrest⟩ => ⟨⟨hkey, hkeys⟩, hv, hrest⟩,
      fun ⟨⟨hkey, hkeys⟩, hv, hrest⟩ => ⟨hkey, hv, hkeys, hrest⟩⟩

namespace Value

variable {v w root new : Value} {key other : String} {path : List String}

@[simp] theorem at?_nil : v.at? [] = some v := rfl

theorem at?_cons (v : Value) (key : String) (path : List String) :
    v.at? (key :: path) = (v.child? key).bind fun w => w.at? path := rfl

/-- Where a longer path leads to something, there is a table. -/
theorem exists_table_of_at?_cons (h : (v.at? (key :: path)).isSome = true) :
    ∃ origin entries, v = .table origin entries := by
  cases v with
  | leaf origin l => exact absurd h nofun
  | array origin items => exact absurd h nofun
  | table origin entries => exact ⟨origin, entries, rfl⟩

/-- Where a path leads to something, so does the start of it. -/
theorem isSome_child?_of_at?_cons (h : (v.at? (key :: path)).isSome = true) :
    ∃ w, v.child? key = some w ∧ (w.at? path).isSome = true := by
  rw [at?_cons] at h
  cases hw : v.child? key with
  | none =>
    rw [hw] at h
    exact absurd h nofun
  | some w =>
    rw [hw] at h
    exact ⟨w, rfl, h⟩

theorem fits_child (h : v.fits (key :: path) = true) (hw : v.child? key = some w) :
    w.fits path = true := by
  cases v with
  | leaf origin l => exact absurd h nofun
  | array origin items => exact absurd h nofun
  | table origin entries =>
    have hlookup : entries.lookup key = some w := hw
    rw [fits, hlookup] at h
    exact h

/-! ## Storing under a key -/

@[simp] theorem child?_withEntry (v : Value) (key : String) (w : Value) :
    (v.withEntry key w).child? key = some w := by
  cases v with
  | leaf origin l => simp [withEntry, child?, entries]
  | array origin items => simp [withEntry, child?, entries]
  | table origin entries => exact lookup_setEntry key w entries

theorem child?_withEntry_of_ne (h : other ≠ key) (v w : Value) :
    (v.withEntry key w).child? other = v.child? other := by
  cases v with
  | leaf origin l => simp [withEntry, child?, entries, List.lookup_cons, beq_eq_false_iff_ne.2 h]
  | array origin items =>
    simp [withEntry, child?, entries, List.lookup_cons, beq_eq_false_iff_ne.2 h]
  | table origin entries => exact lookup_setEntry_of_ne h w entries

/-- A value that is stored under a key leaves the other keys as they are. -/
theorem child?_put_of_ne (h : other ≠ key) (root new : Value) :
    (root.put key new).child? other = root.child? other := by
  cases new with
  | leaf origin l => exact child?_withEntry_of_ne h root _
  | array origin items => exact child?_withEntry_of_ne h root _
  | table origin entries => exact child?_withEntry_of_ne h root _

mutual

/-- What is stored under a key wins at every path below it that fits. -/
theorem at?_put : ∀ (new root : Value) (key : String) (path : List String), new.Distinct →
    new.fits path = true →
    (root.put key new).at? (key :: path) = (new.at? path).or (root.at? (key :: path))
  | .leaf origin l, root, key, path, _, hfits => by
    cases path with
    | nil => simp [put, at?_cons]
    | cons k path => exact absurd hfits nofun
  | .array origin items, root, key, path, _, hfits => absurd hfits (by cases path <;> nofun)
  | .table origin incoming, root, key, [], _, hfits => absurd hfits nofun
  | .table origin incoming, root, key, k :: path, hdistinct, hfits => by
    rw [put, at?_cons, child?_withEntry, Option.bind_some,
      at?_putAll incoming _ _ _ hdistinct hfits, at?_cons root key]
    cases root.child? key with
    | none => rfl
    | some w => rfl

/-- The entries of a table that is merged into another win at every path that fits. -/
theorem at?_putAll : ∀ (incoming : List (String × Value)) (target : Value) (k : String)
    (path : List String), EntriesDistinct incoming →
    (Value.table none incoming).fits (k :: path) = true →
    (putAll target incoming).at? (k :: path)
      = ((Value.table none incoming).at? (k :: path)).or (target.at? (k :: path))
  | [], target, k, path, _, _ => rfl
  | (key, v) :: rest, target, k, path, ⟨habsent, hv, hrest⟩, hfits => by
    by_cases hk : k = key
    · subst hk
      have hfitsv : v.fits path = true := fits_child hfits (by simp [child?, entries])
      have hfitsrest : (Value.table none rest).fits (k :: path) = true := by
        rw [fits, habsent]
        rfl
      rw [putAll, at?_putAll rest _ k path hrest hfitsrest, at?_put v target k path hv hfitsv]
      simp [at?_cons (.table none _), child?, entries, habsent]
    · have hb : (k == key) = false := beq_eq_false_iff_ne.2 hk
      have hfitsrest : (Value.table none rest).fits (k :: path) = true := by
        rw [fits, List.lookup_cons, hb] at hfits
        exact hfits
      rw [putAll, at?_putAll rest _ k path hrest hfitsrest, at?_cons (target.put key v),
        child?_put_of_ne hk, ← at?_cons target]
      simp [at?_cons (.table none _), child?, entries, List.lookup_cons, hb]

end

/-! ## Storing at a path -/

theorem at?_withEntry_of_ne (h : other ≠ key) (v w : Value) (path : List String) :
    (v.withEntry key w).at? (other :: path) = v.at? (other :: path) := by
  rw [at?_cons, child?_withEntry_of_ne h, ← at?_cons]

theorem at?_put_of_ne (h : other ≠ key) (root new : Value) (path : List String) :
    (root.put key new).at? (other :: path) = root.at? (other :: path) := by
  rw [at?_cons, child?_put_of_ne h, ← at?_cons]

theorem at?_under_key (steps : List Step) (new : Value) :
    (new.under (.key key :: steps)).at? (key :: path) = (new.under steps).at? path := by
  simp [under, at?_cons, child?, entries]

theorem at?_under_key_of_ne (h : other ≠ key) (steps : List Step) (new : Value) :
    (new.under (.key key :: steps)).at? (other :: path) = none := by
  simp [under, at?_cons, child?, entries, List.lookup_cons, beq_eq_false_iff_ne.2 h]

theorem fits_under_key (steps : List Step) (new : Value)
    (h : (new.under (.key key :: steps)).fits (key :: path) = true) :
    (new.under steps).fits path = true :=
  fits_child h (by simp [under, child?, entries])

/-- **What one entry leaves at a path**, if it fits there: what it has there, or else what was there
before. -/
theorem at?_store : ∀ (steps : List Step) (v new : Value) (path : List String), steps ≠ [] →
    new.Distinct → (new.under steps).fits path = true →
    (v.store steps new).at? path = ((new.under steps).at? path).or (v.at? path)
  | [], _, _, _, hsteps, _, _ => absurd rfl hsteps
  | .index i :: steps, v, new, path, _, _, hfits => absurd hfits (by cases path <;> nofun)
  | .key key :: steps, v, new, [], _, _, hfits => absurd hfits nofun
  | [.key key], v, new, k :: path, _, hnew, hfits => by
    by_cases hk : k = key
    · subst hk
      rw [store, at?_under_key]
      exact at?_put new v k path hnew (fits_under_key [] new hfits)
    · rw [store, at?_put_of_ne hk, at?_under_key_of_ne hk, Option.none_or]
  | .key key :: step :: steps, v, new, k :: path, _, hnew, hfits => by
    by_cases hk : k = key
    · subst hk
      have hinner := fits_under_key (step :: steps) new hfits
      rw [store, at?_under_key, at?_cons, child?_withEntry, Option.bind_some,
        at?_store (step :: steps) _ new path nofun hnew hinner, at?_cons v]
      · cases v.child? k with
        | some w => rfl
        | none =>
          -- A place that was not there is made empty, and that shows only where nothing fits.
          cases path with
          | cons k path => rfl
          | nil => cases step <;> exact absurd hinner nofun
      · nofun
    · rw [store, at?_withEntry_of_ne hk, at?_under_key_of_ne hk, Option.none_or]
      nofun

end Value

theorem stepsOf_ne_nil (text : String) : stepsOf text ≠ [] := by
  unfold stepsOf
  dsimp only
  split
  · exact List.cons_ne_nil _ _
  · split <;> exact List.cons_ne_nil _ _

/-- **What a layer leaves at a path**, if its entries fit there: what it has there, or else what was
there before. -/
theorem Value.at?_overlay {path : List String} (layer : List (String × Value)) (base : Value)
    (hdistinct : ∀ entry ∈ layer, entry.2.Distinct)
    (hfits : ∀ entry ∈ layer, (entryValue entry).fits path = true) :
    (base.overlay layer).at? path = (given? layer path).or (base.at? path) := by
  induction layer generalizing base with
  | nil => rfl
  | cons entry rest ih =>
    rw [List.forall_mem_cons] at hdistinct hfits
    have hfirst := at?_store (stepsOf entry.1) base entry.2 path (stepsOf_ne_nil _) hdistinct.1
      hfits.1
    rw [overlay, List.foldl_cons, ← overlay, ih _ hdistinct.2 hfits.2, hfirst, given?,
      Option.or_assoc]
    rfl

/-- Entries under plain names are merged into a table one by one. -/
theorem Value.overlay_eq_putAll {entries : List (String × Value)}
    (h : ∀ entry ∈ entries, stepsOf entry.1 = [.key entry.1]) (base : Value) :
    base.overlay entries = putAll base entries := by
  induction entries generalizing base with
  | nil => rfl
  | cons entry rest ih =>
    rw [List.forall_mem_cons] at h
    rw [overlay, List.foldl_cons, ← overlay, ih h.2, h.1]
    rfl

end Passcode.Layers
