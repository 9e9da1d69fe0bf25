import Passcode.Proofs.Settings.Load
import Passcode.Proofs.Text.Integer

/-!
# What is given for one place

A scalar of loaded settings is read from what the layers have in its place. To know it, nothing
needs to be known of the other places: an override variable for the place decides alone, as long as
no other variable reaches into the place, and without one the configuration file does.

A variable reaches into a place if it names the place, something on the way to it or something below
it, or if it goes by an index on the way. All others leave the place alone.

## Main definitions

* `Leafwise` — what is found at the place of a leaf is what the leaf is read from
* `overrideName` — the override variable of a place
* `leadsAside` — steps that part from a path at some key
* `Overrides`, `Supplied` — what is given for a place

## Main statements

* `exists_of_load_eq_ok` — the stages of a successful load
* `overrideLeaf_toString` — an override variable can give any integer of 64 bits
* `ofLayer_of_supplied` — a scalar is read from what is given for its place
-/

namespace Passcode.Settings

open Layers (Value Step stepsOf given? entryValue)

/-! ## Reading leaf by leaf -/

/-- What is found at the place of a leaf is what the leaf is read from. Nothing is asked of the
other leaves, which may be missing. -/
class Leafwise (α : Type) [Setting α] [Leafy α] : Prop where
  ofLayer_at? : ∀ {v : Value} {a : α}, Setting.ofLayer v = .ok a →
    ∀ l ∈ (Leafy.leaves : List (Leaf α)), ∀ {w}, v.at? l.path = some w →
      Setting.ofLayer w = .ok (l.get a)

instance {α : Type} [Setting α] [Scalar α] : Leafwise α where
  ofLayer_at? := by
    intro v a h l hl w hw
    obtain rfl := List.mem_singleton.1 hl
    obtain rfl : v = w := Option.some.inj hw
    exact h

section Group

variable {S : Type} [Schema S] [Group S]

/-- A group that is read from a table was filled from it. -/
theorem Group.fills_of_ofLayer {origin : Option String} {entries : List (String × Value)} {s : S}
    (h : Setting.ofLayer (.table origin entries) = .ok s) :
    ∀ p ∈ parts (S := S), Fills entries Schema.start s p := by
  have hfields : (Schema.fields (S := S)).map Field.layer = layerFields parts := by
    rw [fields_eq, List.map_map]
    rfl
  change Layers.coerceRecord _ ((Schema.fields (S := S)).map Field.layer) Schema.start _ = _ at h
  rw [hfields, Layers.coerceRecord] at h
  obtain ⟨r, hr, h⟩ := bind_eq_ok_iff.1 h
  have hrs : r = s := by
    split at h
    · cases h
    · exact Except.ok.inj h
  rw [hrs] at hr
  exact ((fillEntries_eq_ok_iff entries s parts [] _ rfl).1 hr).2

/-- A group is read leaf by leaf if its parts are. -/
theorem leafwise_of_parts (h : ∀ p ∈ Group.parts (S := S), Leafwise p.α) : Leafwise S where
  ofLayer_at? := by
    intro v s hread l hl w hw
    obtain ⟨p, hp, hl⟩ := List.mem_flatMap.1 hl
    obtain ⟨l, hinner, rfl⟩ := List.mem_map.1 hl
    have hsome : (v.at? (p.name :: l.path)).isSome = true := Option.isSome_iff_exists.2 ⟨w, hw⟩
    obtain ⟨origin, entries, rfl⟩ := Value.exists_table_of_at?_cons hsome
    obtain ⟨u, hu, -⟩ := Value.isSome_child?_of_at?_cons hsome
    have hlookup : entries.lookup p.name = some u := hu
    have hpart : Setting.ofLayer u = .ok (p.get s) := by
      have hfills := Group.fills_of_ofLayer hread p hp
      rw [Group.Fills, Group.readPart, hlookup] at hfills
      exact hfills
    have hat : u.at? l.path = some w := by
      have hat : (Value.table origin entries).at? (p.name :: l.path) = some w := hw
      rw [Value.at?_cons, hu] at hat
      exact hat
    exact (h p hp).ofLayer_at? hpart l hinner hat

end Group

instance {S α : Type} [Setting α] [Legible α] [Leafy α] [h : Leafwise α] {name : String}
    {get : S → α} {set : α → S → S} : Leafwise (Part.optional name get set).α := h

instance {S α : Type} [Setting α] [Legible α] [Leafy α] [h : Leafwise α] {name : String}
    {get : S → α} {set : α → S → S} : Leafwise (Part.mandatory name get set).α := h

instance {S α : Type} [Setting α] [Legible α] [Leafy α] [h : Leafwise α] {name : String}
    {get : S → α} {set : α → S → S} : Leafwise (Part.hidden name get set).α := h

instance : Leafwise Server :=
  leafwise_of_parts (by
    simp only [Group.parts, List.forall_mem_cons]
    exact ⟨inferInstance, inferInstance, inferInstance, inferInstance, inferInstance, nofun⟩)

instance : Leafwise Memory :=
  leafwise_of_parts (by
    simp only [Group.parts, List.forall_mem_cons]
    exact ⟨inferInstance, nofun⟩)

instance : Leafwise Cache :=
  leafwise_of_parts (by
    simp only [Group.parts, List.forall_mem_cons]
    exact ⟨inferInstance, inferInstance, inferInstance, inferInstance, inferInstance,
      inferInstance, nofun⟩)

instance : Leafwise Email :=
  leafwise_of_parts (by
    simp only [Group.parts, List.forall_mem_cons]
    exact ⟨inferInstance, inferInstance, inferInstance, inferInstance, inferInstance,
      inferInstance, inferInstance, inferInstance, inferInstance, nofun⟩)

instance : Leafwise Verification :=
  leafwise_of_parts (by
    simp only [Group.parts, List.forall_mem_cons]
    exact ⟨inferInstance, inferInstance, inferInstance, inferInstance, inferInstance, nofun⟩)

instance : Leafwise Logging :=
  leafwise_of_parts (by
    simp only [Group.parts, List.forall_mem_cons]
    exact ⟨inferInstance, inferInstance, inferInstance, inferInstance, nofun⟩)

instance : Leafwise App :=
  leafwise_of_parts (by
    simp only [Group.parts, List.forall_mem_cons]
    exact ⟨inferInstance, inferInstance, inferInstance, inferInstance, inferInstance,
      inferInstance, nofun⟩)

/-! ## The stages of a load -/

section Load

variable {vars : Variables} {files : Files} {c : App}

/-- A configuration file that cannot be read fails the load. -/
theorem load_ne_ok_of_broken {fault : Layers.Fault}
    (h : fileLayer files (allVariables vars files).environment = .error fault) :
    load vars files ≠ .ok c := by
  have h' : fileLayer files (allVariables vars files).app.environment = .error fault := h
  intro hload
  unfold load mergedLayers at hload
  simp only [h', bind, Except.bind] at hload
  cases hfirst : Setting.toLayer (allVariables vars files).app with
  | error fault =>
    rw [hfirst] at hload
    exact absurd hload nofun
  | ok first =>
    rw [hfirst] at hload
    exact absurd hload nofun

/-- **The stages of a successful load**: the file is read, the plain variables are written as a
layer, and what the merged layers are read as is completed. -/
theorem exists_of_load_eq_ok (h : load vars files = .ok c) :
    ∃ file first a, fileLayer files (allVariables vars files).environment = .ok file
      ∧ Setting.toLayer (allVariables vars files).app = .ok first
      ∧ Setting.ofLayer (merged first file (overrides (allVariables vars files))) = .ok a
      ∧ completed (allVariables vars files).app.email.password a = .ok c := by
  cases hfile : fileLayer files (allVariables vars files).environment with
  | error fault => exact absurd h (load_ne_ok_of_broken hfile)
  | ok file =>
    rw [load_eq hfile] at h
    obtain ⟨first, hfirst, h⟩ := bind_eq_ok_iff.1 h
    obtain ⟨a, ha, h⟩ := bind_eq_ok_iff.1 h
    exact ⟨file, first, a, rfl, hfirst, ha, h⟩

end Load

/-! ## Where variables reach -/

/-- Some steps part from a path: they go by the keys of the path for a while, and then by another
key. -/
def leadsAside : List Step → List String → Bool
  | .key key :: steps, key' :: path => if key = key' then leadsAside steps path else true
  | _, _ => false

/-- What lies aside of a path does not show on it. -/
theorem under_of_leadsAside (v : Value) : ∀ {steps : List Step} {path : List String},
    leadsAside steps path = true →
      (v.under steps).fits path = true ∧ (v.under steps).at? path = none
  | [], _, h => absurd h nofun
  | .index _ :: _, _, h => absurd h nofun
  | .key key :: steps, [], h => absurd h nofun
  | .key key :: steps, key' :: path, h => by
    rw [leadsAside] at h
    rw [Value.under, Value.fits, Value.at?_cons]
    by_cases hkey : key = key'
    · subst hkey
      rw [if_pos rfl] at h
      simpa [Value.child?, Value.entries] using under_of_leadsAside v h
    · have hb : (key' == key) = false := beq_eq_false_iff_ne.2 (Ne.symm hkey)
      simp [Value.child?, Value.entries, List.lookup_cons, hb]

/-- A scalar at the end of a path is found there. -/
theorem under_keys (origin : Option String) (l : Layers.Leaf) : ∀ path : List String,
    ((Value.leaf origin l).under (path.map .key)).fits path = true
      ∧ ((Value.leaf origin l).under (path.map .key)).at? path = some (.leaf origin l)
  | [] => ⟨rfl, rfl⟩
  | key :: path => by
    rw [List.map_cons, Value.under, Value.fits, Value.at?_cons]
    simpa [Value.child?, Value.entries] using under_keys origin l path

/-- The name of the override variable of a place. -/
def overrideName (path : List String) : String :=
  "APP__" ++ "__".intercalate (path.map String.toUpper)

theorem toList_overrideName (path : List String) : (overrideName path).toList
    = "APP__".toList
      ++ List.intercalate "__".toList (path.map fun key => key.toList.map Char.toUpper) := by
  simp [overrideName, String.toUpper, String.toList_intercalate, Function.comp_def]

/-- The override variable of a scalar is read as the path to its place. -/
theorem overridePath?_overrideName {l : Leaf App} (hl : l ∈ App.leaves) :
    overridePath? (overrideName l.path) = some (".".intercalate l.path) := by
  -- Whole texts are slow to compute with, so this is done on their characters.
  have hchars : ∀ l ∈ App.leaves,
      let lower := Text.lowerFrom [] ("APP__".toList
        ++ List.intercalate "__".toList (l.path.map fun key => key.toList.map Char.toUpper))
      overrideMark.isPrefixOf lower = true
        ∧ pathOfName (lower.drop overrideMark.length)
          = List.intercalate ".".toList (l.path.map String.toList) := by decide +kernel
  obtain ⟨hmark, hpath⟩ := hchars l hl
  simp only [overridePath?, Text.lowercase, toList_overrideName, String.toList_ofList,
    if_pos hmark, hpath, ← String.toList_intercalate, String.ofList_toList]

/-- The path to the place of a scalar goes by its keys. -/
theorem stepsOf_intercalate : ∀ l ∈ App.leaves,
    stepsOf (".".intercalate l.path) = l.path.map .key := by decide +kernel

/-- A variable leaves a place alone: it is no override, or its place lies aside. -/
def sparesPlace (path : List String) (var : String × Option String) : Bool :=
  var.2.isNone || (overridePath? var.1).all fun p => leadsAside (stepsOf p) path

/-- The override variable of a place has a text, and all others leave the place alone. -/
structure Overrides (env : Variables) (path : List String) (text : String) : Prop where
  given : (overrideName path, some text) ∈ env
  alone : ∀ var ∈ env, var = (overrideName path, some text) ∨ sparesPlace path var = true

section Overrides

variable {env : Variables} {path : List String} {text : String}

/-- Where an entry of the override layer comes from. -/
theorem exists_var_of_mem_overrides {entry : String × Value} (h : entry ∈ overrides env) :
    ∃ name text, (name, some text) ∈ env ∧ overridePath? name = some entry.1
      ∧ entry.2 = .leaf (some overrideOrigin) (overrideLeaf text) := by
  obtain ⟨⟨name, text?⟩, hvar, h⟩ := List.mem_filterMap.1 h
  obtain ⟨p, hp, h⟩ := Option.bind_eq_some_iff.1 h
  obtain ⟨text, rfl, h⟩ := Option.bind_eq_some_iff.1 h
  obtain rfl := Option.some.inj h
  exact ⟨name, text, hvar, hp, rfl⟩

theorem mem_overrides {name p : String} (hvar : (name, some text) ∈ env)
    (hp : overridePath? name = some p) :
    (p, Value.leaf (some overrideOrigin) (overrideLeaf text)) ∈ overrides env :=
  List.mem_filterMap.2 ⟨_, hvar, by simp only [hp]; rfl⟩

/-- What a variable that leaves a place alone overrides does not show there. -/
theorem entryValue_of_sparesPlace {name : String} {entry : String × Value}
    (h : sparesPlace path (name, some text) = true) (hp : overridePath? name = some entry.1) :
    (entryValue entry).fits path = true ∧ (entryValue entry).at? path = none := by
  have haside : leadsAside (stepsOf entry.1) path = true := by
    rw [sparesPlace, hp] at h
    exact h
  exact under_of_leadsAside entry.2 haside

theorem given?_eq_none {entries : List (String × Value)}
    (h : ∀ entry ∈ entries, (entryValue entry).at? path = none) : given? entries path = none := by
  induction entries with
  | nil => rfl
  | cons entry rest ih =>
    rw [List.forall_mem_cons] at h
    rw [given?, ih h.2, h.1]
    rfl

/-- Where the entries of a layer have the same at a path or nothing, and one of them has it, the
layer has it. -/
theorem given?_eq_some {entries : List (String × Value)} {w : Value}
    (h : ∀ entry ∈ entries, (entryValue entry).at? path = some w
      ∨ (entryValue entry).at? path = none)
    (hmem : ∃ entry ∈ entries, (entryValue entry).at? path = some w) :
    given? entries path = some w := by
  induction entries with
  | nil =>
    obtain ⟨entry, hentry, -⟩ := hmem
    exact absurd hentry List.not_mem_nil
  | cons entry rest ih =>
    rw [List.forall_mem_cons] at h
    rw [given?]
    by_cases hrest : ∃ entry ∈ rest, (entryValue entry).at? path = some w
    · rw [ih h.2 hrest]
      rfl
    · have hnone : given? rest path = none :=
        given?_eq_none fun e he => (h.2 e he).resolve_left fun hw => hrest ⟨e, he, hw⟩
      obtain ⟨e, he, hw⟩ := hmem
      rcases List.mem_cons.1 he with rfl | he
      · rw [hnone, hw]
        rfl
      · exact absurd ⟨e, he, hw⟩ hrest

/-- Variables that leave a place alone override nothing there. -/
theorem given?_overrides_of_spares (h : ∀ var ∈ env, sparesPlace path var = true) :
    given? (overrides env) path = none
      ∧ ∀ entry ∈ overrides env, (entryValue entry).fits path = true := by
  have hentry : ∀ entry ∈ overrides env,
      (entryValue entry).fits path = true ∧ (entryValue entry).at? path = none := by
    intro entry hentry
    obtain ⟨name, text, hvar, hp, -⟩ := exists_var_of_mem_overrides hentry
    exact entryValue_of_sparesPlace (h _ hvar) hp
  exact ⟨given?_eq_none fun entry he => (hentry entry he).2, fun entry he => (hentry entry he).1⟩

/-- **The override variable of a place** decides alone what is given there. -/
theorem Overrides.given?_overrides {l : Leaf App} (hl : l ∈ App.leaves)
    (h : Overrides env l.path text) :
    given? (overrides env) l.path = some (.leaf (some overrideOrigin) (overrideLeaf text))
      ∧ ∀ entry ∈ overrides env, (entryValue entry).fits l.path = true := by
  have hp := overridePath?_overrideName hl
  have hgiven : ∀ entry : String × Value, entry.1 = ".".intercalate l.path →
      entry.2 = .leaf (some overrideOrigin) (overrideLeaf text) →
      (entryValue entry).fits l.path = true
        ∧ (entryValue entry).at? l.path
          = some (.leaf (some overrideOrigin) (overrideLeaf text)) := by
    intro entry hpath hvalue
    rw [entryValue, hpath, stepsOf_intercalate l hl, hvalue]
    exact under_keys _ _ l.path
  have hentry : ∀ entry ∈ overrides env, (entryValue entry).fits l.path = true
      ∧ ((entryValue entry).at? l.path = some (.leaf (some overrideOrigin) (overrideLeaf text))
        ∨ (entryValue entry).at? l.path = none) := by
    intro entry hentry
    obtain ⟨name, text', hvar, hname, hvalue⟩ := exists_var_of_mem_overrides hentry
    rcases h.alone _ hvar with heq | hspares
    · obtain ⟨rfl, rfl⟩ : name = overrideName l.path ∧ text' = text := by simpa using heq
      have hpath : entry.1 = ".".intercalate l.path := Option.some.inj (hname.symm.trans hp)
      exact ⟨(hgiven entry hpath hvalue).1, .inl (hgiven entry hpath hvalue).2⟩
    · obtain ⟨hfits, hnone⟩ := entryValue_of_sparesPlace hspares hname
      exact ⟨hfits, .inr hnone⟩
  refine ⟨given?_eq_some (fun entry he => (hentry entry he).2) ?_, fun e he => (hentry e he).1⟩
  exact ⟨_, mem_overrides h.given hp, (hgiven _ rfl rfl).2⟩

end Overrides

/-! ## What is given for a place -/

/-- An integer that is written out is read as that integer. -/
theorem overrideLeaf_toString {n : Int} (h : fitsSigned 64 n = true) :
    overrideLeaf (toString n) = .int n := by
  -- No word for a truth value is read as an integer.
  have hne (word : String) (hword : Text.signed? word.toList = none) : toString n ≠ word := by
    intro heq
    rw [← heq, Text.signed?_toString] at hword
    exact absurd hword nofun
  have hread : Text.readInt64 (toString n) = some (Int64.ofInt n) := by
    rw [Text.readInt64, Text.signed?_toString, Option.filter_some, if_pos h]
    rfl
  have hback : (Int64.ofInt n).toInt = n := by
    rw [fitsSigned, Bool.and_eq_true, decide_eq_true_eq, decide_eq_true_eq] at h
    have hmax : maxSigned 64 = 2 ^ 63 - 1 := by decide
    exact Int64.toInt_ofInt_of_le (by omega) (by omega)
  unfold overrideLeaf
  simp only [Text.lowercase_toString, if_neg (hne "true" (by decide)),
    if_neg (hne "false" (by decide)), hread, hback]

/-- What is given for a place: the value of its override variable, or, where all variables leave the
place alone, what the configuration file has there. -/
inductive Supplied (vars : Variables) (files : Files) (path : List String) : Layers.Leaf → Prop
  | override {text : String} (h : Overrides (allVariables vars files) path text) :
      Supplied vars files path (overrideLeaf text)
  | file {file : List (String × Value)} {origin : Option String} {l : Layers.Leaf}
      (hfile : fileLayer files (allVariables vars files).environment = .ok file)
      (spares : ∀ var ∈ allVariables vars files, sparesPlace path var = true)
      (fits : ∀ entry ∈ file, (entryValue entry).fits path = true)
      (given : given? file path = some (.leaf origin l)) : Supplied vars files path l

section Supplied

variable {vars : Variables} {files : Files} {c : App} {leaf : Layers.Leaf}

/-- An override variable can give any integer of 64 bits. -/
theorem Supplied.of_toString {path : List String} {n : Int} (hn : fitsSigned 64 n = true)
    (h : Overrides (allVariables vars files) path (toString n)) :
    Supplied vars files path (.int n) :=
  overrideLeaf_toString hn ▸ .override h

/-- The layers have at a place what is given for it. -/
theorem at?_merged_of_supplied (first : Value) {file : List (String × Value)}
    (hfile : fileLayer files (allVariables vars files).environment = .ok file) {l : Leaf App}
    (hl : l ∈ App.leaves) (h : Supplied vars files l.path leaf) :
    ∃ origin, (merged first file (overrides (allVariables vars files))).at? l.path
      = some (.leaf origin leaf) := by
  rw [merged]
  cases h with
  | override h =>
    obtain ⟨hgiven, hfits⟩ := h.given?_overrides hl
    rw [Value.at?_overlay _ _ (distinct_overrides _) hfits, hgiven]
    exact ⟨_, rfl⟩
  | @file file' origin _ hfile' spares fits given =>
    obtain rfl : file = file' := Except.ok.inj (hfile.symm.trans hfile')
    obtain ⟨hnone, hfits⟩ := given?_overrides_of_spares spares
    rw [Value.at?_overlay _ _ (distinct_overrides _) hfits, hnone,
      Value.at?_overlay _ _ (distinct_fileLayer hfile) fits, given]
    exact ⟨_, rfl⟩

/-- **A scalar is read from what is given for its place.** For the password that has to be a text
with something in it, since an empty password is replaced. -/
theorem ofLayer_of_supplied (hload : load vars files = .ok c) {l : Leaf App} (hl : l ∈ App.leaves)
    (h : Supplied vars files l.path leaf)
    (hpassword : l.path = passwordPath → ∀ origin,
      Layers.coerceText (.leaf origin leaf) ≠ .ok "") :
    ∃ origin, Setting.ofLayer (.leaf origin leaf) = .ok (l.get c) := by
  obtain ⟨file, first, a, hfile, -, ha, hcompleted⟩ := exists_of_load_eq_ok hload
  obtain ⟨origin, hat⟩ := at?_merged_of_supplied first hfile hl h
  obtain ⟨rfl, -⟩ := completed_eq_ok_iff.1 hcompleted
  have hread := Leafwise.ofLayer_at? ha l hl hat
  refine ⟨origin, ?_⟩
  by_cases hpath : l.path = passwordPath
  · obtain rfl := eq_passwordLeaf l hl hpath
    have hkept : a.email.password ≠ "" := by
      intro hempty
      have htext : Layers.coerceText (.leaf origin leaf) = .ok a.email.password := hread
      rw [hempty] at htext
      exact hpassword hpath origin htext
    rw [withPassword, if_neg hkept]
    exact hread
  · rw [get_withPassword hl hpath]
    exact hread

end Supplied

end Passcode.Settings
