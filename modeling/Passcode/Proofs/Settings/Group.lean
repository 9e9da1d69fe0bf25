import Passcode.Proofs.Settings.Leaf

/-!
# Groups of settings

A group of settings is its parts: a value for every part makes one setting, and a part can be set
without a change to the others. So the group is read back from JSON as soon as its parts are, and
consists of the leaves of its parts.

## Main definitions

* `Part` — a field of a group together with the type of its value
* `Group` — the fields of a group are its parts

## Main statements

* `Group.addMembers_parts` — reading what was written of some parts sets those parts

A group is read back from JSON by the instance of `Legible`.
-/

namespace Passcode.Settings

open Layers (Value)

/-- A field of a group, with the type of its value. -/
structure Part (S : Type) where
  name : String
  required : Bool
  secret : Bool
  {α : Type}
  [setting : Setting α]
  [legible : Legible α]
  [leafy : Leafy α]
  get : S → α
  set : α → S → S

attribute [instance] Part.setting Part.legible Part.leafy

namespace Part

variable {S α : Type} [Setting α] [Legible α] [Leafy α]

/-- A part that may be left out. -/
def optional (name : String) (get : S → α) (set : α → S → S) : Part S :=
  ⟨name, false, false, get, set⟩

/-- A part that has to be there. -/
def mandatory (name : String) (get : S → α) (set : α → S → S) : Part S :=
  ⟨name, true, false, get, set⟩

/-- A part that is read and never written. -/
def hidden (name : String) (get : S → α) (set : α → S → S) : Part S :=
  ⟨name, false, true, get, set⟩

/-- The field of a part. -/
def field (p : Part S) : Field S where
  name := p.name
  required := p.required
  secret := p.secret
  toJson s := Setting.toJson (p.get s)
  ofJson tree := (Setting.ofJson tree).map p.set
  toLayer s := Setting.toLayer (p.get s)
  ofLayer v := (Setting.ofLayer v).map p.set

/-- The leaves of the value of a part. -/
def inner (p : Part S) : List (Leaf p.α) := Leafy.leaves

/-- The leaves of a part. -/
def leaves (p : Part S) : List (Leaf S) := p.inner.map fun l => l.within p.name p.secret p.get

/-- Two parts can be set without a change to each other. -/
def Apart (p q : Part S) : Prop :=
  (∀ a s, p.get (q.set a s) = p.get s) ∧ ∀ a s, q.get (p.set a s) = q.get s

theorem find?_name {ps : List (Part S)} (hps : (ps.map Part.name).Nodup) {p : Part S}
    (hp : p ∈ ps) : ps.find? (·.name == p.name) = some p := by
  induction ps with
  | nil => exact absurd hp List.not_mem_nil
  | cons q ps ih =>
    obtain ⟨hnew, hps⟩ := List.nodup_cons.1 hps
    rcases List.mem_cons.1 hp with rfl | hp
    · exact List.find?_cons_of_pos (beq_self_eq_true p.name)
    · have hne : q.name ≠ p.name := fun h => hnew (h ▸ List.mem_map_of_mem hp)
      rw [List.find?_cons_of_neg (by simpa using hne)]
      exact ih hps hp

end Part

/-- A group of settings is its parts. For a structure with its own fields as parts, the laws are
checked where the parts are listed. -/
class Group (S : Type) [Schema S] where
  parts : List (Part S)
  fields_eq : Schema.fields = parts.map Part.field := by rfl
  distinct : (parts.map Part.name).Nodup := by decide
  shown_of_required : ∀ p ∈ parts, p.required = true → p.secret = false := by decide
  /-- Only a scalar is secret. -/
  path_eq_nil : ∀ p ∈ parts, p.secret = true → ∀ l ∈ p.inner, l.path = [] := by decide
  exists_shown : ∃ p ∈ parts, p.secret = false := by exact ⟨_, List.mem_cons_self, rfl⟩
  isStart : ∀ p ∈ parts, Leafy.IsStart (p.get Schema.start) := by
    simp [Leafy.IsStart, Part.optional, Part.mandatory, Part.hidden, Schema.start]
  get_set : ∀ p ∈ parts, ∀ a s, p.get (p.set a s) = a := by
    simp [Part.optional, Part.mandatory, Part.hidden]
  apart : parts.Pairwise Part.Apart := by
    simp [Part.Apart, Part.optional, Part.mandatory, Part.hidden]
  ext : ∀ {s t : S}, (∀ p ∈ parts, p.get s = p.get t) → s = t := by
    rintro ⟨⟩ ⟨⟩ h
    simpa [Part.optional, Part.mandatory, Part.hidden] using h

namespace Group

variable {S : Type} [Schema S] [Group S]

/-- The parts of a group that are written. -/
def shown (S : Type) [Schema S] [Group S] : List (Part S) := parts.filter (!·.secret)

theorem mem_shown_iff {p : Part S} : p ∈ shown S ↔ p ∈ parts ∧ p.secret = false := by
  simp [shown]

/-- A name belongs to one part. -/
theorem eq_of_name_eq {p q : Part S} (hp : p ∈ parts) (hq : q ∈ parts) (h : p.name = q.name) :
    p = q := by
  have hfound := Part.find?_name distinct hp
  rw [h, Part.find?_name distinct hq] at hfound
  exact (Option.some.inj hfound).symm

theorem shown_fields : (Schema.fields (S := S)).filter (!·.secret) = (shown S).map Part.field := by
  rw [fields_eq, List.filter_map]
  rfl

theorem nodup_shown : ((shown S).map Part.name).Nodup :=
  distinct.sublist (List.filter_sublist.map Part.name)

/-! ## JSON -/

theorem toJson_eq (s : S) :
    Setting.toJson s = .object ((shown S).map fun p => (p.name, Setting.toJson (p.get s))) := by
  change Json.Value.object (((Schema.fields (S := S)).filter (!·.secret)).map _) = _
  rw [shown_fields, List.map_map]
  rfl

/-- What is left of a group that is written and read back: its parts that are written. -/
def kept (s : S) : S := (shown S).foldl (fun r p => p.set (Legible.kept (p.get s)) r) Schema.start

/-- Reading what was written of a part sets the part. -/
theorem addMember_part {p : Part S} (hp : p ∈ parts) (s r : S) {seen : List String}
    (hnew : p.name ∉ seen) :
    Json.addMember (parts.map fun q => q.field.json) ⟨r, seen⟩ (.ofScalar (.string p.name))
        (Setting.toJson (p.get s)).tree
      = .ok ⟨p.set (Legible.kept (p.get s)) r, p.name :: seen⟩ := by
  have hkey : (Json.Tree.ofScalar (.string p.name)).keyText = .ok p.name := rfl
  have hfind : (parts.map fun q : Part S => q.field.json).find? (·.name == p.name)
      = some p.field.json := by
    rw [List.find?_map]
    exact congrArg (Option.map _) (Part.find?_name distinct hp)
  have hread : p.field.json.decode (Setting.toJson (p.get s)).tree
      = .ok (p.set (Legible.kept (p.get s))) := by
    change (Setting.ofJson (Setting.toJson (p.get s)).tree).map p.set = _
    rw [Legible.ofJson_toJson]
    rfl
  simp [Json.addMember, hkey, hfind, hnew, hread, Except.map]

/-- **Reading what was written of some parts sets those parts.** -/
theorem addMembers_parts (s : S) : ∀ (ps : List (Part S)) (r : S) (seen : List String),
    (∀ p ∈ ps, p ∈ parts) → (ps.map Part.name).Nodup → (∀ p ∈ ps, p.name ∉ seen) →
    Json.addMembers (parts.map fun q => q.field.json) ⟨r, seen⟩
        (ps.map fun p => (.ofScalar (.string p.name), (Setting.toJson (p.get s)).tree))
      = .ok ⟨ps.foldl (fun r p => p.set (Legible.kept (p.get s)) r) r,
          (ps.map Part.name).reverse ++ seen⟩
  | [], _, _, _, _, _ => rfl
  | p :: ps, r, seen, hparts, hdistinct, hnew => by
    rw [List.forall_mem_cons] at hparts hnew
    obtain ⟨hfirst, hdistinct⟩ := List.nodup_cons.1 hdistinct
    have hrest : ∀ q ∈ ps, q.name ∉ p.name :: seen := by
      intro q hq hmem
      rcases List.mem_cons.1 hmem with h | h
      · exact hfirst (h ▸ List.mem_map_of_mem hq)
      · exact hnew.2 q hq h
    rw [List.map_cons, Json.addMembers, addMember_part hparts.1 s r hnew.1]
    simp only
    rw [addMembers_parts s ps _ _ hparts.2 hdistinct hrest]
    simp

instance : Legible S where
  kept := kept
  exact_toJson s := by
    rw [toJson_eq]
    refine Json.membersExact_iff.2 fun m hm => ?_
    obtain ⟨p, -, rfl⟩ := List.mem_map.1 hm
    exact Legible.exact_toJson _
  ofJson_toJson s := by
    have hadd := addMembers_parts s (shown S) Schema.start [] (fun p hp => (mem_shown_iff.1 hp).1)
      nodup_shown fun _ _ => List.not_mem_nil
    rw [toJson_eq]
    change Json.decodeRecord _ (Schema.fields.map Field.json) Schema.start
      (.object (Json.memberTrees _) none) = _
    rw [fields_eq, List.map_map, Json.memberTrees_eq_map, List.map_map]
    refine Json.decodeRecord_object hadd fun f hf hrequired => ?_
    obtain ⟨p, hp, rfl⟩ := List.mem_map.1 hf
    have hpart : p.required = true := by
      cases h : p.required with
      | true => rfl
      | false => simp [Part.field, Field.json, h] at hrequired
    have hshown : p ∈ shown S := mem_shown_iff.2 ⟨hp, shown_of_required p hp hpart⟩
    simpa using ⟨p, hshown, rfl⟩

end Group

end Passcode.Settings
