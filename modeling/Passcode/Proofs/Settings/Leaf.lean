import Passcode.Proofs.Settings.Scalar

/-!
# What settings consist of

Settings are groups of groups of scalars. Two things are said of a type of settings, and each holds
of a group as soon as it holds of its parts: what is left of a setting that goes through JSON, and
which scalars it consists of, at which paths of a layer they are written and from which paths of a
layer they are read.

A leaf may be secret, and is not written then.

## Main definitions

* `Legible` — what is read back from what is written in JSON
* `Leaf` — a scalar inside a setting
* `Leafy` — a setting is its leaves, in layers as well
-/

namespace Passcode.Settings

open Layers (Value)

/-- What is written of the settings of a type is read back, apart from what is not written. -/
class Legible (α : Type) [Setting α] where
  /-- What is left of a setting that is written and read back. -/
  kept : α → α
  exact_toJson : ∀ a : α, (Setting.toJson a).Exact
  ofJson_toJson : ∀ a : α, Setting.ofJson (Setting.toJson a).tree = .ok (kept a)

instance {α : Type} [Setting α] [Scalar α] : Legible α where
  kept a := a
  exact_toJson := Scalar.exact_toJson
  ofJson_toJson := Scalar.ofJson_toJson

/-! ## Leaves -/

/-- A scalar inside settings of a type: its path in a layer, and its value in a setting. -/
structure Leaf (α : Type) where
  path : List String
  secret : Bool
  {β : Type}
  [setting : Setting β]
  get : α → β

attribute [instance] Leaf.setting

variable {α β : Type}

/-- The leaf of a part as a leaf of the whole. -/
def Leaf.within (l : Leaf β) (name : String) (secret : Bool) (part : α → β) : Leaf α :=
  ⟨name :: l.path, secret || l.secret, fun a => l.get (part a)⟩

/-- A leaf of a setting is what is given in its place, or else what it is in another setting. -/
def Leaf.Reads (l : Leaf α) (given : List String → Option Value) (other a : α) : Prop :=
  match given l.path with
  | some w => Setting.ofLayer w = .ok (l.get a)
  | none => l.get a = l.get other

/-- A layer has something in the place of every leaf that is not secret. -/
def Complete (leaves : List (Leaf α)) (v : Value) : Prop :=
  ∀ l ∈ leaves, l.secret = false → (v.at? l.path).isSome = true

/-- A value has each leaf of a setting in its place, unless the leaf is secret. -/
structure Written (leaves : List (Leaf α)) (a : α) (v : Value) : Prop where
  distinct : v.Distinct
  fits : ∀ l ∈ leaves, v.fits l.path = true
  shown : ∀ l ∈ leaves, l.secret = false →
    ∃ w, Setting.toLayer (l.get a) = .ok w ∧ Setting.ofLayer w = .ok (l.get a)
      ∧ v.at? l.path = some w
  hidden : ∀ l ∈ leaves, l.secret = true → v.at? l.path = none

theorem Written.complete {leaves : List (Leaf α)} {a : α} {v : Value} (h : Written leaves a v) :
    Complete leaves v := by
  intro l hl hshown
  obtain ⟨w, -, -, hw⟩ := h.shown l hl hshown
  rw [hw]
  rfl

/-- The settings of a type are their leaves, and go into layers and out of layers leaf by leaf. -/
class Leafy (α : Type) [Setting α] where
  leaves : List (Leaf α)
  /-- What a setting can be while nothing of it was read. -/
  IsStart : α → Prop
  exists_shown : ∃ l ∈ leaves, l.secret = false
  ext : ∀ {a b : α}, (∀ l ∈ leaves, l.get a = l.get b) → a = b
  written : ∀ {a : α} {v : Value}, Setting.toLayer a = .ok v → Written leaves a v
  exists_toLayer : ∀ {a : α},
    (∀ l ∈ leaves, l.secret = false → ∃ w, Setting.toLayer (l.get a) = .ok w) →
      ∃ v, Setting.toLayer a = .ok v
  ofLayer_eq_ok_iff : ∀ {v : Value} {start a : α}, IsStart start → Complete leaves v →
    (Setting.ofLayer v = .ok a ↔ ∀ l ∈ leaves, l.Reads v.at? start a)
  ofLayer_congr : ∀ {v v' : Value}, Complete leaves v →
    (∀ l ∈ leaves, v.at? l.path = v'.at? l.path) →
      (Setting.ofLayer v : Except Layers.Fault α) = Setting.ofLayer v'

/-- A scalar is its own only leaf. -/
instance [Setting α] [Scalar α] : Leafy α where
  leaves := [⟨[], false, id⟩]
  IsStart _ := True
  exists_shown := ⟨_, List.mem_singleton_self _, rfl⟩
  ext h := h _ (List.mem_singleton_self _)
  written := by
    intro a v h
    obtain ⟨l, rfl, hread⟩ := Scalar.leaf_of_toLayer h
    refine ⟨trivial, ?_, ?_, ?_⟩ <;> rw [List.forall_mem_singleton]
    · rfl
    · exact fun _ => ⟨_, h, hread, rfl⟩
    · nofun
  exists_toLayer := by
    intro a h
    obtain ⟨w, hw⟩ := h _ (List.mem_singleton_self _) rfl
    exact ⟨w, hw⟩
  ofLayer_eq_ok_iff := by
    intro v start a _ _
    rw [List.forall_mem_singleton]
    rfl
  ofLayer_congr := by
    intro v v' _ h
    rw [Option.some.inj (h _ (List.mem_singleton_self _))]

end Passcode.Settings
