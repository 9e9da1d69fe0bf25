import Passcode.Proofs.Json.Text
import Passcode.Proofs.Layers.Overlay
import Passcode.Settings.App

/-!
# Scalar settings

A setting that is no group is a scalar in a layer and is read back from what is written of it, both
from JSON and from a layer. Only a number too large for a layer is not written there.

## Main definitions

* `Scalar` — the settings of a type are scalars

The instances cover the types of all settings that are no groups.
-/

namespace Passcode.Settings

/-- Settings of a type are scalars that are read back from what is written of them. -/
class Scalar (α : Type) [Setting α] : Prop where
  exact_toJson : ∀ a : α, (Setting.toJson a).Exact
  ofJson_toJson : ∀ a : α, Setting.ofJson (Setting.toJson a).tree = .ok a
  leaf_of_toLayer : ∀ {a : α} {w : Layers.Value}, Setting.toLayer a = .ok w →
    ∃ l, w = .leaf none l ∧ Setting.ofLayer w = .ok a

instance : Scalar String where
  exact_toJson _ := trivial
  ofJson_toJson _ := rfl
  leaf_of_toLayer := by
    rintro s _ ⟨⟩
    exact ⟨.text s, rfl, rfl⟩

instance : Scalar Bool where
  exact_toJson _ := trivial
  ofJson_toJson _ := rfl
  leaf_of_toLayer := by
    rintro b _ ⟨⟩
    exact ⟨.bool b, rfl, rfl⟩

/-! ## Numbers -/

theorem exact_nat {n : Nat} (h : n < twoTo 64) : (Json.Value.int n).Exact :=
  ⟨by omega, by omega⟩

theorem decodeNat_nat {n bound : Nat} (h : n < bound) (name : String) :
    Json.decodeNat name bound (Json.Value.int n).tree = .ok n := by
  have hn : ¬(n : Int) < 0 := by omega
  simp [Json.decodeNat, Json.leafDecoder, Json.Value.tree, Json.Tree.ofScalar, Json.Number.ofInt,
    hn, h]

theorem eq_of_natLayer {n : Nat} {w : Layers.Value} (h : natLayer n = .ok w) :
    w = .leaf none (.int n) := by
  unfold natLayer at h
  split at h
  · exact (Except.ok.inj h).symm
  · exact absurd h nofun

theorem coerceNat_int (n : Nat) : Layers.coerceNat (.leaf none (.int n)) = .ok n := by
  have hn : 0 ≤ (n : Int) := by omega
  simp [Layers.coerceNat, hn]

/-- Numbers without sign, each of which is `ofNat` of its value. -/
theorem scalar_nat {α : Type} [Setting α] {toNat : α → Nat} {ofNat : Nat → α} {name : String}
    {bound : Nat} (hbound : bound ≤ twoTo 64) (hlt : ∀ a, toNat a < bound)
    (hback : ∀ a, ofNat (toNat a) = a) (hjson : ∀ a : α, Setting.toJson a = .int (toNat a))
    (hofJson : ∀ tree, Setting.ofJson tree = (Json.decodeNat name bound tree).map ofNat)
    (hlayer : ∀ a : α, Setting.toLayer a = natLayer (toNat a))
    (hofLayer : ∀ v, Setting.ofLayer v = (Layers.coerceNat v).map ofNat) : Scalar α where
  exact_toJson a := by
    rw [hjson]
    exact exact_nat (Nat.lt_of_lt_of_le (hlt a) hbound)
  ofJson_toJson a := by
    rw [hjson, hofJson, decodeNat_nat (hlt a), Except.map, hback]
  leaf_of_toLayer := by
    intro a w h
    rw [hlayer] at h
    obtain rfl := eq_of_natLayer h
    exact ⟨_, rfl, by rw [hofLayer, coerceNat_int, Except.map, hback]⟩

instance : Scalar UInt16 :=
  scalar_nat (by decide) UInt16.toNat_lt (fun _ => UInt16.ofNat_toNat) (fun _ => rfl)
    (fun _ => rfl) (fun _ => rfl) fun _ => rfl

instance : Scalar UInt32 :=
  scalar_nat (by decide) UInt32.toNat_lt (fun _ => UInt32.ofNat_toNat) (fun _ => rfl)
    (fun _ => rfl) (fun _ => rfl) fun _ => rfl

instance : Scalar UInt64 :=
  scalar_nat (by decide) UInt64.toNat_lt (fun _ => UInt64.ofNat_toNat) (fun _ => rfl)
    (fun _ => rfl) (fun _ => rfl) fun _ => rfl

instance : Scalar Size :=
  scalar_nat (by decide) (fun s => UInt64.toNat_lt s.toUInt64)
    (fun _ => congrArg Size.mk UInt64.ofNat_toNat) (fun _ => rfl) (fun _ => rfl) (fun _ => rfl)
    fun _ => rfl

theorem decodeInt_int {n : Int} {bound : Nat} (hlow : -(bound : Int) ≤ n) (hhigh : n < bound)
    (name : String) : Json.decodeInt name bound (Json.Value.int n).tree = .ok n := by
  by_cases hn : n < 0
  · simp [Json.decodeInt, Json.leafDecoder, Json.Value.tree, Json.Tree.ofScalar, Json.Number.ofInt,
      hn, hlow]
  · have habs : n.natAbs < bound := by omega
    have hback : (n.natAbs : Int) = n := by omega
    simp [Json.decodeInt, Json.leafDecoder, Json.Value.tree, Json.Tree.ofScalar, Json.Number.ofInt,
      hn, habs, hback]

instance : Scalar Int64 where
  exact_toJson n := by
    have hlow := Int64.le_toInt n
    have hhigh := Int64.toInt_lt n
    have htwo : twoTo 64 = 2 * twoTo 63 := by decide
    have htwo' : twoTo 63 = 2 ^ 63 := by decide
    exact ⟨by omega, by omega⟩
  ofJson_toJson n := by
    have hlow := Int64.le_toInt n
    have hhigh := Int64.toInt_lt n
    have htwo : twoTo 63 = 2 ^ 63 := by decide
    change (Json.decodeInt "i64" (twoTo 63) (Json.Value.int n.toInt).tree).map Int64.ofInt = _
    rw [decodeInt_int (by omega) (by omega), Except.map, Int64.ofInt_toInt]
  leaf_of_toLayer := by
    rintro n _ ⟨⟩
    exact ⟨.int n.toInt, rfl, congrArg Except.ok (Int64.ofInt_toInt n)⟩

/-! ## Named values -/

/-- Every value of a type is found under its name. -/
class Named (α : Type) [Choice α] : Prop where
  lookup_label : ∀ a : α, Choice.table.lookup (Choice.label a) = some a

instance {α : Type} [Choice α] [Named α] : Scalar α where
  exact_toJson _ := trivial
  ofJson_toJson a := by
    change Json.lookupName Choice.table (Choice.label a) = _
    rw [Json.lookupName, Named.lookup_label]
  leaf_of_toLayer := by
    rintro a _ ⟨⟩
    refine ⟨.text (Choice.label a), rfl, ?_⟩
    change Layers.coerceName (Choice.title α) Choice.table (.text (Choice.label a)) = _
    simp only [Layers.coerceName, Layers.Value.text, Named.lookup_label]

instance : Named Provider where
  lookup_label a := by cases a <;> rfl

instance : Named Variant where
  lookup_label a := by cases a <;> rfl

instance : Named Environment where
  lookup_label a := by cases a <;> rfl

instance : Named LogFormat where
  lookup_label a := by cases a <;> rfl

end Passcode.Settings
