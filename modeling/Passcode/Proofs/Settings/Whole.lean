import Passcode.Proofs.Settings.Place

/-!
# Whole numbers in layers

A layer holds integers of 64 bits. A setting that is a whole number may be narrower, and may have no
sign. A negative integer is refused where there is no sign, but one that is too large is not: it is
kept modulo the size of the type. So whole numbers arrive as they are in the settings that are 64
bits wide, and in the narrower ones only if they fit.

## Main definitions

* `Whole` — settings that are whole numbers of some width

## Main statements

* `integer_loads_modulo_width` — what is loaded where an integer is given
-/

namespace Passcode.Settings

open Layers (minInt maxInt given? entryValue)

/-- Settings of a type are whole numbers of some width, with or without sign, and are read from
integers of 64 bits: a negative one is refused if there is no sign, and what is too wide is cut
off. -/
class Whole (α : Type) [Setting α] where
  bits : Nat
  signed : Bool
  toInt : α → Int
  width : signed = true → bits = 64
  ofLayer_int : ∀ {origin : Option String} {n : Int} {a : α}, minInt ≤ n → n ≤ maxInt →
    (Setting.ofLayer (.leaf origin (.int n)) = .ok a ↔
      (signed = true ∨ 0 ≤ n) ∧ toInt a = if signed then n else n % twoTo bits)

/-- Reading an integer without sign keeps its lowest bits. -/
theorem ofLayer_nat_iff {α : Type} [Setting α] {toNat : α → Nat} {ofNat : Nat → α} (bits : Nat)
    (hofNat : ∀ n, toNat (ofNat n) = n % twoTo bits) (hinj : ∀ {a b}, toNat a = toNat b → a = b)
    (hofLayer : ∀ v, Setting.ofLayer v = (Layers.coerceNat v).map ofNat) {origin : Option String}
    {n : Int} {a : α} : Setting.ofLayer (.leaf origin (.int n)) = .ok a ↔
      0 ≤ n ∧ (toNat a : Int) = n % twoTo bits := by
  rw [hofLayer, Layers.coerceNat]
  by_cases hn : 0 ≤ n
  · obtain ⟨m, rfl⟩ := Int.eq_ofNat_of_zero_le hn
    rw [if_pos hn]
    rw [← Int.natCast_emod, ← hofNat, Int.ofNat_inj]
    constructor
    · intro h
      obtain rfl := Except.ok.inj h
      exact ⟨hn, rfl⟩
    · rintro ⟨-, h⟩
      rw [hinj h]
      rfl
  · rw [if_neg hn]
    exact iff_of_false (fun h => by cases h) fun h => hn h.1

/-- Numbers without sign, of which those from `ofNat` keep the lowest bits. -/
@[reducible] def Whole.unsigned {α : Type} [Setting α] {toNat : α → Nat} {ofNat : Nat → α}
    (bits : Nat) (hofNat : ∀ n, toNat (ofNat n) = n % twoTo bits)
    (hinj : ∀ {a b}, toNat a = toNat b → a = b)
    (hofLayer : ∀ v, Setting.ofLayer v = (Layers.coerceNat v).map ofNat) : Whole α where
  bits := bits
  signed := false
  toInt a := toNat a
  width := nofun
  ofLayer_int _ _ := by simpa using ofLayer_nat_iff bits hofNat hinj hofLayer

instance : Whole UInt16 :=
  .unsigned 16 (fun _ => UInt16.toNat_ofNat') UInt16.toNat_inj.1 fun _ => rfl

instance : Whole UInt32 :=
  .unsigned 32 (fun _ => UInt32.toNat_ofNat') UInt32.toNat_inj.1 fun _ => rfl

instance : Whole UInt64 :=
  .unsigned 64 (fun _ => UInt64.toNat_ofNat') UInt64.toNat_inj.1 fun _ => rfl

theorem Size.eq_of_toNat_eq {s t : Size} (h : s.toNat = t.toNat) : s = t := by
  obtain ⟨a⟩ := s
  obtain ⟨b⟩ := t
  exact congrArg Size.mk (UInt64.toNat_inj.1 h)

instance : Whole Size :=
  .unsigned 64 (fun _ => UInt64.toNat_ofNat') Size.eq_of_toNat_eq fun _ => rfl

instance : Whole Int64 where
  bits := 64
  signed := true
  toInt := Int64.toInt
  width _ := rfl
  ofLayer_int {origin n a} hlow hhigh := by
    have hmin : minInt = -2 ^ 63 := by decide
    have hmax : maxInt = 2 ^ 63 - 1 := by decide
    have hback : (Int64.ofInt n).toInt = n := Int64.toInt_ofInt_of_le (by omega) (by omega)
    have hread : (Setting.ofLayer (.leaf origin (.int n)) : Except Layers.Fault Int64)
        = .ok (Int64.ofInt n) := rfl
    rw [hread]
    constructor
    · intro h
      obtain rfl := Except.ok.inj h
      exact ⟨.inl rfl, hback⟩
    · rintro ⟨-, h⟩
      have h : a.toInt = n := h
      rw [← h, Int64.ofInt_toInt]

/-- **What is loaded where an integer is given.** A negative integer is not loaded where there is no
sign. What is loaded is the integer modulo the size of the type, so it is the integer itself if and
only if that fits. -/
theorem integer_loads_modulo_width {α : Type} [Setting α] [Whole α] (vars : Variables)
    (files : Files) (c : App) (hload : load vars files = .ok c) (path : List String)
    (secret : Bool) (get : App → α) (hleaf : (⟨path, secret, get⟩ : Leaf App) ∈ App.leaves)
    (n : Int) (hlow : minInt ≤ n) (hhigh : n ≤ maxInt) (h : Supplied vars files path (.int n)) :
    (Whole.signed α = true ∨ 0 ≤ n)
      ∧ Whole.toInt (get c) = (if Whole.signed α then n else n % twoTo (Whole.bits α))
      ∧ (Whole.toInt (get c) = n ↔ n < twoTo (Whole.bits α)) := by
  have hpassword : path = passwordPath → ∀ origin,
      Layers.coerceText (.leaf origin (.int n)) ≠ .ok "" := fun _ _ hempty =>
    Text.toString_int_ne_empty n (Except.ok.inj hempty)
  obtain ⟨origin, hread⟩ := ofLayer_of_supplied hload hleaf h hpassword
  obtain ⟨hsign, hloaded⟩ := (Whole.ofLayer_int hlow hhigh).1 hread
  refine ⟨hsign, hloaded, ?_⟩
  rw [hloaded]
  have hmax : maxInt = 2 ^ 63 - 1 := by decide
  cases hsigned : Whole.signed α with
  | true =>
    have hwidth : (twoTo 64 : Int) = 2 ^ 64 := by decide
    rw [Whole.width hsigned]
    exact iff_of_true rfl (by omega)
  | false =>
    have hn : 0 ≤ n := hsign.resolve_left (by simp [hsigned])
    have hsize : (0 : Int) < twoTo (Whole.bits α) := Int.natCast_pos.2 (twoTo_pos _)
    simp only [Bool.false_eq_true, if_false]
    constructor
    · intro hmod
      rw [← hmod]
      exact Int.emod_lt_of_pos n hsize
    · exact Int.emod_eq_of_lt hn

/-- Whether a value is a given integer. -/
def isInteger (n : Int) : Layers.Value → Bool
  | .leaf _ (.int m) => m == n
  | _ => false

theorem exists_of_isInteger {n : Int} {v : Layers.Value} (h : isInteger n v = true) :
    ∃ origin, v = .leaf origin (.int n) := by
  unfold isInteger at h
  split at h
  · next origin m => exact ⟨origin, by rw [eq_of_beq h]⟩
  · cases h

/-- A port in a configuration file arrives as it is, beside an address that is no number. -/
theorem port_of_file_arrives :
    let vars : Variables := [("APP__SERVER__HOST", some "localhost"), ("SERVER_PORT", some "9000")]
    let files : Files :=
      { config := [("development.toml", "[server]\nport = 8443\nworkers = 4\n")] }
    let path := ["server", "port"]
    ∃ c, load vars files = .ok c ∧ Supplied vars files path (.int 8443) ∧ minInt ≤ 8443
      ∧ 8443 ≤ maxInt ∧ (c.server.port.toNat : Int) = 8443 := by
  intro vars files path
  have hload : load vars files = .ok { vars.app with
      server := { host := "localhost", port := 8443, workers := 4 } } :=
    eq_ok_of_toOption (by decide +kernel)
  have hfile : (fileLayer files (allVariables vars files).environment).toOption.any (fun file =>
      decide (∀ entry ∈ file, (entryValue entry).fits path = true)
        && (given? file path).any (isInteger 8443)) = true := by decide +kernel
  have hsupplied : Supplied vars files path (.int 8443) := by
    obtain ⟨file, hfile, hgiven⟩ := (Option.any_eq_true _ _).1 hfile
    rw [Bool.and_eq_true, decide_eq_true_eq, Option.any_eq_true] at hgiven
    obtain ⟨hfits, v, hv, hint⟩ := hgiven
    obtain ⟨origin, rfl⟩ := exists_of_isInteger hint
    exact .file (eq_ok_of_toOption hfile) (by decide +kernel) hfits hv
  have hleaf : (⟨path, false, fun s => s.server.port⟩ : Leaf App) ∈ App.leaves :=
    List.mem_of_getElem? (i := 2) rfl
  have hlow : minInt ≤ 8443 := by decide
  have hhigh : 8443 ≤ maxInt := by decide
  obtain ⟨-, -, hexact⟩ :=
    integer_loads_modulo_width vars files _ hload path false _ hleaf 8443 hlow hhigh hsupplied
  exact ⟨_, hload, hsupplied, hlow, hhigh, hexact.2 (by decide)⟩

/-- A port that is one too large wraps around to the port zero, and nothing is refused. -/
theorem port_beyond_range_wraps :
    let vars : Variables := [("APP__SERVER__PORT", some "65536")]
    (⟨["server", "port"], false, fun s => s.server.port⟩ : Leaf App) ∈ App.leaves
      ∧ minInt ≤ 65536 ∧ 65536 ≤ maxInt ∧ Supplied vars {} ["server", "port"] (.int 65536)
      ∧ ∃ c, load vars {} = .ok c ∧ c.server.port = 0 := by
  intro vars
  have hload : load vars {} = .ok { vars.app with server := { port := 0 } } :=
    eq_ok_of_toOption (by decide +kernel)
  have hoverrides : Overrides vars ["server", "port"] (toString (65536 : Int)) :=
    ⟨by decide +kernel, by decide +kernel⟩
  exact ⟨List.mem_of_getElem? (i := 2) rfl, by decide, by decide,
    .of_toString (by decide) hoverrides, _, hload, rfl⟩

end Passcode.Settings
