import Mathlib.Logic.Function.Basic
import Passcode.Store.Vault

/-!
# What the calls of a vault do to its records

Two readings of a vault, with one equation for each operation. `Vault.find?` sees every record
that is held, expired ones included; it is what a history of writes explains. `Vault.view` sees the
live records at a time; it is all that a caller can observe.

## Main definitions

* `Record.Over` — the deadline of a record is over
* `Vault.view` — the live records at a time, by key

## Main statements

* `Vault.set_cases`, `consume_cases` — what a write and a use come to
* `Vault.view_of_le` — as time passes, records go and none comes
* `Vault.view_erase`, `view_insert`, `view_dropExpired`, `view_purge` — what an operation does to
  the view
-/

namespace Passcode

open Function

variable {v : Vault} {now : Nat} {key k value : String} {lifetime : Int} {r : Record}

namespace Record

/-- A record that is live has been so before. -/
theorem isLive_of_le {later : Nat} (h : now ≤ later) (hr : r.isLive later = true) :
    r.isLive now = true := by
  obtain ⟨value, deadline⟩ := r
  cases deadline with
  | none => rfl
  | some d =>
    simp only [isLive, decide_eq_true_eq] at hr ⊢
    omega

/-- What is live later is what is live now and still so later. -/
theorem filter_isLive_of_le {later : Nat} (h : now ≤ later) (r? : Option Record) :
    (r?.filter (·.isLive now)).filter (·.isLive later) = r?.filter (·.isLive later) := by
  rw [Option.filter_filter]
  congr 1
  funext r
  cases hr : r.isLive later with
  | true => rw [isLive_of_le h hr]; rfl
  | false => rw [Bool.and_false]

/-- The deadline of a live record is still to come. -/
theorem lt_of_isLive {d : Nat} (h : r.isLive now = true) (hd : r.deadline = some d) : now < d := by
  simpa [isLive, hd] using h

/-- The deadline of a record is not after a time. -/
def Over (r : Record) (now : Nat) : Prop := ∃ d, r.deadline = some d ∧ d ≤ now

theorem Over.mono {later : Nat} (h : r.Over now) (hle : now ≤ later) : r.Over later := by
  obtain ⟨d, hd, hdle⟩ := h
  exact ⟨d, hd, Nat.le_trans hdle hle⟩

/-- A record has expired exactly if it has a deadline and that is over. -/
theorem over_iff : r.Over now ↔ r.isLive now = false := by
  obtain ⟨value, deadline⟩ := r
  cases deadline <;> simp [Over, isLive]

end Record

namespace Vault

/-! ## Records held -/

@[simp] theorem find?_insert (v : Vault) (key : String) (r : Record) :
    (v.insert key r).find? key = some r :=
  Keyed.find?_insert v.records key r

theorem find?_insert_of_ne (h : k ≠ key) (v : Vault) (r : Record) :
    (v.insert key r).find? k = v.find? k :=
  Keyed.find?_insert_of_ne h v.records r

@[simp] theorem find?_erase (v : Vault) (key : String) : (v.erase key).find? key = none :=
  Keyed.find?_erase v.records key

theorem find?_erase_of_ne (h : k ≠ key) (v : Vault) : (v.erase key).find? k = v.find? k :=
  Keyed.find?_erase_of_ne h v.records

theorem find?_purge (v : Vault) (now : Nat) (key : String) :
    (v.purge now).find? key = (v.find? key).filter (·.isLive now) :=
  Keyed.find?_keep _ v.records key

/-- A record that is found after a removal was there before. -/
theorem find?_of_erase (h : (v.erase key).find? k = some r) : k ≠ key ∧ v.find? k = some r := by
  by_cases hk : k = key
  · subst hk
    rw [find?_erase] at h
    exact absurd h (by simp)
  · rw [find?_erase_of_ne hk] at h
    exact ⟨hk, h⟩

theorem find?_of_purge (h : (v.purge now).find? key = some r) : v.find? key = some r := by
  rw [find?_purge, Option.filter_eq_some_iff] at h
  exact h.1

theorem dropExpired_cases (v : Vault) (key : String) (now : Nat) :
    v.dropExpired key now = v
      ∨ (∃ r, v.find? key = some r ∧ r.isLive now = false)
        ∧ v.dropExpired key now = v.erase key := by
  unfold dropExpired
  cases h : v.find? key with
  | none => exact .inl rfl
  | some r =>
    cases hr : r.isLive now with
    | true => exact .inl (by simp [hr])
    | false => exact .inr ⟨⟨r, rfl, hr⟩, by simp [hr]⟩

@[simp] theorem dropExpired_outage (v : Vault) (key : String) (now : Nat) :
    (v.dropExpired key now).outage = v.outage := by
  rcases dropExpired_cases v key now with hv | ⟨-, hv⟩ <;> rw [hv]
  rfl

theorem find?_of_dropExpired (h : (v.dropExpired key now).find? k = some r) :
    v.find? k = some r := by
  rcases dropExpired_cases v key now with hv | ⟨-, hv⟩ <;> rw [hv] at h
  · exact h
  · exact (find?_of_erase h).2

/-! ## Writing and using up -/

/-- A write keeps its record under its key, unless nothing can be reached or the clock cannot name
the deadline. -/
theorem set_cases (v : Vault) (now : Nat) (key value : String) (lifetime : Int) :
    (∃ d, v.outage = false ∧ deadline? now lifetime = some d
        ∧ (v.set now key value lifetime).result = true
        ∧ (v.set now key value lifetime).state = v.insert key ⟨value, d⟩)
      ∨ (v.outage = true ∨ deadline? now lifetime = none)
        ∧ (v.set now key value lifetime).result = false
        ∧ (v.set now key value lifetime).state = v := by
  unfold set
  cases hv : v.outage with
  | true => exact .inr ⟨.inl rfl, rfl, rfl⟩
  | false =>
    cases hd : deadline? now lifetime with
    | none => exact .inr ⟨.inr rfl, rfl, rfl⟩
    | some d => exact .inl ⟨d, rfl, rfl, rfl, rfl⟩

/-- A record is used up if it is live and holds the expected value, unless nothing can be reached;
otherwise at most an expired record goes. -/
theorem consume_cases (v : Vault) (now : Nat) (key expected : String) :
    (∃ r, v.live? key now = some r ∧ r.value = expected
        ∧ (v.consume now key expected).result = true
        ∧ (v.consume now key expected).state = v.erase key)
      ∨ (v.outage = true ∨ ∀ r, v.live? key now = some r → r.value ≠ expected)
        ∧ (v.consume now key expected).result = false
        ∧ ((v.consume now key expected).state = v
          ∨ (v.consume now key expected).state = v.dropExpired key now) := by
  unfold consume
  cases hv : v.outage with
  | true => exact .inr ⟨.inl rfl, rfl, .inl rfl⟩
  | false =>
    cases hr : v.find? key with
    | none => exact .inr ⟨.inr (by simp [live?, hr]), rfl, .inl rfl⟩
    | some r =>
      have hlive : v.live? key now = if r.isLive now then some r else none := by
        rw [live?, hr]
        rfl
      cases hl : r.isLive now with
      | false =>
        exact .inr ⟨.inr (by simp [hlive, hl]), by simp [hl], .inr (by simp [dropExpired, hr, hl])⟩
      | true =>
        by_cases he : r.value = expected
        · exact .inl ⟨r, by simp [hlive, hl], he, by simp [hl, he], by simp [hl, he]⟩
        · exact .inr ⟨.inr (by simp [hlive, hl, he]), by simp [hl, he], .inl (by simp [hl, he])⟩

theorem get_cases (v : Vault) (now : Nat) (key : String) :
    (v.get now key).state = v ∨ (v.get now key).state = v.dropExpired key now := by
  unfold get
  cases v.outage with
  | true => exact .inl rfl
  | false => exact .inr rfl

@[simp] theorem contains_state (v : Vault) (now : Nat) (key : String) :
    (v.contains now key).state = v := by
  unfold contains
  cases v.outage <;> rfl

/-- During an outage no call changes anything. -/
theorem perform_of_outage (h : v.outage = true) (now : Nat) (call : StoreCall) :
    (v.perform now call).state = v := by
  cases call <;> simp [perform, set, get, contains, delete, consume, h]

/-- During an outage no answer tells anything about the records. -/
theorem result_of_outage {w : Vault} (hv : v.outage = true) (hw : w.outage = true)
    (now later : Nat) (call : StoreCall) :
    (v.perform now call).result = (w.perform later call).result := by
  cases call <;> simp only [perform, set, get, contains, delete, consume, hv, hw] <;> rfl

/-! ## Records that can be observed -/

/-- The live records at a time, by key. -/
def view (v : Vault) (now : Nat) (key : String) : Option Record := v.live? key now

theorem view_eq_filter (v : Vault) (now : Nat) (key : String) :
    v.view now key = (v.find? key).filter (·.isLive now) := rfl

theorem isLive_of_view (h : v.view now key = some r) : r.isLive now = true := by
  rw [view_eq_filter, Option.filter_eq_some_iff] at h
  exact h.2

/-- As time passes, records go and none comes. -/
theorem view_of_le {later : Nat} (h : now ≤ later) (v : Vault) :
    v.view later = fun key => (v.view now key).filter (·.isLive later) := by
  funext key
  rw [view_eq_filter, view_eq_filter, Record.filter_isLive_of_le h]

theorem view_insert (hr : r.isLive now = true) (v : Vault) (key : String) :
    (v.insert key r).view now = update (v.view now) key (some r) := by
  funext k
  by_cases hk : k = key
  · subst hk
    rw [view_eq_filter, find?_insert, update_self, Option.filter_some, if_pos hr]
  · rw [view_eq_filter, find?_insert_of_ne hk, update_of_ne hk, view_eq_filter]

theorem view_erase (v : Vault) (key : String) (now : Nat) :
    (v.erase key).view now = update (v.view now) key none := by
  funext k
  by_cases hk : k = key
  · subst hk
    rw [view_eq_filter, find?_erase, update_self]
    rfl
  · rw [view_eq_filter, find?_erase_of_ne hk, update_of_ne hk, view_eq_filter]

/-- An expired record is not missed. -/
@[simp] theorem view_dropExpired (v : Vault) (key : String) (now : Nat) :
    (v.dropExpired key now).view now = v.view now := by
  rcases dropExpired_cases v key now with hv | ⟨⟨r, hr, hl⟩, hv⟩ <;> rw [hv]
  have hnone : v.view now key = none := by
    rw [view_eq_filter, hr, Option.filter_some, hl]
    rfl
  rw [view_erase, ← hnone, update_eq_self]

@[simp] theorem view_purge (v : Vault) (now : Nat) : (v.purge now).view now = v.view now := by
  funext key
  rw [view_eq_filter, find?_purge, Option.filter_filter, view_eq_filter]
  simp only [Bool.and_self]

/-- The deadline of a record that expires. -/
theorem eq_of_deadline? {d : Option Nat} (hpos : 0 < lifetime)
    (h : deadline? now lifetime = some d) : d = some (now + lifetime.toNat * millisPerSecond) := by
  unfold deadline? at h
  rw [if_neg (by omega)] at h
  split at h
  · exact absurd h (by simp)
  · exact (Option.some.inj h).symm

/-- A record with a lifetime of zero or less does not expire. -/
theorem eq_none_of_deadline? {d : Option Nat} (hle : lifetime ≤ 0)
    (h : deadline? now lifetime = some d) : d = none := by
  rw [deadline?, if_pos hle] at h
  exact (Option.some.inj h).symm

/-- A record is live when it is written. -/
theorem isLive_of_deadline? {d : Option Nat} (h : deadline? now lifetime = some d) :
    (⟨value, d⟩ : Record).isLive now = true := by
  by_cases hpos : 0 < lifetime
  · have hmillis : 0 < lifetime.toNat * millisPerSecond := Nat.mul_pos (by omega) (by decide)
    rw [eq_of_deadline? hpos h]
    simp only [Record.isLive, decide_eq_true_eq]
    omega
  · rw [eq_none_of_deadline? (by omega) h]
    rfl

end Vault

end Passcode
