import Passcode.Proofs.Flow.Run
import Passcode.Proofs.Store.Vault

/-!
# Vaults as ideal maps

The ideal store is a map from keys to the records that are live right now: nothing expired is in
it, so nothing has to be swept, and a record whose deadline comes is gone by itself. A vault that
is not failing cannot be told from it. What a vault still holds after its deadline, when it drops
it and how often it is swept shows in no answer.

## Main definitions

* `Ideal` — the live records, by key
* `Ideal.perform`, `Ideal.remaining?` — the answers of the ideal map
* `StoreCall.key` — the key that a call is about
* `StoreStep` — a call, a question for the time left, a purge, or a while in which time passes

## Main statements

* `Ideal.perform_congr`, `Ideal.perform_of_ne` — what is under a key is up to the calls about it
* `Vault.perform_ideal` — one call
* `Vault.remaining?_ideal` — the time left, computed without truncation
* `vault_refines_ideal` — every run from the empty vault
-/

namespace Passcode

open Function

/-- A store under a clock that counts milliseconds. -/
structure Clocked (σ : Type) where
  clock : Nat
  store : σ

/-! ## The ideal map -/

/-- The records that are live right now, by key. -/
abbrev Ideal := String → Option Record

namespace Ideal

/-- Whether the clock can name a time. -/
def nameable (time : Nat) : Bool := ((time / millisPerSecond : Nat) : Int) ≤ lastSecond

/-- The time that lies some seconds after `now`. -/
def after (now : Nat) (seconds : Int) : Nat := now + seconds.toNat * millisPerSecond

/-- The answer to a call, and the live records afterwards. -/
def perform (now : Nat) (m : Ideal) : (call : StoreCall) → call.Answer × Ideal
  | .set key value lifetime =>
    if lifetime ≤ 0 then (true, update m key (some ⟨value, none⟩))
    else if nameable (after now lifetime) then
      (true, update m key (some ⟨value, some (after now lifetime)⟩))
    else (false, m)
  | .get key => ((m key).map (·.value), m)
  | .contains key => ((m key).isSome, m)
  | .delete key => ((m key).isSome, update m key none)
  | .consume key expected =>
    if (m key).map (·.value) = some expected then (true, update m key none) else (false, m)

/-- The milliseconds until the deadline of a record, if it has one. -/
def remaining? (now : Nat) (m : Ideal) (key : String) : Option Int :=
  (m key).bind fun r => r.deadline.map fun d => (d : Int) - now

/-- The records that are still live at a later time. -/
def elapse (later : Nat) (m : Ideal) : Ideal := fun key => (m key).filter (·.isLive later)

end Ideal

/-! ## Runs of a store -/

/-- A step of a run of a store. -/
inductive StoreStep where
  | call (c : StoreCall)
  /-- Ask for the time a record still has. -/
  | remaining (key : String)
  | purge
  | advance (millis : Nat)

/-- What is learnt from a step: nothing from a purge or the passing of time. -/
def StoreStep.Answer : StoreStep → Type
  | .call c => c.Answer
  | .remaining _ => Option Int
  | .purge | .advance _ => Unit

/-- The steps of a store as questions. -/
abbrev StepInterface : Interface := ⟨StoreStep, StoreStep.Answer⟩

/-- A step of a vault. -/
def Vault.answer : Flow.Surroundings StepInterface (Clocked Vault)
  | .call c, s =>
    let r := s.store.perform s.clock c
    ⟨r.result, r.events, { s with store := r.state }⟩
  | .remaining key, s => ⟨(s.store.remaining? s.clock key).map Int.ofNat, [], s⟩
  | .purge, s => ⟨(), [], { s with store := s.store.purge s.clock }⟩
  | .advance millis, s => ⟨(), [], { s with clock := s.clock + millis }⟩

/-- A step of the ideal map: purging does nothing, and time takes what expires. -/
def Ideal.answer : Flow.Surroundings StepInterface (Clocked Ideal)
  | .call c, s =>
    let (answer, store) := s.store.perform s.clock c
    ⟨answer, [], { s with store }⟩
  | .remaining key, s => ⟨s.store.remaining? s.clock key, [], s⟩
  | .purge, s => ⟨(), [], s⟩
  | .advance millis, s => ⟨(), [], ⟨s.clock + millis, s.store.elapse (s.clock + millis)⟩⟩

/-- A deadline can be named exactly if its whole seconds can. -/
theorem Vault.deadline?_eq (now : Nat) (lifetime : Int) :
    deadline? now lifetime
      = if lifetime ≤ 0 then some none
        else if Ideal.nameable (Ideal.after now lifetime) then
          some (some (Ideal.after now lifetime))
        else none := by
  unfold deadline?
  by_cases hpos : lifetime ≤ 0
  · rw [if_pos hpos, if_pos hpos]
  · have hseconds : (Ideal.after now lifetime / millisPerSecond : Nat)
        = ((now / millisPerSecond : Nat) : Int) + lifetime := by
      rw [Ideal.after, Nat.add_mul_div_right _ _ (by decide)]
      omega
    rw [if_neg hpos, if_neg hpos]
    by_cases hlast : ((now / millisPerSecond : Nat) : Int) + lifetime > lastSecond
    · have hname : ¬Ideal.nameable (Ideal.after now lifetime) = true := by
        simp only [Ideal.nameable, hseconds, decide_eq_true_eq]
        omega
      rw [if_pos hlast, if_neg hname]
    · have hname : Ideal.nameable (Ideal.after now lifetime) = true := by
        simp only [Ideal.nameable, hseconds, decide_eq_true_eq]
        omega
      rw [if_neg hlast, if_pos hname]
      rfl

/-- A write to the ideal map, by the deadline that a vault would give the record. -/
theorem Ideal.perform_set (now : Nat) (m : Ideal) (key value : String)
    (lifetime : Int) :
    Ideal.perform now m (.set key value lifetime)
      = match Vault.deadline? now lifetime with
        | some d => (true, update m key (some ⟨value, d⟩))
        | none => (false, m) := by
  rw [Ideal.perform, Vault.deadline?_eq]
  split
  · rfl
  · split <;> rfl

/-! ## One key at a time -/

/-- The key that a call is about. -/
def StoreCall.key : StoreCall → String
  | .set key _ _ | .get key | .contains key | .delete key | .consume key _ => key

namespace Ideal

variable {m m' : Ideal} {call : StoreCall}

/-- The answer to a call, and what it leaves under its key, depend on what is under that key. -/
theorem perform_congr (h : m call.key = m' call.key) (now : Nat) :
    (m.perform now call).1 = (m'.perform now call).1
      ∧ (m.perform now call).2 call.key = (m'.perform now call).2 call.key := by
  cases call with
  | set key value lifetime =>
    rw [perform_set, perform_set]
    cases Vault.deadline? now lifetime with
    | none => exact ⟨rfl, h⟩
    | some d => exact ⟨rfl, by simp [StoreCall.key]⟩
  | get key => exact ⟨congrArg (·.map (·.value)) h, h⟩
  | contains key => exact ⟨congrArg (·.isSome) h, h⟩
  | delete key => exact ⟨congrArg (·.isSome) h, by simp [perform, StoreCall.key]⟩
  | consume key expected =>
    rw [StoreCall.key] at h
    simp only [perform, h]
    split
    · exact ⟨rfl, by simp [StoreCall.key]⟩
    · exact ⟨rfl, h⟩

/-- A call leaves what is under any other key. -/
theorem perform_of_ne {key : String} (h : key ≠ call.key) (now : Nat) (m : Ideal) :
    (m.perform now call).2 key = m key := by
  cases call with
  | set k value lifetime =>
    rw [perform_set]
    cases Vault.deadline? now lifetime with
    | none => rfl
    | some d => exact update_of_ne h _ _
  | get k => rfl
  | contains k => rfl
  | delete k => exact update_of_ne h _ _
  | consume k expected =>
    rw [perform]
    split
    · exact update_of_ne h _ _
    · rfl

end Ideal

namespace Vault

variable {v : Vault}

/-- What a call answers, what it leaves to be seen, and that it starts no outage. -/
structure Follows (v : Vault) (now : Nat) (call : StoreCall) : Prop where
  result : (v.perform now call).result = (Ideal.perform now (v.view now) call).1
  view : (v.perform now call).state.view now = (Ideal.perform now (v.view now) call).2
  outage : (v.perform now call).state.outage = false

/-- To follow the ideal map is to do what it would do. -/
theorem Follows.of_eq {now : Nat} {call : StoreCall} {answer : call.Answer} {m : Ideal}
    (hideal : Ideal.perform now (v.view now) call = (answer, m))
    (hresult : (v.perform now call).result = answer)
    (hview : (v.perform now call).state.view now = m)
    (houtage : (v.perform now call).state.outage = false) : v.Follows now call where
  result := by
    rw [hideal]
    exact hresult
  view := by
    rw [hideal]
    exact hview
  outage := houtage

theorem follows_set (h : v.outage = false) (now : Nat) (key value : String) (lifetime : Int) :
    v.Follows now (.set key value lifetime) := by
  have hideal := Ideal.perform_set now (v.view now) key value lifetime
  rcases set_cases v now key value lifetime with
    ⟨d, -, hd, hresult, hstate⟩ | ⟨hwhy, hresult, hstate⟩
  · rw [hd] at hideal
    refine .of_eq hideal hresult ?_ ((congrArg Vault.outage hstate).trans h)
    exact (congrArg (Vault.view · now) hstate).trans (view_insert (isLive_of_deadline? hd) v key)
  · rw [hwhy.resolve_left (by simp [h])] at hideal
    exact .of_eq hideal hresult (congrArg (Vault.view · now) hstate)
      ((congrArg Vault.outage hstate).trans h)

theorem follows_get (h : v.outage = false) (now : Nat) (key : String) :
    v.Follows now (.get key) := by
  have hget : v.get now key = ⟨(v.view now key).map (·.value), [], v.dropExpired key now⟩ := by
    rw [get, h]
    rfl
  refine ⟨congrArg Flow.Run.result hget, ?_, ?_⟩
  · exact (congrArg (fun r => r.state.view now) hget).trans (view_dropExpired v key now)
  · exact (congrArg (fun r => r.state.outage) hget).trans ((dropExpired_outage v key now).trans h)

theorem follows_contains (h : v.outage = false) (now : Nat) (key : String) :
    v.Follows now (.contains key) := by
  have hcontains : v.contains now key = ⟨(v.view now key).isSome, [], v⟩ := by
    rw [contains, h]
    rfl
  exact ⟨congrArg Flow.Run.result hcontains, congrArg (fun r => r.state.view now) hcontains,
    (congrArg (fun r => r.state.outage) hcontains).trans h⟩

theorem follows_delete (h : v.outage = false) (now : Nat) (key : String) :
    v.Follows now (.delete key) := by
  have hdelete : v.delete now key = ⟨(v.view now key).isSome, [], v.erase key⟩ := by
    rw [delete, h]
    rfl
  exact ⟨congrArg Flow.Run.result hdelete,
    (congrArg (fun r => r.state.view now) hdelete).trans (view_erase v key now),
    (congrArg (fun r => r.state.outage) hdelete).trans h⟩

theorem follows_consume (h : v.outage = false) (now : Nat) (key expected : String) :
    v.Follows now (.consume key expected) := by
  rcases consume_cases v now key expected with
    ⟨r, hr, rfl, hresult, hstate⟩ | ⟨hwhy, hresult, hstate⟩
  · have hideal : Ideal.perform now (v.view now) (.consume key r.value)
        = (true, update (v.view now) key none) := by
      rw [Ideal.perform, if_pos (by rw [view, hr]; rfl)]
      rfl
    exact .of_eq hideal hresult ((congrArg (Vault.view · now) hstate).trans (view_erase v key now))
      ((congrArg Vault.outage hstate).trans h)
  · have hne : ¬(v.view now key).map (·.value) = some expected := by
      intro hsome
      obtain ⟨r, hr, hvalue⟩ := Option.map_eq_some_iff.1 hsome
      exact hwhy.resolve_left (by simp [h]) r hr hvalue
    have hideal : Ideal.perform now (v.view now) (.consume key expected) = (false, v.view now) := by
      rw [Ideal.perform, if_neg hne]
      rfl
    have hview : (v.consume now key expected).state.view now = v.view now := by
      rcases hstate with hstate | hstate <;> rw [hstate]
      exact view_dropExpired v key now
    have houtage : (v.consume now key expected).state.outage = v.outage := by
      rcases hstate with hstate | hstate <;> rw [hstate]
      exact dropExpired_outage v key now
    exact .of_eq hideal hresult hview (houtage.trans h)

/-- **One call.** A vault that is not failing answers as the ideal map of its live records. -/
theorem perform_ideal (h : v.outage = false) (now : Nat) (call : StoreCall) :
    v.Follows now call :=
  match call with
  | .set key value lifetime => follows_set h now key value lifetime
  | .get key => follows_get h now key
  | .contains key => follows_contains h now key
  | .delete key => follows_delete h now key
  | .consume key expected => follows_consume h now key expected

/-- No call starts or ends an outage. -/
@[simp] theorem perform_outage (v : Vault) (now : Nat) (call : StoreCall) :
    (v.perform now call).state.outage = v.outage := by
  cases h : v.outage with
  | true => rw [perform_of_outage h, h]
  | false => exact (perform_ideal h now call).outage

/-- The time left is a difference of integers: a live record has its deadline still to come, so
nothing is truncated. -/
theorem remaining?_ideal (v : Vault) (now : Nat) (key : String) :
    (v.remaining? now key).map Int.ofNat = Ideal.remaining? now (v.view now) key := by
  have hremaining : v.remaining? now key
      = (v.view now key).bind fun r => r.deadline.map (· - now) := rfl
  rw [hremaining, Ideal.remaining?]
  cases hr : v.view now key with
  | none => rfl
  | some r =>
    obtain ⟨value, deadline⟩ := r
    cases deadline with
    | none => rfl
    | some d =>
      have hlive : now < d := by simpa [Record.isLive] using isLive_of_view hr
      exact congrArg some (Int.ofNat_sub (Nat.le_of_lt hlive))

/-- A vault and an ideal map that show the same records at the same time. -/
structure Mirrors (s : Clocked Vault) (t : Clocked Ideal) : Prop where
  clock : s.clock = t.clock
  view : s.store.view s.clock = t.store
  outage : s.store.outage = false

theorem Mirrors.step {s : Clocked Vault} {t : Clocked Ideal} (h : Mirrors s t) (q : StoreStep) :
    (Vault.answer q s).result = (Ideal.answer q t).result
      ∧ Mirrors (Vault.answer q s).state (Ideal.answer q t).state := by
  obtain ⟨clock, vault⟩ := s
  obtain ⟨clock', ideal⟩ := t
  obtain ⟨rfl, rfl, houtage⟩ := h
  cases q with
  | call c =>
    have hc := perform_ideal houtage clock c
    exact ⟨hc.result, rfl, hc.view, hc.outage⟩
  | remaining key => exact ⟨remaining?_ideal vault clock key, rfl, rfl, houtage⟩
  | purge => exact ⟨rfl, rfl, view_purge vault clock, houtage⟩
  | advance millis =>
    exact ⟨rfl, rfl, view_of_le (Nat.le_add_right clock millis) vault, houtage⟩

end Vault

/-- **Every run.** From the empty vault on, every answer is that of the ideal map, and what can be
seen of the vault afterwards is the ideal map. -/
theorem vault_refines_ideal (start : Nat) (steps : List StoreStep) :
    let real := (Flow.askAll steps).run Vault.answer ⟨start, {}⟩
    let ideal := (Flow.askAll steps).run Ideal.answer ⟨start, fun _ => none⟩
    real.result = ideal.result ∧ real.state.clock = ideal.state.clock
      ∧ real.state.store.view real.state.clock = ideal.state.store := by
  have hstart : Vault.Mirrors ⟨start, {}⟩ ⟨start, fun _ => none⟩ := ⟨rfl, rfl, rfl⟩
  obtain ⟨hresult, hend⟩ := Flow.run_askAll_simulates (I := StepInterface)
    (R := fun _ => Vault.Mirrors) (fun q _ _ _ h => h.step q) hstart
  exact ⟨hresult, hend.clock, hend.view⟩

end Passcode
