import Passcode.Proofs.Redis.Store

/-!
# The two stores are interchangeable

A vault and a Redis server that does not fail answer every call alike, whatever was called before
and however much time has passed. Both show the same records at every time: the vault those that
are live, the server the keys that are present.

The clocks must be able to name every deadline. They are, if lifetimes keep to the maximum of the
settings and the clock stays below `clockLimit`.

## Main definitions

* `Visit` — a call, or a while in which time passes
* `visits` — the visits to a store under a clock

## Main statements

* `Alike.visit` — stores that show the same records do so after every visit, and answer it alike
* `stores_interchangeable` — every run from empty stores
-/

namespace Passcode

variable {σ : Type}

/-- What happens to a store: it is called, or time passes. -/
inductive Visit where
  | call (c : StoreCall)
  | advance (millis : Nat)

namespace Visit

/-- What is learnt from a visit. -/
def Answer : Visit → Type
  | .call c => c.Answer
  | .advance _ => Unit

/-- The lifetime that a visit asks for, zero if it writes nothing. -/
def lifetime : Visit → Int
  | .call (.set _ _ lifetime) => lifetime
  | _ => 0

/-- The milliseconds that pass. -/
def millis : Visit → Nat
  | .call _ => 0
  | .advance millis => millis

/-- The milliseconds that pass in the course of some visits. -/
def duration : List Visit → Nat
  | [] => 0
  | v :: rest => v.millis + duration rest

end Visit

/-- Visits as questions. -/
abbrev VisitInterface : Interface := ⟨Visit, Visit.Answer⟩

/-- The visits to a store under a clock, given how it answers calls. -/
def visits (call : Flow.Surroundings StoreInterface (Clocked σ)) :
    Flow.Surroundings VisitInterface (Clocked σ)
  | .call c, s => call c s
  | .advance millis, s => ⟨(), [], { s with clock := s.clock + millis }⟩

/-- The vault as a store. -/
def Vault.respond : Flow.Surroundings StoreInterface (Clocked Vault) := fun c s =>
  let r := s.store.perform s.clock c
  ⟨r.result, r.events, { s with store := r.state }⟩

/-- A server that does not fail, behind a client, as a store. -/
def Redis.Client.respond (client : Client) :
    Flow.Surroundings StoreInterface (Clocked Redis.Server) :=
  fun c => (storeFlow client c).run Server.answer

/-- Two to the thirty-second seconds, in milliseconds. -/
def clockLimit : Nat := twoTo 32 * millisPerSecond

/-- Below the limit the clock can name every deadline that the settings allow. -/
theorem Vault.deadline?_ne_none {now : Nat} {lifetime : Int} (hnow : now < clockLimit)
    (hlifetime : lifetime ≤ Settings.maxLifetime.toInt) :
    Vault.deadline? now lifetime ≠ none := by
  have hseconds : now / millisPerSecond < twoTo 32 :=
    Nat.div_lt_of_lt_mul (by rwa [Nat.mul_comm])
  have hmax : Settings.maxLifetime.toInt = 2592000 := rfl
  have hlast : lastSecond = 9223372036854775807 := by decide
  have htwo : twoTo 32 = 4294967296 := by decide
  rw [Vault.deadline?]
  split
  · simp
  · rw [if_neg (by omega)]
    simp

/-- A server and a vault that show the same records, with visits to come that keep to the limits. -/
structure Alike (steps : List Visit) (s : Clocked Redis.Server) (t : Clocked Vault) : Prop where
  clock : s.clock = t.clock
  view : s.store.present? s.clock = t.store.view t.clock
  works : t.store.outage = false
  lifetimes : ∀ v ∈ steps, v.lifetime ≤ Settings.maxLifetime.toInt
  inTime : s.clock + Visit.duration steps < clockLimit

/-- A call, of which the next visit consists. -/
theorem Alike.call {client : Redis.Client} {c : StoreCall} {steps : List Visit}
    {s : Clocked Redis.Server} {t : Clocked Vault} (h : Alike (.call c :: steps) s t) :
    (client.respond c s).result = (Vault.respond c t).result
      ∧ Alike steps (client.respond c s).state (Vault.respond c t).state := by
  obtain ⟨clock, vault⟩ := t
  obtain ⟨rfl, hview, hworks, hlifetimes, hinTime⟩ := h
  have hnow : s.clock < clockLimit := by omega
  have hwritable : Redis.Server.Writable s.clock c := by
    cases c with
    | set key value lifetime =>
      exact Vault.deadline?_ne_none hnow (hlifetimes _ List.mem_cons_self)
    | _ => trivial
  obtain ⟨server, hredis, hpresent⟩ := Redis.Server.storeFlow_ideal client s hwritable
  have hvault := Vault.perform_ideal hworks s.clock c
  have hstate : (client.respond c s).state = ⟨s.clock, server⟩ := hredis.state
  -- Both follow the ideal map, and that of the same records.
  rw [hview] at hredis hpresent
  constructor
  · exact hredis.result.trans hvault.result.symm
  · rw [hstate]
    exact {
      clock := rfl
      view := hpresent.trans hvault.view.symm
      works := hvault.outage
      lifetimes := fun v hv => hlifetimes v (List.mem_cons_of_mem _ hv)
      inTime := by simpa [Visit.duration, Visit.millis] using hinTime }

/-- **One visit.** -/
theorem Alike.visit {client : Redis.Client} {v : Visit} {steps : List Visit}
    {s : Clocked Redis.Server} {t : Clocked Vault} (h : Alike (v :: steps) s t) :
    (visits client.respond v s).result = (visits Vault.respond v t).result
      ∧ Alike steps (visits client.respond v s).state (visits Vault.respond v t).state := by
  cases v with
  | call c => exact h.call
  | advance millis =>
    obtain ⟨clock, server⟩ := s
    obtain ⟨clock', vault⟩ := t
    obtain ⟨rfl, hview, hworks, hlifetimes, hinTime⟩ := h
    refine ⟨rfl, rfl, ?_, hworks, fun v hv => hlifetimes v (List.mem_cons_of_mem _ hv), ?_⟩
    · have hlater : clock ≤ clock + millis := Nat.le_add_right _ _
      exact (Redis.Server.present?_of_le hlater server).trans
        (hview ▸ (Vault.view_of_le hlater vault).symm)
    · simp only [Visit.duration, Visit.millis] at hinTime
      simp only [visits]
      omega

/-- **The two stores are interchangeable.** Whatever the client is set up like, and whether or not
the server has seen the script before, every call in every run from empty stores is answered alike,
and at the end both show the same records. -/
theorem stores_interchangeable (client : Redis.Client) (knowsScript : Bool) {start : Nat}
    {steps : List Visit} (hlifetimes : ∀ v ∈ steps, v.lifetime ≤ Settings.maxLifetime.toInt)
    (hclock : start + Visit.duration steps < clockLimit) :
    let redis := (Flow.askAll steps).run (visits client.respond) ⟨start, { knowsScript }⟩
    let memory := (Flow.askAll steps).run (visits Vault.respond) ⟨start, {}⟩
    redis.result = memory.result
      ∧ redis.state.store.present? redis.state.clock
        = memory.state.store.view memory.state.clock := by
  have hstart : Alike steps ⟨start, { knowsScript }⟩ ⟨start, {}⟩ :=
    ⟨rfl, rfl, rfl, hlifetimes, hclock⟩
  obtain ⟨hresult, hend⟩ := Flow.run_askAll_simulates (I := VisitInterface)
    (R := Alike) (f := visits client.respond) (g := visits Vault.respond)
    (fun _ _ _ _ h => h.visit) hstart
  exact ⟨hresult, hend.view⟩

/-- A record that is read at its last moment, expires, and is written again for good. -/
theorem stores_agree_on_an_expiry :
    let client : Redis.Client := ⟨3, 100⟩
    let steps : List Visit := [.call (.set "k" "1" 600), .advance 599999, .call (.get "k"),
      .advance 1, .call (.consume "k" "1"), .call (.set "k" "" (-1)), .advance 600000,
      .call (.consume "k" ""), .call (.delete "k")]
    (∀ v ∈ steps, v.lifetime ≤ Settings.maxLifetime.toInt)
      ∧ 0 + Visit.duration steps < clockLimit
      ∧ ((Flow.askAll steps).run (visits client.respond) ⟨0, {}⟩).result
        = [⟨.call (.set "k" "1" 600), true⟩, ⟨.advance 599999, ()⟩, ⟨.call (.get "k"), some "1"⟩,
          ⟨.advance 1, ()⟩, ⟨.call (.consume "k" "1"), false⟩, ⟨.call (.set "k" "" (-1)), true⟩,
          ⟨.advance 600000, ()⟩, ⟨.call (.consume "k" ""), true⟩,
          ⟨.call (.delete "k"), false⟩] := by
  intro client steps
  have hlifetimes : ∀ v ∈ steps, v.lifetime ≤ Settings.maxLifetime.toInt := by decide
  have hclock : 0 + Visit.duration steps < clockLimit := by decide
  exact ⟨hlifetimes, hclock, (stores_interchangeable client false hlifetimes hclock).1⟩

end Passcode
