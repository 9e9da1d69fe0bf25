import Passcode.Proofs.Service.Traffic
import Passcode.Proofs.Store.Ideal

/-!
# What a turn does under a key

One key at a time, every answered question does one of four things to the record under it: the
record is written, used up, spared, or dropped because it has expired. Whatever is said about the
history of a key is said case by case from here, without looking into the vault again.

## Main definitions

* `Effect` — the four things that a turn can do under a key

## Main statements

* `Turn.settled?_cases` — a turn that has settled a key wrote or used up what is under it
* `Site.effect` — the effect of every answer
-/

namespace Passcode

variable {key : String} {t : Turn ServiceInterface Site} {site : Site}

/-- A turn that has settled a key wrote or used up what is under it. -/
theorem Turn.settled?_cases (h : t.settled? = some key) :
    (∃ value lifetime, t.Wrote key value lifetime) ∨ ∃ value, t.UsedUp key value := by
  obtain ⟨i, site, q, a⟩ := t
  cases q with
  | set k value lifetime =>
    rcases a with (_ | _) | _
    · exact absurd h nofun
    · obtain rfl : k = key := Option.some.inj h
      exact .inl ⟨value, lifetime, rfl⟩
    · exact absurd h nofun
  | consume k value =>
    cases a with
    | false => exact absurd h nofun
    | true =>
      obtain rfl : k = key := Option.some.inj h
      exact .inr ⟨value, rfl⟩
  | get k => exact absurd h nofun
  | contains k => exact absurd h nofun
  | send m => exact absurd h nofun

/-- What a turn can do to the record under a key: it leaves `site`. -/
inductive Effect (key : String) (t : Turn ServiceInterface Site) (site : Site) : Prop
  | wrote (value : String) (lifetime : Int) (h : t.Wrote key value lifetime)
  | usedUp (r : Record) (live : t.state.vault.live? key t.state.clock = some r)
      (h : t.UsedUp key r.value) (gone : site.vault.find? key = none)
  | spared (h : t.settled? ≠ some key) (same : site.vault.find? key = t.state.vault.find? key)
  /-- A record that has expired may go unnoticed. -/
  | dropped (h : t.settled? ≠ some key) (gone : site.vault.find? key = none)
      (expired : t.state.vault.live? key t.state.clock = none)

/-- Dropping an expired record settles nothing. -/
theorem Effect.of_dropExpired {other : String} (h : t.settled? ≠ some key)
    (hsite : site.vault = t.state.vault.dropExpired other t.state.clock) :
    Effect key t site := by
  rcases Vault.dropExpired_cases t.state.vault other t.state.clock with
    hsame | ⟨⟨r, hr, hexpired⟩, herased⟩
  · exact .spared h (by rw [hsite, hsame])
  · by_cases hk : key = other
    · subst hk
      refine .dropped h (by rw [hsite, herased, Vault.find?_erase]) ?_
      rw [Vault.live?, hr, Option.filter_some, hexpired]
      rfl
    · exact .spared h (by rw [hsite, herased, Vault.find?_erase_of_ne hk])

namespace Site

@[simp] theorem answer_clock (fate : Attempt Delivery) (q : ServiceCall) (site : Site) :
    (Site.answer fate q site).state.clock = site.clock := by
  cases q with
  | send m => exact post_clock m fate site
  | _ => rfl

@[simp] theorem call_outage (c : StoreCall) (site : Site) :
    (site.call c).state.vault.outage = site.vault.outage :=
  Vault.perform_outage site.vault site.clock c

/-- No answer starts or ends an outage. -/
@[simp] theorem answer_outage (fate : Attempt Delivery) (q : ServiceCall) (site : Site) :
    (Site.answer fate q site).state.vault.outage = site.vault.outage := by
  cases q with
  | send m => exact congrArg Vault.outage (post_vault m fate site)
  | set key value lifetime => exact call_outage (.set key value lifetime) site
  | get key => exact call_outage (.get key) site
  | contains key => exact call_outage (.contains key) site
  | consume key expected => exact call_outage (.consume key expected) site

/-- **The effect of every answer** on what is under a key. -/
theorem effect (fate : Attempt Delivery) (q : ServiceCall) (site : Site) (i : Nat) (key : String) :
    Effect key ⟨i, site, ⟨q, (Site.answer fate q site).result⟩⟩
      (Site.answer fate q site).state := by
  cases q with
  | set k value lifetime =>
    rcases Vault.set_cases site.vault site.clock k value lifetime with
      ⟨d, -, -, hresult, hstate⟩ | ⟨-, hresult, hstate⟩
    · have hanswer : (Site.answer fate (.set k value lifetime) site).result = .done true :=
        congrArg Attempt.done hresult
      rw [hanswer]
      by_cases hk : key = k
      · subst hk
        exact .wrote value lifetime rfl
      · refine .spared (fun h => hk (Option.some.inj h).symm) ?_
        exact (congrArg (Vault.find? · key) hstate).trans (Vault.find?_insert_of_ne hk _ _)
    · have hanswer : (Site.answer fate (.set k value lifetime) site).result = .done false :=
        congrArg Attempt.done hresult
      rw [hanswer]
      exact .spared nofun (congrArg (Vault.find? · key) hstate)
  | get k =>
    rcases Vault.get_cases site.vault site.clock k with hstate | hstate
    · exact .spared nofun (congrArg (Vault.find? · key) hstate)
    · exact .of_dropExpired nofun hstate
  | contains k =>
    exact .spared nofun
      (congrArg (Vault.find? · key) (Vault.contains_state site.vault site.clock k))
  | consume k expected =>
    rcases Vault.consume_cases site.vault site.clock k expected with
      ⟨r, hr, hvalue, hresult, hstate⟩ | ⟨-, hresult, hstate⟩
    · have hanswer : (Site.answer fate (.consume k expected) site).result = true := hresult
      rw [hanswer]
      by_cases hk : key = k
      · subst hk
        subst hvalue
        exact .usedUp r hr rfl ((congrArg (Vault.find? · key) hstate).trans (Vault.find?_erase _ _))
      · refine .spared (fun h => hk (Option.some.inj h).symm) ?_
        exact (congrArg (Vault.find? · key) hstate).trans (Vault.find?_erase_of_ne hk _)
    · have hanswer : (Site.answer fate (.consume k expected) site).result = false := hresult
      rw [hanswer]
      rcases hstate with hstate | hstate
      · exact .spared nofun (congrArg (Vault.find? · key) hstate)
      · exact .of_dropExpired nofun hstate
  | send m => exact .spared nofun (congrArg (Vault.find? · key) (post_vault m fate site))

end Site

end Passcode
