import Passcode.Proofs.Flow.Schedule
import Passcode.Proofs.Store.Section

/-!
# Lazy purging at any interleaving

A request reads the clock before it takes the lock, and time passes, so what it drops it drops by a
time that is over. That is why no live record gets lost: what had expired then has expired now. A
reader that found an expired record and comes back to drop it looks again, so a record that was
written in between stays.

## Main definitions

* `Flow.GoesBy` — a flow goes by no time but those that it has read
* `InTime` — no request in progress is ahead of the clock
* `VaultRequest.Asks` — the steps by which a request changes records
* `Settles`, `Purges` — the steps that take a record away on purpose, and those that do so because
  it has expired

## Main statements

* `VaultRequest.goesBy_steps`, `asksOnly_steps` — the two facts about the steps of a request
* `Vault.taken_by`, `taken_by_move` — a record is taken away for one of these reasons only
* `purges_spare_live_records` — every schedule of any number of requests
-/

namespace Passcode

/-- The time that a step goes by. -/
def Access.stamp : Access → Nat
  | .drop _ now | .use _ _ now | .retain now => now
  | _ => 0

/-- The time that is learnt from a step. -/
def Access.reading : (q : Access) → q.Answer → Nat
  | .clock, now => now
  | _, _ => 0

namespace Flow

variable {α β : Type}

/-- The steps of a flow go by times up to `h`, or up to a time that the flow has read. -/
def GoesBy : Nat → Flow AccessInterface α → Prop
  | _, done _ => True
  | h, log _ next => next.GoesBy h
  | h, ask q next => q.stamp ≤ h ∧ ∀ a, (next a).GoesBy (max h (q.reading a))

theorem GoesBy.map {h : Nat} {m : Flow AccessInterface α} (hm : m.GoesBy h) (f : α → β) :
    (m.map f).GoesBy h := by
  induction m generalizing h with
  | done a => exact trivial
  | log e next ih => exact ih hm
  | ask q next ih => exact ⟨hm.1, fun a => ih a (hm.2 a)⟩

/-- What goes by times up to `h` goes by times up to a later one. -/
theorem GoesBy.mono {h k : Nat} {m : Flow AccessInterface α} (hm : m.GoesBy h) (hle : h ≤ k) :
    m.GoesBy k := by
  induction m generalizing h k with
  | done a => exact trivial
  | log e next ih => exact ih hm hle
  | ask q next ih =>
    exact ⟨Nat.le_trans hm.1 hle, fun a => ih a (hm.2 a) (by omega)⟩

end Flow

section

variable {α : Type} {h : Nat}

theorem goesBy_unlessOutage {refused m : Flow AccessInterface α} (hrefused : refused.GoesBy h)
    (hm : m.GoesBy h) : (unlessOutage refused m).GoesBy h := by
  refine ⟨Nat.zero_le h, fun a => ?_⟩
  cases a with
  | false => exact hm.mono (Nat.le_max_left h _)
  | true => exact hrefused.mono (Nat.le_max_left h _)

/-- Once the clock has been read, what is left may go by that time. -/
theorem goesBy_clock {next : Nat → Flow AccessInterface α} (hnext : ∀ now, (next now).GoesBy now) :
    (Flow.ask Access.clock next : Flow AccessInterface α).GoesBy h :=
  ⟨Nat.zero_le h, fun now => (hnext now).mono (Nat.le_max_right h now)⟩

/-- A last step that goes by a time. -/
theorem goesBy_last {q : Access} (hq : q.stamp ≤ h) (f : q.Answer → α) :
    (Flow.ask q fun a => .done (f a) : Flow AccessInterface α).GoesBy h :=
  ⟨hq, fun _ => trivial⟩

end

theorem StoreCall.goesBy_steps (c : StoreCall) : c.steps.GoesBy 0 := by
  cases c with
  | set key value lifetime =>
    refine goesBy_unlessOutage trivial ?_
    split
    · exact goesBy_last (Nat.zero_le 0) _
    · refine goesBy_clock fun now => ?_
      split
      · exact trivial
      · exact goesBy_last (Nat.zero_le now) _
  | get key =>
    refine goesBy_unlessOutage trivial <| goesBy_clock fun now => ⟨Nat.zero_le now, fun r? => ?_⟩
    cases r? with
    | none => exact trivial
    | some r =>
      cases hlive : r.isLive now with
      | true => simp [hlive, Flow.GoesBy]
      | false =>
        simp only [hlive]
        exact goesBy_last (Nat.le_max_left now _) _
  | contains key =>
    exact goesBy_unlessOutage trivial <| goesBy_clock fun now => goesBy_last (Nat.zero_le now) _
  | delete key =>
    exact goesBy_unlessOutage trivial <| goesBy_clock fun now => goesBy_last (Nat.zero_le now) _
  | consume key expected =>
    exact goesBy_unlessOutage trivial <| goesBy_clock fun now => goesBy_last (Nat.le_refl now) _

/-- **A request goes by no time but those that it has read.** -/
theorem VaultRequest.goesBy_steps (r : VaultRequest) : r.steps.GoesBy 0 := by
  cases r with
  | call c => exact c.goesBy_steps
  | remaining key => exact goesBy_clock fun now => goesBy_last (Nat.zero_le now) _
  | size => exact goesBy_last (Nat.zero_le 0) _
  | purge => exact goesBy_clock fun now => goesBy_last (Nat.le_refl now) _

/-! ## What takes a record away -/

/-- A step that changes no record. -/
def Access.isLook : Access → Bool
  | .outage | .clock | .look _ | .count => true
  | _ => false

/-- The steps of a request: looks, and those by which it changes records. -/
inductive VaultRequest.Asks : VaultRequest → Access → Prop
  | look (r) {q : Access} (h : q.isLook = true) : Asks r q
  | set (key value lifetime) (r : Record) : Asks (.call (.set key value lifetime)) (.keep key r)
  | get (key now) : Asks (.call (.get key)) (.drop key now)
  | delete (key) : Asks (.call (.delete key)) (.remove key)
  | consume (key expected now) : Asks (.call (.consume key expected)) (.use key expected now)
  | purge (now) : Asks .purge (.retain now)

/-- A write under a key, a removal or a successful use of what is under it. -/
inductive Settles (key : String) : VaultRequest → Exchange AccessInterface → Prop
  | set (value lifetime) (r : Record) :
    Settles key (.call (.set key value lifetime)) ⟨.keep key r, ()⟩
  | delete (r? : Option Record) : Settles key (.call (.delete key)) ⟨.remove key, r?⟩
  | consume (expected now) :
    Settles key (.call (.consume key expected)) ⟨.use key expected now, true⟩

/-- A step that may drop what has expired under a key: of a request to read it, of one to use it up
that did not succeed, or of a purge. -/
inductive Purges (key : String) : VaultRequest → Exchange AccessInterface → Prop
  | get (now) : Purges key (.call (.get key)) ⟨.drop key now, ()⟩
  | consume (expected now) :
    Purges key (.call (.consume key expected)) ⟨.use key expected now, false⟩
  | purge (now) (n : Nat) : Purges key .purge ⟨.retain now, n⟩

theorem asksOnly_unlessOutage {α : Type} {p : Access → Prop} {refused m : Flow AccessInterface α}
    (houtage : p .outage) (hrefused : refused.AsksOnly p) (hm : m.AsksOnly p) :
    (unlessOutage refused m).AsksOnly p :=
  ⟨houtage, fun | true => hrefused | false => hm⟩

theorem StoreCall.asksOnly_steps (c : StoreCall) :
    c.steps.AsksOnly (VaultRequest.call c).Asks := by
  cases c with
  | set key value lifetime =>
    refine asksOnly_unlessOutage (.look _ rfl) trivial ?_
    split
    · exact ⟨.set key value lifetime _, fun _ => trivial⟩
    · refine ⟨.look _ rfl, fun (now : Nat) => ?_⟩
      cases hd : Vault.deadline? now lifetime <;> simp only [hd]
      · exact trivial
      · exact ⟨.set key value lifetime _, fun _ => trivial⟩
  | get key =>
    refine asksOnly_unlessOutage (.look _ rfl) trivial
      ⟨.look _ rfl, fun (now : Nat) => ⟨.look _ rfl, fun r? => ?_⟩⟩
    cases r? with
    | none => exact trivial
    | some r =>
      cases hlive : r.isLive now <;> simp only [hlive]
      · exact ⟨.get key now, fun _ => trivial⟩
      · exact trivial
  | contains key =>
    exact asksOnly_unlessOutage (.look _ rfl) trivial
      ⟨.look _ rfl, fun _ => ⟨.look _ rfl, fun _ => trivial⟩⟩
  | delete key =>
    exact asksOnly_unlessOutage (.look _ rfl) trivial
      ⟨.look _ rfl, fun _ => ⟨.delete key, fun _ => trivial⟩⟩
  | consume key expected =>
    exact asksOnly_unlessOutage (.look _ rfl) trivial
      ⟨.look _ rfl, fun now => ⟨.consume key expected now, fun _ => trivial⟩⟩

/-- A request changes records by its own steps only. -/
theorem VaultRequest.asksOnly_steps (r : VaultRequest) : r.steps.AsksOnly r.Asks := by
  cases r with
  | call c => exact c.asksOnly_steps
  | remaining key => exact ⟨.look _ rfl, fun _ => ⟨.look _ rfl, fun _ => trivial⟩⟩
  | size => exact ⟨.look _ rfl, fun _ => trivial⟩
  | purge => exact ⟨.look _ rfl, fun now => ⟨.purge now, fun _ => trivial⟩⟩

namespace Vault

variable {s : Clocked Vault} {v : Vault} {key k : String} {r : Record} {now : Nat}

/-- A record that a drop takes away was under its key, and has expired. -/
theorem taken_of_dropExpired (hbefore : v.find? key = some r)
    (hafter : (v.dropExpired k now).find? key ≠ some r) : k = key ∧ r.isLive now = false := by
  rcases dropExpired_cases v k now with hv | ⟨⟨r', hr', hexpired⟩, hv⟩ <;> rw [hv] at hafter
  · exact absurd hbefore hafter
  · by_cases hk : key = k
    · subst hk
      obtain rfl : r' = r := Option.some.inj (hr'.symm.trans hbefore)
      exact ⟨rfl, hexpired⟩
    · rw [find?_erase_of_ne hk] at hafter
      exact absurd hbefore hafter

theorem taken_of_erase (hbefore : v.find? key = some r)
    (hafter : (v.erase k).find? key ≠ some r) : k = key := by
  by_contra hk
  rw [find?_erase_of_ne (Ne.symm hk)] at hafter
  exact hafter hbefore

theorem taken_of_purge (hbefore : v.find? key = some r)
    (hafter : (v.purge now).find? key ≠ some r) : r.isLive now = false := by
  rw [find?_purge, hbefore] at hafter
  by_contra hlive
  rw [Bool.not_eq_false] at hlive
  exact hafter (by rw [Option.filter_some, if_pos hlive])

theorem access_of_isLook {q : Access} (h : q.isLook = true) (s : Clocked Vault) :
    (Vault.access q s).state = s := by
  cases q with
  | outage | clock | look | count => rfl
  | keep | drop | remove | use | retain => cases h

/-- **One step takes a record away** on purpose, or because it has expired at the time the step
goes by. -/
theorem taken_by {request : VaultRequest} {q : Access} (hq : request.Asks q)
    (hbefore : s.store.find? key = some r)
    (hafter : (Vault.access q s).state.store.find? key ≠ some r) :
    Settles key request ⟨q, (Vault.access q s).result⟩
      ∨ Purges key request ⟨q, (Vault.access q s).result⟩ ∧ r.isLive q.stamp = false := by
  cases hq with
  | look _ hlook =>
    rw [access_of_isLook hlook] at hafter
    exact absurd hbefore hafter
  | set k value lifetime r' =>
    by_cases hk : key = k
    · subst hk
      exact .inl (.set value lifetime r')
    · exact absurd hbefore (by rwa [← find?_insert_of_ne hk])
  | get k now =>
    obtain ⟨rfl, hexpired⟩ := taken_of_dropExpired hbefore hafter
    exact .inr ⟨.get now, hexpired⟩
  | delete k =>
    obtain rfl := taken_of_erase hbefore hafter
    exact .inl (.delete _)
  | consume k expected now =>
    cases hused : s.store.holds k expected now with
    | true =>
      simp only [Vault.access, use, hused, if_pos] at hafter ⊢
      obtain rfl := taken_of_erase hbefore hafter
      exact .inl (.consume expected now)
    | false =>
      simp only [Vault.access, use, hused] at hafter ⊢
      obtain ⟨rfl, hexpired⟩ := taken_of_dropExpired hbefore hafter
      exact .inr ⟨.consume expected now, hexpired⟩
  | purge now => exact .inr ⟨.purge now _, taken_of_purge hbefore hafter⟩

/-- No step moves the clock. -/
@[simp] theorem access_clock (q : Access) (s : Clocked Vault) :
    (Vault.access q s).state.clock = s.clock := by
  cases q <;> rfl

end Vault

/-! ## Every schedule -/

/-- Requests to a vault in progress. -/
abbrev VaultPool :=
  Pool AccessInterface VaultRequest ((r : VaultRequest) × r.Answer) (Clocked Vault)

/-- An answered step of a request to a vault. -/
abbrev VaultTurn := Turn AccessInterface (Clocked Vault)

/-- A move of a schedule of requests to a vault. -/
abbrev VaultMove := Move VaultRequest Unit VaultChange

/-- No request in progress is ahead of the clock. -/
def InTime (p : VaultPool) : Prop := ∀ c ∈ p.calls, c.2.GoesBy p.state.clock

theorem clock_le_after (s : Clocked Vault) (e : VaultChange) : s.clock ≤ (s.after e).clock := by
  cases e with
  | advance millis => exact Nat.le_add_right s.clock millis
  | outage on => exact Nat.le_refl s.clock

/-- The clock shows what is learnt from a step about the time. -/
theorem Vault.reading_access_le (q : Access) (s : Clocked Vault) :
    q.reading (Vault.access q s).result ≤ s.clock := by
  cases q with
  | clock => exact Nat.le_refl s.clock
  | outage | look | count | keep | drop | remove | use | retain => exact Nat.zero_le s.clock

theorem InTime.step {p : VaultPool} (h : InTime p) (m : VaultMove) :
    InTime (Vault.arena.step p m) := by
  refine Vault.arena.step_induction h (fun request => ?start) (fun e => ?change)
    (fun i request e next hi => ?log) (fun i request q next _ hi => ?ask) m
  case start =>
    intro c hc
    rcases List.mem_append.1 hc with hc | hc
    · exact h c hc
    · rw [List.mem_singleton.1 hc]
      exact (request.goesBy_steps.map _).mono (Nat.zero_le _)
  case change => exact fun c hc => (h c hc).mono (clock_le_after p.state e)
  case log =>
    intro c hc
    rcases List.mem_or_eq_of_mem_set hc with hc | rfl
    · exact h c hc
    · exact (h (request, .log e next) (List.mem_of_getElem? hi) :)
  case ask =>
    have hask : (Flow.ask q next).GoesBy p.state.clock := h _ (List.mem_of_getElem? hi)
    intro c hc
    show c.2.GoesBy (Vault.access q p.state).state.clock
    rw [Vault.access_clock]
    rcases List.mem_or_eq_of_mem_set hc with hc | rfl
    · exact h c hc
    · exact (hask.2 _).mono (Nat.max_le.2 ⟨Nat.le_refl _, Vault.reading_access_le q p.state⟩)

/-- The turn `t` settles the key on behalf of its caller. -/
def VaultPool.SettledBy (p : VaultPool) (key : String) (t : VaultTurn) : Prop :=
  ∃ request, p.call? t.caller = some request ∧ Settles key request t.exchange

/-- The turn `t` purges the key on behalf of its caller. -/
def VaultPool.PurgedBy (p : VaultPool) (key : String) (t : VaultTurn) : Prop :=
  ∃ request, p.call? t.caller = some request ∧ Purges key request t.exchange

/-- **What a move takes away**, it takes by an answered step: on purpose, or because the deadline of
the record is over. -/
theorem taken_by_move {p : VaultPool} (htraced : Vault.arena.Traced p) (hinTime : InTime p)
    {key : String} {r : Record} (hbefore : p.state.store.find? key = some r) (m : VaultMove) :
    (Vault.arena.step p m).state.store.find? key ≠ some r →
      ∃ t, (Vault.arena.step p m).turns = p.turns ++ [t]
        ∧ (p.SettledBy key t ∨ p.PurgedBy key t ∧ r.Over p.state.clock) := by
  refine Vault.arena.step_induction
    (P := fun after => after.state.store.find? key ≠ some r →
      ∃ t, after.turns = p.turns ++ [t]
        ∧ (p.SettledBy key t ∨ p.PurgedBy key t ∧ r.Over p.state.clock))
    (absurd hbefore) (fun _ => absurd hbefore) (fun e hafter => ?change)
    (fun _ _ _ _ _ => absurd hbefore) (fun i request q next chance hi hafter => ?ask) m
  case change => cases e <;> exact absurd hbefore hafter
  case ask =>
    have hasks : (Flow.ask q next).AsksOnly request.Asks :=
      (htraced.leads i request _ hi).asksOnly_rest (Flow.asksOnly_map request.asksOnly_steps)
    have hask : (Flow.ask q next).GoesBy p.state.clock :=
      hinTime _ (List.mem_of_getElem? hi)
    have hcall : p.call? i = some request := by simp [Pool.call?, hi]
    refine ⟨_, rfl, ?_⟩
    rcases Vault.taken_by hasks.1 hbefore hafter with hsettles | ⟨hpurges, hexpired⟩
    · exact .inl ⟨request, hcall, hsettles⟩
    · exact .inr ⟨⟨request, hcall, hpurges⟩,
        (Record.over_iff.2 hexpired).mono hask.1⟩

/-! ## What was written stays -/

/-- A record that was written at turn `n` is there, or the key was settled later, or its deadline is
over. -/
def VaultPool.Keeps (p : VaultPool) (n : Nat) (key : String) (r : Record) : Prop :=
  p.state.store.find? key = some r
    ∨ (∃ m t, n < m ∧ p.turns[m]? = some t ∧ p.SettledBy key t)
    ∨ r.Over p.state.clock

theorem clock_le_step (p : VaultPool) (m : VaultMove) :
    p.state.clock ≤ (Vault.arena.step p m).state.clock :=
  Vault.arena.step_induction (P := fun after => p.state.clock ≤ after.state.clock) (Nat.le_refl _)
    (fun _ => Nat.le_refl _) (clock_le_after p.state) (fun _ _ _ _ _ => Nat.le_refl _)
    (fun _ _ q _ _ _ => Nat.le_of_eq (Vault.access_clock q p.state).symm) m

theorem VaultPool.SettledBy.step {p : VaultPool} {key : String} {t : VaultTurn}
    (h : p.SettledBy key t) (m : VaultMove) :
    VaultPool.SettledBy (Vault.arena.step p m) key t := by
  obtain ⟨request, hcall, hsettles⟩ := h
  exact ⟨request, Arena.call?_step hcall m, hsettles⟩

theorem VaultPool.Keeps.step {p : VaultPool} (htraced : Vault.arena.Traced p) (hinTime : InTime p)
    {n : Nat} {t : VaultTurn} (hn : p.turns[n]? = some t) {key : String} {r : Record}
    (h : p.Keeps n key r) (m : VaultMove) :
    VaultPool.Keeps (Vault.arena.step p m) n key r := by
  rcases h with hfound | ⟨k, u, hk, hu, hsettled⟩ | hover
  · by_cases hafter : (Vault.arena.step p m).state.store.find? key = some r
    · exact .inl hafter
    · obtain ⟨u, hturns, hsettled | ⟨-, hover⟩⟩ := taken_by_move htraced hinTime hfound m hafter
      · have hlt : n < p.turns.length := (List.getElem?_eq_some_iff.1 hn).1
        refine .inr (.inl ⟨p.turns.length, u, hlt, ?_, hsettled.step m⟩)
        rw [hturns, List.getElem?_concat_length]
      · exact .inr (.inr (hover.mono (clock_le_step p m)))
  · exact .inr (.inl ⟨k, u, hk, Arena.getElem?_turns_step hu m, hsettled.step m⟩)
  · exact .inr (.inr (hover.mono (clock_le_step p m)))

/-- What a whole schedule keeps. -/
structure Sparing (p : VaultPool) : Prop where
  traced : Vault.arena.Traced p
  inTime : InTime p
  keeps : ∀ n (t : VaultTurn) key r, p.turns[n]? = some t → t.exchange = ⟨.keep key r, ()⟩ →
    p.Keeps n key r

theorem Sparing.step {p : VaultPool} (h : Sparing p) (m : VaultMove) :
    Sparing (Vault.arena.step p m) where
  traced := h.traced.step m
  inTime := h.inTime.step m
  keeps := by
    intro n t key r hn hwrote
    rcases Arena.turn_cases hn with hn | ⟨chance, hstate⟩
    · exact (h.keeps n t key r hn hwrote).step h.traced h.inTime hn m
    · refine .inl ?_
      rw [hstate, hwrote]
      exact Vault.find?_insert p.state.store key r

/-- **Purging spares live records**, at any interleaving of any number of requests. Undisturbed, the
steps of a request come to what the vault does at once. Whatever move takes a record away settles
its key, or purges it when the deadline of the record is not after the current time. So a record
that was written stays until its key is settled again or its deadline is over. -/
theorem purges_spare_live_records (s : Clocked Vault) (moves : List VaultMove) :
    let p : VaultPool := Vault.arena.run { state := s } moves
    (∀ request site, request.steps.run Vault.access site = Vault.act (.request request) site)
      ∧ (∀ m key r, p.state.store.find? key = some r →
          (Vault.arena.step p m).state.store.find? key ≠ some r →
          ∃ t, (Vault.arena.step p m).turns = p.turns ++ [t]
            ∧ (p.SettledBy key t ∨ p.PurgedBy key t ∧ r.Over p.state.clock))
      ∧ ∀ n (t : VaultTurn) key r, p.turns[n]? = some t → t.exchange = ⟨.keep key r, ()⟩ →
          p.state.store.find? key = some r
            ∨ (∃ (m : Nat) (u : VaultTurn), n < m ∧ p.turns[m]? = some u ∧ p.SettledBy key u)
            ∨ r.Over p.state.clock := by
  intro p
  have h : Sparing p :=
    Vault.arena.run_induction (fun _ m h => h.step m)
      ⟨Arena.traced_run s [], by simp [InTime], by simp⟩ moves
  exact ⟨VaultRequest.run_steps, fun m key r hbefore => taken_by_move h.traced h.inTime hbefore m,
    h.keeps⟩

/-- A reader finds an expired record. Before it comes back to drop it, another one is written under
the same key, with a deadline that was computed before the reader looked. The new one stays. -/
example :
    let old : Record := ⟨"1", some 5⟩
    let start : Clocked Vault := { clock := 5, store := Vault.insert {} "k" old }
    let reader : VaultRequest := .call (.get "k")
    let writer : VaultRequest := .call (.set "k" "2" 1)
    let moves : List VaultMove := [.start writer, .start reader]
      ++ [0, 0].map (.proceed · ()) ++ [.change (.advance 400)]
      ++ [1, 1, 1, 0, 1].map (.proceed · ())
    (Vault.arena.run { state := start } moves).state.store.find? "k" = some ⟨"2", some 1005⟩ := by
  decide

end Passcode
