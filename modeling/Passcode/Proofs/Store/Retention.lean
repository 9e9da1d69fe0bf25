import Passcode.Program.World
import Passcode.Proofs.Flow.Run
import Passcode.Proofs.Store.Request
import Passcode.Proofs.Store.Vault

/-!
# How long a vault keeps what has expired

A sweeper purges its vault at every multiple of its interval. A tick may run late, but the ticks run
in order, and each goes by the time at which it runs. So once the ticks that are due have run, all
deadlines of the records held are after the last of them, and an expired record is held for less
than the interval.

A tick that finds nothing changes nothing and logs nothing, so a vault that is swept only when that
finds something comes to the same.

## Main definitions

* `Sweeper.tick` — the ticks of a sweeper
* `Sweeper.act`, `tend` — a vault with its sweeper, step by step and over a run
* `Sweeper.CaughtUp` — all ticks that are due have run
* `Sweeper.Waits` — time passes and ticks run

## Main statements

* `Sweeper.Tends.step`, `Tends.tend` — no record has a deadline by the last tick that has run
* `Sweeper.act_sweep` — what one sweep spares, and what it logs
* `Sweeper.waits_sweepUntil`, `waits_elapse` — leaving out the ticks that find nothing
* `sweeper_bounds_retention` — a store that is opened with a sweeper
-/

namespace Passcode

/-! ## Ticks -/

namespace Sweeper

variable {w : Sweeper} {n time : Nat}

/-- The tick with a number, counted from the start, which is number zero and no tick itself. -/
def tick (w : Sweeper) (n : Nat) : Nat := w.start + n * w.interval

@[simp] theorem tick_zero (w : Sweeper) : w.tick 0 = w.start := by simp [tick]

theorem tick_succ (w : Sweeper) (n : Nat) : w.tick (n + 1) = w.tick n + w.interval := by
  simp only [tick, Nat.add_mul, Nat.one_mul, Nat.add_assoc]

theorem tick_le_tick {k : Nat} (h : n ≤ k) : w.tick n ≤ w.tick k :=
  Nat.add_le_add_left (Nat.mul_le_mul_right w.interval h) w.start

theorem tickFrom_eq_tick (w : Sweeper) (time : Nat) :
    w.tickFrom time = w.tick (max 1 ((time - w.start + w.interval - 1) / w.interval)) := rfl

/-- The first tick from a time on is not before it. -/
theorem le_tickFrom (hpos : 0 < w.interval) (time : Nat) : time ≤ w.tickFrom time := by
  have hup : time - w.start
      ≤ (time - w.start + w.interval - 1) / w.interval * w.interval := by
    have := Nat.lt_div_mul_add (a := time - w.start + w.interval - 1) hpos
    omega
  have hmax := Nat.mul_le_mul_right w.interval
    (Nat.le_max_right 1 ((time - w.start + w.interval - 1) / w.interval))
  rw [tickFrom]
  omega

/-- No tick from a time on is before the first one. -/
theorem tickFrom_le_tick (hpos : 0 < w.interval) (h : time ≤ w.tick (n + 1)) :
    w.tickFrom time ≤ w.tick (n + 1) := by
  refine tick_le_tick (Nat.max_le.2 ⟨Nat.le_add_left 1 n, ?_⟩)
  refine Nat.le_of_lt_succ (Nat.div_lt_of_lt_mul ?_)
  rw [tick] at h
  rw [Nat.mul_succ, Nat.mul_comm w.interval]
  omega

/-- After a tick the next one is the first. -/
theorem tick_succ_le_tickFrom (hpos : 0 < w.interval) (h : w.tick n < time) :
    w.tick (n + 1) ≤ w.tickFrom time := by
  have htime := le_tickFrom hpos time
  rw [tickFrom_eq_tick] at htime ⊢
  refine tick_le_tick ?_
  by_contra hlt
  exact absurd (tick_le_tick (w := w) (by omega)) (Nat.not_le.2 (Nat.lt_of_lt_of_le h htime))

end Sweeper

/-! ## What a sweep does -/

namespace Vault

/-- The records that have expired at a time. -/
def expired (v : Vault) (now : Nat) : List Record := v.records.values.filter fun r => !r.isLive now

/-- A purge removes the expired records. -/
theorem length_expired_add_size_purge (v : Vault) (now : Nat) :
    (v.expired now).length + (v.purge now).size = v.size := by
  have hparts := List.length_eq_countP_add_countP (fun e => e.2.isLive now) (l := v.records.entries)
  simp only [List.countP_eq_length_filter] at hparts
  simp only [expired, Keyed.values, List.filter_map, List.length_map, purge, Keyed.keep, size,
    Keyed.size, hparts]
  simp [Function.comp_def, Nat.add_comm]

theorem purgeCount_eq (v : Vault) (now : Nat) : v.purgeCount now = (v.expired now).length := by
  have := v.length_expired_add_size_purge now
  rw [purgeCount]
  omega

theorem isLive_of_expired_eq_nil {v : Vault} {now : Nat} (h : v.expired now = []) :
    ∀ r ∈ v.records.values, r.isLive now = true := by
  intro r hr
  simpa using List.filter_eq_nil_iff.1 h r hr

/-- Nothing is dropped while nothing has expired. -/
theorem purge_eq_self {v : Vault} {now : Nat} (h : v.expired now = []) : v.purge now = v := by
  have hsame : v.records.entries.filter (fun e => e.2.isLive now) = v.records.entries :=
    List.filter_eq_self.2 fun e he => isLive_of_expired_eq_nil h e.2 (List.mem_map_of_mem he)
  obtain ⟨⟨entries, distinct⟩, outage⟩ := v
  simp only [purge, Keyed.keep, hsame]

/-! ## The next sweep that finds something -/

variable {v : Vault} {w : Sweeper} {n now : Nat}

theorem nextSweep?_singleton (v : Vault) (w : Sweeper) (now : Nat) :
    v.nextSweep? [w] now = (v.deadlines.map fun d => w.tickFrom (max (now + 1) d)).min? := by
  rw [nextSweep?, List.flatMap_singleton]

theorem mem_deadlines {d : Nat} :
    d ∈ v.deadlines ↔ ∃ r ∈ v.records.values, r.deadline = some d := by
  simp [deadlines]

/-- No sweep is before the next tick. -/
theorem tick_le_of_nextSweep? (hpos : 0 < w.interval) (hlast : w.tick n ≤ now) {sweep : Nat}
    (h : v.nextSweep? [w] now = some sweep) : w.tick (n + 1) ≤ sweep := by
  rw [nextSweep?_singleton, List.min?_eq_some_iff] at h
  obtain ⟨d, -, rfl⟩ := List.mem_map.1 h.1
  exact w.tick_succ_le_tickFrom hpos (by omega)

/-- If something has expired by the next tick, that tick is the next sweep. -/
theorem nextSweep?_of_expired (hpos : 0 < w.interval) (hlast : w.tick n ≤ now)
    (hnext : now < w.tick (n + 1)) (h : v.expired (w.tick (n + 1)) ≠ []) :
    v.nextSweep? [w] now = some (w.tick (n + 1)) := by
  obtain ⟨r, hr⟩ := List.exists_mem_of_ne_nil _ h
  obtain ⟨hmem, hexpired⟩ := List.mem_filter.1 hr
  obtain ⟨d, hd, hle⟩ := Record.over_iff.2 (by simpa using hexpired)
  have htick : w.tickFrom (max (now + 1) d) = w.tick (n + 1) :=
    Nat.le_antisymm (w.tickFrom_le_tick hpos (by omega)) (w.tick_succ_le_tickFrom hpos (by omega))
  rw [nextSweep?_singleton, List.min?_eq_some_iff]
  refine ⟨List.mem_map.2 ⟨d, mem_deadlines.2 ⟨r, hmem, hd⟩, htick⟩, fun b hb => ?_⟩
  obtain ⟨d', -, rfl⟩ := List.mem_map.1 hb
  exact w.tick_succ_le_tickFrom hpos (by omega)

/-- If nothing has expired by the next tick, the sweeps from now on are those from there on. -/
theorem nextSweep?_of_none_expired (hnext : now < w.tick (n + 1))
    (h : v.expired (w.tick (n + 1)) = []) :
    v.nextSweep? [w] now = v.nextSweep? [w] (w.tick (n + 1)) := by
  rw [nextSweep?_singleton, nextSweep?_singleton]
  congr 1
  refine List.map_congr_left fun d hd => ?_
  obtain ⟨r, hr, hdeadline⟩ := mem_deadlines.1 hd
  have hlater : w.tick (n + 1) < d :=
    Record.lt_of_isLive (isLive_of_expired_eq_nil h r hr) hdeadline
  rw [Nat.max_eq_right (by omega), Nat.max_eq_right (by omega)]

variable {limit fuel : Nat}

/-- Before the next tick nothing is swept. -/
theorem sweepUntil_of_lt_tick (hpos : 0 < w.interval) (hlast : w.tick n ≤ now)
    (hlimit : limit < w.tick (n + 1)) : v.sweepUntil [w] limit fuel now = ⟨(), [], v⟩ := by
  cases fuel with
  | zero => rfl
  | succ fuel =>
    rw [sweepUntil]
    cases hsweep : v.nextSweep? [w] now with
    | none => rfl
    | some sweep =>
      have hlater := tick_le_of_nextSweep? hpos hlast hsweep
      exact if_pos (Nat.lt_of_lt_of_le hlimit hlater)

/-- If nothing has expired by the next tick, it is left out. -/
theorem sweepUntil_of_none_expired (hnext : now < w.tick (n + 1))
    (h : v.expired (w.tick (n + 1)) = []) :
    v.sweepUntil [w] limit fuel now = v.sweepUntil [w] limit fuel (w.tick (n + 1)) := by
  cases fuel with
  | zero => rfl
  | succ fuel => rw [sweepUntil, sweepUntil, nextSweep?_of_none_expired hnext h]

/-- If something has expired by the next tick, that tick purges. -/
theorem sweepUntil_of_expired (hpos : 0 < w.interval) (hlast : w.tick n ≤ now)
    (hnext : now < w.tick (n + 1)) (hlimit : w.tick (n + 1) ≤ limit)
    (h : v.expired (w.tick (n + 1)) ≠ []) :
    let rest := (v.purge (w.tick (n + 1))).sweepUntil [w] limit fuel (w.tick (n + 1))
    v.sweepUntil [w] limit (fuel + 1) now
      = ⟨(), .purged (v.purgeCount (w.tick (n + 1))) :: rest.events, rest.state⟩ := by
  rw [sweepUntil, nextSweep?_of_expired hpos hlast hnext h]
  exact if_neg (Nat.not_lt.2 hlimit)

end Vault

/-! ## A vault with its sweeper -/

/-- A vault under its clock, and how many ticks of its sweeper have run. -/
structure Tended where
  site : Clocked Vault
  ran : Nat := 0

/-- A step of a run of a vault with a sweeper. -/
inductive TendedStep where
  | step (q : VaultStep)
  /-- Run the next tick, if it is due. -/
  | sweep
deriving Repr, DecidableEq

/-- What is learnt from a step. -/
def TendedStep.Answer : TendedStep → Type
  | .step q => q.Answer
  | .sweep => Unit

/-- The steps of a vault with a sweeper as questions. -/
abbrev TendedInterface : Interface := ⟨TendedStep, TendedStep.Answer⟩

namespace Sweeper

/-- A step of a vault with a sweeper. A tick may run late, but the ticks run in order. -/
def act (w : Sweeper) : Flow.Surroundings TendedInterface Tended
  | .step q, s =>
    let a := Vault.act q s.site
    ⟨a.result, a.events, { s with site := a.state }⟩
  | .sweep, s =>
    if w.tick (s.ran + 1) ≤ s.site.clock then
      let n := s.site.store.purgeCount s.site.clock
      ⟨(), if n = 0 then [] else [.purged n],
        ⟨{ s.site with store := s.site.store.purge s.site.clock }, s.ran + 1⟩⟩
    else ⟨(), [], s⟩

/-- A vault that gets its sweeper, after a run of steps. -/
def tend (w : Sweeper) (site : Clocked Vault) (steps : List TendedStep) : Tended :=
  ((Flow.askAll steps).run w.act ⟨site, 0⟩).state

/-- All ticks that are due have run. -/
def CaughtUp (w : Sweeper) (s : Tended) : Prop := s.site.clock < w.tick (s.ran + 1)

/-- Only ticks that were due have run, and no record has a deadline by the last of them. -/
structure Tends (w : Sweeper) (s : Tended) : Prop where
  due : w.tick s.ran ≤ s.site.clock
  kept : ∀ key r d, s.site.store.find? key = some r → r.deadline = some d → w.tick s.ran < d

variable {w : Sweeper} {s : Tended}

theorem Tends.step (h : w.Tends s) (q : TendedStep) : w.Tends (w.act q s).state := by
  cases q with
  | step q =>
    cases q with
    | request request =>
      refine ⟨h.due, fun key r d hr hd => ?_⟩
      rcases Vault.find?_of_serve hr with hr | hlive
      · exact h.kept key r d hr hd
      · exact Nat.lt_of_le_of_lt h.due (Record.lt_of_isLive hlive hd)
    | change e =>
      cases e with
      | advance millis => exact ⟨Nat.le_add_right_of_le h.due, h.kept⟩
      | outage on => exact ⟨h.due, h.kept⟩
  | sweep =>
    rw [act]
    split
    · next hdue =>
      refine ⟨hdue, fun key r d hr hd => ?_⟩
      rw [Vault.find?_purge, Option.filter_eq_some_iff] at hr
      exact Nat.lt_of_le_of_lt hdue (Record.lt_of_isLive hr.2 hd)
    · exact h

/-- **What every run keeps.** -/
theorem Tends.tend {site : Clocked Vault} (h : w.Tends ⟨site, 0⟩) (steps : List TendedStep) :
    w.Tends (w.tend site steps) :=
  Flow.run_keeps w.Tends (Flow.asksOnly_of_forall (fun _ => trivial) _)
    (fun q _ _ h => h.step q) h

/-- No record outlives its deadline by the interval. -/
theorem Tends.lt_add_interval (h : w.Tends s) (hcaught : w.CaughtUp s) {key : String} {r : Record}
    {d : Nat} (hr : s.site.store.find? key = some r) (hd : r.deadline = some d) :
    s.site.clock < d + w.interval := by
  have hlast := h.kept key r d hr hd
  rw [CaughtUp, tick_succ] at hcaught
  omega

/-- **One sweep** spares what is live, and logs how many records it removed if it removed any. -/
theorem act_sweep (w : Sweeper) (s : Tended) :
    let swept := w.act .sweep s
    (∀ key r, s.site.store.find? key = some r → r.isLive s.site.clock = true →
        swept.state.site.store.find? key = some r)
      ∧ ∃ removed, swept.state.site.store.size + removed = s.site.store.size
        ∧ swept.events = if removed = 0 then [] else [.purged removed] := by
  intro swept
  by_cases hdue : w.tick (s.ran + 1) ≤ s.site.clock
  · simp only [swept, act, if_pos hdue]
    refine ⟨fun key r hr hlive => ?_, _, ?_, rfl⟩
    · rw [Vault.find?_purge, hr, Option.filter_some, if_pos hlive]
    · rw [Vault.purgeCount_eq, Nat.add_comm, Vault.length_expired_add_size_purge]
  · simp only [swept, act, if_neg hdue]
    exact ⟨fun _ _ hr _ => hr, 0, rfl, rfl⟩

end Sweeper

/-! ## Ticks that find nothing may be left out -/

/-- Time passes, or a tick runs. -/
def TendedStep.isWait : TendedStep → Bool
  | .sweep | .step (.change (.advance _)) => true
  | _ => false

namespace Sweeper

variable {w : Sweeper}

/-- From `s` on, time passes and ticks run until `s'`, which logs `events`. -/
def Waits (w : Sweeper) (s : Tended) (events : List Event) (s' : Tended) : Prop :=
  ∃ waits : List TendedStep, (∀ q ∈ waits, q.isWait = true)
    ∧ ((Flow.askAll waits).run w.act s).events = events
    ∧ ((Flow.askAll waits).run w.act s).state = s'

theorem Waits.refl (w : Sweeper) (s : Tended) : w.Waits s [] s := ⟨[], by simp, rfl, rfl⟩

theorem Waits.cons {s t s' : Tended} {logged events : List Event} {q : TendedStep} {a : q.Answer}
    (hq : q.isWait = true) (hact : w.act q s = ⟨a, logged, t⟩) (h : w.Waits t events s') :
    w.Waits s (logged ++ events) s' := by
  obtain ⟨waits, hwaits, rfl, rfl⟩ := h
  refine ⟨q :: waits, ?_, ?_, ?_⟩
  · simpa [hq] using hwaits
  · rw [Flow.run_askAll_cons, hact]
  · rw [Flow.run_askAll_cons, hact]

variable {v : Vault} {now limit ran : Nat} {events : List Event} {s' : Tended}

theorem Waits.advance {later : Nat} (hle : now ≤ later)
    (h : w.Waits ⟨⟨later, v⟩, ran⟩ events s') : w.Waits ⟨⟨now, v⟩, ran⟩ events s' := by
  have hact : w.act (.step (.change (.advance (later - now)))) ⟨⟨now, v⟩, ran⟩
      = ⟨(), [], ⟨⟨later, v⟩, ran⟩⟩ := by
    simp only [act, Vault.act, Clocked.after, Nat.add_sub_cancel' hle]
  exact .cons rfl hact h

/-- A tick that runs on time and finds nothing. -/
theorem Waits.idle (hnone : v.expired (w.tick (ran + 1)) = [])
    (h : w.Waits ⟨⟨w.tick (ran + 1), v⟩, ran + 1⟩ events s') :
    w.Waits ⟨⟨w.tick (ran + 1), v⟩, ran⟩ events s' := by
  have hact : w.act .sweep ⟨⟨w.tick (ran + 1), v⟩, ran⟩
      = ⟨(), [], ⟨⟨w.tick (ran + 1), v⟩, ran + 1⟩⟩ := by
    simp only [act, Nat.le_refl, if_true, Vault.purgeCount_eq, hnone, Vault.purge_eq_self hnone,
      List.length_nil]
  exact .cons rfl hact h

/-- A tick that runs on time and finds something. -/
theorem Waits.sweep (hsome : v.purgeCount (w.tick (ran + 1)) ≠ 0)
    (h : w.Waits ⟨⟨w.tick (ran + 1), v.purge (w.tick (ran + 1))⟩, ran + 1⟩ events s') :
    w.Waits ⟨⟨w.tick (ran + 1), v⟩, ran⟩
      (.purged (v.purgeCount (w.tick (ran + 1))) :: events) s' := by
  have hact : w.act .sweep ⟨⟨w.tick (ran + 1), v⟩, ran⟩
      = ⟨(), [.purged (v.purgeCount (w.tick (ran + 1)))],
        ⟨⟨w.tick (ran + 1), v.purge (w.tick (ran + 1))⟩, ran + 1⟩⟩ := by
    simp only [act, Nat.le_refl, if_true, if_neg hsome]
  exact .cons rfl hact h

/-- A vault that is swept only when that finds something comes to the same, event by event, as one
that is swept at every tick on time. -/
theorem waits_sweepUntil (hpos : 0 < w.interval) {n fuel : Nat} (hnow : now ≤ limit)
    (hlast : w.tick ran ≤ now) (hnext : now < w.tick (ran + 1)) (hdue : w.tick (ran + n) ≤ limit)
    (hlimit : limit < w.tick (ran + n + 1)) (hsize : v.size ≤ fuel) :
    w.Waits ⟨⟨now, v⟩, ran⟩ (v.sweepUntil [w] limit fuel now).events
      ⟨⟨limit, (v.sweepUntil [w] limit fuel now).state⟩, ran + n⟩ := by
  -- By the number of ticks until the limit. The fuel goes down only at those that find something.
  induction n generalizing v now ran fuel with
  | zero =>
    rw [Vault.sweepUntil_of_lt_tick hpos hlast hlimit]
    exact .advance hnow (.refl w _)
  | succ n ih =>
    have hrest : ran + (n + 1) = ran + 1 + n := by omega
    rw [hrest] at hdue hlimit ⊢
    have htick : w.tick (ran + 1) ≤ limit :=
      Nat.le_trans (tick_le_tick (Nat.le_add_right (ran + 1) n)) hdue
    have hlater : w.tick (ran + 1) < w.tick (ran + 1 + 1) := by
      rw [tick_succ w (ran + 1)]
      omega
    have hwaits {v : Vault} {fuel : Nat} (hsize : v.size ≤ fuel) :=
      ih htick (Nat.le_refl _) hlater hdue hlimit hsize
    refine .advance (Nat.le_of_lt hnext) ?_
    by_cases hexpired : v.expired (w.tick (ran + 1)) = []
    · rw [Vault.sweepUntil_of_none_expired hnext hexpired]
      exact .idle hexpired (hwaits hsize)
    · have hcount : 0 < v.purgeCount (w.tick (ran + 1)) := by
        rw [Vault.purgeCount_eq]
        exact List.length_pos_iff.2 hexpired
      have hsmaller := v.length_expired_add_size_purge (w.tick (ran + 1))
      rw [← Vault.purgeCount_eq] at hsmaller
      obtain ⟨fuel, rfl⟩ : ∃ k, fuel = k + 1 := ⟨fuel - 1, by omega⟩
      rw [Vault.sweepUntil_of_expired hpos hlast hnext htick hexpired]
      exact .sweep (by omega) (hwaits (by omega))

theorem exists_last_tick (hpos : 0 < w.interval) (hstart : w.start ≤ limit) :
    ∃ n, w.tick n ≤ limit ∧ limit < w.tick (n + 1) := by
  have hlow := Nat.div_mul_le_self (limit - w.start) w.interval
  have hhigh := Nat.lt_div_mul_add (a := limit - w.start) hpos
  refine ⟨(limit - w.start) / w.interval, ?_, ?_⟩
  · rw [tick]
    omega
  · rw [tick_succ, tick]
    omega

/-- While its clock moves, a vault that has caught up comes to the same, event by event, as one that
is swept at every tick on time. -/
theorem waits_elapse (hpos : 0 < w.interval) {s : Tended} (h : w.Tends s) (hcaught : w.CaughtUp s)
    (hle : s.site.clock ≤ limit) :
    let elapsed := s.site.store.elapse [w] s.site.clock limit
    ∃ ran, w.Waits s elapsed.events ⟨⟨limit, elapsed.state⟩, ran⟩
      ∧ w.CaughtUp ⟨⟨limit, elapsed.state⟩, ran⟩ := by
  have hstart : w.start ≤ limit := by
    have := tick_le_tick (w := w) (Nat.zero_le s.ran)
    rw [tick_zero] at this
    exact Nat.le_trans this (Nat.le_trans h.due hle)
  obtain ⟨k, hdue, hlimit⟩ := exists_last_tick hpos hstart
  have hran : s.ran ≤ k := by
    by_contra hlt
    have := tick_le_tick (w := w) (show k + 1 ≤ s.ran by omega)
    have := h.due
    omega
  obtain ⟨n, rfl⟩ := Nat.exists_eq_add_of_le hran
  exact ⟨s.ran + n, waits_sweepUntil hpos hle h.due hcaught hdue hlimit (Nat.le_refl _), hlimit⟩

end Sweeper

/-! ## A store with its sweeper -/

/-- Opening a store in memory with an interval starts a sweeper at once. -/
theorem openStore_of_interval {settings : Settings.Cache} (hmemory : settings.useMemory = true)
    (hinterval : 0 < settings.memory.cleanupInterval) (world : World) :
    (openStore settings).run World.answer world
      = ⟨.ok .vault, [.usingMemory],
          { world with
            sweepers := world.sweepers
              ++ [⟨world.clock, settings.memory.cleanupInterval.toNat * millisPerSecond⟩] }⟩ := by
  have hne : ¬settings.memory.cleanupInterval = 0 := by
    intro h
    rw [h] at hinterval
    exact absurd hinterval (by decide)
  rw [openStore, if_pos hmemory, if_neg hne]
  rfl

/-- **The sweeper bounds retention.** A store in memory with an interval starts a sweeper. Whatever
is asked of the store afterwards and however its ticks are delayed: once the ticks that are due have
run, no record has a deadline by the last of them, so none outlives its deadline by the interval. A
sweep spares what is live, and logs the number of records that it removed if it removed any. While
the clock of the world moves to a time the ticks until then run on time. -/
theorem sweeper_bounds_retention (settings : Settings.Cache) (world : World)
    (hmemory : settings.useMemory = true) (hinterval : 0 < settings.memory.cleanupInterval)
    (hfresh : world.vault = {}) (halone : world.sweepers = []) (steps : List TendedStep) :
    let interval := settings.memory.cleanupInterval.toNat * millisPerSecond
    let w : Sweeper := ⟨world.clock, interval⟩
    let opened := (openStore settings).run World.answer world
    let s := w.tend ⟨opened.state.clock, opened.state.vault⟩ steps
    let swept := w.act .sweep s
    opened.result = .ok .vault ∧ opened.state.sweepers = [w]
      ∧ (w.CaughtUp s →
          w.tick s.ran ≤ s.site.clock
            ∧ ∀ key r d, s.site.store.find? key = some r → r.deadline = some d →
              w.tick s.ran < d ∧ s.site.clock < d + interval)
      ∧ (∀ key r, s.site.store.find? key = some r → r.isLive s.site.clock = true →
          swept.state.site.store.find? key = some r)
      ∧ (∃ removed, swept.state.site.store.size + removed = s.site.store.size
          ∧ swept.events = if removed = 0 then [] else [.purged removed])
      ∧ (w.CaughtUp s → ∀ limit, s.site.clock ≤ limit →
          let moved :=
            { opened.state with vault := s.site.store, clock := s.site.clock }.advanceTo limit
          moved.state.clock = limit
            ∧ ∃ ran, w.Waits s moved.events ⟨⟨moved.state.clock, moved.state.vault⟩, ran⟩
              ∧ w.CaughtUp ⟨⟨moved.state.clock, moved.state.vault⟩, ran⟩) := by
  intro interval w opened s swept
  have hpos : 0 < w.interval := by
    have hseconds : 0 < settings.memory.cleanupInterval.toNat := hinterval
    exact Nat.mul_pos hseconds (by decide)
  have hopened : opened = _ := openStore_of_interval hmemory hinterval world
  have hsweepers : opened.state.sweepers = [w] := by
    rw [hopened, halone]
    rfl
  have hstart : w.Tends ⟨⟨opened.state.clock, opened.state.vault⟩, 0⟩ := by
    rw [hopened]
    refine ⟨Nat.le_of_eq w.tick_zero, fun key r d hr => ?_⟩
    rw [hfresh] at hr
    exact absurd hr (by simp [Vault.find?])
  have hs : w.Tends s := hstart.tend steps
  refine ⟨by rw [hopened], hsweepers, fun hcaught => ⟨hs.due, fun key r d hr hd =>
    ⟨hs.kept key r d hr hd, hs.lt_add_interval hcaught hr hd⟩⟩, (w.act_sweep s).1,
    (w.act_sweep s).2, fun hcaught limit hle => ⟨rfl, ?_⟩⟩
  simp only [World.advanceTo, hsweepers]
  exact w.waits_elapse hpos hs hcaught hle

/-- Two records, of which the first has expired when the first tick runs, late by 400 milliseconds:
it is removed, and the second one is not kept longer than it may be. -/
theorem sweeper_bounds_retention_of_two :
    let settings : Settings.Cache := { useMemory := true, memory := { cleanupInterval := 1 } }
    let world : World := { clock := 5 }
    let interval := settings.memory.cleanupInterval.toNat * millisPerSecond
    let w : Sweeper := ⟨world.clock, interval⟩
    let opened := (openStore settings).run World.answer world
    let set (key : String) (lifetime : Int) : TendedStep :=
      .step (.request (.call (.set key "1" lifetime)))
    let steps : List TendedStep :=
      [set "a" 1, set "b" 2, .step (.change (.advance 1400)), .sweep]
    let s := w.tend ⟨opened.state.clock, opened.state.vault⟩ steps
    settings.useMemory = true ∧ 0 < settings.memory.cleanupInterval ∧ world.vault = {}
      ∧ world.sweepers = [] ∧ w.CaughtUp s ∧ s.site.store.size = 1
      ∧ ∀ key r d, s.site.store.find? key = some r → r.deadline = some d →
          w.tick s.ran < d ∧ s.site.clock < d + interval := by
  intro settings world interval w opened set steps s
  have hcaught : w.CaughtUp s := by
    show s.site.clock < w.tick (s.ran + 1)
    decide
  have h := sweeper_bounds_retention settings world rfl (by decide) rfl rfl steps
  extract_lets at h
  exact ⟨rfl, by decide, rfl, rfl, hcaught, by decide, (h.2.2.1 hcaught).2⟩

end Passcode
