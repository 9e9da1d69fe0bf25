import Passcode.Store.Vault

/-!
# Sweeping a vault

A sweeper purges a vault at every multiple of its interval, counted from the time it was started. A
sweep that removes something is logged with the number of records removed, one that removes
nothing leaves no trace. So only the ticks at which something has expired need to be run: the next
of them is `nextSweep?`, and `sweepUntil` runs them in order up to a time.
-/

namespace Passcode

/-- A sweeper: when it was started, and the milliseconds between its ticks. -/
structure Sweeper where
  start : Nat
  interval : Nat
deriving Repr, DecidableEq

/-- The first tick at or after a time. There is none before the first interval is over. -/
def Sweeper.tickFrom (s : Sweeper) (time : Nat) : Nat :=
  s.start + max 1 ((time - s.start + s.interval - 1) / s.interval) * s.interval

/-- Whether a sweeper whose vault was given up at `dropped` has ended by `now`: at its first tick
after that, or at once if it has no interval. -/
def Sweeper.hasEnded (s : Sweeper) (dropped : Option Nat) (now : Nat) : Bool :=
  s.interval == 0 || (dropped.any fun d => s.tickFrom (d + 1) ≤ now)

namespace Vault

/-- The deadlines of the records of a vault. -/
def deadlines (v : Vault) : List Nat := v.records.values.filterMap (·.deadline)

/-- The first tick after `now` at which a sweeper removes something from a vault as it stands. -/
def nextSweep? (v : Vault) (sweepers : List Sweeper) (now : Nat) : Option Nat :=
  (sweepers.flatMap fun s => v.deadlines.map fun d => s.tickFrom (max (now + 1) d)).min?

/-- A vault after the sweeps up to the time `limit`, with their events. A sweep removes at least one
record, so their number bounds the sweeps. -/
def sweepUntil (sweepers : List Sweeper) (limit : Nat) :
    Nat → Nat → Vault → Flow.Run Vault Unit
  | 0, _, v => ⟨(), [], v⟩
  | fuel + 1, now, v =>
    match v.nextSweep? sweepers now with
    | none => ⟨(), [], v⟩
    | some tick =>
      if tick > limit then ⟨(), [], v⟩
      else
        let r := sweepUntil sweepers limit fuel tick (v.purge tick)
        ⟨(), .purged (v.purgeCount tick) :: r.events, r.state⟩

/-- A vault after the clock has moved from `now` to `limit`. -/
def elapse (v : Vault) (sweepers : List Sweeper) (now limit : Nat) : Flow.Run Vault Unit :=
  sweepUntil sweepers limit v.size now v

end Vault

end Passcode
