import Passcode.Delivery.Identifier
import Passcode.Delivery.Mock
import Passcode.Http.App
import Passcode.Store.Sweeper

/-!
# Rehearsals

A rehearsal runs a service over a vault and the channel that only logs, under a clock that moves by
command alone. Faults can be armed by hand: a breakdown of the next write, a change of a record
right behind the back of the next read, a breakdown of every delivery. Everything the service asks
of its surroundings is kept for inspection.
-/

namespace Passcode

/-- What a breakdown carries. -/
inductive PanicKind where
  | literal
  | owned
  | opaqueValue
deriving Repr, DecidableEq

/-- The text that a breakdown carries, if it carries one. -/
def PanicKind.reason? : PanicKind → Option String
  | .literal => some "transport exploded"
  | .owned => some "transport exploded (owned)"
  | .opaqueValue => none

/-- A fault that is armed for one call of the service on its store. -/
inductive Hook where
  | panicOnSet (kind : PanicKind)
  | overwriteAfterGet (value : String)
  | overwriteAfterContains (value : String)
  | deleteAfterGet
  | deleteAfterContains
deriving Repr, DecidableEq

/-- The surroundings of a rehearsed service. -/
structure Stage where
  vault : Vault := {}
  channel : MockChannel := {}
  /-- The time in milliseconds. -/
  clock : Nat
  hook : Option Hook := none
  deliveryPanic : Option PanicKind := none
  /-- The number of messages that got an identifier. -/
  identifiers : Nat := 0
  /-- The calls on the store, the latest first. -/
  calls : List StoreCall := []
  /-- The messages handed to the channel, the latest first. -/
  sent : List Message := []
  /-- What the channel printed. -/
  printed : String := ""

namespace Stage

/-- Seconds for which an armed fault keeps the record it writes. -/
def hookLifetime : Int := 600

/-- Answer a call of a store. -/
def perform (call : StoreCall) (s : Stage) : Flow.Run Stage call.Answer :=
  let r := s.vault.perform s.clock call
  ⟨r.result, r.events, { s with vault := r.state }⟩

/-- A change of the vault behind the back of the service, with its events. -/
def meddle (call : StoreCall) (s : Stage) : List Event × Stage :=
  let r := s.perform call
  (r.events, { r.state with hook := none })

/-- Spring the armed fault after a read under a key. -/
def afterGet (key : String) (s : Stage) : List Event × Stage :=
  match s.hook with
  | some (.overwriteAfterGet value) => s.meddle (.set key value hookLifetime)
  | some .deleteAfterGet => s.meddle (.delete key)
  | _ => ([], s)

/-- Spring the armed fault after a look under a key. -/
def afterContains (key : String) (s : Stage) : List Event × Stage :=
  match s.hook with
  | some (.overwriteAfterContains value) => s.meddle (.set key value hookLifetime)
  | some .deleteAfterContains => s.meddle (.delete key)
  | _ => ([], s)

/-- Hand a message to the channel. -/
def post (m : Message) (s : Stage) : Flow.Run Stage Delivery :=
  let p := s.channel.send (mockIdentifier s.identifiers) m
  ⟨p.delivery, p.events, { s with
    channel := p.channel
    identifiers := s.identifiers + 1
    printed := s.printed ++ p.printed }⟩

/-- Keep a call of the service on its store. -/
def keep (call : StoreCall) (s : Stage) : Stage := { s with calls := call :: s.calls }

/-- Answer a call of the service. -/
def answer : Flow.Surroundings ServiceInterface Stage
  | .set key value lifetime, s =>
    let s := s.keep (.set key value lifetime)
    match s.hook with
    | some (.panicOnSet kind) => ⟨.panicked kind.reason?, [], { s with hook := none }⟩
    | _ =>
      let r := s.perform (.set key value lifetime)
      ⟨.done r.result, r.events, r.state⟩
  | .get key, s =>
    let r := (s.keep (.get key)).perform (.get key)
    let (events, s) := r.state.afterGet key
    ⟨r.result, r.events ++ events, s⟩
  | .contains key, s =>
    let r := (s.keep (.contains key)).perform (.contains key)
    let (events, s) := r.state.afterContains key
    ⟨r.result, r.events ++ events, s⟩
  | .consume key expected, s => (s.keep (.consume key expected)).perform (.consume key expected)
  | .send m, s =>
    let s := { s with sent := m :: s.sent }
    match s.deliveryPanic with
    | some kind => ⟨.panicked kind.reason?, [], s⟩
    | none =>
      let r := s.post m
      ⟨.done r.result, r.events, r.state⟩

/-- The stage with nothing kept. -/
def forget (s : Stage) : Stage := { s with calls := [], sent := [], printed := "" }

end Stage

/-- A rehearsal: an application on its stage, the sweepers that were started, and the codes. -/
structure Rehearsal where
  app : Http.App
  stage : Stage
  sweepers : List Sweeper := []
  /-- The codes in the order in which they will be issued. -/
  supply : Nat → Code
  /-- The codes issued so far, the latest first. -/
  issued : List Code := []

namespace Rehearsal

variable {α : Type}

/-- The time at which rehearsals start, in milliseconds. -/
def startTime : Nat := 1000000

/-- The code that is issued next. -/
def nextCode (r : Rehearsal) : Code := r.supply r.issued.length

/-- Run a flow of the service. -/
def play (flow : Flow ServiceInterface α) (r : Rehearsal) : Flow.Run Rehearsal α :=
  let run := flow.run Stage.answer r.stage
  ⟨run.result, run.events, { r with stage := run.state }⟩

/-- Whether a code left the service: it was handed to the store, or without a store to the
channel. -/
def usedCode (before after : Stage) : Bool :=
  after.sent.length > before.sent.length
    || (after.calls.take (after.calls.length - before.calls.length)).any fun
      | .set .. => true
      | _ => false

/-- Run a flow that may issue the next code, and note whether it did. -/
def playWithCode (flow : Code → Flow ServiceInterface α) (r : Rehearsal) : Flow.Run Rehearsal α :=
  let code := r.nextCode
  let run := r.play (flow code)
  let issued := if usedCode r.stage run.state.stage then code :: r.issued else r.issued
  ⟨run.result, run.events, { run.state with issued := issued }⟩

/-- Issue a code. -/
def issue (identity : String) (r : Rehearsal) : Flow.Run Rehearsal Issuance :=
  r.playWithCode (r.app.service.issue identity)

/-- Check a submitted code. -/
def check (identity submitted : String) (r : Rehearsal) :
    Flow.Run Rehearsal (Except DomainFault CodeCheck) :=
  r.play (r.app.service.check identity submitted)

/-- Check a submitted code several times in turn. -/
def checkMany (identity submitted : String) :
    Nat → Rehearsal → Flow.Run Rehearsal (List (Except DomainFault CodeCheck))
  | 0, r => ⟨[], [], r⟩
  | n + 1, r =>
    let first := r.check identity submitted
    let rest := checkMany identity submitted n first.state
    ⟨first.result :: rest.result, first.events ++ rest.events, rest.state⟩

/-- Answer a request at a time. -/
def request (now : String) (q : Http.Request) (r : Rehearsal) : Flow.Run Rehearsal Http.Response :=
  r.playWithCode fun code => r.app.respond now code q

/-- Call the store directly. -/
def call (c : StoreCall) (r : Rehearsal) : Flow.Run Rehearsal c.Answer :=
  let run := r.stage.perform c
  ⟨run.result, run.events, { r with stage := run.state }⟩

/-- Hand a message to the channel directly. -/
def send (m : Message) (r : Rehearsal) : Flow.Run Rehearsal Delivery :=
  let run := r.stage.post m
  ⟨run.result, run.events, { r with stage := run.state }⟩

/-- Change the stage. -/
def modifyStage (f : Stage → Stage) (r : Rehearsal) : Rehearsal := { r with stage := f r.stage }

/-- Change the vault. -/
def modifyVault (f : Vault → Vault) (r : Rehearsal) : Rehearsal :=
  r.modifyStage fun s => { s with vault := f s.vault }

/-- Change the channel. -/
def modifyChannel (f : MockChannel → MockChannel) (r : Rehearsal) : Rehearsal :=
  r.modifyStage fun s => { s with channel := f s.channel }

/-- Move the clock. -/
def advance (millis : Nat) (r : Rehearsal) : Flow.Run Rehearsal Unit :=
  let target := r.stage.clock + millis
  let run := r.stage.vault.elapse r.sweepers r.stage.clock target
  ⟨(), run.events, r.modifyStage fun s => { s with vault := run.state, clock := target }⟩

/-- Drop the expired records: how many there were. -/
def purge (r : Rehearsal) : Flow.Run Rehearsal Nat :=
  let now := r.stage.clock
  ⟨r.stage.vault.purgeCount now, [], r.modifyVault (·.purge now)⟩

/-- Start a sweeper; one without an interval ends at once. -/
def startSweeper (seconds : Nat) (r : Rehearsal) : Rehearsal :=
  if seconds = 0 then r
  else { r with sweepers := r.sweepers ++ [⟨r.stage.clock, seconds * millisPerSecond⟩] }

/-- Let a sweeper of another vault live for its interval, give that vault up, and wait for the
interval once more: whether the sweeper has ended by each of the two times. -/
def sweeperExit (seconds : Nat) (r : Rehearsal) : Flow.Run Rehearsal (Bool × Bool) :=
  let sweeper : Sweeper := ⟨r.stage.clock, seconds * millisPerSecond⟩
  let first := r.advance (seconds * millisPerSecond)
  let dropped := first.state.stage.clock
  let second := first.state.advance (seconds * millisPerSecond)
  ⟨(sweeper.hasEnded none dropped, sweeper.hasEnded (some dropped) second.state.stage.clock),
    first.events ++ second.events, second.state⟩

/-- The rehearsal with nothing kept of what was asked so far. -/
def forget (r : Rehearsal) : Rehearsal := r.modifyStage Stage.forget

end Rehearsal

end Passcode
