import Passcode.Program.Assembly
import Passcode.Proofs.Redis.Complaints
import Passcode.Store.Vault

/-!
# What a call of the service logs

A service at work asks its store and its channel, and these ask the world. All that a call of the
service logs is known from what it is asked to do and from how it ended: yes or no, with which
faults of a server, or with which text the world broke down. The values that pass do not enter, and
of an address only its mask does.

A vault refuses to keep a value for one of two reasons, and says in the log for which. So the reason
is part of how that call ended.

Every question to the world meets a *scene* of its own: any state of the vault, any reply of the
server, any fate of a message, or a breakdown. So nothing is assumed about what others do meanwhile.

## Main definitions

* `Scene`, `Scene.world` — what the questions of a request meet
* `Backing.runIn`, `Backing.callIn` — a flow of the service, and one call, as the program runs it
* `Ending`, `Backing.endings` — how the calls of a flow ended
* `Backing.report` — what a call logs

## Main statements

* `Backing.runIn_ask` — a flow that asks runs the call first
* `Backing.runIn_of_calm` — where nothing breaks down, the assembled program runs
* `Backing.events_callIn` — a call logs what its report says
-/

namespace Passcode

open Passcode.Flow

variable {α β : Type}

/-! ## The world, scene by scene -/

/-- What one question of the program to the world meets. -/
structure Scene where
  vault : Vault
  /-- The time in milliseconds. -/
  now : Nat
  reply : Except Redis.Fault Redis.Reply
  channel : MockChannel
  id : String
  postmark : Mail.Postmark
  transfer : Except String Unit
  /-- A breakdown in place of an answer, with the text that it carries, if it carries one. -/
  breakdown? : Option (Option String) := none

namespace Scene

/-- The answer to a question where nothing breaks down. -/
def answer (s : Scene) : (q : WorldCall) → Run Unit q.Answer
  | .vault call =>
    let r := s.vault.perform s.now call
    ⟨r.result, r.events, ()⟩
  | .post m =>
    let p := s.channel.send s.id m
    ⟨p.delivery, p.events, ()⟩
  | .server (.send _) => ⟨s.reply, [], ()⟩
  | .server (.dial ..) => ⟨.ok (), [], ()⟩
  | .server (.pause _) => ⟨(), [], ()⟩
  | .relay .postmark => ⟨s.postmark, [], ()⟩
  | .relay (.transfer _) => ⟨s.transfer, [], ()⟩
  | .sweep _ => ⟨(), [], ()⟩
  | .bind _ => ⟨true, [], ()⟩

/-- The world in which every question meets a scene of its own; the state is the number of questions
so far. -/
def world (scenes : Nat → Scene) : Surroundings WorldInterface.Fragile Nat := fun q n =>
  match (scenes n).breakdown? with
  | none => ⟨.done ((scenes n).answer q).result, ((scenes n).answer q).events, n + 1⟩
  | some reason => ⟨.panicked reason, [], n + 1⟩

/-- The world of scenes in which nothing breaks down. -/
def calm (scenes : Nat → Scene) : Surroundings WorldInterface Nat := fun q n =>
  ⟨((scenes n).answer q).result, ((scenes n).answer q).events, n + 1⟩

/-- The server in that world. -/
def server (scenes : Nat → Scene) : Surroundings Redis.ServerInterface.Fragile Nat :=
  fun q n => world scenes (.server q) n

variable {scenes : Nat → Scene}

theorem silent_server (scenes : Nat → Scene) : Redis.Silent (server scenes) := by
  intro q n
  unfold server world
  cases (scenes n).breakdown? with
  | none => cases q <;> rfl
  | some reason => rfl

/-- A flow that talks to the server meets the server of that world. -/
theorem run_onServer (scenes : Nat → Scene) (m : Flow Redis.ServerInterface α) (n : Nat) :
    m.onServer.fragile.run (world scenes) n = m.fragile.run (server scenes) n := by
  induction m generalizing n with
  | done a => rfl
  | log e next ih =>
    exact congrArg (fun r : Run Nat (Attempt α) => (⟨r.result, e :: r.events, r.state⟩ : Run _ _))
      (ih n)
  | ask q next ih =>
    have hrest : ∀ answer n,
        (orBreak (fun a => (next a).onServer.fragile) answer).run (world scenes) n
          = (orBreak (fun a => (next a).fragile) answer).run (server scenes) n := by
      intro answer n
      cases answer with
      | done a => exact ih a n
      | panicked reason => rfl
    exact congrArg (fun r : Run Nat (Attempt α) =>
        (⟨r.result, (server scenes q n).events ++ r.events, r.state⟩ : Run _ _))
      (hrest (server scenes q n).result (server scenes q n).state)

/-- A changed result of a flow that may break down. -/
theorem run_fragile_map (m : Flow WorldInterface α) (f : α → β) (n : Nat) :
    (m.map f).fragile.run (world scenes) n
      = ⟨match (m.fragile.run (world scenes) n).result with
          | .done a => .done (f a)
          | .panicked reason => .panicked reason,
        (m.fragile.run (world scenes) n).events,
        (m.fragile.run (world scenes) n).state⟩ := by
  rw [map, fragile_bind, run_bind]
  cases (m.fragile.run (world scenes) n).result <;> simp [fragile]

/-- A question to the world. -/
theorem run_ask (q : WorldCall) (next : q.Answer → Flow WorldInterface α) (n : Nat) :
    (Flow.ask (I := WorldInterface) q next).fragile.run (world scenes) n
      = match (scenes n).breakdown? with
        | none =>
          let rest := (next ((scenes n).answer q).result).fragile.run (world scenes) (n + 1)
          ⟨rest.result, ((scenes n).answer q).events ++ rest.events, rest.state⟩
        | some reason => ⟨.panicked reason, [], n + 1⟩ := by
  simp only [fragile, run, Scene.world]
  cases (scenes n).breakdown? <;> simp

/-- A question to the world, and nothing else. -/
theorem run_question (q : WorldCall) (n : Nat) :
    (Flow.ask (I := WorldInterface) q .done).fragile.run (world scenes) n
      = match (scenes n).breakdown? with
        | none => ⟨.done ((scenes n).answer q).result, ((scenes n).answer q).events, n + 1⟩
        | some reason => ⟨.panicked reason, [], n + 1⟩ := by
  rw [run_ask]
  cases (scenes n).breakdown? <;> simp [fragile]

end Scene

/-! ## The service in that world -/

/-- A breakdown that is caught is an answer. -/
def Attempt.catching : Attempt (Attempt α) → Attempt (Attempt α)
  | .done a => .done a
  | .panicked reason => .done (.panicked reason)

namespace Backing

/-- Answer a call of a service, where the world may break down. The service catches what breaks down
when a record is written or a message is sent. -/
def caught (b : Backing) :
    (q : ServiceInterface.Fragile.Question) →
      Flow WorldInterface.Fragile (ServiceInterface.Fragile.Answer q)
  | .set key value lifetime =>
    (b.answer (.set key value lifetime)).fragile.map Attempt.catching
  | .send m => (b.answer (.send m)).fragile.map Attempt.catching
  | .get key => (b.answer (.get key)).fragile
  | .contains key => (b.answer (.contains key)).fragile
  | .consume key expected => (b.answer (.consume key expected)).fragile

/-- Run a flow of the service from the given number of questions on. -/
def runIn (b : Backing) (scenes : Nat → Scene) (m : Flow ServiceInterface α) (n : Nat) :
    Run Nat (Attempt α) :=
  (m.fragile.interpret b.caught).run (Scene.world scenes) n

/-- Run one call of the service. -/
def callIn (b : Backing) (scenes : Nat → Scene) (q : ServiceCall) (n : Nat) :
    Run Nat (Attempt q.Answer) :=
  (b.caught q).run (Scene.world scenes) n

variable {b : Backing} {scenes : Nat → Scene}

/-- A flow that asks runs the call first, and goes on unless that has broken down. -/
theorem runIn_ask (q : ServiceCall) (next : q.Answer → Flow ServiceInterface α) (n : Nat) :
    (b.runIn scenes (.ask q next) n).events
      = (b.callIn scenes q n).events
        ++ match (b.callIn scenes q n).result with
          | .done a => (b.runIn scenes (next a) (b.callIn scenes q n).state).events
          | .panicked _ => [] := by
  have hrun : b.runIn scenes (.ask q next) n
      = ((b.caught q).bind fun answer =>
          (orBreak (fun a => (next a).fragile) answer).interpret b.caught).run
        (Scene.world scenes) n := rfl
  rw [hrun, run_bind]
  unfold callIn runIn
  cases ((b.caught q).run (Scene.world scenes) n).result <;> rfl

theorem run_catching_of_done {m : Flow WorldInterface (Attempt α)} {a : Attempt α}
    {events : List Event} {n t : Nat}
    (h : m.fragile.run (Scene.world scenes) n = ⟨.done a, events, t⟩) :
    (m.fragile.map Attempt.catching).run (Scene.world scenes) n = ⟨.done a, events, t⟩ := by
  rw [run_map, h]
  rfl

/-- Where nothing breaks down, a run is one of the assembled program. -/
theorem runIn_of_calm (h : ∀ n, (scenes n).breakdown? = none) (b : Backing)
    (m : Flow ServiceInterface α) (n : Nat) :
    let r := (b.assemble m).run (Scene.calm scenes) n
    b.runIn scenes m n = ⟨.done r.result, r.events, r.state⟩ := by
  have hworld (q : WorldCall) (n : Nat) : Scene.world scenes q n
      = ⟨.done (Scene.calm scenes q n).result, (Scene.calm scenes q n).events,
        (Scene.calm scenes q n).state⟩ := by
    simp only [Scene.world, h, Scene.calm]
  have hcaught (q : ServiceCall) (n : Nat) : (b.caught q).run (Scene.world scenes) n
      = ⟨.done ((b.answer q).run (Scene.calm scenes) n).result,
        ((b.answer q).run (Scene.calm scenes) n).events,
        ((b.answer q).run (Scene.calm scenes) n).state⟩ := by
    have hcalm := run_fragile_of_calm hworld (b.answer q) n
    cases q with
    | get key | contains key | consume key expected => exact hcalm
    | set key value lifetime | send m =>
      exact run_catching_of_done hcalm
  intro r
  have hr : r = m.run (fun q n => (b.answer q).run (Scene.calm scenes) n) n :=
    run_interpret (I := ServiceInterface) _ b.answer m n
  rw [runIn, run_interpret, hr]
  exact run_fragile_of_calm hcaught m n

end Backing

/-! ## How calls end -/

/-- Why a vault refuses to keep a value. -/
inductive Refusal where
  | outage
  | lifetime
deriving Repr, DecidableEq

/-- How a call of the service ended: yes or no, or with which text it broke down; the faults of all
attempts at a server; and why a vault refused to keep a value, if it did. -/
structure Ending where
  outcome : Attempt Bool
  faults : List Redis.Fault := []
  refusal? : Option Refusal := none

/-- The answer to a call, without what it carries. -/
def ServiceCall.shows : (q : ServiceCall) → q.Answer → Attempt Bool
  | .set .., stored => stored
  | .get _, stored? => .done stored?.isSome
  | .contains _, found => .done found
  | .consume .., removed => .done removed
  | .send _, .done (.sent _) => .done true
  | .send _, .done (.failed _) => .done false
  | .send _, .panicked reason => .panicked reason

/-- The outcome of a call. -/
def ServiceCall.outcome (q : ServiceCall) : Attempt q.Answer → Attempt Bool
  | .done a => q.shows a
  | .panicked reason => .panicked reason

/-- Why a vault refuses to keep a value, if it does. -/
def Vault.refusal? (v : Vault) (now : Nat) : StoreCall → Option Refusal
  | .set _ _ lifetime =>
    if v.outage then some .outage
    else
      match deadline? now lifetime with
      | none => some .lifetime
      | some _ => none
  | _ => none

namespace OpenStore

/-- The faults of all attempts at a server. -/
def faults (scenes : Nat → Scene) (n : Nat) : OpenStore → StoreCall → List Redis.Fault
  | vault, _ => []
  | redis c, call => c.faultsOf (Scene.server scenes) call n

/-- Why a vault refused to keep a value, if it was asked to and did. -/
def refusal? (scenes : Nat → Scene) (n : Nat) : OpenStore → StoreCall → Option Refusal
  | vault, call =>
    match (scenes n).breakdown? with
    | none => (scenes n).vault.refusal? (scenes n).now call
    | some _ => none
  | redis _, _ => none

end OpenStore

namespace Backing

/-- How a call ended. -/
def ending (b : Backing) (scenes : Nat → Scene) (q : ServiceCall) (n : Nat) : Ending where
  outcome := q.outcome (b.callIn scenes q n).result
  faults :=
    match b.store?, q.store? with
    | some store, some call => store.faults scenes n call
    | _, _ => []
  refusal? :=
    match b.store?, q.store? with
    | some store, some call => store.refusal? scenes n call
    | _, _ => none

/-- How the calls of a flow ended, in order. -/
def endings (b : Backing) (scenes : Nat → Scene) : Flow ServiceInterface α → Nat → List Ending
  | .done _, _ => []
  | .log _ next, n => b.endings scenes next n
  | .ask q next, n =>
    b.ending scenes q n ::
      match (b.callIn scenes q n).result with
      | .done a => b.endings scenes (next a) (b.callIn scenes q n).state
      | .panicked _ => []

end Backing

/-! ## What stores log -/

/-- What a vault logs about a call. -/
def Vault.report : StoreCall → Option Refusal → List Event
  | .set .., some .outage => [.memoryOutage]
  | .set _ _ lifetime, some .lifetime => [.lifetimeOutOfRange lifetime]
  | _, _ => []

theorem Vault.events_perform (v : Vault) (now : Nat) (call : StoreCall) :
    (v.perform now call).events = Vault.report call (v.refusal? now call) := by
  cases call with
  | set key value lifetime =>
    simp only [perform, Vault.set, refusal?]
    cases v.outage with
    | true => rfl
    | false =>
      cases deadline? now lifetime <;> rfl
  | get key | contains key | delete key =>
    simp only [perform, Vault.get, Vault.contains, Vault.delete]
    split <;> rfl
  | consume key expected =>
    simp only [perform, Vault.consume]
    split
    · rfl
    · split
      · rfl
      · split
        · split <;> rfl
        · rfl

namespace OpenStore

variable {scenes : Nat → Scene}

/-- What an open store logs about a call. -/
def report : OpenStore → StoreCall → List Redis.Fault → Option Refusal → List Event
  | vault, call, _, refusal? => Vault.report call refusal?
  | redis c, call, faults, _ => c.report call faults

theorem events_perform (store : OpenStore) (call : StoreCall) (n : Nat) :
    ((store.perform call).fragile.run (Scene.world scenes) n).events
      = store.report call (store.faults scenes n call) (store.refusal? scenes n call) := by
  cases store with
  | vault =>
    refine (congrArg Run.events (Scene.run_question (.vault call) n)).trans ?_
    simp only [report, refusal?]
    cases (scenes n).breakdown? with
    | some reason => cases call <;> rfl
    | none => exact (scenes n).vault.events_perform (scenes n).now call
  | redis c =>
    rw [perform, Scene.run_onServer]
    exact c.events_storeFlow (Scene.silent_server scenes) call n

end OpenStore

/-! ## What channels log -/

theorem Flow.onRelay_log (e : Event) (m : Flow RelayInterface α) :
    (log e m).onRelay = log e m.onRelay := rfl

theorem Flow.onRelay_ask (q : RelayCall) (next : q.Answer → Flow RelayInterface α) :
    (Flow.ask (I := RelayInterface) q next).onRelay
      = Flow.ask (I := WorldInterface) (.relay q) fun a => (next a).onRelay := rfl

namespace Channel

variable {scenes : Nat → Scene}

/-- What a channel logs about a message, given what became of it. -/
def report : Channel → Message → Attempt Bool → List Event
  | mock, m, .done sent =>
    [if sent then .mockSent (Mask.identity m.recipient)
      else .mockRefused (Mask.identity m.recipient)]
  | mock, _, .panicked _ => []
  | relay r, m, outcome =>
    .relaySending (Mask.identity m.recipient) r.host ::
      match outcome with
      | .done sent =>
        [if sent then .relaySent (Mask.identity m.recipient)
          else .relayFailed (Mask.identity m.recipient)]
      | .panicked _ => []

/-- What the channel that only logs comes to. -/
theorem run_post (m : Message) (n : Nat) :
    (Channel.mock.send m).fragile.run (Scene.world scenes) n
      = match (scenes n).breakdown? with
        | none =>
          ⟨.done ((scenes n).channel.send (scenes n).id m).delivery,
            ((scenes n).channel.send (scenes n).id m).events, n + 1⟩
        | some reason => ⟨.panicked reason, [], n + 1⟩ :=
  Scene.run_question (.post m) n

/-- What handing over the letter of a message logs. -/
theorem events_deliver (scenes : Nat → Scene) (m : Message) (p : Mail.Postmark) (n : Nat) :
    let run := (Relay.deliver m p).onRelay.fragile.run (Scene.world scenes) n
    run.events = match (ServiceCall.send m).shows run.result with
      | .done sent =>
        [if sent then .relaySent (Mask.identity m.recipient)
          else .relayFailed (Mask.identity m.recipient)]
      | .panicked _ => [] := by
  unfold Relay.deliver
  cases Mail.Letter.ofMessage m p with
  | error fault => rfl
  | ok letter =>
    intro run
    have hrun : run = _ := Scene.run_ask (.relay (.transfer letter)) _ n
    rw [hrun]
    cases (scenes n).breakdown? with
    | some reason => rfl
    | none =>
      simp only [Scene.answer]
      cases (scenes n).transfer <;> rfl

/-- What the channel to a relay comes to. It asks for a postmark first, and that may break down as
well. -/
theorem run_send_relay (r : Relay) (m : Message) (n : Nat) :
    ((Channel.relay r).send m).fragile.run (Scene.world scenes) n
      = match (scenes n).breakdown? with
        | none =>
          let rest := (Relay.deliver m (scenes n).postmark).onRelay.fragile.run
            (Scene.world scenes) (n + 1)
          ⟨rest.result, .relaySending (Mask.identity m.recipient) r.host :: rest.events, rest.state⟩
        | some reason =>
          ⟨.panicked reason, [.relaySending (Mask.identity m.recipient) r.host], n + 1⟩ := by
  rw [Channel.send, Relay.send, Flow.onRelay_log, Flow.onRelay_ask .postmark (Relay.deliver m),
    fragile, run, Scene.run_ask]
  cases (scenes n).breakdown? with
  | some reason => rfl
  | none => simp only [Scene.answer, List.nil_append]

/-- What a channel logs. -/
theorem events_send (c : Channel) (m : Message) (n : Nat) :
    ((c.send m).fragile.run (Scene.world scenes) n).events
      = c.report m ((ServiceCall.send m).shows
          ((c.send m).fragile.run (Scene.world scenes) n).result) := by
  cases c with
  | mock =>
    rw [run_post]
    cases (scenes n).breakdown? with
    | some reason => rfl
    | none =>
      simp only [MockChannel.send]
      cases (scenes n).channel.failing <;> rfl
  | relay r =>
    rw [run_send_relay]
    cases (scenes n).breakdown? with
    | some reason => rfl
    | none =>
      have hdeliver := events_deliver scenes m (scenes n).postmark (n + 1)
      simp only [Channel.report] at hdeliver ⊢
      rw [hdeliver]

end Channel

/-! ## What a call logs -/

namespace Backing

variable {b : Backing} {scenes : Nat → Scene}

/-- What a call of a service logs. -/
def report (b : Backing) (q : ServiceCall) (e : Ending) : List Event :=
  match q, q.store?, b.store? with
  | .send m, _, _ => b.channel.report m e.outcome
  | _, some call, some store => store.report call e.faults e.refusal?
  | _, _, _ => []

/-- A flow whose breakdown is caught always comes to an answer. -/
theorem run_catching (m : Flow WorldInterface α) (n : Nat) :
    (((m.map Attempt.done).fragile.map Attempt.catching).run (Scene.world scenes) n)
      = ⟨.done (m.fragile.run (Scene.world scenes) n).result,
        (m.fragile.run (Scene.world scenes) n).events,
        (m.fragile.run (Scene.world scenes) n).state⟩ := by
  rw [run_map, Scene.run_fragile_map]
  cases (m.fragile.run (Scene.world scenes) n).result <;> rfl

/-- What a vault comes to that is asked to keep a value. -/
theorem callIn_set_vault {channel : Channel} {scenes : Nat → Scene} {n : Nat}
    (h : (scenes n).breakdown? = none) (key value : String) (lifetime : Int) :
    callIn ⟨some .vault, channel⟩ scenes (.set key value lifetime) n
      = ⟨.done (.done ((scenes n).vault.set (scenes n).now key value lifetime).result),
        ((scenes n).vault.set (scenes n).now key value lifetime).events, n + 1⟩ := by
  refine (run_catching (OpenStore.vault.perform (.set key value lifetime)) n).trans ?_
  have hrun : (OpenStore.vault.perform (.set key value lifetime)).fragile.run (Scene.world scenes) n
      = _ := Scene.run_question (.vault (.set key value lifetime)) n
  rw [hrun, h]
  rfl

/-- **A call** logs what its report says. -/
theorem events_callIn (b : Backing) (scenes : Nat → Scene) (q : ServiceCall) (n : Nat) :
    (b.callIn scenes q n).events = b.report q (b.ending scenes q n) := by
  obtain ⟨store?, channel⟩ := b
  cases q with
  | send m =>
    have hrun : callIn ⟨store?, channel⟩ scenes (.send m) n = _ :=
      run_catching (channel.send m) n
    simp only [report, ending, hrun]
    exact channel.events_send m n
  | set key value lifetime =>
    cases store? with
    | none => rfl
    | some store =>
      have hrun : callIn ⟨some store, channel⟩ scenes (.set key value lifetime) n = _ :=
        run_catching (store.perform (.set key value lifetime)) n
      rw [hrun]
      exact store.events_perform (.set key value lifetime) n
  | get key =>
    cases store? with
    | none => rfl
    | some store => exact store.events_perform (.get key) n
  | contains key =>
    cases store? with
    | none => rfl
    | some store => exact store.events_perform (.contains key) n
  | consume key expected =>
    cases store? with
    | none => rfl
    | some store => exact store.events_perform (.consume key expected) n

end Backing

end Passcode
