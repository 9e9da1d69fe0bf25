import Passcode.Delivery.Mock
import Passcode.Delivery.Relay
import Passcode.Redis.Store
import Passcode.Service.Basic
import Passcode.Settings.App

/-!
# Assembling a service

The settings decide which store and which channel stand behind the service. What the assembled
program asks of the world is one interface: a server of Redis, the vault of the process, the channel
that only logs, a relay, and an address to listen on. The service, which knows of no particular
store or channel, becomes a flow over that interface by `assemble`.
-/

namespace Passcode

/-- A question of the program to the world. -/
inductive WorldCall where
  | server (q : Redis.Question)
  | vault (call : StoreCall)
  /-- Sweep the vault from now on, every given number of seconds. -/
  | sweep (seconds : Nat)
  /-- Hand a message to the channel that only logs. -/
  | post (m : Message)
  | relay (call : RelayCall)
  /-- Listen on an address; whether that was possible. -/
  | bind (address : String)

/-- What a question to the world is answered. -/
def WorldCall.Answer : WorldCall → Type
  | .server q => q.Answer
  | .vault call => call.Answer
  | .sweep _ => Unit
  | .post _ => Delivery
  | .relay call => call.Answer
  | .bind _ => Bool

/-- The world as surroundings. -/
abbrev WorldInterface : Interface := ⟨WorldCall, WorldCall.Answer⟩

variable {α : Type}

/-- A flow that talks to a server, as a flow in the world. -/
def Flow.onServer (m : Flow Redis.ServerInterface α) : Flow WorldInterface α :=
  m.interpret fun q => .ask (.server q) .done

/-- A flow that talks to a relay, as a flow in the world. -/
def Flow.onRelay (m : Flow RelayInterface α) : Flow WorldInterface α :=
  m.interpret fun call => .ask (.relay call) .done

/-! ## Stores -/

/-- An open store. -/
inductive OpenStore where
  | vault
  | redis (client : Redis.Client)
deriving Repr, DecidableEq

/-- Open the store of the settings. -/
def openStore (s : Settings.Cache) : Flow WorldInterface (Except Redis.Fault OpenStore) :=
  if s.useMemory then
    .log .usingMemory <|
      if s.memory.cleanupInterval = 0 then .done (.ok .vault)
      else .ask (.sweep s.memory.cleanupInterval.toNat) fun () => .done (.ok .vault)
  else (Redis.Client.connect s).onServer.map fun r => r.map .redis

/-- Answer a call of a store by an open store. -/
def OpenStore.perform : OpenStore → (call : StoreCall) → Flow WorldInterface call.Answer
  | .vault, call => .ask (.vault call) .done
  | .redis client, call => (Redis.storeFlow client call).onServer

/-! ## Channels -/

/-- A channel: the one that only logs, or the one to a relay. -/
inductive Channel where
  | mock
  | relay (r : Relay)
deriving Repr, DecidableEq

/-- The name of a channel. -/
def Channel.provider : Channel → String
  | mock => MockChannel.provider
  | relay _ => Relay.provider

/-- Open the channel of the settings. -/
def openChannel (s : Settings.Email) : Flow WorldInterface Channel :=
  match s.provider with
  | .mock => .done .mock
  | .smtp =>
    let r := Relay.ofSettings s
    .log r.configured <| .done (.relay r)

/-- Send a message through a channel. -/
def Channel.send : Channel → Message → Flow WorldInterface Delivery
  | mock, m => .ask (.post m) .done
  | relay r, m => (r.send m).onRelay

/-! ## Services -/

/-- What stands behind a service: its store, if it has one, and its channel. -/
structure Backing where
  store? : Option OpenStore
  channel : Channel
deriving Repr, DecidableEq

namespace Backing

/-- The service over a backing. -/
def service (b : Backing) (config : ServiceConfig) : Service :=
  ⟨b.store?.isSome, b.channel.provider, config⟩

/-- Answer a call of a service. A service without a store does not call one. -/
def answer (b : Backing) : (call : ServiceCall) → Flow WorldInterface call.Answer
  | .set key value lifetime =>
    match b.store? with
    | some store => (store.perform (.set key value lifetime)).map .done
    | none => .done (.done false)
  | .get key =>
    match b.store? with
    | some store => store.perform (.get key)
    | none => .done none
  | .contains key =>
    match b.store? with
    | some store => store.perform (.contains key)
    | none => .done false
  | .consume key expected =>
    match b.store? with
    | some store => store.perform (.consume key expected)
    | none => .done false
  | .send m => (b.channel.send m).map .done

/-- A flow of the service as a flow in the world. -/
def assemble (b : Backing) (m : Flow ServiceInterface α) : Flow WorldInterface α :=
  m.interpret b.answer

end Backing

end Passcode
