import Passcode.Settings.Schema

/-!
# Server settings

Where the service listens and how much it accepts. A server needs a host and a port.
-/

namespace Passcode.Settings

/-- The settings of the server. -/
structure Server where
  host : String := "0.0.0.0"
  port : UInt16 := 8080
  /-- The number of workers; zero stands for one per processor. -/
  workers : Size := 0
  /-- Seconds an idle connection is kept. -/
  keepAlive : UInt64 := 75
  /-- The longest accepted body in bytes. -/
  maxPayloadSize : Size := 16384
deriving Repr, DecidableEq

instance : Schema Server where
  title := "ServerConfig"
  fields := [
    .mandatory "host" Server.host fun x s => { s with host := x },
    .mandatory "port" Server.port fun x s => { s with port := x },
    .optional "workers" Server.workers fun x s => { s with workers := x },
    .optional "keep_alive" Server.keepAlive fun x s => { s with keepAlive := x },
    .optional "max_payload_size" Server.maxPayloadSize fun x s => { s with maxPayloadSize := x }]
  start := {}

/-- The address the server listens on. -/
def Server.bindAddress (s : Server) : String := s!"{s.host}:{s.port.toNat}"

end Passcode.Settings
