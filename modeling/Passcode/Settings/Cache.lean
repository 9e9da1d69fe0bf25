import Passcode.Settings.Schema

/-!
# Settings of the code store

Codes live in a Redis server or in the memory of the process. Commands to the server are tried
again a few times with a growing delay; the memory is swept of expired codes at an interval.
-/

namespace Passcode.Settings

/-- The settings of the store in memory. -/
structure Memory where
  /-- Seconds between two sweeps; zero for none. -/
  cleanupInterval : UInt64 := 60
deriving Repr, DecidableEq

instance : Schema Memory where
  title := "MemoryCacheConfig"
  fields := [
    .optional "cleanup_interval" Memory.cleanupInterval fun x s => { s with cleanupInterval := x }]
  start := {}

/-- The settings of the code store. -/
structure Cache where
  url : String := "redis://localhost:6379"
  /-- Seconds an attempt to connect may take. -/
  connectionTimeout : UInt64 := 5
  /-- The largest number of attempts per command. -/
  maxRetries : UInt32 := 3
  /-- Milliseconds before the second attempt, doubled before each further one. -/
  retryDelayMs : UInt64 := 100
  useMemory : Bool := false
  memory : Memory := {}
deriving Repr, DecidableEq

instance : Schema Cache where
  title := "CacheConfig"
  fields := [
    .optional "url" Cache.url fun x s => { s with url := x },
    .optional "connection_timeout" Cache.connectionTimeout
      fun x s => { s with connectionTimeout := x },
    .optional "max_retries" Cache.maxRetries fun x s => { s with maxRetries := x },
    .optional "retry_delay_ms" Cache.retryDelayMs fun x s => { s with retryDelayMs := x },
    .optional "use_memory" Cache.useMemory fun x s => { s with useMemory := x },
    .optional "memory" Cache.memory fun x s => { s with memory := x }]
  start := {}

end Passcode.Settings
