import Passcode.Redis.Fault
import Passcode.Settings.App

/-!
# Log events

Everything the program says about what it does. An event is a constructor with what it carries;
its level, target, message and fields follow from it. Identities, addresses and connection strings
enter an event only in masked form, and no event carries a code.
-/

namespace Passcode

/-- How urgent a log event is. -/
inductive Level where
  | error
  | warn
  | info
  | debug
  | trace
deriving Repr, DecidableEq

/-- The name of a level. -/
def Level.name : Level → String
  | error => "error"
  | warn => "warn"
  | info => "info"
  | debug => "debug"
  | trace => "trace"

/-- The rank of a level: the more it lets through, the higher. -/
def Level.rank : Level → Nat
  | error => 1
  | warn => 2
  | info => 3
  | debug => 4
  | trace => 5

/-- The value of a field of an event. -/
inductive FieldValue where
  | text (s : String)
  | int (n : Int)
  | bool (b : Bool)
deriving Repr, DecidableEq

/-- What a failed command of a store was meant to do. -/
inductive Purpose where
  | setWithExpiry
  | set
  | get
  | delete
  | compareAndDelete
  | probe
deriving Repr, DecidableEq

/-- The words for a purpose. -/
def Purpose.words : Purpose → String
  | setWithExpiry => "set key with expiry"
  | set => "set key"
  | get => "get key"
  | delete => "delete key"
  | compareAndDelete => "compare-and-delete key"
  | probe => "check key existence"

/-- A log event. Texts named `identity`, `recipient`, `email` and `url` are masked. -/
inductive Event where
  -- issuing codes
  | codeGenerated (identity : String) (variant : Variant)
  | codeNotStored (identity : String)
  | codeDelivered (identity provider : String)
  | codeNotDelivered (identity provider : String)
  | issuancePanicked (identity reason : String)
  -- checking codes
  | noLiveCode (identity : String)
  | codeMismatch (identity : String)
  | codeAlreadyConsumed (identity : String)
  | codeAccepted (identity : String)
  -- the store in memory
  | usingMemory
  | memoryOutage
  | lifetimeOutOfRange (seconds : Int)
  | purged (count : Nat)
  -- the store in a Redis server
  | storeWriteFailed
  | storeReadFailed
  | storeExistsFailed
  | storeDeleteFailed
  | storeConsumeFailed
  -- the connection to a Redis server
  | clientStarting (url : String) (maxRetries : Nat)
  | urlRejected (fault : Redis.Fault)
  | connecting (attempt : Nat)
  | connected
  | connectRetry (attempt limit delay : Nat) (fault : Redis.Fault)
  | connectGivenUp (attempts : Nat) (fault : Redis.Fault)
  | clientReady
  | settingWithExpiry (seconds : Nat)
  | settingWithoutExpiry
  | commandRetry (attempt limit delay : Nat) (fault : Redis.Fault)
  | commandFailed (purpose : Purpose) (fault : Redis.Fault)
  | healthCheckFailed (fault : Redis.Fault)
  | healthCheckOdd (answer : String)
  -- delivery
  | mockRefused (recipient : String)
  | mockSent (recipient : String)
  | relayConfigured (host : String) (port : Nat) (starttls : Bool)
  | relaySending (recipient host : String)
  | relaySent (recipient : String)
  | relayFailed (recipient : String)
  -- requests
  | bodyRejected (path : String)
  | captchaRejected (email : String)
  | verifyCodeRejected (email : String)
  | checkRejected (email : String)
  | checkFailed (email : String)
  -- the program
  | starting (environment : Environment) (variant : Variant)
  | channelReady (provider sender : String)
  | binding (address : String)
deriving Repr

namespace Event

/-- How urgent an event is. -/
def level : Event → Level
  | codeNotStored _ | codeNotDelivered .. | issuancePanicked .. | urlRejected _ | connectGivenUp ..
  | commandFailed .. | healthCheckFailed _ | checkFailed _ => .error
  | codeMismatch _ | codeAlreadyConsumed _ | usingMemory | memoryOutage | lifetimeOutOfRange _
  | storeWriteFailed | storeReadFailed | storeExistsFailed | storeDeleteFailed
  | storeConsumeFailed | connectRetry .. | commandRetry .. | healthCheckOdd _ | mockRefused _
  | relayFailed _ | bodyRejected _ | captchaRejected _ | verifyCodeRejected _
  | checkRejected _ => .warn
  | codeGenerated .. | codeDelivered .. | codeAccepted _ | clientStarting .. | connected
  | clientReady | mockSent _ | relaySent _ | relayConfigured .. | starting .. | channelReady ..
  | binding _ => .info
  | noLiveCode _ | purged _ | connecting _ | settingWithExpiry _ | settingWithoutExpiry
  | relaySending .. => .debug

/-- The text of an event. How the fault of a server is put into words is for the caller to say. -/
def message (faultText : Redis.Fault → String) : Event → String
  | codeGenerated .. => "Generated new verification code"
  | codeNotStored _ => "Failed to store verification code"
  | codeDelivered .. => "Verification code delivered"
  | codeNotDelivered .. => "Failed to deliver verification code"
  | issuancePanicked .. => "Unexpected fault while issuing verification code"
  | noLiveCode _ => "No live verification code"
  | codeMismatch _ => "Submitted verification code does not match"
  | codeAlreadyConsumed _ => "Verification code was consumed or replaced concurrently"
  | codeAccepted _ => "Verification code accepted and consumed"
  | usingMemory =>
    "Using in-memory code store; codes are lost on restart and not shared between instances"
  | memoryOutage => "Simulated memory store failure"
  | lifetimeOutOfRange _ => "TTL out of range for the memory store"
  | purged _ => "Purged expired verification codes"
  | storeWriteFailed => "Redis write failed"
  | storeReadFailed => "Redis read failed"
  | storeExistsFailed => "Redis exists check failed"
  | storeDeleteFailed => "Redis delete failed"
  | storeConsumeFailed => "Redis compare-and-delete failed"
  | clientStarting .. => "Creating Redis client"
  | urlRejected fault => "Failed to parse Redis URL: " ++ faultText fault
  | connecting attempt => s!"Attempting to connect to Redis (attempt {attempt})"
  | connected => "Successfully connected to Redis"
  | connectRetry attempt limit delay fault =>
    s!"Failed to connect to Redis (attempt {attempt}/{limit}): " ++ faultText fault
      ++ s!". Retrying in {delay}ms..."
  | connectGivenUp attempts fault =>
    s!"Failed to connect to Redis after {attempts} attempts: " ++ faultText fault
  | clientReady => "Redis client created successfully"
  | settingWithExpiry seconds => s!"Setting key with expiry {seconds}s"
  | settingWithoutExpiry => "Setting key without expiry"
  | commandRetry attempt limit delay fault =>
    s!"Redis operation failed (attempt {attempt}/{limit}): " ++ faultText fault
      ++ s!". Retrying in {delay}ms..."
  | commandFailed purpose fault => "Failed to " ++ purpose.words ++ ": " ++ faultText fault
  | healthCheckFailed fault => "Redis health check failed: " ++ fault.text
  | healthCheckOdd answer => "Redis health check returned unexpected response: " ++ answer
  | mockRefused _ => "Mock email channel simulating failure"
  | mockSent _ => "Email sent successfully (mock)"
  | relayConfigured .. => "SMTP email channel configured"
  | relaySending .. => "Sending email"
  | relaySent _ => "Email sent successfully"
  | relayFailed _ => "Email delivery failed"
  | bodyRejected _ => "Rejected malformed request body"
  | captchaRejected _ => "Rejected captcha request"
  | verifyCodeRejected _ => "Rejected verify-code request"
  | checkRejected _ => "Rejected check request"
  | checkFailed _ => "Code check failed"
  | starting .. => "Starting VeriMail API Server"
  | channelReady .. => "Delivery channel ready"
  | binding address => "Server will bind to: " ++ address

/-- The name under which an event is counted, for the events that have one. -/
def key? : Event → Option String
  | codeGenerated .. => some "otp_generated"
  | codeNotStored _ => some "otp_storage_failed"
  | codeDelivered .. => some "otp_issued"
  | codeNotDelivered .. => some "otp_delivery_failed"
  | issuancePanicked .. => some "otp_issuance_panicked"
  | noLiveCode _ => some "otp_not_found"
  | codeMismatch _ => some "otp_verification_failed"
  | codeAlreadyConsumed _ => some "otp_already_consumed"
  | codeAccepted _ => some "otp_verified_success"
  | memoryOutage | lifetimeOutOfRange _ | storeWriteFailed => some "code_store_write_failed"
  | storeReadFailed | storeExistsFailed => some "code_store_read_failed"
  | storeDeleteFailed | storeConsumeFailed => some "code_store_delete_failed"
  | _ => none

/-- What an event carries. -/
def payload : Event → List (String × FieldValue)
  | codeGenerated identity variant =>
    [("identity", .text identity), ("variant", .text variant.name)]
  | codeNotStored identity | noLiveCode identity | codeMismatch identity
  | codeAlreadyConsumed identity | codeAccepted identity => [("identity", .text identity)]
  | codeDelivered identity provider | codeNotDelivered identity provider =>
    [("identity", .text identity), ("provider", .text provider)]
  | issuancePanicked identity reason => [("identity", .text identity), ("reason", .text reason)]
  | lifetimeOutOfRange seconds => [("ttl_seconds", .int seconds)]
  | purged count => [("purged", .int count)]
  | clientStarting url maxRetries => [("url", .text url), ("max_retries", .int maxRetries)]
  | mockRefused recipient => [("to", .text recipient)]
  | mockSent recipient => [("provider", .text "mock"), ("to", .text recipient)]
  | relayConfigured host port starttls =>
    [("host", .text host), ("port", .int port), ("starttls", .bool starttls)]
  | relaySending recipient host => [("to", .text recipient), ("host", .text host)]
  | relaySent recipient | relayFailed recipient =>
    [("provider", .text "smtp"), ("to", .text recipient)]
  | bodyRejected path => [("path", .text path)]
  | captchaRejected email | verifyCodeRejected email | checkRejected email | checkFailed email =>
    [("email", .text email)]
  | starting environment variant =>
    [("environment", .text environment.name), ("variant", .text variant.name)]
  | channelReady provider sender => [("provider", .text provider), ("sender", .text sender)]
  | _ => []

/-- All fields of an event: its name, if it has one, and what it carries. -/
def fields (e : Event) : List (String × FieldValue) :=
  (e.key?.map fun k => ("event", FieldValue.text k)).toList ++ e.payload

/-- The part of the program that an event comes from, as log filters name it. -/
def target : Event → String
  | codeGenerated .. | codeNotStored _ | codeDelivered .. | codeNotDelivered ..
  | issuancePanicked .. | noLiveCode _ | codeMismatch _ | codeAlreadyConsumed _
  | codeAccepted _ => "vm_core::services::verification::service"
  | usingMemory => "vm_infra::cache"
  | memoryOutage | lifetimeOutOfRange _ | purged _ => "vm_infra::cache::memory_store"
  | storeWriteFailed | storeReadFailed | storeExistsFailed | storeDeleteFailed
  | storeConsumeFailed => "vm_infra::cache::redis_code_store"
  | clientStarting .. | urlRejected _ | connecting _ | connected | connectRetry ..
  | connectGivenUp .. | clientReady | settingWithExpiry _ | settingWithoutExpiry
  | commandRetry .. | commandFailed .. | healthCheckFailed _ | healthCheckOdd _ =>
    "vm_infra::cache::redis_client"
  | mockRefused _ => "vm_infra::email::mock_email"
  | mockSent _ | relaySent _ | relayFailed _ => "email_channel"
  | relayConfigured .. | relaySending .. => "vm_infra::email::smtp"
  | bodyRejected _ => "vm_api::handlers::error"
  | captchaRejected _ => "vm_api::routes::verification::captcha"
  | verifyCodeRejected _ => "vm_api::routes::verification::verify_code"
  | checkRejected _ | checkFailed _ => "vm_api::routes::verification::check_code"
  | starting .. | channelReady .. | binding _ => "vm_api"

end Event

end Passcode
