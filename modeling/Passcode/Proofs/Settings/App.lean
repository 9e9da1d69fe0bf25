import Passcode.Proofs.Settings.GroupLeaves

/-!
# The settings of a deployment in JSON

The groups of settings, part by part. All settings are read back from the JSON that is written for
them, except for the password of the relay: whatever it is, the same text is written, and it is
empty in what is read.

## Main statements

* `settings_round_trip` — what is read back from the JSON of settings
-/

namespace Passcode.Settings

/-! ## The groups and their parts -/

instance : Group Server where
  parts := [
    .mandatory "host" Server.host fun x s => { s with host := x },
    .mandatory "port" Server.port fun x s => { s with port := x },
    .optional "workers" Server.workers fun x s => { s with workers := x },
    .optional "keep_alive" Server.keepAlive fun x s => { s with keepAlive := x },
    .optional "max_payload_size" Server.maxPayloadSize fun x s => { s with maxPayloadSize := x }]

instance : Group Memory where
  parts := [
    .optional "cleanup_interval" Memory.cleanupInterval fun x s => { s with cleanupInterval := x }]

instance : Group Cache where
  parts := [
    .optional "url" Cache.url fun x s => { s with url := x },
    .optional "connection_timeout" Cache.connectionTimeout
      fun x s => { s with connectionTimeout := x },
    .optional "max_retries" Cache.maxRetries fun x s => { s with maxRetries := x },
    .optional "retry_delay_ms" Cache.retryDelayMs fun x s => { s with retryDelayMs := x },
    .optional "use_memory" Cache.useMemory fun x s => { s with useMemory := x },
    .optional "memory" Cache.memory fun x s => { s with memory := x }]

instance : Group Email where
  parts := [
    .optional "provider" Email.provider fun x s => { s with provider := x },
    .optional "smtp_host" Email.smtpHost fun x s => { s with smtpHost := x },
    .optional "smtp_port" Email.smtpPort fun x s => { s with smtpPort := x },
    .optional "username" Email.username fun x s => { s with username := x },
    .hidden "password" Email.password fun x s => { s with password := x },
    .optional "from_email" Email.fromEmail fun x s => { s with fromEmail := x },
    .optional "from_name" Email.fromName fun x s => { s with fromName := x },
    .optional "starttls" Email.starttls fun x s => { s with starttls := x },
    .optional "timeout_secs" Email.timeoutSecs fun x s => { s with timeoutSecs := x }]

instance : Group Verification where
  parts := [
    .optional "variant" Verification.variant fun x s => { s with variant := x },
    .optional "code_prefix" Verification.codePrefix fun x s => { s with codePrefix := x },
    .optional "code_ttl_seconds" Verification.codeLifetime fun x s => { s with codeLifetime := x },
    .optional "product_name" Verification.productName fun x s => { s with productName := x },
    .optional "subject" Verification.subject fun x s => { s with subject := x }]

instance : Group Logging where
  parts := [
    .mandatory "level" Logging.level fun x s => { s with level := x },
    .optional "format" Logging.format fun x s => { s with format := x },
    .optional "colored" Logging.colored fun x s => { s with colored := x },
    .optional "source_location" Logging.sourceLocation fun x s => { s with sourceLocation := x }]

instance : Group App where
  parts := [
    .optional "environment" App.environment fun x s => { s with environment := x },
    .optional "server" App.server fun x s => { s with server := x },
    .optional "cache" App.cache fun x s => { s with cache := x },
    .optional "email" App.email fun x s => { s with email := x },
    .optional "verification" App.verification fun x s => { s with verification := x },
    .optional "logging" App.logging fun x s => { s with logging := x }]

/-! ## JSON -/

/-- The settings of a deployment with another password of the relay. -/
def App.replacePassword (s : App) (password : String) : App :=
  { s with email := { s.email with password } }

/-- The password is all that is lost. -/
theorem kept_app (s : App) : Legible.kept s = s.replacePassword "" := by
  simp [Legible.kept, Group.kept, Group.shown, Group.parts, Part.optional, Part.mandatory,
    Part.hidden, Schema.start, App.replacePassword]

/-- **Settings round trip through JSON**, apart from the password of the relay: it is empty in what
is read, and does not show in what is written. -/
theorem settings_round_trip (s : App) :
    Json.decodeText Setting.ofJson (Setting.toJson s).render = .ok (s.replacePassword "")
      ∧ ∀ password,
        (Setting.toJson (s.replacePassword password)).render = (Setting.toJson s).render := by
  constructor
  · rw [Json.decodeText_render (Legible.exact_toJson s), Legible.ofJson_toJson, kept_app]
  · exact fun _ => rfl

end Passcode.Settings
