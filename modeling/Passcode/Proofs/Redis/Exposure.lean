import Passcode.Proofs.Mask.Url
import Passcode.Proofs.Redis.Connect

/-!
# What the log shows of a password in a query

Connecting starts with an event that shows the connection string, masked. Masking hides what stands
between the first `://` and the last `@` after it; there a connection string for a host has its
password. One for a socket has it in the query, where it is shown as far as no `@` follows, in the
password itself or after it.

## Main definitions

* `announcedUrl?` — the connection string that the log shows
* `socketUrl` — a connection string with a password in its query

## Main statements

* `announcedUrl?_connect` — connecting shows the masked connection string
* `url_socketUrl`, `url_socketUrl_of_mem` — masking without and with an `@` after the password
* `socket_password_is_shown` — what the log shows of the password
* `socket_passwords_differ_in_log` — two passwords that the log tells apart
-/

namespace Passcode.Redis

open Passcode.Flow

variable {σ : Type}

/-! ## The announcement -/

/-- The connection string that the log shows at the start of connecting. -/
def announcedUrl? (faultText : Fault → String) (events : List Event) : Option FieldValue :=
  (events.find? fun e => e.message faultText = "Creating Redis client").bind fun e =>
    e.fields.lookup "url"

/-- Connecting shows the masked connection string, whatever comes of it. -/
theorem announcedUrl?_connect (faultText : Fault → String) (settings : Settings.Cache)
    (server : Surroundings ServerInterface σ) (s : σ) :
    announcedUrl? faultText ((Client.connect settings).run server s).events
      = some (.text (Mask.url settings.url)) :=
  rfl

/-! ## Passwords in a query -/

/-- The start of a connection string for a socket, up to a password in the query. -/
def socketUrlStart (path before : String) : String :=
  "redis+unix" ++ "://" ++ (path ++ "?" ++ before ++ "pass=")

/-- A connection string for a socket, with a password in its query. -/
def socketUrl (path before password after : String) : String :=
  socketUrlStart path before ++ password ++ after

section

variable {path before after : String}

/-- Without an `@` after the password, the log shows what it shows of the password alone. -/
theorem url_socketUrl (h : '@' ∉ after.toList) (password : String) :
    Mask.url (socketUrl path before password after)
      = Mask.url (socketUrlStart path before ++ password) ++ after :=
  Mask.url_append ⟨_, _, String.append_assoc⟩ h

/-- A password without an `@` is shown. -/
theorem url_socketUrlStart_append {password : String} (h : '@' ∉ password.toList) :
    Mask.url (socketUrlStart path before ++ password)
      = Mask.url (socketUrlStart path before) ++ password :=
  Mask.url_append ⟨"redis+unix", _, rfl⟩ h

theorem isScheme_socket : Mask.IsScheme "redis+unix" := Mask.isScheme_of_not_mem (by decide)

/-- Of a password with an `@` only the end is shown. -/
theorem url_socketUrlStart_append_at {password : String} (h : '@' ∉ password.toList)
    (hidden : String) :
    Mask.url (socketUrlStart path before ++ (hidden ++ "@" ++ password))
      = "redis+unix://****@" ++ password := by
  have hguarded :=
    Mask.url_of_guarded isScheme_socket h (path ++ "?" ++ before ++ "pass=" ++ hidden)
  simp only [socketUrlStart, String.append_assoc] at hguarded ⊢
  exact hguarded

/-- An `@` after the password hides the password. -/
theorem url_socketUrl_of_mem (h : '@' ∈ after.toList) (password : String) :
    Mask.url (socketUrl path before password after)
      = Mask.url ("redis+unix" ++ "://" ++ after) := by
  have hhidden :=
    Mask.url_append_of_mem isScheme_socket h (path ++ "?" ++ before ++ "pass=" ++ password)
  simp only [socketUrl, socketUrlStart, String.append_assoc] at hhidden ⊢
  exact hhidden

end

/-- **The log shows a password in a query** as far as no `@` follows it. All passwords look the same
in the log exactly if there is an `@` further on in the query. Otherwise a password without an `@`
is shown completely, and of a password with one the part after the last `@`. -/
theorem socket_password_is_shown (path before after : String) (faultText : Fault → String)
    (settings : Settings.Cache) (server : Surroundings ServerInterface σ) (s : σ) :
    let shown (password : String) : Option FieldValue :=
      let connecting := Client.connect { settings with url := socketUrl path before password after }
      announcedUrl? faultText (connecting.run server s).events
    ((∀ password password', shown password = shown password') ↔ '@' ∈ after.toList)
      ∧ ('@' ∉ after.toList →
        (∀ password, '@' ∉ password.toList →
          shown password
            = some (.text (Mask.url (socketUrlStart path before) ++ password ++ after)))
        ∧ ∀ hidden password, '@' ∉ password.toList →
          shown (hidden ++ "@" ++ password)
            = some (.text ("redis+unix://****@" ++ password ++ after))) := by
  intro shown
  have hshown : ∀ password,
      shown password = some (.text (Mask.url (socketUrl path before password after))) :=
    fun password => announcedUrl?_connect faultText _ server s
  have hplain : '@' ∉ after.toList → ∀ password, '@' ∉ password.toList →
      shown password
        = some (.text (Mask.url (socketUrlStart path before) ++ password ++ after)) := by
    intro hafter password hpassword
    rw [hshown, url_socketUrl hafter, url_socketUrlStart_append hpassword]
  refine ⟨⟨fun hsame => ?_, fun hafter password password' => ?_⟩, fun hafter =>
    ⟨hplain hafter, fun hidden password hpassword => ?_⟩⟩
  · by_contra hafter
    have hboth := hsame "a" "b"
    rw [hplain hafter "a" (by decide), hplain hafter "b" (by decide)] at hboth
    simp only [Option.some.injEq, FieldValue.text.injEq, String.append_left_inj,
      String.append_right_inj] at hboth
    exact absurd hboth (by decide)
  · rw [hshown, hshown, url_socketUrl_of_mem hafter, url_socketUrl_of_mem hafter]
  · rw [hshown, url_socketUrl hafter, url_socketUrlStart_append_at hpassword]

/-- A password after a user is shown completely, and one with an `@` from there on. -/
theorem socket_password_is_shown_after_user :
    let settings (password : String) : Settings.Cache :=
      { url := socketUrl "/run/redis.sock" "db=1&user=u&" password "" }
    let shown (password : String) :=
      let connecting := Client.connect (settings password)
      announcedUrl? Fault.text (connecting.run Client.refusingServer ()).events
    '@' ∉ "".toList ∧ '@' ∉ "secret".toList
      ∧ shown "secret" = some (.text "redis+unix:///run/redis.sock?db=1&user=u&pass=secret")
      ∧ shown "my@secret" = some (.text "redis+unix://****@secret") := by
  intro settings shown
  obtain ⟨-, hno⟩ := socket_password_is_shown "/run/redis.sock" "db=1&user=u&" "" Fault.text {}
    Client.refusingServer ()
  have hafter : '@' ∉ "".toList := by decide
  have hpassword : '@' ∉ "secret".toList := by decide
  obtain ⟨hplain, hat⟩ := hno hafter
  refine ⟨hafter, hpassword, (hplain "secret" hpassword).trans ?_, hat "my" "secret" hpassword⟩
  decide +kernel

/-- Two passwords that a connection string gives for a socket, and that the log tells apart. -/
theorem socket_passwords_differ_in_log :
    let settings (password : String) : Settings.Cache :=
      { url := socketUrl "/run/redis.sock" "db=1&user=u&" password "" }
    let shown (password : String) :=
      let connecting := Client.connect (settings password)
      announcedUrl? Fault.text (connecting.run Client.refusingServer ()).events
    (∀ password ∈ ["secret", "other"], Endpoint.ofUrl (settings password).url
        = .ok ⟨.socket "/run/redis.sock", some "u", some password, 1⟩)
      ∧ shown "secret" ≠ shown "other" := by
  intro settings shown
  refine ⟨fun password hpassword => Endpoint.ofUrl_eq_ok ?_, by decide +kernel⟩
  rcases List.mem_pair.1 hpassword with rfl | rfl <;> decide +kernel

end Passcode.Redis
