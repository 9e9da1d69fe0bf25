import Passcode.Program.Start
import Passcode.Proofs.Http.Shape
import Passcode.Proofs.Redis.Traffic
import Passcode.Proofs.Service.Scenes

/-!
# Variant, routes and store agree

Whether codes are kept is decided in more than one place. The settings name a variant, the program
opens a store or none, the variant of a service is read off its store, and its application has the
routes of that variant. These places agree: a service is only ever asked for what it can serve.
So the fault of a service that checks codes without having a store never comes up, however many
requests come and whatever becomes of each.

The surroundings of a service are foreign, and any of them may break down. A request during which
they do is not answered at all, and the next one is handled as ever.

## Main definitions

* `Service.CanServe` — what a service may be asked for, given whether it has a store
* `Http.Arrival` — a request with what its handling draws on
* `Http.App.answerAll` — the answers to one request after another

## Main statements

* `Http.App.asksOnly_handle` — an application asks its service only for what it can serve
* `Service.returns_serve` — what a service can serve is answered, and not with a fault
* `returns_start` — the variant of the program that was started is the one of its settings
* `variant_routes_and_store_agree` — all of it, for any number of requests
-/

namespace Passcode

open Passcode.Flow

variable {s : Service} {code : Code}

/-! ## What a service can serve -/

/-- A check is answered with a result, and not with a fault of the service. -/
def ServiceRequest.Answered : (call : ServiceRequest) → call.Answer → Prop
  | .issue .., _ => True
  | .check .., r => ∃ c : CodeCheck, r = .ok c

/-- A code is to be issued, with nothing said about checks. -/
def ServiceRequest.Issues : ServiceRequest → Prop
  | .issue .. => True
  | .check .. => False

/-- The event of a check that ended with a fault of the service. -/
def Event.IsCheckFailure (e : Event) : Prop := ∃ email, e = .checkFailed email

namespace Service

/-- What a service can serve: it can issue codes, and it can check them if it has a store. -/
def CanServe (s : Service) : ServiceRequest → Prop
  | .issue .. => True
  | .check .. => s.hasStore = true

theorem variant_eq_validating_iff : s.variant = .validating ↔ s.hasStore = true := by
  unfold variant
  cases s.hasStore <;> simp

theorem variant_eq_generationOnly_iff : s.variant = .generationOnly ↔ s.hasStore = false := by
  unfold variant
  cases s.hasStore <;> simp

theorem returns_consume (s : Service) (identity stored : String) :
    (s.consume identity stored).Returns fun r => ∃ c, r = .ok c := by
  intro removed
  cases removed with
  | true => exact ⟨.accepted, rfl⟩
  | false => exact ⟨.notFound, rfl⟩

/-- With a store, a check ends with a result. -/
theorem returns_check (hstore : s.hasStore = true) (identity submitted : String) :
    (s.check identity submitted).Returns fun r => ∃ c, r = .ok c := by
  rw [check, if_pos hstore]
  intro found
  cases found with
  | false => exact ⟨.notFound, rfl⟩
  | true =>
    intro stored?
    cases stored? with
    | none => exact ⟨.notFound, rfl⟩
    | some stored =>
      by_cases hsame : stored = submitted
      · simp only [if_pos hsame]
        exact s.returns_consume identity stored
      · simp only [if_neg hsame]
        exact ⟨.mismatch, rfl⟩

/-- What a service can serve is answered. -/
theorem returns_serve {call : ServiceRequest} (h : s.CanServe call) :
    (s.serve call).Returns call.Answered := by
  cases call with
  | issue identity code => exact returns_of_forall (fun _ => trivial) (s.issue identity code)
  | check identity submitted => exact returns_check h identity submitted

/-- Without a store, an issuance calls none. -/
theorem storeless_issue (hstore : s.hasStore = false) (identity : String) (code : Code) :
    (s.issue identity code).AsksOnly fun q : ServiceCall => q.store? = none := by
  simp only [issue, hstore, Bool.false_eq_true, if_false]
  refine ⟨rfl, fun a => ?_⟩
  rcases a with (_ | _) | _ <;> trivial

/-! ## What a service logs -/

theorem logsOnly_deliver (s : Service) (identity : String) (code : Code) :
    (s.deliver identity code).LogsOnly (fun _ _ => True) fun e => ¬e.IsCheckFailure := by
  intro a _
  rcases a with (_ | _) | _
  · exact ⟨nofun, trivial⟩
  · exact ⟨nofun, trivial⟩
  · exact ⟨nofun, trivial⟩

theorem logsOnly_issue (s : Service) (identity : String) (code : Code) :
    (s.issue identity code).LogsOnly (fun _ _ => True) fun e => ¬e.IsCheckFailure := by
  refine ⟨nofun, ?_⟩
  split
  · intro a _
    rcases a with (_ | _) | _
    · exact ⟨nofun, trivial⟩
    · exact s.logsOnly_deliver identity code
    · exact ⟨nofun, trivial⟩
  · exact s.logsOnly_deliver identity code

theorem logsOnly_check (s : Service) (identity submitted : String) :
    (s.check identity submitted).LogsOnly (fun _ _ => True) fun e => ¬e.IsCheckFailure := by
  unfold check
  split
  · intro found _
    cases found with
    | false => exact ⟨nofun, trivial⟩
    | true =>
      intro stored? _
      cases stored? with
      | none => trivial
      | some stored =>
        by_cases hsame : stored = submitted
        · simp only [if_pos hsame]
          intro removed _
          cases removed <;> exact ⟨nofun, trivial⟩
        · simp only [if_neg hsame]
          exact ⟨nofun, trivial⟩
  · trivial

/-- The service itself never logs that a check failed. -/
theorem logsOnly_serve (s : Service) (call : ServiceRequest) :
    (s.serve call).LogsOnly (fun _ _ => True) fun e => ¬e.IsCheckFailure := by
  cases call with
  | issue identity code => exact s.logsOnly_issue identity code
  | check identity submitted => exact s.logsOnly_check identity submitted

end Service

/-! ## What stores and channels log -/

theorem Redis.not_isCheckFailure_of_complaints (limit : Nat) :
    ∀ (left number : Nat) (delay : UInt64) (faults : List Redis.Fault),
      ∀ e ∈ Redis.complaints limit left number delay faults, ¬e.IsCheckFailure := by
  intro left
  induction left with
  | zero => exact fun _ _ faults e he => by cases faults <;> exact absurd he List.not_mem_nil
  | succ left ih =>
    intro number delay faults
    cases faults with
    | nil => exact fun e he => absurd he List.not_mem_nil
    | cons fault rest =>
      rw [Redis.complaints]
      split
      · rw [List.forall_mem_cons]
        exact ⟨by simp [Event.IsCheckFailure], ih (number + 1) (Redis.nextDelay delay) rest⟩
      · exact fun e he => absurd he List.not_mem_nil

theorem OpenStore.not_isCheckFailure_of_report (store : OpenStore) (call : StoreCall)
    (faults : List Redis.Fault) (refusal? : Option Refusal) :
    ∀ e ∈ store.report call faults refusal?, ¬e.IsCheckFailure := by
  cases store with
  | vault =>
    simp only [report, Vault.report]
    split <;> simp [Event.IsCheckFailure]
  | redis c =>
    rw [report, Redis.Client.report, List.forall_mem_append, List.forall_mem_append]
    refine ⟨⟨?_, Redis.not_isCheckFailure_of_complaints _ _ _ _ _⟩, ?_⟩
    · cases call with
      | set key value lifetime =>
        refine fun e he => List.eq_of_mem_singleton he ▸ ?_
        split <;> simp [Event.IsCheckFailure]
      | get | contains | delete | consume => exact fun e he => absurd he List.not_mem_nil
    · split
      · cases call <;> simp [Event.IsCheckFailure, StoreCall.failure]
      · exact fun e he => absurd he List.not_mem_nil

theorem Channel.not_isCheckFailure_of_report (c : Channel) (m : Message) (outcome : Attempt Bool) :
    ∀ e ∈ c.report m outcome, ¬e.IsCheckFailure := by
  rcases c with _ | r
  · rcases outcome with sent | reason
    · cases sent <;> exact fun e he => List.eq_of_mem_singleton he ▸ nofun
    · exact fun e he => absurd he List.not_mem_nil
  · unfold report
    rw [List.forall_mem_cons]
    refine ⟨nofun, ?_⟩
    rcases outcome with sent | reason
    · cases sent <;> exact fun e he => List.eq_of_mem_singleton he ▸ nofun
    · exact fun e he => absurd he List.not_mem_nil

namespace Backing

/-- The stores and channels of the program never log that a check failed. -/
theorem not_isCheckFailure_of_callIn (b : Backing) (scenes : Nat → Scene) (q : ServiceCall)
    (n : Nat) : ∀ e ∈ (b.callIn scenes q n).events, ¬e.IsCheckFailure := by
  rw [b.events_callIn]
  unfold report
  split
  · exact b.channel.not_isCheckFailure_of_report _ _
  · exact OpenStore.not_isCheckFailure_of_report _ _ _ _
  · exact fun e he => absurd he List.not_mem_nil

/-- Whatever is behind a service, a call that is not for a store goes to its channel. -/
theorem asksOnly_caught (b : Backing) {q : ServiceCall} (h : q.store? = none) :
    (b.caught q).AsksOnly (I := WorldInterface.Fragile) Redis.ForChannel := by
  cases q with
  | send m => exact asksOnly_map (asksOnly_map (Redis.asksOnly_send b.channel m)).fragile
  | set | get | contains | consume => exact absurd h nofun

end Backing

/-! ## One request -/

namespace Http

variable {app : App} {r : Request} {now : String}

/-- The ways to handle a request: one for each endpoint, one for what is not there, and one for a
body that cannot be read. -/
theorem App.handle_cases {P : Flow RequestInterface Response → Prop}
    (missing : app.endpoint? r = none → P (.done notFound))
    (health : app.endpoint? r = some .health → P (.done (healthy app.service.variant now)))
    (rejected : P (.log (.bodyRejected r.rawPath) (.done unreadable)))
    (captcha : app.endpoint? r = some .captcha → ∀ d, P (handleCaptcha code d))
    (verifyCode : app.endpoint? r = some .verifyCode → ∀ d, P (handleVerifyCode code d))
    (check : app.endpoint? r = some .check → ∀ d, P (handleCheck d)) :
    P (app.handle now code r) := by
  have hpayload {α : Type} {decode : Json.Decoder α} {handle : α → Flow RequestInterface Response}
      (h : ∀ d, P (handle d)) : P (app.withPayload decode r handle) := by
    unfold App.withPayload
    cases app.payload? decode r with
    | none => exact rejected
    | some d => exact h d
  unfold App.handle
  cases hendpoint : app.endpoint? r with
  | none => exact missing hendpoint
  | some e =>
    cases e with
    | health => exact health hendpoint
    | captcha => exact hpayload (captcha hendpoint)
    | verifyCode => exact hpayload (verifyCode hendpoint)
    | check => exact hpayload (check hendpoint)

theorem asksOnly_handleCaptcha (code : Code) (d : CaptchaRequest) :
    (handleCaptcha code d).AsksOnly ServiceRequest.Issues := by
  unfold handleCaptcha
  split
  · exact ⟨trivial, fun _ => trivial⟩
  · trivial

theorem asksOnly_handleVerifyCode (code : Code) (d : VerifyCodeRequest) :
    (handleVerifyCode code d).AsksOnly ServiceRequest.Issues := by
  unfold handleVerifyCode
  split
  · exact ⟨trivial, fun _ => trivial⟩
  · trivial

theorem asksOnly_handleCheck {p : ServiceRequest → Prop} (h : ∀ i c, p (.check i c))
    (d : CheckRequest) : (handleCheck d).AsksOnly p := by
  unfold handleCheck
  split
  · refine ⟨h d.email d.code, fun a => ?_⟩
    cases a <;> trivial
  · trivial

/-- An endpoint that only one variant has is there only over a service of that variant. -/
theorem App.variant_of_endpoint? {limit : Nat} {e : Endpoint} {v : Variant}
    (honly : ∀ v', e ∈ endpoints v' → v' = v)
    (h : (App.ofService s limit).endpoint? r = some e) : s.variant = v :=
  honly _ (App.endpoint?_eq_some_iff.1 h).1

/-- The endpoint for checks is there only over a service with a store. -/
theorem App.hasStore_of_check {limit : Nat}
    (h : (App.ofService s limit).endpoint? r = some .check) : s.hasStore = true := by
  refine Service.variant_eq_validating_iff.1 (App.variant_of_endpoint? (fun v hv => ?_) h)
  cases v with
  | validating => rfl
  | generationOnly => exact absurd hv (by decide)

/-- The endpoint that hands codes back is there only over a service without a store. -/
theorem App.not_hasStore_of_captcha {limit : Nat}
    (h : (App.ofService s limit).endpoint? r = some .captcha) : s.hasStore = false := by
  refine Service.variant_eq_generationOnly_iff.1 (App.variant_of_endpoint? (fun v hv => ?_) h)
  cases v with
  | validating => exact absurd hv (by decide)
  | generationOnly => rfl

/-- **An application asks its service only for what it can serve.** -/
theorem App.asksOnly_handle (s : Service) (limit : Nat) (now : String) (code : Code)
    (r : Request) : ((App.ofService s limit).handle now code r).AsksOnly s.CanServe := by
  have hissue {call : ServiceRequest} (h : call.Issues) : s.CanServe call := by
    cases call with
    | issue identity code => trivial
    | check identity submitted => exact h.elim
  refine App.handle_cases (fun _ => trivial) (fun _ => trivial) trivial ?_ ?_ ?_
  · exact fun _ d => (asksOnly_handleCaptcha code d).mono fun _ => hissue
  · exact fun _ d => (asksOnly_handleVerifyCode code d).mono fun _ => hissue
  · exact fun h d => asksOnly_handleCheck (fun _ _ => App.hasStore_of_check h) d

/-- As long as checks are answered with results, no check is said to have failed. -/
theorem App.logsOnly_handle (app : App) (now : String) (code : Code) (r : Request) :
    (app.handle now code r).LogsOnly ServiceRequest.Answered fun e => ¬e.IsCheckFailure := by
  refine App.handle_cases (fun _ => trivial) (fun _ => trivial) ⟨nofun, trivial⟩ ?_ ?_ ?_
  · intro _ d
    unfold handleCaptcha
    split
    · exact fun _ _ => trivial
    · exact ⟨nofun, trivial⟩
  · intro _ d
    unfold handleVerifyCode
    split
    · exact fun _ _ => trivial
    · exact ⟨nofun, trivial⟩
  · intro _ d
    unfold handleCheck
    split
    · rintro a ⟨c, rfl⟩
      trivial
    · exact ⟨nofun, trivial⟩

/-- A response without a code in it. -/
def Response.Discreet (response : Response) : Prop := response.member? "captcha" = none

theorem Response.discreet_of_writes {response : Response} {e : Endpoint}
    (h : e.Writes response.body) (hne : e ≠ .captcha) : response.Discreet := by
  obtain ⟨status, body⟩ := response
  cases e with
  | health => exact h.elim
  | captcha => exact absurd rfl hne
  | verifyCode | check =>
    obtain ⟨d, rfl⟩ := h
    rfl

/-- Over a service with a store no response has a code in it. -/
theorem App.returns_handle_discreet (hstore : s.hasStore = true) (limit : Nat) (now : String)
    (code : Code) (r : Request) :
    ((App.ofService s limit).handle now code r).Returns Response.Discreet := by
  refine App.handle_cases (fun _ => rfl) (fun _ => rfl) rfl ?_ ?_ ?_
  · intro h
    exact absurd (App.not_hasStore_of_captcha h) (by simp [hstore])
  · intro _ d
    exact (returns_handleVerifyCode code d).mono fun _ h => Response.discreet_of_writes h nofun
  · intro _ d
    exact (returns_handleCheck d).mono fun _ h => Response.discreet_of_writes h nofun

/-- A request is posted to an endpoint of a variant. -/
def Request.PostedTo (r : Request) (v : Variant) : Prop :=
  ∃ e ∈ endpoints v, e.route = (r.method, r.decodedPath) ∧ r.method = "POST"

/-- A request that is posted to no endpoint is handled without the service. -/
theorem App.silent_handle (h : ¬r.PostedTo app.routes) (now : String) (code : Code) :
    (app.handle now code r).AsksOnly fun _ => False := by
  have hnot (e : Endpoint) (hpost : e.route.1 = "POST") : app.endpoint? r ≠ some e := by
    intro he
    obtain ⟨hmounted, hroute⟩ := App.endpoint?_eq_some_iff.1 he
    rw [hroute] at hpost
    exact h ⟨e, hmounted, hroute, hpost⟩
  refine App.handle_cases (fun _ => trivial) (fun _ => trivial) trivial ?_ ?_ ?_
  · exact fun he => absurd he (hnot .captcha rfl)
  · exact fun he => absurd he (hnot .verifyCode rfl)
  · exact fun he => absurd he (hnot .check rfl)

/-! ## One request after another -/

/-- A request with what its handling draws on: the time, and the code that will be drawn. -/
structure Arrival where
  now : String
  code : Code
  request : Request
deriving Repr

namespace App

/-- Answer a request where the surroundings may break down. -/
def answerOne (app : App) (a : Arrival) : Flow ServiceInterface.Fragile (Attempt Response) :=
  (app.respond a.now a.code a.request).fragile

/-- Answer one request after another. A request during which the surroundings break down is not
answered, and the next one is handled as ever. -/
def answerAll (app : App) : List Arrival → Flow ServiceInterface.Fragile (List (Attempt Response))
  | [] => .done []
  | a :: rest => (app.answerOne a).bind fun answer => (app.answerAll rest).map (answer :: ·)

/-- What each request may ask is all that they may ask. -/
theorem asksOnly_answerAll {p : ServiceCall → Prop}
    (h : ∀ a : Arrival, (app.answerOne a).AsksOnly (I := ServiceInterface.Fragile) p)
    (arrivals : List Arrival) :
    (app.answerAll arrivals).AsksOnly (I := ServiceInterface.Fragile) p := by
  induction arrivals with
  | nil => trivial
  | cons a rest ih => exact asksOnly_bind (h a) fun _ => asksOnly_map ih

/-- What each request may log is all that they may log. -/
theorem logsOnly_answerAll {p : Event → Prop}
    (h : ∀ a : Arrival, (app.answerOne a).LogsOnly (fun _ _ => True) p) (arrivals : List Arrival) :
    (app.answerAll arrivals).LogsOnly (fun _ _ => True) p := by
  induction arrivals with
  | nil => trivial
  | cons a rest ih =>
    refine logsOnly_bind (h a) (returns_of_forall (fun _ => trivial) _) fun answer _ => ?_
    exact logsOnly_bind ih (returns_of_forall (fun _ => trivial) _) fun _ _ => trivial

/-- What each response is, all responses are. -/
theorem returns_answerAll {p : Response → Prop}
    (h : ∀ a : Arrival, (app.answerOne a).Returns fun r =>
      ∀ response, r = .done response → p response)
    (arrivals : List Arrival) :
    (app.answerAll arrivals).Returns fun rs => ∀ response, .done response ∈ rs → p response := by
  induction arrivals with
  | nil => exact fun _ hnot => absurd hnot List.not_mem_nil
  | cons a rest ih =>
    refine returns_bind (h a) fun answer hanswer => returns_map ih fun rs hrs response hmem => ?_
    rcases List.mem_cons.1 hmem with hfirst | hrest
    · exact hanswer response hfirst.symm
    · exact hrs response hrest

end App

end Http

/-! ## The program -/

/-- The program opens a store for a service if the variant of its settings keeps codes. -/
theorem returns_openNeededStore (settings : Settings.App) :
    (openNeededStore settings).Returns fun opened => ∀ store? : Option OpenStore,
      opened = .ok store? → ∀ channel config,
        (Backing.service ⟨store?, channel⟩ config).variant = settings.verification.variant := by
  have hrequires : settings.requiresStore = (settings.verification.variant == .validating) := rfl
  unfold openNeededStore
  cases hvariant : settings.verification.variant with
  | validating =>
    rw [hrequires, hvariant, if_pos (by decide)]
    refine returns_map (returns_of_forall (fun _ => trivial) (openStore settings.cache)) ?_
    intro opened _ store? hopened channel config
    cases opened with
    | error fault => exact absurd hopened nofun
    | ok store =>
      obtain rfl : some store = store? := Except.ok.inj hopened
      rfl
  | generationOnly =>
    rw [hrequires, hvariant, if_neg (by decide)]
    intro store? hopened channel config
    obtain rfl : none = store? := Except.ok.inj hopened
    rfl

/-- A program that was started has the application over its backing, and the variant of its
settings. -/
theorem returns_start (settings : Settings.App) :
    (start settings).Returns fun started => ∀ l, started = .ok l →
      l.app = .ofService
          (l.backing.service (.ofSettings settings.verification settings.email.sender))
          settings.server.maxPayloadSize.toNat
        ∧ l.app.service.variant = settings.verification.variant := by
  refine returns_bind (returns_of_forall (fun _ => trivial) (openChannel settings.email)) ?_
  intro channel _
  refine returns_bind (returns_openNeededStore settings) ?_
  intro opened hopened
  cases opened with
  | error fault => exact fun _ hl => absurd hl nofun
  | ok store? =>
    intro bound
    cases bound with
    | false => exact fun _ hl => absurd hl nofun
    | true =>
      rintro l hl
      obtain rfl := Except.ok.inj hl
      exact ⟨rfl, hopened store? rfl channel _⟩

/-! ## Variant, routes and store -/

namespace Http

variable {app : App}

/-- The application over a service agrees with it, whatever requests come one after another and
whatever the surroundings do. -/
structure Agreement (s : Service) (limit : Nat) (arrivals : List Arrival) : Prop where
  /-- Only what the service can serve is asked of it, and is answered, with a result if it is a
  check. -/
  served (a : Arrival) : ((App.ofService s limit).handle a.now a.code a.request).AsksOnly
    fun call : ServiceRequest => s.CanServe call ∧ (s.serve call).Returns call.Answered
  /-- No check is said to have failed, unless the surroundings say so themselves. -/
  unfailing {σ : Type} (answer : Surroundings ServiceInterface.Fragile σ) (x : σ)
    (h : ∀ q y, ∀ e ∈ (answer q y).events, ¬e.IsCheckFailure) :
    ∀ e ∈ (((App.ofService s limit).answerAll arrivals).run answer x).events, ¬e.IsCheckFailure
  /-- Without a store, a service is not asked to check anything. -/
  unchecked (h : s.variant = .generationOnly) (a : Arrival) :
    ((App.ofService s limit).handle a.now a.code a.request).AsksOnly ServiceRequest.Issues
  /-- Without a store, no store is called. -/
  storeless {σ : Type} (answer : Surroundings ServiceInterface.Fragile σ) (x : σ)
    (h : s.variant = .generationOnly) :
    ∀ exchange ∈ ((App.ofService s limit).answerAll arrivals).trace answer x,
      ServiceCall.store? exchange.question = none
  /-- With a store, no response has a code in it. -/
  discreet {σ : Type} (answer : Surroundings ServiceInterface.Fragile σ) (x : σ)
    (h : s.variant = .validating) :
    ∀ response,
      .done response ∈ (((App.ofService s limit).answerAll arrivals).run answer x).result →
        response.member? "captcha" = none
  /-- A request that is not posted to an endpoint of the variant leaves the surroundings alone. -/
  aloof {σ : Type} (answer : Surroundings ServiceInterface.Fragile σ) (x : σ) (a : Arrival)
    (h : ¬a.request.PostedTo s.variant) :
    ((App.ofService s limit).answerOne a).trace answer x = []
      ∧ (((App.ofService s limit).answerOne a).run answer x).state = x

theorem App.asksOnly_answerOne_of_storeless (hstore : s.hasStore = false) (limit : Nat)
    (a : Arrival) : ((App.ofService s limit).answerOne a).AsksOnly (I := ServiceInterface.Fragile)
      fun q : ServiceCall => q.store? = none := by
  have hserve (call : ServiceRequest) (h : s.CanServe call) :
      (s.serve call).AsksOnly fun q : ServiceCall => q.store? = none := by
    cases call with
    | issue identity code => exact s.storeless_issue hstore identity code
    | check identity submitted => exact absurd (hstore.symm.trans h) nofun
  exact (asksOnly_interpret (I := RequestInterface)
    (App.asksOnly_handle s limit a.now a.code a.request) hserve).fragile

theorem App.logsOnly_answerOne (s : Service) (limit : Nat) (a : Arrival) :
    ((App.ofService s limit).answerOne a).LogsOnly (fun _ _ => True)
      fun e => ¬e.IsCheckFailure :=
  (logsOnly_interpret (I := RequestInterface) (App.asksOnly_handle s limit a.now a.code a.request)
    (App.logsOnly_handle _ a.now a.code a.request) (fun call _ => s.logsOnly_serve call)
    fun _ h => Service.returns_serve h).fragile

theorem App.returns_answerOne (hstore : s.hasStore = true) (limit : Nat) (a : Arrival) :
    ((App.ofService s limit).answerOne a).Returns fun r => ∀ response, r = .done response →
      response.Discreet :=
  (returns_interpret (I := RequestInterface) s.serve
    (App.returns_handle_discreet hstore limit a.now a.code a.request)).fragile

/-- A request that is posted to no endpoint asks nothing. -/
theorem App.silent_answerOne {a : Arrival} (h : ¬a.request.PostedTo app.routes) :
    (app.answerOne a).AsksOnly fun _ => False := by
  have hrespond : (app.respond a.now a.code a.request).AsksOnly fun _ => False :=
    asksOnly_interpret (I := RequestInterface) (App.silent_handle h a.now a.code)
      fun _ hask => hask.elim
  exact hrespond.fragile

theorem agreement (s : Service) (limit : Nat) (arrivals : List Arrival) :
    Agreement s limit arrivals where
  served a := (App.asksOnly_handle s limit a.now a.code a.request).mono fun _ h =>
    ⟨h, Service.returns_serve h⟩
  unfailing answer x h :=
    (App.logsOnly_answerAll (App.logsOnly_answerOne s limit) arrivals).run h x
  unchecked h a := by
    have hstore := Service.variant_eq_generationOnly_iff.1 h
    refine (App.asksOnly_handle s limit a.now a.code a.request).mono fun call hcall => ?_
    cases call with
    | issue identity code => trivial
    | check identity submitted => exact absurd (hstore.symm.trans hcall) nofun
  storeless answer x h := by
    have hstore := Service.variant_eq_generationOnly_iff.1 h
    exact (run_leads answer _ x).asksOnly
      (App.asksOnly_answerAll (App.asksOnly_answerOne_of_storeless hstore limit) arrivals)
  discreet answer x h :=
    (App.returns_answerAll (App.returns_answerOne (Service.variant_eq_validating_iff.1 h) limit)
      arrivals).run answer x
  aloof answer x a h := by
    have hsilent : ((App.ofService s limit).answerOne a).AsksOnly fun _ => False :=
      App.silent_answerOne h
    exact ⟨trace_eq_nil hsilent answer x, run_state_eq hsilent answer x⟩

/-- Over the stores and channels of the program, the requests log no failed check, and without a
store they come to the channel alone. -/
theorem agreement_of_backing (b : Backing) (config : ServiceConfig) (limit : Nat)
    (arrivals : List Arrival) :
    (∀ scenes n, ∀ e ∈ (((App.ofService (b.service config) limit).answerAll arrivals).run
        (b.callIn scenes) n).events, ¬e.IsCheckFailure)
      ∧ ∀ {σ : Type} (world : Surroundings WorldInterface.Fragile σ) (x : σ), b.store? = none →
        ∀ exchange ∈ (((App.ofService (b.service config) limit).answerAll arrivals).interpret
          b.caught).trace world x, Redis.ForChannel exchange.question := by
  constructor
  · intro scenes n
    exact (agreement (b.service config) limit arrivals).unfailing (b.callIn scenes) n
      fun q n => b.not_isCheckFailure_of_callIn scenes q n
  · intro σ world x hstore
    have hstoreless : (b.service config).hasStore = false := by
      rw [Backing.service, hstore]
      rfl
    refine (run_leads world _ x).asksOnly ?_
    exact asksOnly_interpret (I := ServiceInterface.Fragile)
      (App.asksOnly_answerAll (App.asksOnly_answerOne_of_storeless hstoreless limit) arrivals)
      fun q hq => b.asksOnly_caught hq

end Http

/-- **Variant, routes and store agree**, for any service and any requests one after another, over
the stores and the channels of the program down to the world, and from the settings up. -/
theorem variant_routes_and_store_agree :
    (∀ s limit arrivals, Http.Agreement s limit arrivals)
      ∧ (∀ (b : Backing) config limit arrivals,
        let requests := (Http.App.ofService (b.service config) limit).answerAll arrivals
        (∀ scenes n, ∀ e ∈ (requests.run (b.callIn scenes) n).events, ¬e.IsCheckFailure)
          ∧ ∀ {σ : Type} (world : Surroundings WorldInterface.Fragile σ) (x : σ), b.store? = none →
            ∀ exchange ∈ (requests.interpret b.caught).trace world x,
              Redis.ForChannel exchange.question)
      ∧ ∀ settings : Settings.App,
        ((openNeededStore settings).Returns fun opened => ∀ store? : Option OpenStore,
          opened = .ok store? → ∀ channel config,
            (Backing.service ⟨store?, channel⟩ config).variant = settings.verification.variant)
        ∧ (start settings).Returns fun started => ∀ l, started = .ok l →
          l.app = .ofService
              (l.backing.service (.ofSettings settings.verification settings.email.sender))
              settings.server.maxPayloadSize.toNat
            ∧ l.app.service.variant = settings.verification.variant :=
  ⟨Http.agreement, Http.agreement_of_backing,
    fun settings => ⟨returns_openNeededStore settings, returns_start settings⟩⟩

/-- A check that is posted to an application without a store finds nothing there, and one that is
posted to an application with a store gets a verdict and no code. -/
theorem check_is_for_variant_with_store :
    let body := Text.utf8Bytes "\x7b\"email\":\"a@x.com\",\"code\":\"000001\"\x7d".toList
    let a : Http.Arrival :=
      ⟨"", Code.ofDraw 1, ⟨"POST", "/api/v1/verify-code/check", some "application/json", body⟩⟩
    let scenes : Nat → Scene := fun _ =>
      ⟨Vault.insert {} "verify_code_a@x.com" ⟨"000001", none⟩, 1000, .ok .nil, {}, "", ⟨"", "", ""⟩,
        .ok (), none⟩
    let bare : Backing := ⟨none, .mock⟩
    let keeping : Backing := ⟨some .vault, .mock⟩
    let app (b : Backing) := Http.App.ofService (b.service {}) 16384
    let answers (b : Backing) := ((app b).answerAll [a, a]).run (b.callIn scenes) 0
    (answers bare).result = [.done Http.notFound, .done Http.notFound]
      ∧ (((app bare).answerOne a).run (bare.callIn scenes) 0).state = 0
      ∧ (∀ e ∈ (answers keeping).events, ¬e.IsCheckFailure)
      ∧ ∃ accepted, (answers keeping).result = [.done accepted, .done accepted]
        ∧ accepted.member? "valid" = some (.bool true)
        ∧ accepted.member? "captcha" = none := by
  intro body a scenes bare keeping app answers
  obtain ⟨hservice, hbacking, -⟩ := variant_routes_and_store_agree
  have hmissing : ¬a.request.PostedTo .generationOnly := by
    have hroutes : ∀ e ∈ Http.endpoints .generationOnly,
        e.route ≠ (a.request.method, a.request.decodedPath) := by decide +kernel
    rintro ⟨e, hmounted, hroute, -⟩
    exact hroutes e hmounted hroute
  have hmissed : (app bare).handle "" a.code a.request = .done Http.notFound := by
    have hendpoint : (app bare).endpoint? a.request = none := by decide +kernel
    rw [Http.App.handle, hendpoint]
  have hfound : (app keeping).handle "" a.code a.request
      = Http.handleCheck ⟨"a@x.com", "000001"⟩ := by
    have hendpoint : (app keeping).endpoint? a.request = some .check := by decide +kernel
    have hpayload : (app keeping).payload? Http.CheckRequest.decode a.request
        = some ⟨"a@x.com", "000001"⟩ := by decide +kernel
    simp only [Http.App.handle, hendpoint, Http.App.withPayload, hpayload]
  have hbare : (answers bare).result = [.done Http.notFound, .done Http.notFound] := by
    simp only [answers, Http.App.answerAll, Http.App.answerOne, Http.App.respond, a, hmissed]
    rfl
  have hkeeping : (answers keeping).result
      = [.done ⟨200, (Http.CheckResponse.ofCheck "a@x.com" .accepted).toJson⟩,
        .done ⟨200, (Http.CheckResponse.ofCheck "a@x.com" .accepted).toJson⟩] := by
    simp only [answers, Http.App.answerAll, Http.App.answerOne, Http.App.respond, a, hfound]
    rfl
  refine ⟨hbare, ?_, (hbacking keeping {} 16384 [a, a]).1 scenes 0, _, hkeeping, rfl, ?_⟩
  · exact ((hservice (bare.service {}) 16384 []).aloof (bare.callIn scenes) 0 a hmissing).2
  · refine (hservice (keeping.service {}) 16384 [a, a]).discreet (keeping.callIn scenes) 0 rfl _ ?_
    rw [hkeeping]
    exact List.mem_cons_self

end Passcode
