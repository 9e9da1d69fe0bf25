import Passcode.Proofs.Http.Shape
import Passcode.Proofs.Service.Scenes

/-!
# The log shows neither codes nor addresses

Two requests whose identities have the same mask, and whose calls end alike, log the same, whatever
was generated, stored or submitted. So the log tells of an address no more than its mask, and of a
code nothing.

The two requests need not ask the same: the keys and the values of their calls differ. It is enough
that their calls *look* the same, and that they look the same again after answers that show the
same. Where one of them asks and the other is done, their calls did not end alike.

## Main definitions

* `CallLook` — what the log may show of a call
* `SameLook` — flows that log the same as long as their calls end alike
* `Http.Endpoint.rejection` — what is logged about a request that never reaches the service

## Main statements

* `SameLook.events_eq` — flows that look the same, with calls that end alike
* `Service.sameLook_issue`, `Service.sameLook_check` — the two requests
* `Http.App.events_of_not_acceptable` — a rejected request
* `log_shows_only_masks` — what the log shows
-/

namespace Passcode

open Passcode.Flow

variable {α β : Type}

/-! ## Calls that look the same -/

/-- What the log may show of a call. -/
inductive CallLook where
  | set (lifetime : Int)
  | get
  | contains
  | consume
  | send (recipient : String)
deriving Repr, DecidableEq

/-- What the log may show of a call; of a recipient, the mask. -/
def ServiceCall.look : ServiceCall → CallLook
  | .set _ _ lifetime => .set lifetime
  | .get _ => .get
  | .contains _ => .contains
  | .consume .. => .consume
  | .send m => .send (Mask.identity m.recipient)

/-- Whether a breakdown is caught. -/
def CallLook.isCaught : CallLook → Bool
  | set _ | send _ => true
  | get | contains | consume => false

/-- Where the same is shown of two messages, both were sent, both failed, or both broke down with
the same text. -/
theorem ServiceCall.shows_send_cases {m₁ m₂ : Message} {a₁ a₂ : Attempt Delivery}
    (h : (ServiceCall.send m₁).shows a₁ = (ServiceCall.send m₂).shows a₂) :
    (∃ id₁ id₂, a₁ = .done (.sent id₁) ∧ a₂ = .done (.sent id₂))
      ∨ (∃ text₁ text₂, a₁ = .done (.failed text₁) ∧ a₂ = .done (.failed text₂))
      ∨ ∃ reason, a₁ = .panicked reason ∧ a₂ = .panicked reason := by
  rcases a₁ with (id₁ | text₁) | reason₁
  · rcases a₂ with (id₂ | text₂) | reason₂
    · exact .inl ⟨id₁, id₂, rfl, rfl⟩
    · exact absurd h nofun
    · exact absurd h nofun
  · rcases a₂ with (id₂ | text₂) | reason₂
    · exact absurd h nofun
    · exact .inr (.inl ⟨text₁, text₂, rfl, rfl⟩)
    · exact absurd h nofun
  · rcases a₂ with (id₂ | text₂) | reason₂
    · exact absurd h nofun
    · exact absurd h nofun
    · obtain rfl : reason₁ = reason₂ := Attempt.panicked.inj h
      exact .inr (.inr ⟨reason₁, rfl, rfl⟩)

theorem ServiceCall.exists_of_outcome_done {q : ServiceCall} {r : Attempt q.Answer}
    {yes : Bool} (h : q.outcome r = .done yes) : ∃ a, r = .done a := by
  cases r with
  | done a => exact ⟨a, rfl⟩
  | panicked reason => exact absurd h nofun

/-- Where a breakdown is not caught, no answer looks like one. -/
theorem ServiceCall.panicked_of_outcome {q : ServiceCall} (hcaught : q.look.isCaught = false)
    {r : Attempt q.Answer} {reason : Option String} (h : q.outcome r = .panicked reason) :
    r = .panicked reason := by
  cases r with
  | panicked reason' =>
    obtain rfl : reason' = reason := Attempt.panicked.inj h
    rfl
  | done a =>
    cases q with
    | set key value lifetime | send m => exact absurd hcaught nofun
    | get key | contains key | consume key expected => exact absurd h nofun

theorem Attempt.exists_catching_eq_done (r : Attempt (Attempt α)) :
    ∃ a, r.catching = .done a := by
  cases r with
  | done a => exact ⟨a, rfl⟩
  | panicked reason => exact ⟨.panicked reason, rfl⟩

namespace Backing

variable {b : Backing} {q q₁ q₂ : ServiceCall} {w₁ w₂ : Nat → Scene} {n₁ n₂ : Nat}

/-- What a call logs depends on how it looks, and on how it ended. -/
theorem report_eq_of_look (h : q₁.look = q₂.look) (b : Backing) (e : Ending) :
    b.report q₁ e = b.report q₂ e := by
  obtain ⟨store?, channel⟩ := b
  cases q₁ <;> cases q₂ <;>
    simp only [ServiceCall.look, reduceCtorEq, CallLook.set.injEq, CallLook.send.injEq] at h
  case set key₁ value₁ lifetime key₂ value₂ lifetime' =>
    subst h
    rcases store? with _ | _ | c
    · rfl
    · simp only [report, ServiceCall.store?, OpenStore.report]
      rcases e.refusal? with _ | _ | _ <;> rfl
    · rfl
  case send m₁ m₂ =>
    simp only [report]
    cases channel <;> cases e.outcome <;> simp only [Channel.report, h]
  all_goals rcases store? with _ | _ | c <;> rfl

/-- A call whose breakdown is caught is answered. -/
theorem callIn_done_of_isCaught (h : q.look.isCaught = true) (b : Backing)
    (scenes : Nat → Scene) (n : Nat) : ∃ a, (b.callIn scenes q n).result = .done a := by
  cases q with
  | set key value lifetime =>
    have hrun : b.callIn scenes (.set key value lifetime) n = _ := run_map _ _ _ n
    rw [hrun]
    exact Attempt.exists_catching_eq_done _
  | send m =>
    have hrun : b.callIn scenes (.send m) n = _ := run_map _ _ _ n
    rw [hrun]
    exact Attempt.exists_catching_eq_done _
  | get key | contains key | consume key expected => exact absurd h nofun

/-- Two calls that look the same and end with the same outcome are both answered, and the answers
show the same, or they both break down. -/
theorem results_alike (hlook : q₁.look = q₂.look)
    (h : q₁.outcome (b.callIn w₁ q₁ n₁).result = q₂.outcome (b.callIn w₂ q₂ n₂).result) :
    (∃ a₁ a₂, (b.callIn w₁ q₁ n₁).result = .done a₁ ∧ (b.callIn w₂ q₂ n₂).result = .done a₂
        ∧ q₁.shows a₁ = q₂.shows a₂)
      ∨ ∃ reason, (b.callIn w₁ q₁ n₁).result = .panicked reason
        ∧ (b.callIn w₂ q₂ n₂).result = .panicked reason := by
  cases hcaught : q₁.look.isCaught with
  | true =>
    obtain ⟨a₁, h₁⟩ := callIn_done_of_isCaught hcaught b w₁ n₁
    obtain ⟨a₂, h₂⟩ := callIn_done_of_isCaught (hlook ▸ hcaught) b w₂ n₂
    rw [h₁, h₂] at h
    exact .inl ⟨a₁, a₂, h₁, h₂, h⟩
  | false =>
    have hcaught₂ : q₂.look.isCaught = false := hlook ▸ hcaught
    cases houtcome : q₁.outcome (b.callIn w₁ q₁ n₁).result with
    | done yes =>
      obtain ⟨a₁, h₁⟩ := ServiceCall.exists_of_outcome_done houtcome
      obtain ⟨a₂, h₂⟩ := ServiceCall.exists_of_outcome_done (h.symm.trans houtcome)
      rw [h₁, h₂] at h
      exact .inl ⟨a₁, a₂, h₁, h₂, h⟩
    | panicked reason =>
      exact .inr ⟨reason, ServiceCall.panicked_of_outcome hcaught houtcome,
        ServiceCall.panicked_of_outcome hcaught₂ (h.symm.trans houtcome)⟩

end Backing

/-! ## Flows that look the same -/

/-- Two flows log the same, and ask what looks the same, as long as the answers show the same. From
where one asks and the other asks nothing more, they may differ. -/
inductive SameLook : Flow ServiceInterface α → Flow ServiceInterface β → Prop
  | done (a : α) (b : β) : SameLook (.done a) (.done b)
  | log (e : Event) {m₁ : Flow ServiceInterface α} {m₂ : Flow ServiceInterface β}
      (rest : SameLook m₁ m₂) : SameLook (.log e m₁) (.log e m₂)
  | ask {q₁ q₂ : ServiceCall} {next₁ : q₁.Answer → Flow ServiceInterface α}
      {next₂ : q₂.Answer → Flow ServiceInterface β} (look : q₁.look = q₂.look)
      (rest : ∀ a₁ a₂, q₁.shows a₁ = q₂.shows a₂ → SameLook (next₁ a₁) (next₂ a₂)) :
      SameLook (.ask q₁ next₁) (.ask q₂ next₂)
  | onlyFirst (q : ServiceCall) (next : q.Answer → Flow ServiceInterface α)
      {m : Flow ServiceInterface β} (silent : m.AsksOnly fun _ => False) :
      SameLook (.ask q next) m
  | onlySecond (q : ServiceCall) (next : q.Answer → Flow ServiceInterface β)
      {m : Flow ServiceInterface α} (silent : m.AsksOnly fun _ => False) :
      SameLook m (.ask q next)

/-- A flow that asks nothing has no calls that could end. -/
theorem Backing.endings_eq_nil {b : Backing} {scenes : Nat → Scene} {m : Flow ServiceInterface α}
    (h : m.AsksOnly fun _ => False) (n : Nat) : b.endings scenes m n = [] := by
  induction m generalizing n with
  | done a => rfl
  | log e next ih => exact ih h n
  | ask q next ih => exact h.1.elim

/-- **Flows that look the same** log the same, if their calls end alike. -/
theorem SameLook.events_eq {m₁ : Flow ServiceInterface α} {m₂ : Flow ServiceInterface β}
    (h : SameLook m₁ m₂) {b : Backing} {w₁ w₂ : Nat → Scene} {n₁ n₂ : Nat}
    (hend : b.endings w₁ m₁ n₁ = b.endings w₂ m₂ n₂) :
    (b.runIn w₁ m₁ n₁).events = (b.runIn w₂ m₂ n₂).events := by
  induction h generalizing n₁ n₂ with
  | done a b => rfl
  | log e rest ih => exact congrArg (e :: ·) (ih hend)
  | @ask q₁ q₂ next₁ next₂ look rest ih =>
    rw [Backing.endings, Backing.endings] at hend
    obtain ⟨hfirst, hrest⟩ := List.cons.inj hend
    have hcall : (b.callIn w₁ q₁ n₁).events = (b.callIn w₂ q₂ n₂).events :=
      calc (b.callIn w₁ q₁ n₁).events
        _ = b.report q₁ (b.ending w₁ q₁ n₁) := b.events_callIn w₁ q₁ n₁
        _ = b.report q₂ (b.ending w₂ q₂ n₂) := by rw [hfirst, b.report_eq_of_look look]
        _ = (b.callIn w₂ q₂ n₂).events := (b.events_callIn w₂ q₂ n₂).symm
    rw [b.runIn_ask, b.runIn_ask, hcall]
    -- The calls end with the same outcome, so both flows go on from here or neither does.
    obtain ⟨a₁, a₂, h₁, h₂, hshow⟩ | ⟨reason, h₁, h₂⟩ :=
      b.results_alike look (congrArg Ending.outcome hfirst)
    · rw [h₁, h₂] at hrest ⊢
      exact congrArg _ (ih a₁ a₂ hshow hrest)
    · rw [h₁, h₂]
  | onlyFirst q next silent =>
    rw [b.endings_eq_nil silent, Backing.endings] at hend
    exact absurd hend nofun
  | onlySecond q next silent =>
    rw [b.endings_eq_nil silent, Backing.endings] at hend
    exact absurd hend nofun

/-! ## The two requests -/

namespace Service

variable {i₁ i₂ : String}

theorem sameLook_afterPanic (h : Mask.identity i₁ = Mask.identity i₂) (reason : Option String) :
    SameLook (afterPanic i₁ reason) (afterPanic i₂ reason) := by
  rw [afterPanic, afterPanic, h]
  exact .log _ (.done _ _)

theorem sameLook_deliver (s : Service) (h : Mask.identity i₁ = Mask.identity i₂)
    (c₁ c₂ : Code) : SameLook (s.deliver i₁ c₁) (s.deliver i₂ c₂) := by
  refine .ask (congrArg CallLook.send h) fun a₁ a₂ hshow => ?_
  obtain ⟨_, _, rfl, rfl⟩ | ⟨_, _, rfl, rfl⟩ | ⟨reason, rfl, rfl⟩ :=
    ServiceCall.shows_send_cases hshow
  · simp only [h]
    exact .log _ (.done _ _)
  · simp only [h]
    exact .log _ (.done _ _)
  · exact sameLook_afterPanic h reason

/-- **Issuing** looks the same for identities with the same mask. -/
theorem sameLook_issue (s : Service) (h : Mask.identity i₁ = Mask.identity i₂) (c₁ c₂ : Code) :
    SameLook (s.issue i₁ c₁) (s.issue i₂ c₂) := by
  rw [issue, issue, h]
  refine .log _ ?_
  split
  · refine .ask rfl fun a₁ a₂ hshow => ?_
    obtain rfl : a₁ = a₂ := hshow
    rcases a₁ with (_ | _) | reason
    · exact .log _ (.done _ _)
    · exact s.sameLook_deliver h c₁ c₂
    · exact sameLook_afterPanic h reason
  · exact s.sameLook_deliver h c₁ c₂

/-- **Checking** looks the same for identities with the same mask, whatever is submitted. -/
theorem sameLook_check (s : Service) (h : Mask.identity i₁ = Mask.identity i₂)
    (submitted₁ submitted₂ : String) :
    SameLook (s.check i₁ submitted₁) (s.check i₂ submitted₂) := by
  rw [check, check, h]
  split
  · refine .ask rfl fun found₁ found₂ hshow => ?_
    obtain rfl : found₁ = found₂ := Attempt.done.inj hshow
    cases found₁ with
    | false => exact .log _ (.done _ _)
    | true =>
      refine .ask rfl fun stored₁ stored₂ hshow => ?_
      have hsome : stored₁.isSome = stored₂.isSome := Attempt.done.inj hshow
      cases stored₁ with
      | none =>
        obtain rfl : stored₂ = none :=
          Option.isNone_iff_eq_none.1 (Option.isSome_eq_false_iff.1 hsome.symm)
        exact .done _ _
      | some stored₁ =>
        obtain ⟨stored₂, rfl⟩ := Option.isSome_iff_exists.1 hsome.symm
        -- One comparison may succeed and the other fail; then only one of the two goes on to ask.
        by_cases h₁ : stored₁ = submitted₁ <;> by_cases h₂ : stored₂ = submitted₂
        · simp only [if_pos h₁, if_pos h₂, consume, h]
          refine .ask rfl fun removed₁ removed₂ hshow => ?_
          obtain rfl : removed₁ = removed₂ := Attempt.done.inj hshow
          cases removed₁ <;> exact .log _ (.done _ _)
        · simp only [if_pos h₁, if_neg h₂, consume]
          exact .onlyFirst _ _ trivial
        · simp only [if_neg h₁, if_pos h₂, consume]
          exact .onlySecond _ _ trivial
        · simp only [if_neg h₁, if_neg h₂]
          exact .log _ (.done _ _)
  · exact .done _ _

/-- An issuance ends with a write that is refused. -/
theorem issue_of_refused {s : Service} (hstore : s.hasStore = true) {b : Backing}
    {scenes : Nat → Scene} (identity : String) (code : Code) {n : Nat} :
    let q : ServiceCall := .set (s.config.keyFor identity) code.text s.config.codeLifetime
    (b.callIn scenes q n).result = .done (.done false) →
    b.endings scenes (s.issue identity code) n = [b.ending scenes q n]
      ∧ (b.runIn scenes (s.issue identity code) n).events
        = .codeGenerated (Mask.identity identity) s.variant
          :: ((b.callIn scenes q n).events ++ [.codeNotStored (Mask.identity identity)]) := by
  intro q h
  rw [issue, if_pos hstore]
  constructor
  · rw [Backing.endings, Backing.endings, h]
    rfl
  · refine (congrArg (.codeGenerated (Mask.identity identity) s.variant :: ·)
      (b.runIn_ask _ _ n)).trans ?_
    rw [h]
    rfl

end Service

/-! ## Rejected requests -/

namespace Http

/-- What is logged about a request with an address or a code that is too short or too long. -/
def Endpoint.rejection : Endpoint → String → List Event
  | .health, _ => []
  | .captcha, email => [.captchaRejected (Mask.identity email)]
  | .verifyCode, email => [.verifyCodeRejected (Mask.identity email)]
  | .check, email => [.checkRejected (Mask.identity email)]

/-- A request to an endpoint holds an address, and the address or the submitted code is too short or
too long. -/
structure App.Rejects (app : App) (r : Request) (e : Endpoint) (email : String) : Prop where
  endpoint : app.endpoint? r = some e
  refused : ∃ submitted?, r.Reads app.limit e email submitted? ∧ ¬Acceptable email submitted?

/-- **A rejected request** logs its rejection, and nothing else. -/
theorem App.events_of_rejects {app : App} {r : Request} {e : Endpoint} {email : String}
    (h : app.Rejects r e email) (b : Backing) (scenes : Nat → Scene) (now : String) (code : Code)
    (n : Nat) : (b.runIn scenes (app.respond now code r) n).events = e.rejection email := by
  obtain ⟨hendpoint, submitted?, hreads, hnot⟩ := h
  rw [respond, handle, hendpoint]
  cases e with
  | health => exact hreads.elim
  | captcha =>
    obtain ⟨d, hd, rfl, rfl⟩ := hreads
    have hinvalid := mt CaptchaRequest.invalidFields_eq_nil_iff.1 hnot
    simp only [withPayload_of_holds hd, handleCaptcha, if_neg hinvalid]
    rfl
  | verifyCode =>
    obtain ⟨d, hd, rfl, rfl⟩ := hreads
    have hinvalid := mt VerifyCodeRequest.invalidFields_eq_nil_iff.1 hnot
    simp only [withPayload_of_holds hd, handleVerifyCode, if_neg hinvalid]
    rfl
  | check =>
    obtain ⟨d, hd, rfl, rfl⟩ := hreads
    have hinvalid := mt CheckRequest.invalidFields_eq_nil_iff.1 hnot
    simp only [withPayload_of_holds hd, handleCheck, if_neg hinvalid]
    rfl

theorem Endpoint.rejection_eq_of_mask (e : Endpoint) {i₁ i₂ : String}
    (h : Mask.identity i₁ = Mask.identity i₂) : e.rejection i₁ = e.rejection i₂ := by
  cases e <;> simp only [rejection, h]

end Http

/-! ## What the log shows -/

/-- **What the log shows.** Two runs of the program for identities with the same mask log the same,
if the calls of the service ended alike in both: two runs that issue any codes, two that check any
submissions against anything stored, and two requests that are rejected. -/
theorem log_shows_only_masks (b : Backing) (config : ServiceConfig) {i₁ i₂ : String}
    (h : Mask.identity i₁ = Mask.identity i₂) (w₁ w₂ : Nat → Scene) :
    let s := b.service config
    (∀ c₁ c₂ : Code,
        b.endings w₁ (s.issue i₁ c₁) 0 = b.endings w₂ (s.issue i₂ c₂) 0 →
        (b.runIn w₁ (s.issue i₁ c₁) 0).events = (b.runIn w₂ (s.issue i₂ c₂) 0).events)
      ∧ (∀ submitted₁ submitted₂ : String,
        b.endings w₁ (s.check i₁ submitted₁) 0 = b.endings w₂ (s.check i₂ submitted₂) 0 →
        (b.runIn w₁ (s.check i₁ submitted₁) 0).events
          = (b.runIn w₂ (s.check i₂ submitted₂) 0).events)
      ∧ ∀ (app : Http.App) (e : Http.Endpoint) (r₁ r₂ : Http.Request) (now₁ now₂ : String)
        (c₁ c₂ : Code), app.Rejects r₁ e i₁ → app.Rejects r₂ e i₂ →
        (b.runIn w₁ (app.respond now₁ c₁ r₁) 0).events
          = (b.runIn w₂ (app.respond now₂ c₂ r₂) 0).events := by
  intro s
  refine ⟨fun c₁ c₂ hend => (s.sameLook_issue h c₁ c₂).events_eq hend,
    fun submitted₁ submitted₂ hend => (s.sameLook_check h submitted₁ submitted₂).events_eq hend, ?_⟩
  intro app e r₁ r₂ now₁ now₂ c₁ c₂ h₁ h₂
  rw [Http.App.events_of_rejects h₁, Http.App.events_of_rejects h₂, e.rejection_eq_of_mask h]

/-- Two records hold different codes. Both subjects submit theirs, both get a new one, and both
submit one that is too long. -/
theorem same_mask_logs_alike :
    let config : ServiceConfig := { codeLifetime := 0 }
    let scenes (identity code : String) : Nat → Scene := fun _ =>
      ⟨Vault.insert {} (config.keyFor identity) ⟨code, none⟩, 1000, .ok .nil, {}, "", ⟨"", "", ""⟩,
        .ok (), none⟩
    let b : Backing := ⟨some .vault, .mock⟩
    let s := b.service config
    let i₁ := "alice@example.com"
    let i₂ := "anyone@example.com"
    let w₁ := scenes i₁ "111111"
    let w₂ := scenes i₂ "222222"
    let app := Http.App.ofService s 100
    let r (body : String) : Http.Request :=
      ⟨"POST", "/api/v1/verify-code/check", some "application/json", Text.utf8Bytes body.toList⟩
    let r₁ := r "\x7b\"email\":\"alice@example.com\",\"code\":\"11111111111111111\"\x7d"
    let r₂ := r "\x7b\"email\":\"anyone@example.com\",\"code\":\"22222222222222222\"\x7d"
    Mask.identity i₁ = "a***@example.com" ∧ Mask.identity i₂ = "a***@example.com"
      ∧ (b.runIn w₁ (s.check i₁ "111111") 0).events = [.codeAccepted (Mask.identity i₁)]
      ∧ (b.runIn w₁ (s.check i₁ "111111") 0).events = (b.runIn w₂ (s.check i₂ "222222") 0).events
      ∧ (b.runIn w₁ (s.issue i₁ (Code.ofDraw 1)) 0).events
        = (b.runIn w₂ (s.issue i₂ (Code.ofDraw 2)) 0).events
      ∧ app.Rejects r₁ .check i₁
      ∧ (b.runIn w₁ (app.respond "" (Code.ofDraw 1) r₁) 0).events
        = (b.runIn w₂ (app.respond "" (Code.ofDraw 2) r₂) 0).events := by
  intro config scenes b s i₁ i₂ w₁ w₂ app r r₁ r₂
  have hmask₁ : Mask.identity i₁ = "a***@example.com" := by decide +kernel
  have hmask₂ : Mask.identity i₂ = "a***@example.com" := by decide +kernel
  obtain ⟨hissue, hcheck, hrejected⟩ :=
    log_shows_only_masks b config (hmask₁.trans hmask₂.symm) w₁ w₂
  have hissue₁ : b.endings w₁ (s.issue i₁ (Code.ofDraw 1)) 0
      = [⟨.done true, [], none⟩, ⟨.done true, [], none⟩] := rfl
  have hissue₂ : b.endings w₂ (s.issue i₂ (Code.ofDraw 2)) 0
      = [⟨.done true, [], none⟩, ⟨.done true, [], none⟩] := rfl
  have hcheck₁ : b.endings w₁ (s.check i₁ "111111") 0
      = [⟨.done true, [], none⟩, ⟨.done true, [], none⟩, ⟨.done true, [], none⟩] := rfl
  have hcheck₂ : b.endings w₂ (s.check i₂ "222222") 0
      = [⟨.done true, [], none⟩, ⟨.done true, [], none⟩, ⟨.done true, [], none⟩] := rfl
  have hbody₁ : app.payload? Http.CheckRequest.decode r₁ = some ⟨i₁, "11111111111111111"⟩ := by
    decide +kernel
  have hbody₂ : app.payload? Http.CheckRequest.decode r₂ = some ⟨i₂, "22222222222222222"⟩ := by
    decide +kernel
  have hreject₁ : app.Rejects r₁ .check i₁ :=
    ⟨by decide +kernel, some _, ⟨_, Http.App.payload?_eq_some_iff.1 hbody₁, rfl, rfl⟩,
      fun h => absurd (h.2 _ rfl).2 (by decide +kernel)⟩
  have hreject₂ : app.Rejects r₂ .check i₂ :=
    ⟨by decide +kernel, some _, ⟨_, Http.App.payload?_eq_some_iff.1 hbody₂, rfl, rfl⟩,
      fun h => absurd (h.2 _ rfl).2 (by decide +kernel)⟩
  have haccepted : (b.runIn w₁ (s.check i₁ "111111") 0).events
      = [.codeAccepted (Mask.identity i₁)] := rfl
  exact ⟨hmask₁, hmask₂, haccepted, hcheck _ _ (hcheck₁.trans hcheck₂.symm),
    hissue _ _ (hissue₁.trans hissue₂.symm), hreject₁,
    hrejected app .check r₁ r₂ _ _ _ _ hreject₁ hreject₂⟩

/-- A vault tells an outage from a lifetime that the clock cannot name, though its answer is the
same. -/
theorem refusals_of_vault_log_their_cause :
    let config : ServiceConfig := { codeLifetime := 9223372036854775807 }
    let scenes (outage : Bool) : Nat → Scene := fun _ =>
      ⟨{ outage }, 1000, .ok .nil, {}, "", ⟨"", "", ""⟩, .ok (), none⟩
    let b : Backing := ⟨some .vault, .mock⟩
    let m := (b.service config).issue "alice@example.com" (Code.ofDraw 1)
    let alike (e : Ending) : Attempt Bool × List Redis.Fault := (e.outcome, e.faults)
    (b.endings (scenes true) m 0).map alike = (b.endings (scenes false) m 0).map alike
      ∧ (b.runIn (scenes true) m 0).events ≠ (b.runIn (scenes false) m 0).events := by
  intro config scenes b m alike
  let cause (outage : Bool) : Event :=
    if outage then .memoryOutage else .lifetimeOutOfRange 9223372036854775807
  have hset (outage : Bool) (key value : String) :
      Vault.set { outage } 1000 key value 9223372036854775807
        = ⟨false, [cause outage], { outage }⟩ := by
    have hdeadline : Vault.deadline? 1000 9223372036854775807 = none := rfl
    cases outage with
    | true => rfl
    | false =>
      simp only [Vault.set, hdeadline]
      rfl
  have hcall (outage : Bool) (key value : String) :
      b.callIn (scenes outage) (.set key value 9223372036854775807) 0
        = ⟨.done (.done false), [cause outage], 1⟩ := by
    refine (Backing.callIn_set_vault rfl key value _).trans ?_
    simp only [scenes, hset]
  have hissue (outage : Bool) : (b.endings (scenes outage) m 0).map alike = [(.done false, [])]
      ∧ (b.runIn (scenes outage) m 0).events[1]? = some (cause outage) := by
    obtain ⟨hend, hevents⟩ := Service.issue_of_refused (s := b.service config) rfl
      "alice@example.com" (Code.ofDraw 1) (congrArg Run.result (hcall outage _ _))
    constructor
    · refine (congrArg (List.map alike) hend).trans ?_
      exact congrArg (fun call : Run Nat (Attempt (Attempt Bool)) =>
        [(ServiceCall.outcome (.set "" "" 0) call.result, ([] : List Redis.Fault))])
        (hcall outage _ _)
    · refine (congrArg (·[1]?) hevents).trans ?_
      exact congrArg (fun call : Run Nat (Attempt (Attempt Bool)) =>
        (Event.codeGenerated _ _ :: (call.events ++ [_]))[1]?) (hcall outage _ _)
  refine ⟨(hissue true).1.trans (hissue false).1.symm, fun h => ?_⟩
  have hsecond : some (cause true) = some (cause false) :=
    (hissue true).2.symm.trans ((congrArg (·[1]?) h).trans (hissue false).2)
  simp [cause] at hsecond

end Passcode
