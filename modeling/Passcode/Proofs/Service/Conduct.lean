import Passcode.Proofs.Flow.Run
import Passcode.Proofs.Service.Site

/-!
# What a request does, and what it reports

A service is at the mercy of its surroundings: a store may contradict itself from one call to the
next, and store and channel may break down. Whatever they answer, a request makes only the calls
that it should, in their order, and its result is a function of the answers it got. Nothing is
assumed about the surroundings here, so what is said is what the service itself guarantees.

## Main definitions

* `Service.IssueConduct` — the calls of an issuance, and what it reports of them
* `Service.CheckConduct` — the calls of a check, and what it reports of them

## Main statements

* `Service.issue_reports_its_calls` — an issuance in any surroundings, with a store and without
* `Service.check_reports_its_calls` — a check in any surroundings
-/

namespace Passcode

namespace Service

variable {σ : Type} {s : Service} {identity key submitted : String} {code : Code}
  {asked : List (Exchange ServiceInterface)}

/-! ## Issuing -/

/-- The writing of a code for an identity, with the answer of the store. -/
def wrote (s : Service) (identity : String) (code : Code) (stored : Attempt Bool) :
    Exchange ServiceInterface :=
  ⟨.set (s.config.codePrefix ++ identity) (toString code.value) s.config.codeLifetime, stored⟩

/-- The sending of the message with a code, with what became of it. -/
def sent (s : Service) (identity : String) (code : Code) (fate : Attempt Delivery) :
    Exchange ServiceInterface :=
  ⟨.send (s.config.template.render identity code), fate⟩

theorem wrote_eq (s : Service) (identity : String) (code : Code) (stored : Attempt Bool) :
    s.wrote identity code stored
      = ⟨.set (s.config.keyFor identity) code.text s.config.codeLifetime, stored⟩ := rfl

/-- The calls of an issuance and its result, given what the store answered and what became of the
message; each is `none` for a call that was not made. -/
structure IssueConduct (s : Service) (identity : String) (code : Code)
    (stored? : Option (Attempt Bool)) (fate? : Option (Attempt Delivery))
    (asked : List (Exchange ServiceInterface)) (r : Issuance) : Prop where
  /-- At most one write and then at most one message, both with the same code, and no other
  call. -/
  calls : asked
    = stored?.toList.map (s.wrote identity code) ++ fate?.toList.map (s.sent identity code)
  writes : stored?.isSome = s.hasStore
  sends_iff : fate?.isSome ↔ s.hasStore = false ∨ stored? = some (.done true)
  identity : r.identity = identity
  storeError_iff : r.outcome = .storeError ↔ stored? = some (.done false)
  deliveryError_iff : r.outcome = .deliveryError ↔ ∃ reason, fate? = some (.done (.failed reason))
  exception_iff : r.outcome = .exception
    ↔ ∃ reason, stored? = some (.panicked reason) ∨ fate? = some (.panicked reason)
  success_iff : r.outcome = .success ↔ ∃ id, fate? = some (.done (.sent id))
  code_iff : ∀ c, r.code? = some c ↔ s.hasStore = false ∧ r.outcome = .success ∧ c = code

/-- A delivery is one message, whether there is no store or the code has just been stored. -/
theorem issueConduct_of_deliver {stored? : Option (Attempt Bool)} {r : Issuance}
    (hstored : s.hasStore = false ∧ stored? = none
      ∨ s.hasStore = true ∧ stored? = some (.done true))
    (h : (s.deliver identity code).Leads asked (.done r)) :
    ∃ fate?, s.IssueConduct identity code stored? fate?
      (stored?.toList.map (s.wrote identity code) ++ asked) r := by
  cases h with
  | ask fate h =>
    refine ⟨some fate, ?_⟩
    -- with a store and without, a message may be sent, fail or break the channel
    rcases hstored with ⟨hstore, rfl⟩ | ⟨hstore, rfl⟩ <;> rcases fate with (id | reason) | reason
    all_goals
      obtain ⟨rfl, rfl⟩ := h.of_log_done
      constructor <;> simp [hstore, sent, failure, eq_comm]

/-- An issuance that has ended made its calls and reports what they were answered. -/
theorem issueConduct_of_leads {r : Issuance}
    (h : (s.issue identity code).Leads asked (.done r)) :
    ∃ stored? fate?, s.IssueConduct identity code stored? fate? asked r := by
  cases hstore : s.hasStore with
  | false =>
    simp only [issue, hstore, Bool.false_eq_true, if_false] at h
    cases h with
    | log h => exact ⟨none, issueConduct_of_deliver (.inl ⟨hstore, rfl⟩) h⟩
  | true =>
    simp only [issue, if_pos hstore] at h
    cases h with
    | log h =>
      cases h with
      | ask stored h =>
        refine ⟨some stored, ?_⟩
        rcases stored with (_ | _) | reason
        · obtain ⟨rfl, rfl⟩ := h.of_log_done
          exact ⟨none, by constructor <;> simp [hstore, wrote_eq, failure]⟩
        · exact issueConduct_of_deliver (.inr ⟨hstore, rfl⟩) h
        · obtain ⟨rfl, rfl⟩ := h.of_log_done
          exact ⟨none, by constructor <;> simp [hstore, wrote_eq, failure]⟩

/-- **An issuance does what it reports.** In any surroundings, also those that break down, an
issuance comes to a result. It has written the code if there is a store, and sent the message if
there is none or the code was stored, and its outcome says what became of that. The message goes
to the identity and names the code, which only a service without a store hands back. -/
theorem issue_reports_its_calls (s : Service) (identity : String) (code : Code)
    (answer : Flow.Surroundings ServiceInterface σ) (x : σ) :
    let flow := s.issue identity code
    let message := s.config.template.render identity code
    (∃ stored? fate?, s.IssueConduct identity code stored? fate? (flow.trace answer x)
        (flow.run answer x).result)
      ∧ message.recipient = identity
      ∧ message.text = "Your " ++ s.config.template.productName ++ " verification code is "
          ++ toString code.value ++ ". " ++ s.config.template.validity
      ∧ message.html? = some ("<p>Your " ++ s.config.template.productName
          ++ " verification code is <strong>" ++ toString code.value ++ "</strong>. "
          ++ s.config.template.validity ++ "</p>")
      ∧ Code.min ≤ code.value ∧ code.value ≤ Code.max :=
  ⟨issueConduct_of_leads (Flow.run_leads _ _ _), rfl, rfl, rfl, code.lower, code.upper⟩

/-! ## Checking -/

/-- The calls of a check of what is under `key`, and its result, given what the store answered:
whether it has a record, what it read, and whether it removed the record; the last two are `none`
for a call that was not made. The value that was read is `stored`. -/
structure CheckConduct (key submitted stored : String) (found : Bool)
    (read? : Option (Option String)) (removed? : Option Bool)
    (asked : List (Exchange ServiceInterface)) (c : CodeCheck) : Prop where
  /-- A look, at most one reading and at most one removal, and no other call. -/
  calls : asked = ⟨.contains key, found⟩ :: (read?.toList.map (⟨.get key, ·⟩)
    ++ removed?.toList.map (⟨.consume key stored, ·⟩))
  /-- No call is made without those before it. -/
  order : asked.map (·.question) <+: [.contains key, .get key, .consume key stored]
  reads : read?.isSome = found
  stored_eq : ∀ v, read? = some (some v) → v = stored
  consumes_iff : removed?.isSome
    ↔ found = true ∧ read? = some (some stored) ∧ stored.toByteArray = submitted.toByteArray
  accepted_iff : c = .accepted ↔ removed? = some true
  mismatch_iff : c = .mismatch ↔ ∃ v, read? = some (some v) ∧ v ≠ submitted
  notFound_iff : c = .notFound
    ↔ removed? ≠ some true ∧ ∀ v, read? = some (some v) → v = submitted

/-- A check that has ended made its calls and reports what they were answered. -/
theorem CheckTrace.conduct {c : CodeCheck} (h : CheckTrace key submitted asked c) :
    ∃ stored found read? removed?,
      CheckConduct key submitted stored found read? removed? asked c := by
  cases h with
  | absent => exact ⟨submitted, false, none, none, by constructor <;> simp⟩
  | vanished => exact ⟨submitted, true, some none, none, by constructor <;> simp⟩
  | mismatch stored hne =>
    have hbytes : stored.toByteArray ≠ submitted.toByteArray := mt String.toByteArray_inj.1 hne
    exact ⟨stored, true, some (some stored), none, by constructor <;> simp [hne, hbytes]⟩
  | tooLate =>
    exact ⟨submitted, true, some (some submitted), some false, by constructor <;> simp⟩
  | accepted =>
    exact ⟨submitted, true, some (some submitted), some true, by constructor <;> simp⟩

/-- **A check does what it reports.** In any surroundings, also those that contradict themselves, a
check comes to a result without a fault. It looks for a record, reads it and uses it up, each only
after the one before; it uses up only what it has read, and only if that is what was submitted, byte
for byte. It accepts exactly if that removed the record. -/
theorem check_reports_its_calls (provider : String) (config : ServiceConfig)
    (identity submitted : String) (answer : Flow.Surroundings ServiceInterface σ) (x : σ) :
    let flow := Service.check ⟨true, provider, config⟩ identity submitted
    ∃ c, (flow.run answer x).result = .ok c
      ∧ ∃ stored found read? removed?,
          CheckConduct (config.codePrefix ++ identity) submitted stored found read? removed?
            (flow.trace answer x) c := by
  intro flow
  obtain ⟨c, hc, htrace⟩ := checkTrace_of_leads rfl (Flow.run_leads answer flow x)
  exact ⟨c, hc, htrace.conduct⟩

end Service

end Passcode
