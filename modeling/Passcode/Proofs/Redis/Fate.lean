import Passcode.Redis.Server

/-!
# Commands that may get lost

On its way to a server and back a command can be lost, refused, or executed without the client
hearing of it. Whatever becomes of it, the server executes it as a whole or not at all.

What a command did to the records is its *deed*: it wrote a record, removed one, or neither. The
deed is the server's side of the matter; the client sees only a reply or a fault.

## Main definitions

* `Fate` — what becomes of a command
* `Server.meet` — a command that meets its fate
* `Deed`, `Server.deed` — what a command does to the records

## Main statements

* `Server.find?_execute` — a command does its deed, and nothing else
* `Server.answered_of_meet` — only a command that was executed brings a reply
* `Server.removed_of_count` — a script that reports a removal did remove a record with that value
-/

namespace Passcode.Redis

/-- What becomes of a command on its way to a server and back. -/
inductive Fate where
  /-- It is executed, and its reply arrives. -/
  | answered
  /-- It is executed, and its reply is lost: to the client the connection has failed. -/
  | unheard (text : String)
  /-- It does not arrive: to the client the connection has failed. -/
  | lost (text : String)
  /-- It is not executed, and a fault is sent back. -/
  | refused (fault : Fault)

namespace Fate

/-- Whether a command is executed. -/
def executes : Fate → Bool
  | answered | unheard _ => true
  | lost _ | refused _ => false

/-- Whether a command is executed without the client hearing of it. -/
def isUnheard : Fate → Bool
  | unheard _ => true
  | _ => false

/-- What the client sees of a command to which the server replies. -/
def seen (fate : Fate) (reply : Except Fault Reply) : Except Fault Reply :=
  match fate with
  | answered => reply
  | unheard text | lost text => .error (.io text)
  | refused fault => .error fault

end Fate

/-- What a command did to the records of a server. -/
inductive Deed where
  | none
  | wrote (key : String) (r : Record)
  | removed (key : String) (r : Record)
deriving Repr, DecidableEq

namespace Deed

/-- The key under which something was written or removed. -/
def key? : Deed → Option String
  | none => Option.none
  | wrote key _ | removed key _ => some key

/-- What is under a key after a deed. -/
def leaves (d : Deed) (key : String) (before : Option Record) : Option Record :=
  match d with
  | none => before
  | wrote k r => if k = key then some r else before
  | removed k _ => if k = key then Option.none else before

end Deed

namespace Server

variable {s : Server} {now : Nat} {key : String}

/-- The record under a key, present or not. -/
def find? (s : Server) (key : String) : Option Record := s.records.find? key

/-- A command that meets its fate: what the client sees, and the server afterwards. -/
def meet (now : Nat) (s : Server) (c : Command) (fate : Fate) : Except Fault Reply × Server :=
  (fate.seen (s.execute now c).1, if fate.executes then (s.execute now c).2 else s)

/-- The removal of what is present under a key. -/
def removal (s : Server) (now : Nat) (key : String) : Deed :=
  match s.present? now key with
  | some r => .removed key r
  | none => .none

/-- What a command does to the records when it is executed. -/
def deed (now : Nat) (s : Server) : Command → Deed
  | .set key value => .wrote key ⟨value, none⟩
  | .setex key seconds value =>
    if seconds = 0 then .none else .wrote key ⟨value, some (now + seconds * millisPerSecond)⟩
  | .del key => s.removal now key
  | .runScript key expected =>
    if s.knowsScript && (s.present? now key).any (·.value == expected) then s.removal now key
    else .none
  | _ => .none

/-- What a command does to the records when it meets its fate. -/
def deedOf (now : Nat) (s : Server) (c : Command) (fate : Fate) : Deed :=
  if fate.executes then s.deed now c else .none

/-! ## Under a key afterwards -/

@[simp] theorem find?_insert (s : Server) (key : String) (r : Record) :
    (s.insert key r).find? key = some r :=
  Keyed.find?_insert _ _ _

theorem find?_insert_of_ne {other : String} (h : other ≠ key) (s : Server) (r : Record) :
    (s.insert key r).find? other = s.find? other :=
  Keyed.find?_insert_of_ne h _ _

@[simp] theorem find?_erase (s : Server) (key : String) : (s.erase key).find? key = none :=
  Keyed.find?_erase _ _

theorem find?_erase_of_ne {other : String} (h : other ≠ key) (s : Server) :
    (s.erase key).find? other = s.find? other :=
  Keyed.find?_erase_of_ne h _

theorem find?_of_present? {r : Record} (h : s.present? now key = some r) : s.find? key = some r :=
  (Option.filter_eq_some_iff.1 h).1

/-- Removing what is present under a key, if a condition holds that only a present record meets. -/
theorem find?_removeIf {condition : Bool}
    (h : condition = true → (s.present? now key).isSome = true) (other : String) :
    (s.removeIf condition key).2.find? other
      = (if condition then s.removal now key else .none).leaves other (s.find? other) := by
  cases condition with
  | false => rfl
  | true =>
    obtain ⟨r, hr⟩ := Option.isSome_iff_exists.1 (h rfl)
    simp only [removeIf, removal, hr, if_true, Deed.leaves]
    by_cases hkey : key = other
    · subst hkey
      rw [if_pos rfl, find?_erase]
    · rw [if_neg hkey, find?_erase_of_ne (Ne.symm hkey)]

theorem find?_insert_eq_leaves (r : Record) (other : String) :
    (s.insert key r).find? other = (Deed.wrote key r).leaves other (s.find? other) := by
  by_cases hkey : key = other
  · subst hkey
    simp [Deed.leaves]
  · simp [Deed.leaves, hkey, find?_insert_of_ne (Ne.symm hkey)]

/-- **A command does its deed, and nothing else.** -/
theorem find?_execute (c : Command) (key : String) :
    (s.execute now c).2.find? key = (s.deed now c).leaves key (s.find? key) := by
  cases c with
  | set k value => exact find?_insert_eq_leaves _ key
  | setex k seconds value =>
    rw [execute, deed]
    split
    · rfl
    · exact find?_insert_eq_leaves _ key
  | del k =>
    refine (find?_removeIf (fun h => h) key).trans ?_
    cases hr : s.present? now k with
    | none => simp [deed, removal, hr]
    | some r => simp [deed]
  | runScript k expected =>
    rw [execute, deed]
    cases s.knowsScript with
    | false => rfl
    | true =>
      refine (find?_removeIf (fun h => ?_) key).trans rfl
      exact Option.isSome_of_any h
  | get k =>
    rw [execute]
    split <;> rfl
  | has k | ttl k | ping | loadScript => rfl

/-- What a command that meets its fate leaves under a key. -/
theorem find?_meet (c : Command) (fate : Fate) (key : String) :
    (s.meet now c fate).2.find? key = (s.deedOf now c fate).leaves key (s.find? key) := by
  unfold meet deedOf
  cases fate.executes with
  | false => rfl
  | true => exact find?_execute c key

/-! ## What the client may conclude -/

/-- Only a command that was executed brings a reply, and then its own. -/
theorem answered_of_meet {c : Command} {fate : Fate} {reply : Reply}
    (h : (s.meet now c fate).1 = .ok reply) :
    fate = .answered ∧ (s.execute now c).1 = .ok reply := by
  cases fate with
  | answered => exact ⟨rfl, h⟩
  | unheard text | lost text | refused fault => cases h

/-- A script that reports a removal did remove a record, which held the expected value. -/
theorem removed_of_count {expected : String} {reply : Reply} {n : UInt32}
    (hreply : (s.execute now (.runScript key expected)).1 = .ok reply)
    (hcount : asUInt32 reply = .ok n) (hpos : n > 0) :
    ∃ r, s.deed now (.runScript key expected) = .removed key r ∧ r.value = expected := by
  rw [execute] at hreply
  split at hreply
  · next hknows =>
    cases hheld : (s.present? now key).any (·.value == expected) with
    | false =>
      -- The script found no such record, so it counted none.
      rw [hheld] at hreply
      obtain rfl : Reply.int 0 = reply := Except.ok.inj hreply
      obtain rfl : (0 : UInt32) = n := Except.ok.inj hcount
      exact absurd hpos (by decide)
    | true =>
      obtain ⟨r, hr, hvalue⟩ := (Option.any_eq_true _ _).1 hheld
      have hvalue : r.value = expected := beq_iff_eq.1 hvalue
      exact ⟨r, by simp [deed, hknows, removal, hr, hvalue], hvalue⟩
  · cases hreply

/-- A record that is written was sent to be written. -/
theorem value_of_wrote {c : Command} {k : String} {r : Record} (h : s.deed now c = .wrote k r) :
    c = .set k r.value ∨ ∃ seconds, c = .setex k seconds r.value := by
  cases c with
  | set k' value =>
    obtain ⟨rfl, rfl⟩ := Deed.wrote.inj h
    exact .inl rfl
  | setex k' seconds value =>
    rw [deed] at h
    split at h
    · cases h
    · obtain ⟨rfl, rfl⟩ := Deed.wrote.inj h
      exact .inr ⟨seconds, rfl⟩
  | del k' =>
    simp only [deed, removal] at h
    split at h <;> cases h
  | runScript k' expected =>
    simp only [deed, removal] at h
    split at h
    · split at h <;> cases h
    · cases h
  | get k' | has k' | ttl k' | ping | loadScript => cases h

/-- What a command removes was present. -/
theorem present_of_removed {c : Command} {k : String} {r : Record}
    (h : s.deed now c = .removed k r) : s.present? now k = some r := by
  have hremoval : ∀ k', s.removal now k' = .removed k r → s.present? now k = some r := by
    intro k' hk'
    unfold removal at hk'
    split at hk'
    · next r' hr' =>
      obtain ⟨rfl, rfl⟩ := Deed.removed.inj hk'
      exact hr'
    · cases hk'
  cases c with
  | del k' => exact hremoval k' h
  | runScript k' expected =>
    rw [deed] at h
    split at h
    · exact hremoval k' h
    · cases h
  | setex k' seconds value =>
    rw [deed] at h
    split at h <;> cases h
  | set k' value | get k' | has k' | ttl k' | ping | loadScript => cases h

end Server

end Passcode.Redis
