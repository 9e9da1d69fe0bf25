import Mathlib.Logic.ExistsUnique
import Passcode.Mask
import Passcode.Proofs.Text.Split

/-!
# What a masked identity shows

An identity is cut at its last `@`, if it has one. Masking keeps the domain and hides the part
before it: of several characters the first is shown, one alone is hidden, and where there is none
nothing is shown. Nothing else of the identity shows, and all of this does: two identities have the
same mask exactly if they agree on it.

## Main definitions

* `Parts` — an identity cut at its last `@`
* `Glimpse`, `Parts.shown` — what of an identity is shown
* `Parts.masked` — the parts of the masked identity

## Main statements

* `Parts.text_injective`, `Parts.exists_text` — every identity has its own parts
* `identity_text` — masking the parts
* `identity_shows_first_and_domain` — what the mask of an identity depends on
-/

namespace Passcode.Mask

/-! ## The parts of an identity -/

/-- An identity cut at its last `@`, or as a whole if it has none. -/
@[ext]
structure Parts where
  before : String
  domain? : Option String
  /-- No `@` stands further on. -/
  not_mem : '@' ∉ (domain?.getD before).toList

namespace Parts

/-- The last `@` with the domain after it. -/
def ending (p : Parts) : String :=
  match p.domain? with
  | none => ""
  | some domain => "@" ++ domain

/-- The identity. -/
def text (p : Parts) : String := p.before ++ p.ending

theorem splitAtLast_text (p : Parts) :
    Text.splitAtLast '@' p.text.toList
      = p.domain?.map fun domain => (p.before.toList, domain.toList) := by
  obtain ⟨before, domain?, hnot⟩ := p
  rw [text, String.toList_append]
  cases domain? with
  | none =>
    rw [ending, String.toList_empty, List.append_nil]
    exact Text.splitAtLast_eq_none.2 hnot
  | some domain =>
    rw [ending, String.toList_append]
    exact Text.splitAtLast_append hnot before.toList

theorem text_injective {p q : Parts} (h : p.text = q.text) : p = q := by
  have hcuts := p.splitAtLast_text
  rw [h, q.splitAtLast_text] at hcuts
  obtain ⟨before, domain?, hnot⟩ := p
  obtain ⟨before', domain?', hnot'⟩ := q
  cases domain? with
  | none =>
    cases domain?' with
    | none => exact Parts.ext (by simpa [text, ending] using h) rfl
    | some domain' => cases hcuts
  | some domain =>
    cases domain?' with
    | none => cases hcuts
    | some domain' =>
      obtain ⟨hbefore, hdomain⟩ := Prod.mk.inj (Option.some.inj hcuts)
      rw [String.toList_inj] at hbefore hdomain
      exact Parts.ext hbefore.symm (congrArg some hdomain.symm)

/-- Every identity can be cut. -/
theorem exists_text (s : String) : ∃ p : Parts, p.text = s := by
  by_cases hat : '@' ∈ s.toList
  · obtain ⟨a, b, rfl, hb⟩ := Text.exists_last hat
    exact ⟨⟨a, some b, hb⟩, String.append_assoc.symm⟩
  · exact ⟨⟨s, none, hat⟩, String.append_empty⟩

end Parts

/-! ## What is shown -/

/-- What is shown of the part before the domain. -/
inductive Glimpse where
  /-- It is empty. -/
  | nothing
  /-- It is one character. -/
  | one
  /-- It is several characters, and this is the first. -/
  | first (c : Char)
deriving Repr, DecidableEq

namespace Glimpse

/-- What is shown of some characters. -/
def ofChars : List Char → Glimpse
  | [] => nothing
  | [_] => one
  | c :: _ :: _ => first c

/-- How it is shown. -/
def text : Glimpse → List Char
  | nothing => []
  | one => ['*']
  | first c => [c, '*', '*', '*']

@[simp] theorem ofChars_text (g : Glimpse) : ofChars g.text = g := by
  cases g <;> rfl

end Glimpse

theorem segment_eq_text (s : List Char) : segment s = (Glimpse.ofChars s).text := by
  match s with
  | [] | [_] | _ :: _ :: _ => rfl

/-- An `@` is shown only if there is one. -/
theorem not_mem_text_ofChars {s : List Char} (h : '@' ∉ s) :
    '@' ∉ (Glimpse.ofChars s).text := by
  match s with
  | [] => exact h
  | [_] => simp [Glimpse.ofChars, Glimpse.text]
  | c :: _ :: _ =>
    have hc : '@' ≠ c := fun hc => h (hc ▸ List.mem_cons_self)
    simp [Glimpse.ofChars, Glimpse.text, hc]

/-- What is shown of an identity. -/
structure Shown where
  glimpse : Glimpse
  domain? : Option String
deriving Repr, DecidableEq

namespace Parts

/-- What is shown of an identity in parts. -/
def shown (p : Parts) : Shown := ⟨.ofChars p.before.toList, p.domain?⟩

/-- The parts of the masked identity. -/
def masked (p : Parts) : Parts where
  before := String.ofList p.shown.glimpse.text
  domain? := p.domain?
  not_mem := by
    have hnot := p.not_mem
    cases hdomain : p.domain? with
    | none =>
      rw [hdomain] at hnot
      simpa [shown] using not_mem_text_ofChars hnot
    | some domain => simpa [hdomain] using hnot

@[simp] theorem shown_masked (p : Parts) : p.masked.shown = p.shown := by
  simp [masked, shown]

theorem masked_eq_iff {p q : Parts} : p.masked = q.masked ↔ p.shown = q.shown := by
  constructor
  · intro h
    rw [← p.shown_masked, h, shown_masked]
  · intro h
    have hdomain : p.domain? = q.domain? := congrArg Shown.domain? h
    exact Parts.ext (congrArg (fun v : Shown => String.ofList v.glimpse.text) h) hdomain

end Parts

/-- The parts of an identity are masked. -/
theorem identity_text (p : Parts) : identity p.text = p.masked.text := by
  rw [identity, identityChars, p.splitAtLast_text]
  cases hdomain : p.domain? with
  | none =>
    have htext : p.text = p.before := by simp [Parts.text, Parts.ending, hdomain]
    have hmasked : p.masked.text = p.masked.before := by
      simp [Parts.text, Parts.ending, Parts.masked, hdomain]
    simp only [Option.map_none, htext, hmasked, segment_eq_text]
    rfl
  | some domain =>
    have hmasked : p.masked.text = p.masked.before ++ ("@" ++ domain) := by
      simp [Parts.text, Parts.ending, Parts.masked, hdomain]
    simp only [Option.map_some, hmasked, segment_eq_text]
    rw [← String.toList_inj]
    simp [Parts.masked, Parts.shown]

/-- What is masked once is masked. -/
theorem identity_identity (s : String) : identity (identity s) = identity s := by
  obtain ⟨p, rfl⟩ := Parts.exists_text s
  rw [identity_text, identity_text, Parts.masked_eq_iff.2 p.shown_masked]

/-- **A masked identity shows its domain and its first character**, if this is not alone before the
domain. An identity has one last `@` or none, and two identities have the same mask if and only if
they agree on the domain and on what is shown of the part before it. One character alone is hidden
completely, and masking again changes nothing. -/
theorem identity_shows_first_and_domain :
    (∀ s : String, ∃! p : Parts, p.text = s)
      ∧ (∀ p q : Parts, identity p.text = identity q.text ↔ p.shown = q.shown)
      ∧ (∀ p : Parts, p.before.length = 1 → identity p.text = "*" ++ p.ending)
      ∧ ∀ s : String, identity (identity s) = identity s := by
  refine ⟨fun s => ?_, fun p q => ?_, fun p hone => ?_, identity_identity⟩
  · obtain ⟨p, hp⟩ := Parts.exists_text s
    exact ⟨p, hp, fun q hq => Parts.text_injective (hq.trans hp.symm)⟩
  · rw [identity_text, identity_text, ← Parts.masked_eq_iff]
    exact ⟨Parts.text_injective, congrArg Parts.text⟩
  · obtain ⟨c, hc⟩ := List.length_eq_one_iff.1 hone
    have hglimpse : p.shown.glimpse = .one := congrArg Glimpse.ofChars hc
    have hbefore : p.masked.before = "*" := by
      change String.ofList p.shown.glimpse.text = "*"
      rw [hglimpse]
      rfl
    rw [identity_text, Parts.text, hbefore]
    rfl

/-- Two identities that share nothing but their first character and their domain have the same
mask, and one character of several bytes is hidden. -/
theorem strangers_have_one_mask :
    let p : Parts := ⟨"alice@home", some "例子.公司", by decide⟩
    let q : Parts := ⟨"a**", some "例子.公司", by decide⟩
    let r : Parts := ⟨"张", some "例子.公司", by decide⟩
    p.text = "alice@home@例子.公司" ∧ q.text = "a**@例子.公司"
      ∧ identity p.text = identity q.text
      ∧ r.before.length = 1 ∧ identity r.text = "*@例子.公司" := by
  intro p q r
  obtain ⟨-, hsame, hone, -⟩ := identity_shows_first_and_domain
  have hshown : p.shown = q.shown := by decide
  have hlength : r.before.length = 1 := by decide
  exact ⟨by decide, by decide, (hsame p q).2 hshown, hlength, hone r hlength⟩

end Passcode.Mask
