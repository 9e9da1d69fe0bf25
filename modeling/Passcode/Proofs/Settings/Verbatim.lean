import Passcode.Proofs.Settings.Place

/-!
# Texts that override variables carry

The text of an override variable is read before anyone knows what it is for: as a truth value, an
integer or a number with a fraction, if it looks like one. Where a text is expected, what was read
is written out again. So a text arrives as it is if it is written the way numbers and truth values
are written out, or looks like none of them, and otherwise it arrives changed: without the zeros in
front of an integer, without the exponent of a number, in lower case.

## Main definitions

* `arriving` — the text that arrives
* `Verbatim` — the texts that arrive as they are

## Main statements

* `arriving_eq_iff` — which texts arrive as they are
* `text_override_arrives_retold` — what the override of a text sets
-/

namespace Passcode

namespace Settings

open Number (Binary64)

/-! ## What arrives -/

/-- The text that arrives where the text of an override variable is for a text. -/
def arriving (text : String) : String :=
  match overrideLeaf text with
  | .bool b => if b then "true" else "false"
  | .int n => toString n
  | .float x => x.plainText
  | .nil | .text _ => text

/-- The texts that arrive as they are: the two words for truth values, integers of 64 bits and
numbers with a fraction as they are written out, and whatever looks like none of these. -/
inductive Verbatim : String → Prop
  | word (b : Bool) : Verbatim (if b then "true" else "false")
  | int (n : Int) (h : fitsSigned 64 n = true) : Verbatim (toString n)
  | float (x : Binary64) (h : overrideLeaf x.plainText = .float x) : Verbatim x.plainText
  | other (text : String) (h : overrideLeaf text = .text text) : Verbatim text

/-- The ways in which the text of an override variable can be read. -/
theorem overrideLeaf_cases (text : String) :
    (∃ b, overrideLeaf text = .bool b) ∨ (∃ n, overrideLeaf text = .int n ∧ fitsSigned 64 n = true)
      ∨ (∃ x, overrideLeaf text = .float x) ∨ overrideLeaf text = .text text := by
  unfold overrideLeaf
  dsimp only
  split
  · exact .inl ⟨true, rfl⟩
  · split
    · exact .inl ⟨false, rfl⟩
    · split
      · next n _ =>
        have hlow := Int64.le_toInt n
        have hhigh := Int64.toInt_lt n
        have hmax : maxSigned 64 = 2 ^ 63 - 1 := by decide
        refine .inr (.inl ⟨n.toInt, rfl, ?_⟩)
        rw [fitsSigned, Bool.and_eq_true, decide_eq_true_eq, decide_eq_true_eq]
        omega
      · split
        · next x _ => exact .inr (.inr (.inl ⟨x, rfl⟩))
        · exact .inr (.inr (.inr rfl))

/-- What arrives is what the text was read as, read as a text. -/
theorem coerceText_overrideLeaf (origin : Option String) (text : String) :
    Layers.coerceText (.leaf origin (overrideLeaf text)) = .ok (arriving text) := by
  unfold arriving
  rcases overrideLeaf_cases text with ⟨b, hleaf⟩ | ⟨n, hleaf, -⟩ | ⟨x, hleaf⟩ | hleaf <;>
    rw [hleaf] <;> rfl

/-- **Which texts arrive as they are.** -/
theorem arriving_eq_iff (text : String) : arriving text = text ↔ Verbatim text := by
  constructor
  · intro h
    unfold arriving at h
    rcases overrideLeaf_cases text with ⟨b, hleaf⟩ | ⟨n, hleaf, hfits⟩ | ⟨x, hleaf⟩ | hleaf
    · simp only [hleaf] at h
      exact h ▸ .word b
    · simp only [hleaf] at h
      exact h ▸ .int n hfits
    · simp only [hleaf] at h
      rw [← h] at hleaf ⊢
      exact .float x hleaf
    · exact .other text hleaf
  · intro h
    unfold arriving
    cases h with
    | word b => cases b <;> decide +kernel
    | int n hfits => rw [overrideLeaf_toString hfits]
    | float x hleaf => rw [hleaf]
    | other text hleaf => rw [hleaf]

theorem plainText_ne_empty (x : Binary64) : x.plainText ≠ "" := by
  have hplain (d : Number.Decimal) : d.plain ≠ [] := by
    unfold Number.Decimal.plain
    split
    · exact List.cons_ne_nil _ _
    · next hdigits =>
      split
      · exact List.cons_ne_nil _ _
      · dsimp only
        split
        · simp [hdigits]
        · simp
  cases x with
  | finite negative m e =>
    intro h
    have hlist := congrArg String.toList h
    rw [Binary64.plainText, Binary64.textWith, String.toList_ofList] at hlist
    exact hplain _ (List.append_eq_nil_iff.1 hlist).2
  | infinite negative => cases negative <;> decide
  | nan => decide

/-- What arrives of a text is not empty unless the text is. -/
theorem arriving_ne_empty {text : String} (h : text ≠ "") : arriving text ≠ "" := by
  unfold arriving
  rcases overrideLeaf_cases text with ⟨b, hleaf⟩ | ⟨n, hleaf, -⟩ | ⟨x, hleaf⟩ | hleaf <;>
    simp only [hleaf]
  · cases b <;> decide
  · exact Text.toString_int_ne_empty n
  · exact plainText_ne_empty x
  · exact h

/-- **What the override of a text sets.** Wherever a text is expected, what arrives of the text of
the override variable is loaded, which is the text itself for verbatim texts only. A password has
to be there, since an empty one gives way to that of the plain variables. -/
theorem text_override_arrives_retold (vars : Variables) (files : Files) (c : App)
    (hload : load vars files = .ok c) (path : List String) (secret : Bool) (get : App → String)
    (hleaf : (⟨path, secret, get⟩ : Leaf App) ∈ App.leaves) (text : String)
    (htext : path = passwordPath → text ≠ "")
    (h : Overrides (allVariables vars files) path text) :
    get c = arriving text ∧ (get c = text ↔ Verbatim text) := by
  have hpassword : path = passwordPath → ∀ origin,
      Layers.coerceText (.leaf origin (overrideLeaf text)) ≠ .ok "" := by
    intro hpath origin hempty
    rw [coerceText_overrideLeaf] at hempty
    exact arriving_ne_empty (htext hpath) (Except.ok.inj hempty)
  obtain ⟨origin, hread⟩ := ofLayer_of_supplied hload hleaf (.override h) hpassword
  have hloaded : get c = arriving text :=
    Except.ok.inj (hread.symm.trans (coerceText_overrideLeaf origin text))
  refine ⟨hloaded, ?_⟩
  rw [hloaded]
  exact arriving_eq_iff text

example : arriving "+5" = "5" ∧ arriving "-0" = "0" ∧ arriving "1e5" = "100000"
    ∧ arriving "Infinity" = "inf" ∧ arriving "TRUE" = "true" ∧ arriving "0x10" = "0x10"
    ∧ arriving "9223372036854775808" = "9223372036854776000" := by decide +kernel

/-- A prefix that looks like no number arrives as it is, beside a subject that is a number. -/
theorem prefix_without_number_is_verbatim :
    let vars : Variables := [("APP__VERIFICATION__CODE_PREFIX", some "otp_1_"),
      ("APP__VERIFICATION__SUBJECT", some "1.50"), ("SERVER_PORT", some "9000")]
    ∃ c, load vars {} = .ok c ∧ Overrides vars ["verification", "code_prefix"] "otp_1_"
      ∧ c.verification.codePrefix = "otp_1_" ∧ Verbatim "otp_1_" := by
  intro vars
  have hload : load vars {} = .ok { vars.app with
      verification := { codePrefix := "otp_1_", subject := "1.5" } } :=
    eq_ok_of_toOption (by decide +kernel)
  have hoverrides : Overrides vars ["verification", "code_prefix"] "otp_1_" :=
    ⟨by decide +kernel, by decide +kernel⟩
  have hleaf : (⟨["verification", "code_prefix"], false, fun s => s.verification.codePrefix⟩
      : Leaf App) ∈ App.leaves := List.mem_of_getElem? (i := 22) rfl
  obtain ⟨-, hverbatim⟩ := text_override_arrives_retold vars {} _ hload _ _ _ hleaf "otp_1_"
    (fun hpath => absurd hpath (by decide)) hoverrides
  exact ⟨_, hload, hoverrides, rfl, hverbatim.1 rfl⟩

/-- A password that is a number with zeros in front arrives without them. -/
theorem password_of_digits_loses_zeros :
    let vars : Variables := [("APP__EMAIL__PASSWORD", some "007")]
    Overrides vars passwordPath "007" ∧ passwordLeaf ∈ App.leaves
      ∧ ∃ c, load vars {} = .ok c ∧ c.email.password = "7" := by
  intro vars
  have hload : load vars {} = .ok { vars.app with email := { password := "7" } } :=
    eq_ok_of_toOption (by decide +kernel)
  exact ⟨⟨by decide +kernel, by decide +kernel⟩, passwordLeaf_mem, _, hload, rfl⟩

end Settings

end Passcode
