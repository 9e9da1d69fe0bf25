import Passcode.Mask
import Passcode.Proofs.Text.Offset
import Passcode.Proofs.Text.Split

/-!
# What a masked connection string shows

In a connection string everything from the first `://` to the last `@` after it is hidden, whatever
stands there. What stands before and after is shown, and a string without such a part is shown as it
is.

The same comes about by searching for the last `@` and the first `://` and cutting the string at
the byte offsets found, each of which is a place where it can be cut.

## Main definitions

* `UrlForm` — the three forms of strings: with something hidden, with nothing to hide, without `://`
* `urlByOffsets` — the masked string, cut by byte offsets

## Main statements

* `urlForm` — every string has one of the forms
* `url_of_guarded`, `url_of_unguarded`, `url_of_plain` — what is shown of each form
* `url_append`, `url_append_of_mem` — what is shown of a string that goes on
* `urlByOffsets_eq_some` — the cuts by byte offsets
* `url_hides_user_information` — what is hidden, whatever the string
-/

namespace Passcode.Mask

open Text (BeforeFirst IsFirstOffset IsLastOffset offsets upTo? from?)

/-! ## The forms of connection strings -/

/-- A string comes to its first `://` after this. -/
def IsScheme (scheme : String) : Prop := BeforeFirst schemeMark scheme.toList

theorem isScheme_of_not_mem {scheme : String} (h : ':' ∉ scheme.toList) : IsScheme scheme :=
  Text.beforeFirst_of_not_mem h ['/', '/']

/-- The forms of strings. -/
inductive UrlForm : String → Prop
  /-- There is an `@` after the first `://`. -/
  | guarded {scheme host : String} (hscheme : IsScheme scheme) (hhost : '@' ∉ host.toList)
      (credentials : String) : UrlForm (scheme ++ "://" ++ credentials ++ "@" ++ host)
  /-- There is none. -/
  | unguarded {scheme rest : String} (hscheme : IsScheme scheme) (hrest : '@' ∉ rest.toList) :
      UrlForm (scheme ++ "://" ++ rest)
  /-- There is no `://`. -/
  | plain {s : String} (h : ∀ x y, s ≠ x ++ "://" ++ y) : UrlForm s

theorem schemeMark_ne_nil : schemeMark ≠ [] := List.cons_ne_nil _ _

theorem eq_append_of_toList_eq {s : String} {a b : List Char}
    (h : s.toList = a ++ schemeMark ++ b) : s = String.ofList a ++ "://" ++ String.ofList b := by
  rw [← String.toList_inj, h]
  simp only [String.toList_append, String.toList_ofList]
  rfl

/-- Every string has one of the forms. -/
theorem urlForm (s : String) : UrlForm s := by
  cases hmark : Text.splitAtText schemeMark s.toList with
  | none =>
    refine .plain fun x y hs => ?_
    refine (Text.splitAtText_eq_none_iff schemeMark_ne_nil).1 hmark x.toList y.toList ?_
    rw [hs, String.toList_append, String.toList_append]
    rfl
  | some cut =>
    obtain ⟨a, b⟩ := cut
    obtain ⟨hs, hfirst⟩ := (Text.splitAtText_eq_some_iff schemeMark_ne_nil).1 hmark
    obtain rfl := eq_append_of_toList_eq hs
    have hscheme : IsScheme (String.ofList a) := by rwa [IsScheme, String.toList_ofList]
    by_cases hat : '@' ∈ (String.ofList b).toList
    · obtain ⟨c, d, hb, hhost⟩ := Text.exists_last hat
      rw [hb, ← String.append_assoc, ← String.append_assoc]
      exact .guarded hscheme hhost c
    · exact .unguarded hscheme hat

/-! ## What is shown of each form -/

section

variable {scheme : String} (hscheme : IsScheme scheme)

include hscheme

/-- A string is cut at its first `://`. -/
theorem splitAtText_toList (rest : String) :
    Text.splitAtText schemeMark (scheme ++ "://" ++ rest).toList
      = some (scheme.toList, rest.toList) := by
  rw [String.toList_append, String.toList_append]
  exact Text.splitAtText_append schemeMark_ne_nil hscheme rest.toList

/-- What stands between the first `://` and the last `@` is hidden. -/
theorem url_of_guarded {host : String} (hhost : '@' ∉ host.toList) (credentials : String) :
    url (scheme ++ "://" ++ credentials ++ "@" ++ host) = scheme ++ "://****@" ++ host := by
  have hlast : Text.splitAtLast '@' (credentials ++ "@" ++ host).toList
      = some (credentials.toList, host.toList) := by
    rw [String.toList_append, String.toList_append, List.append_assoc]
    exact Text.splitAtLast_append hhost _
  have hwhole : scheme ++ "://" ++ credentials ++ "@" ++ host
      = scheme ++ "://" ++ (credentials ++ "@" ++ host) := by
    simp only [String.append_assoc]
  rw [hwhole, url, urlChars, splitAtText_toList hscheme]
  simp only [hlast]
  rw [← String.toList_inj, String.toList_ofList]
  simp only [String.toList_append, List.append_assoc]
  rfl

/-- Without an `@` after the first `://` nothing is hidden. -/
theorem url_of_unguarded {rest : String} (hrest : '@' ∉ rest.toList) :
    url (scheme ++ "://" ++ rest) = scheme ++ "://" ++ rest := by
  rw [url, urlChars, splitAtText_toList hscheme]
  simp only [Text.splitAtLast_eq_none.2 hrest, String.ofList_toList]

end

/-- Without a `://` nothing is hidden. -/
theorem url_of_plain {s : String} (h : ∀ x y, s ≠ x ++ "://" ++ y) : url s = s := by
  have hmark : Text.splitAtText schemeMark s.toList = none :=
    (Text.splitAtText_eq_none_iff schemeMark_ne_nil).2 fun x y hs =>
      h _ _ (eq_append_of_toList_eq hs)
  rw [url, urlChars, hmark, String.ofList_toList]

/-- What is masked once is masked. -/
theorem url_url (s : String) : url (url s) = url s := by
  cases urlForm s with
  | guarded hscheme hhost credentials =>
    rw [url_of_guarded hscheme hhost]
    have hstars := url_of_guarded hscheme hhost "****"
    simp only [String.append_assoc] at hstars ⊢
    exact hstars
  | unguarded hscheme hrest => rw [url_of_unguarded hscheme hrest, url_of_unguarded hscheme hrest]
  | plain h => rw [url_of_plain h, url_of_plain h]

/-- What follows is shown as it is, if no `@` is in it. -/
theorem url_append {s tail : String} (hs : ∃ x y, s = x ++ "://" ++ y) (h : '@' ∉ tail.toList) :
    url (s ++ tail) = url s ++ tail := by
  cases urlForm s with
  | @guarded scheme host hscheme hhost credentials =>
    have hhost' : '@' ∉ (host ++ tail).toList := by
      rw [String.toList_append, List.mem_append]
      exact not_or.2 ⟨hhost, h⟩
    rw [String.append_assoc, url_of_guarded hscheme hhost', url_of_guarded hscheme hhost]
    simp only [String.append_assoc]
  | @unguarded scheme rest hscheme hrest =>
    have hrest' : '@' ∉ (rest ++ tail).toList := by
      rw [String.toList_append, List.mem_append]
      exact not_or.2 ⟨hrest, h⟩
    rw [String.append_assoc, url_of_unguarded hscheme hrest', url_of_unguarded hscheme hrest]
    simp only [String.append_assoc]
  | plain hplain =>
    obtain ⟨x, y, rfl⟩ := hs
    exact absurd rfl (hplain x y)

/-- What stands before something with an `@` is hidden. -/
theorem url_append_of_mem {scheme tail : String} (hscheme : IsScheme scheme)
    (h : '@' ∈ tail.toList) (front : String) :
    url (scheme ++ "://" ++ (front ++ tail)) = url (scheme ++ "://" ++ tail) := by
  obtain ⟨a, b, rfl, hb⟩ := Text.exists_last h
  have hlong := url_of_guarded hscheme hb (front ++ a)
  have hshort := url_of_guarded hscheme hb a
  simp only [String.append_assoc] at hlong hshort ⊢
  exact hlong.trans hshort.symm

/-! ## Cuts by byte offsets -/

/-- The masked string by the byte offsets of its last `@` and its first `://`. There is none if the
string cannot be cut there. -/
def urlByOffsets (s : String) : Option Nat → Option Nat → Option String
  | some last, some first =>
    if first < last then do
      let before ← upTo? s (first + 3)
      let after ← from? s last
      return before ++ "****" ++ after
    else some s
  | _, _ => some s

theorem isFirstOffset_scheme {scheme : String} (hscheme : IsScheme scheme) (rest : String) :
    IsFirstOffset "://" (scheme ++ "://" ++ rest) (some scheme.utf8ByteSize) := by
  refine ⟨Text.utf8ByteSize_mem_offsets scheme _ rest, ?_⟩
  rintro _ ⟨x, y, hs, rfl⟩
  have hlists := congrArg String.toList hs
  simp only [String.toList_append] at hlists
  obtain ⟨z, hz⟩ := hscheme.exists_append hlists
  obtain rfl : x = scheme ++ String.ofList z := by
    rw [← String.toList_inj, hz, String.toList_append, String.toList_ofList]
  rw [String.utf8ByteSize_append]
  exact Nat.le_add_right _ _

/-- Without an `@` after the first `://`, every `@` stands before it. -/
theorem not_lt_of_mem_offsets {scheme rest : String} (hrest : '@' ∉ rest.toList) {n : Nat}
    (hn : n ∈ offsets "@" (scheme ++ "://" ++ rest)) : ¬scheme.utf8ByteSize < n := by
  intro hlt
  obtain ⟨x, y, hs, rfl⟩ := hn
  rw [String.append_assoc, String.append_assoc] at hs
  obtain ⟨z, rfl⟩ := Text.exists_append_of_size_le hs hlt.le
  rw [String.append_assoc, String.append_right_inj] at hs
  have hat : '@' ∈ ("://" ++ rest).toList := by
    rw [hs, String.toList_append, String.toList_append]
    exact List.mem_append_right _ List.mem_cons_self
  rw [String.toList_append, List.mem_append] at hat
  exact hat.elim (by decide) hrest

/-- **The cuts by byte offsets** can all be made, and come to the masked string. -/
theorem urlByOffsets_eq_some {s : String} {last? first? : Option Nat}
    (hlast : IsLastOffset "@" s last?) (hfirst : IsFirstOffset "://" s first?) :
    urlByOffsets s last? first? = some (url s) := by
  cases urlForm s with
  | @guarded scheme host hscheme hhost credentials =>
    have hwhole : scheme ++ "://" ++ credentials ++ "@" ++ host
        = scheme ++ "://" ++ (credentials ++ "@" ++ host) := by
      simp only [String.append_assoc]
    have hfirst' := isFirstOffset_scheme hscheme (credentials ++ "@" ++ host)
    rw [← hwhole] at hfirst'
    obtain rfl := hfirst.unique hfirst'
    obtain rfl := hlast.unique (Text.isLastOffset_of_not_mem hhost (scheme ++ "://" ++ credentials))
    have hbefore : upTo? (scheme ++ "://" ++ credentials ++ "@" ++ host) (scheme.utf8ByteSize + 3)
        = some (scheme ++ "://") := by
      have hsize : (scheme ++ "://").utf8ByteSize = scheme.utf8ByteSize + 3 :=
        String.utf8ByteSize_append
      rw [hwhole, ← hsize]
      exact Text.upTo?_append _ _
    have hafter : from? (scheme ++ "://" ++ credentials ++ "@" ++ host)
        (scheme ++ "://" ++ credentials).utf8ByteSize = some ("@" ++ host) := by
      rw [String.append_assoc]
      exact Text.from?_append _ _
    have hlt : scheme.utf8ByteSize < (scheme ++ "://" ++ credentials).utf8ByteSize := by
      have hmark : "://".utf8ByteSize = 3 := rfl
      rw [String.utf8ByteSize_append, String.utf8ByteSize_append, hmark]
      omega
    rw [urlByOffsets, if_pos hlt, hbefore, hafter, url_of_guarded hscheme hhost]
    have hstars : scheme ++ "://****@" ++ host = scheme ++ "://" ++ "****" ++ ("@" ++ host) := by
      rw [← String.toList_inj]
      simp only [String.toList_append, List.append_assoc]
      rfl
    rw [hstars]
    rfl
  | @unguarded scheme rest hscheme hrest =>
    obtain rfl := hfirst.unique (isFirstOffset_scheme hscheme rest)
    rw [url_of_unguarded hscheme hrest]
    cases last? with
    | none => rfl
    | some last => rw [urlByOffsets, if_neg (not_lt_of_mem_offsets hrest hlast.1)]
  | plain h =>
    have hnone : IsFirstOffset "://" s none :=
      Set.eq_empty_iff_forall_notMem.2 fun _ ⟨x, y, hs, _⟩ => h x y hs
    obtain rfl := hfirst.unique hnone
    rw [url_of_plain h]
    cases last? <;> rfl

/-! ## What is hidden -/

theorem url_of_offsets_lt {s : String}
    (h : ∀ first, IsFirstOffset "://" s (some first) → ∀ n ∈ offsets "@" s, n < first) :
    url s = s := by
  obtain ⟨last?, hlast⟩ := Text.exists_isLastOffset "@" s
  obtain ⟨first?, hfirst⟩ := Text.exists_isFirstOffset "://" s
  have hcut := urlByOffsets_eq_some hlast hfirst
  cases last? with
  | none => exact (Option.some.inj hcut).symm
  | some last =>
    cases first? with
    | none => exact (Option.some.inj hcut).symm
    | some first =>
      have hlt := h first hfirst last hlast.1
      rw [urlByOffsets, if_neg (by omega)] at hcut
      exact (Option.some.inj hcut).symm

/-- **A masked connection string hides the user information**, whatever this is: after a scheme
without a colon nothing is shown up to the last `@`. A string is shown as it is if no `@` follows
its first `://`. The cuts at the byte offsets of the last `@` and the first `://` can be made in
every string, and come to the masked string. Masking again changes nothing. -/
theorem url_hides_user_information :
    (∀ scheme host : String, ':' ∉ scheme.toList → '@' ∉ host.toList → ∀ credentials : String,
        url (scheme ++ "://" ++ credentials ++ "@" ++ host) = scheme ++ "://****@" ++ host)
      ∧ (∀ s : String,
        (∀ first, IsFirstOffset "://" s (some first) → ∀ n ∈ offsets "@" s, n < first) → url s = s)
      ∧ (∀ s : String, ∃ last? first?, IsLastOffset "@" s last? ∧ IsFirstOffset "://" s first?
        ∧ urlByOffsets s last? first? = some (url s))
      ∧ ∀ s : String, url (url s) = url s := by
  refine ⟨fun scheme host hscheme hhost => url_of_guarded (isScheme_of_not_mem hscheme) hhost,
    fun s => url_of_offsets_lt, fun s => ?_, url_url⟩
  obtain ⟨last?, hlast⟩ := Text.exists_isLastOffset "@" s
  obtain ⟨first?, hfirst⟩ := Text.exists_isFirstOffset "://" s
  exact ⟨last?, first?, hlast, hfirst, urlByOffsets_eq_some hlast hfirst⟩

/-- A password with separators and characters of several bytes is hidden as a whole, and an `@`
before the scheme hides nothing. -/
theorem password_of_separators_is_hidden :
    (':' ∉ "redis".toList ∧ '@' ∉ "хост:6379".toList
        ∧ url ("redis" ++ "://" ++ "u:п@ss://w@rd" ++ "@" ++ "хост:6379")
          = "redis" ++ "://****@" ++ "хост:6379")
      ∧ (∀ first, IsFirstOffset "://" "a@b://h" (some first) →
          ∀ n ∈ offsets "@" "a@b://h", n < first)
      ∧ url "a@b://h" = "a@b://h" := by
  obtain ⟨hhidden, hshown, -, -⟩ := url_hides_user_information
  have hscheme : ':' ∉ "redis".toList := by decide
  have hhost : '@' ∉ "хост:6379".toList := by decide
  have hbefore : ∀ first, IsFirstOffset "://" "a@b://h" (some first)
      → ∀ n ∈ offsets "@" "a@b://h", n < first := by
    intro first hfirst n hn
    have hat : IsScheme "a@b" := isScheme_of_not_mem (by decide)
    have hrest : '@' ∉ "b://h".toList := by decide
    have hmark : IsFirstOffset "://" "a@b://h" (some 3) := isFirstOffset_scheme hat "h"
    have hlast : IsGreatest (offsets "@" "a@b://h") 1 := Text.isLastOffset_of_not_mem hrest "a"
    have hn : n ≤ 1 := hlast.2 hn
    obtain rfl : first = 3 := Option.some.inj (hfirst.unique hmark)
    omega
  exact ⟨⟨hscheme, hhost, hhidden _ _ hscheme hhost _⟩, hbefore, hshown _ hbefore⟩

end Passcode.Mask
