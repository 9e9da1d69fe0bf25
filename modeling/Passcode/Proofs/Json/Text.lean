import Passcode.Json.Decode
import Passcode.Proofs.Json.Literal

/-!
# Written values

The text that the program writes for a value is read as the tree of that value and as nothing else,
so a reader of typed values sees exactly what was written. The proof follows the grammar: a value,
the items of an array, the members of an object, each with any text after it.

## Main definitions

* `Value.tree` — a written value as a reader meets it
* `Value.Exact` — all integers of a value fit 64 bits
* `ReadsBack` — what is written of a type is read back

## Main statements

* `value_chars` — a written value is read back, whatever follows it
* `decodeText_render` — decoding a written text is decoding its tree
-/

namespace Passcode.Json

open Passcode.Text (isDigit)

mutual

/-- A written value as a reader meets it. -/
def Value.tree : Value → Tree
  | .null => .ofScalar .null
  | .bool b => .ofScalar (.bool b)
  | .int n => .ofScalar (.number (.ofInt n))
  | .string s => .ofScalar (.string s)
  | .array items => .array (itemTrees items) none
  | .object members => .object (memberTrees members) none

/-- Written items as a reader meets them. -/
def itemTrees : List Value → List Tree
  | [] => []
  | v :: vs => v.tree :: itemTrees vs

/-- Written members as a reader meets them. -/
def memberTrees : List (String × Value) → List (Tree × Tree)
  | [] => []
  | (k, v) :: ms => (.ofScalar (.string k), v.tree) :: memberTrees ms

end

mutual

/-- All integers of a value fit 64 bits, with or without sign. -/
def Value.Exact : Value → Prop
  | .int n => -(twoTo 63 : Int) ≤ n ∧ n < (twoTo 64 : Int)
  | .array items => ItemsExact items
  | .object members => MembersExact members
  | _ => True

/-- All integers of some items fit 64 bits. -/
def ItemsExact : List Value → Prop
  | [] => True
  | v :: vs => v.Exact ∧ ItemsExact vs

/-- All integers of some members fit 64 bits. -/
def MembersExact : List (String × Value) → Prop
  | [] => True
  | (_, v) :: ms => v.Exact ∧ MembersExact ms

end

theorem membersExact_iff {ms : List (String × Value)} :
    MembersExact ms ↔ ∀ m ∈ ms, m.2.Exact := by
  induction ms with
  | nil => simp [MembersExact]
  | cons m ms ih => simp [MembersExact, ih]

theorem memberTrees_eq_map (ms : List (String × Value)) :
    memberTrees ms = ms.map fun m => (.ofScalar (.string m.1), m.2.tree) := by
  induction ms with
  | nil => rfl
  | cons m ms ih => rw [memberTrees, ih, List.map_cons]

/-! ## The first character of a value -/

/-- Whether a value may start with a character. -/
def isStart (c : Char) : Bool :=
  c = 'n' || c = 't' || c = 'f' || c = '"' || c = '-' || c = '[' || c = '\x7b' || isDigit c

/-- A character that passes a test is none of those that fail it. -/
theorem ne_of_test {p : Char → Bool} {c d : Char} (h : p c = true) (hd : p d = false) : c ≠ d := by
  rintro rfl
  rw [h] at hd
  exact absurd hd nofun

theorem isStart_of_isDigit {c : Char} (h : isDigit c = true) : isStart c = true := by
  simp [isStart, h]

theorem exists_digit_toDigits (n : Nat) :
    ∃ c cs, Nat.toDigits 10 n = c :: cs ∧ isDigit c = true := by
  obtain ⟨c, cs, h⟩ := List.exists_cons_of_ne_nil (Nat.toDigits_ne_nil (n := n) (b := 10))
  exact ⟨c, cs, h, isDigit_of_mem_toDigits (n := n) (by rw [h]; exact List.mem_cons_self)⟩

theorem exists_start_integer (n : Int) :
    ∃ c cs, integer n = c :: cs ∧ isStart c = true ∧ c ≠ '[' ∧ c ≠ '\x7b' := by
  unfold integer
  split
  · exact ⟨_, _, rfl, by decide, by decide, by decide⟩
  · obtain ⟨c, cs, h, hdigit⟩ := exists_digit_toDigits n.natAbs
    exact ⟨c, cs, h, isStart_of_isDigit hdigit, ne_of_test hdigit (by decide),
      ne_of_test hdigit (by decide)⟩

theorem exists_start_chars (v : Value) : ∃ c cs, v.chars = c :: cs ∧ isStart c = true := by
  cases v with
  | null => exact ⟨_, _, rfl, by decide⟩
  | bool b => cases b <;> exact ⟨_, _, rfl, by decide⟩
  | int n =>
    obtain ⟨c, cs, h, hstart, -⟩ := exists_start_integer n
    exact ⟨c, cs, h, hstart⟩
  | string s => exact ⟨_, _, rfl, by decide⟩
  | array items => exact ⟨_, _, rfl, by decide⟩
  | object members => exact ⟨_, _, rfl, by decide⟩

theorem exists_start_itemChars (v : Value) (vs : List Value) :
    ∃ c cs, itemChars (v :: vs) = c :: cs ∧ isStart c = true := by
  obtain ⟨c, cs, hcs, hc⟩ := exists_start_chars v
  cases vs with
  | nil => exact ⟨c, cs, hcs, hc⟩
  | cons w vs => exact ⟨c, cs ++ ',' :: itemChars (w :: vs), by simp [itemChars, hcs], hc⟩

theorem exists_quote_memberChars (k : String) (v : Value) (ms : List (String × Value)) :
    ∃ cs, memberChars ((k, v) :: ms) = '"' :: cs := by
  cases ms with
  | nil => exact ⟨_, rfl⟩
  | cons m ms => exact ⟨_, rfl⟩

theorem dropBlanks_cons {c : Char} (h : c ≠ ' ' ∧ c ≠ '\n' ∧ c ≠ '\t' ∧ c ≠ '\r')
    (s : List Char) : dropBlanks (c :: s) = c :: s := by
  simp [dropBlanks, h]

theorem dropBlanks_of_isStart {c : Char} (h : isStart c = true) (s : List Char) :
    dropBlanks (c :: s) = c :: s :=
  dropBlanks_cons ⟨ne_of_test h (by decide), ne_of_test h (by decide),
    ne_of_test h (by decide), ne_of_test h (by decide)⟩ s

/-! ## Scalars -/

/-- A value that is neither array nor object is read as a scalar. -/
theorem value_eq_scalar {c : Char} (h : isStart c = true) (harray : c ≠ '[') (hobject : c ≠ '\x7b')
    (standIn : Option Char) (fuel : Nat) (s : List Char) :
    value standIn (fuel + 1) (c :: s) = scalar standIn (c :: s) := by
  rw [value, dropBlanks_of_isStart h]
  split
  · simp_all
  · simp_all
  · rfl

theorem scalar_digit {c : Char} (h : isDigit c = true) (standIn : Option Char) (s : List Char) :
    scalar standIn (c :: s) = number false (c :: s) := by
  have hquote : c ≠ '"' := ne_of_test h (by decide)
  have hn : c ≠ 'n' := ne_of_test h (by decide)
  have ht : c ≠ 't' := ne_of_test h (by decide)
  have hf : c ≠ 'f' := ne_of_test h (by decide)
  have hminus : c ≠ '-' := ne_of_test h (by decide)
  rw [scalar.eq_def]
  split <;> simp_all

theorem scalar_integer {n : Int} (hn : (Value.int n).Exact) {rest : List Char}
    (hrest : EndsNumber rest) (standIn : Option Char) :
    scalar standIn (integer n ++ rest) = (Tree.ofScalar (.number (.ofInt n)), some rest) := by
  have hnumber := number_toDigits hn.1 hn.2 hrest
  unfold integer
  split
  · next hneg =>
    rw [decide_eq_true hneg] at hnumber
    exact hnumber
  · next hneg =>
    rw [decide_eq_false hneg] at hnumber
    obtain ⟨c, cs, hcs, hdigit⟩ := exists_digit_toDigits n.natAbs
    rw [hcs] at hnumber ⊢
    exact (scalar_digit hdigit standIn _).trans hnumber

/-! ## Values -/

/-- A text after an item or a member. -/
theorem endsNumber_mark {c : Char} (h : c = ',' ∨ c = ']' ∨ c = '\x7d') (rest : List Char) :
    EndsNumber (c :: rest) := by
  obtain rfl | rfl | rfl := h <;>
    exact endsNumber_cons (by decide) (by decide) (by decide) (by decide)

theorem string_literal_append (s : String) (rest : List Char) :
    literal s ++ rest = '"' :: (s.toList.flatMap escape ++ '"' :: rest) := by
  simp [literal]

/-- An array that has items. -/
theorem value_array {c : Char} (h : isStart c = true) {fuel : Nat} {s rest : List Char}
    {found : List Tree} (hitems : items none fuel (c :: s) = (found, none, some rest)) :
    value none (fuel + 1) ('[' :: c :: s) = (.array found none, some rest) := by
  rw [value, dropBlanks_of_isStart (by decide)]
  simp only [dropBlanks_of_isStart h]
  split
  · next heq => exact absurd (List.cons.inj heq).1 (ne_of_test h (by decide))
  · rw [hitems]

/-- An object that has members. -/
theorem value_object {fuel : Nat} {s rest : List Char} {found : List (Tree × Tree)}
    (hmembers : members none fuel ('"' :: s) = (found, none, some rest)) :
    value none (fuel + 1) ('\x7b' :: '"' :: s) = (.object found none, some rest) := by
  rw [value, dropBlanks_of_isStart (by decide)]
  simp only [dropBlanks_of_isStart (c := '"') (by decide)]
  split
  · next heq => exact absurd (List.cons.inj heq).1 (by decide)
  · next heq => exact absurd heq nofun
  · rw [hmembers]

/-- An item before a comma, and the items after it. -/
theorem items_comma {fuel : Nat} {s rest : List Char} {item : Tree}
    (h : value none fuel s = (item, some (',' :: rest))) :
    items none (fuel + 1) s = (item :: (items none fuel rest).1, (items none fuel rest).2) := by
  rw [items, h]
  simp [dropBlanks_cons]

/-- The last item of an array. -/
theorem items_close {fuel : Nat} {s rest : List Char} {item : Tree}
    (h : value none fuel s = (item, some (']' :: rest))) :
    items none (fuel + 1) s = ([item], none, some rest) := by
  rw [items, h]
  simp [dropBlanks_cons]

/-- The key of a member, and the value after it. -/
theorem members_comma {fuel : Nat} {k : String} {s rest : List Char} {v : Tree}
    (h : value none fuel s = (v, some (',' :: rest))) :
    members none (fuel + 1) (literal k ++ ':' :: s)
      = ((.ofScalar (.string k), v) :: (members none fuel rest).1, (members none fuel rest).2) := by
  rw [members, string_literal_append, dropBlanks_of_isStart (by decide)]
  simp [string_literal, dropBlanks_cons, h]

/-- The last member of an object. -/
theorem members_close {fuel : Nat} {k : String} {s rest : List Char} {v : Tree}
    (h : value none fuel s = (v, some ('\x7d' :: rest))) :
    members none (fuel + 1) (literal k ++ ':' :: s)
      = ([(.ofScalar (.string k), v)], none, some rest) := by
  rw [members, string_literal_append, dropBlanks_of_isStart (by decide)]
  simp [string_literal, dropBlanks_cons, h]

mutual

/-- **A written value is read back**, whatever follows it. -/
theorem value_chars : ∀ (v : Value) (fuel : Nat) (rest : List Char), v.Exact →
    v.chars.length ≤ fuel → EndsNumber rest →
    value none fuel (v.chars ++ rest) = (v.tree, some rest)
  | v, 0, rest, _, hfuel, _ => by
    obtain ⟨c, cs, hcs, -⟩ := exists_start_chars v
    simp [hcs] at hfuel
  | .null, fuel + 1, rest, _, _, _ =>
    (value_eq_scalar (c := 'n') (by decide) (by decide) (by decide) none fuel _).trans rfl
  | .bool true, fuel + 1, rest, _, _, _ =>
    (value_eq_scalar (c := 't') (by decide) (by decide) (by decide) none fuel _).trans rfl
  | .bool false, fuel + 1, rest, _, _, _ =>
    (value_eq_scalar (c := 'f') (by decide) (by decide) (by decide) none fuel _).trans rfl
  | .int n, fuel + 1, rest, hv, _, hrest => by
    obtain ⟨c, cs, hcs, hc, harray, hobject⟩ := exists_start_integer n
    have hscalar := scalar_integer hv hrest none
    rw [hcs] at hscalar
    rw [Value.chars, hcs]
    exact (value_eq_scalar hc harray hobject none fuel _).trans hscalar
  | .string s, fuel + 1, rest, _, _, _ => by
    rw [Value.chars, string_literal_append,
      value_eq_scalar (by decide) (by decide) (by decide) none fuel]
    exact string_literal s rest
  | .array [], fuel + 1, rest, _, _, _ => by
    simp [Value.chars, itemChars, Value.tree, itemTrees, value, dropBlanks_cons]
  | .array (v :: vs), fuel + 1, rest, hv, hfuel, _ => by
    obtain ⟨c, cs, hcs, hc⟩ := exists_start_itemChars v vs
    have hitems := items_itemChars v vs fuel rest hv (by simp [Value.chars] at hfuel; omega)
    rw [hcs] at hitems
    rw [Value.chars, hcs, Value.tree]
    simpa using value_array hc hitems
  | .object [], fuel + 1, rest, _, _, _ => by
    simp [Value.chars, memberChars, Value.tree, memberTrees, value, dropBlanks_cons]
  | .object ((k, v) :: ms), fuel + 1, rest, hv, hfuel, _ => by
    obtain ⟨cs, hcs⟩ := exists_quote_memberChars k v ms
    have hmembers := members_memberChars k v ms fuel rest hv (by simp [Value.chars] at hfuel; omega)
    rw [hcs] at hmembers
    rw [Value.chars, hcs, Value.tree]
    simpa using value_object hmembers

/-- Written items are read back. -/
theorem items_itemChars : ∀ (v : Value) (vs : List Value) (fuel : Nat) (rest : List Char),
    ItemsExact (v :: vs) → (itemChars (v :: vs)).length < fuel →
    items none fuel (itemChars (v :: vs) ++ ']' :: rest) = (itemTrees (v :: vs), none, some rest)
  | _, _, 0, _, _, hfuel => absurd hfuel (by omega)
  | v, [], fuel + 1, rest, hvs, hfuel => by
    rw [itemChars] at hfuel ⊢
    exact items_close (value_chars v fuel _ hvs.1 (by omega) (endsNumber_mark (by simp) rest))
  | v, w :: vs, fuel + 1, rest, hvs, hfuel => by
    simp only [itemChars, List.length_append, List.length_cons] at hfuel
    have hv := value_chars v fuel (',' :: (itemChars (w :: vs) ++ ']' :: rest)) hvs.1 (by omega)
      (endsNumber_mark (by simp) _)
    have hmore := items_itemChars w vs fuel rest hvs.2 (by omega)
    rw [itemChars, List.append_assoc, List.cons_append, items_comma hv, hmore, itemTrees]
    · rfl
    · nofun

/-- Written members are read back. -/
theorem members_memberChars : ∀ (k : String) (v : Value) (ms : List (String × Value)) (fuel : Nat)
    (rest : List Char), MembersExact ((k, v) :: ms) → (memberChars ((k, v) :: ms)).length < fuel →
    members none fuel (memberChars ((k, v) :: ms) ++ '\x7d' :: rest)
      = (memberTrees ((k, v) :: ms), none, some rest)
  | _, _, _, 0, _, _, hfuel => absurd hfuel (by omega)
  | k, v, [], fuel + 1, rest, hms, hfuel => by
    simp only [memberChars, List.length_append, List.length_cons] at hfuel
    have hv := value_chars v fuel ('\x7d' :: rest) hms.1 (by omega) (endsNumber_mark (by simp) _)
    rw [memberChars, List.append_assoc, List.cons_append, members_close hv]
    rfl
  | k, v, (l, w) :: ms, fuel + 1, rest, hms, hfuel => by
    simp only [memberChars, List.length_append, List.length_cons] at hfuel
    have hv := value_chars v fuel (',' :: (memberChars ((l, w) :: ms) ++ '\x7d' :: rest)) hms.1
      (by omega) (endsNumber_mark (by simp) _)
    have hmore := members_memberChars l w ms fuel rest hms.2 (by omega)
    rw [memberChars, List.append_assoc, List.cons_append, List.append_assoc, List.cons_append,
      members_comma hv, hmore, memberTrees]
    · rfl
    · nofun

end

/-! ## Whole texts -/

/-- **A written text is one value.** Nothing follows it. -/
theorem ofChars_chars {v : Value} (hv : v.Exact) :
    Document.ofChars none v.chars = ⟨v.tree, false⟩ := by
  have hvalue := value_chars v (2 * v.chars.length + 2) [] hv (by omega) endsNumber_nil
  rw [List.append_nil] at hvalue
  rw [Document.ofChars, hvalue]
  simp [dropBlanks]

/-- Decoding a written text is decoding its tree. -/
theorem decodeText_render {α : Type} {v : Value} (hv : v.Exact) (decode : Decoder α) :
    decodeText decode v.render = decode v.tree := by
  rw [decodeText, Value.render, String.toList_ofList, ofChars_chars hv, Document.decode]
  cases decode v.tree <;> rfl

/-- The text of a value of a type is decoded to that value. -/
def ReadsBack {α : Type} (toJson : α → Value) (decode : Decoder α) : Prop :=
  ∀ a, decodeText decode (toJson a).render = .ok a

variable {α : Type} {toJson : α → Value} {decode : Decoder α}

theorem ReadsBack.of_tree (hexact : ∀ a, (toJson a).Exact)
    (htree : ∀ a, decode (toJson a).tree = .ok a) : ReadsBack toJson decode := fun a =>
  (decodeText_render (hexact a) decode).trans (htree a)

/-- Values that are read back have different texts. -/
theorem ReadsBack.injective (h : ReadsBack toJson decode) {a b : α}
    (hab : (toJson a).render = (toJson b).render) : a = b :=
  Except.ok.inj ((h a).symm.trans ((congrArg (decodeText decode) hab).trans (h b)))

/-! ## Records -/

/-- A record is read once every field that has to be there is. -/
theorem decodeRecord_object {S : Type} {title : String} {fields : List (Field S)} {start : S}
    {members : List (Tree × Tree)} {p : Partial S}
    (h : addMembers fields ⟨start, []⟩ members = .ok p)
    (hseen : ∀ f ∈ fields, f.presence = .required → f.name ∈ p.seen) :
    decodeRecord title fields start (.object members none) = .ok p.record := by
  have hmissing : fields.find? (fun f => f.presence = .required && !p.seen.contains f.name)
      = none := by
    rw [List.find?_eq_none]
    intro f hf
    simpa using hseen f hf
  simp only [decodeRecord, h, bind, Except.bind, hmissing]
  rfl

end Passcode.Json
