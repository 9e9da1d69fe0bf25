import Passcode.Proofs.Settings.Group

/-!
# The leaves of a group

The leaves of a group are those of its parts. A group goes into a layer as a table with an entry for
each part that is not secret, and comes out of a table part by part: a part is what the table has
under its name, or else what it is at the start.

## Main statements

* `Group.written_leaves` — a group goes into a layer leaf by leaf
* `Group.fillEntries_eq_ok_iff` — filling a group from a table sets each part on its own
* `Group.fills_iff` — so a group comes out of a layer leaf by leaf
-/

namespace Passcode.Settings

open Layers (Value)

namespace Group

variable {S : Type} [Schema S] [Group S]

/-- The leaves of all parts of a group. -/
def leaves (S : Type) [Schema S] [Group S] : List (Leaf S) := parts.flatMap Part.leaves

theorem mem_leaves {p : Part S} (hp : p ∈ parts) {l : Leaf p.α} (hl : l ∈ p.inner) :
    l.within p.name p.secret p.get ∈ leaves S :=
  List.mem_flatMap.2 ⟨p, hp, List.mem_map_of_mem hl⟩

theorem forall_mem_leaves {P : Leaf S → Prop} :
    (∀ l ∈ leaves S, P l)
      ↔ ∀ p ∈ parts (S := S), ∀ l ∈ p.inner, P (l.within p.name p.secret p.get) := by
  constructor
  · exact fun h p hp l hl => h _ (mem_leaves hp hl)
  · intro h l hl
    obtain ⟨p, hp, hl⟩ := List.mem_flatMap.1 hl
    obtain ⟨l', hl', rfl⟩ := List.mem_map.1 hl
    exact h p hp l' hl'

theorem exists_shown_leaf : ∃ l ∈ leaves S, l.secret = false := by
  obtain ⟨p, hp, hshown⟩ := exists_shown (S := S)
  obtain ⟨l, hl, hl'⟩ : ∃ l ∈ p.inner, l.secret = false := Leafy.exists_shown
  refine ⟨_, mem_leaves hp hl, ?_⟩
  change (p.secret || l.secret) = false
  rw [hshown, hl']
  rfl

theorem ext_leaves {s t : S} (h : ∀ l ∈ leaves S, l.get s = l.get t) : s = t := by
  rw [forall_mem_leaves] at h
  exact ext fun p hp => Leafy.ext (h p hp)

/-! ## Into a layer -/

/-- The entries have what some parts of a group leave in a layer. -/
structure WrittenEntries (ps : List (Part S)) (s : S) (entries : List (String × Value)) : Prop where
  names : entries.map Prod.fst = ps.map Part.name
  distinct : ∀ entry ∈ entries, entry.2.Distinct
  shown : ∀ p ∈ ps, ∃ w, Setting.toLayer (p.get s) = .ok w ∧ entries.lookup p.name = some w

omit [Schema S] [Group S] in
theorem layerEntries_cons_eq_ok_iff {s : S} {p : Part S} {ps : List (Part S)}
    {entries : List (String × Value)} :
    layerEntries s ((p :: ps).map Part.field) = .ok entries ↔
      ∃ w rest, Setting.toLayer (p.get s) = .ok w ∧ layerEntries s (ps.map Part.field) = .ok rest
        ∧ entries = (p.name, w) :: rest := by
  have hfield : p.field.toLayer s = Setting.toLayer (p.get s) := rfl
  rw [List.map_cons, layerEntries, hfield]
  cases Setting.toLayer (p.get s) with
  | error fault => simp
  | ok w =>
    cases layerEntries s (ps.map Part.field) with
    | error fault => simp [Except.map]
    | ok rest =>
      have hname : p.field.name = p.name := rfl
      simpa [Except.map, hname] using eq_comm

omit [Schema S] [Group S] in
theorem WrittenEntries.of_layerEntries {s : S} {ps : List (Part S)} (hps : (ps.map Part.name).Nodup)
    {entries : List (String × Value)} (h : layerEntries s (ps.map Part.field) = .ok entries) :
    WrittenEntries ps s entries := by
  induction ps generalizing entries with
  | nil =>
    obtain rfl := Except.ok.inj h
    exact ⟨rfl, nofun, nofun⟩
  | cons p ps ih =>
    obtain ⟨hnew, hps⟩ := List.nodup_cons.1 hps
    obtain ⟨w, rest, hw, hrest, rfl⟩ := layerEntries_cons_eq_ok_iff.1 h
    have ih := ih hps hrest
    refine ⟨congrArg (p.name :: ·) ih.names,
      List.forall_mem_cons.2 ⟨(Leafy.written hw).distinct, ih.distinct⟩, ?_⟩
    rw [List.forall_mem_cons]
    refine ⟨⟨w, hw, List.lookup_cons_self⟩, fun q hq => ?_⟩
    have hne : (q.name == p.name) = false :=
      beq_eq_false_iff_ne.2 fun h => hnew (h ▸ List.mem_map_of_mem hq)
    rw [List.lookup_cons, hne]
    exact ih.shown q hq

omit [Schema S] [Group S] in
theorem exists_layerEntries {s : S} {ps : List (Part S)}
    (h : ∀ p ∈ ps, ∃ w, Setting.toLayer (p.get s) = .ok w) :
    ∃ entries, layerEntries s (ps.map Part.field) = .ok entries := by
  induction ps with
  | nil => exact ⟨[], rfl⟩
  | cons p ps ih =>
    rw [List.forall_mem_cons] at h
    obtain ⟨w, hw⟩ := h.1
    obtain ⟨rest, hrest⟩ := ih h.2
    exact ⟨_, layerEntries_cons_eq_ok_iff.2 ⟨w, rest, hw, hrest, rfl⟩⟩

theorem toLayer_eq_ok_iff {s : S} {v : Value} :
    Setting.toLayer s = .ok v ↔
      ∃ entries, layerEntries s ((shown S).map Part.field) = .ok entries
        ∧ v = .table none entries := by
  change (layerEntries s ((Schema.fields (S := S)).filter (!·.secret))).map _ = _ ↔ _
  rw [shown_fields]
  cases layerEntries s ((shown S).map Part.field) with
  | error fault => simp [Except.map]
  | ok entries => simpa [Except.map] using eq_comm

/-- **A group goes into a layer leaf by leaf.** -/
theorem written_leaves {s : S} {v : Value} (h : Setting.toLayer s = .ok v) :
    Written (leaves S) s v := by
  obtain ⟨entries, hentries, rfl⟩ := toLayer_eq_ok_iff.1 h
  have hw := WrittenEntries.of_layerEntries nodup_shown hentries
  have hdistinct : Layers.EntriesDistinct entries :=
    Layers.entriesDistinct_iff.2 ⟨hw.names ▸ nodup_shown, hw.distinct⟩
  -- The name of a secret part is that of no other part, so nothing is written under it.
  have habsent : ∀ p ∈ parts (S := S), p.secret = true → entries.lookup p.name = none := by
    intro p hp hsecret
    rw [Layers.lookup_eq_none_iff, hw.names]
    intro hmem
    obtain ⟨q, hq, hname⟩ := List.mem_map.1 hmem
    obtain ⟨hq, hshown⟩ := mem_shown_iff.1 hq
    rw [eq_of_name_eq hq hp hname, hsecret] at hshown
    exact absurd hshown nofun
  refine ⟨hdistinct, forall_mem_leaves.2 fun p hp l hl => ?_,
    forall_mem_leaves.2 fun p hp l hl hshown => ?_, forall_mem_leaves.2 fun p hp l hl hhidden => ?_⟩
  · change (entries.lookup p.name).all (fun w => w.fits l.path) = true
    cases hsecret : p.secret with
    | true => rw [habsent p hp hsecret, Option.all_none]
    | false =>
      obtain ⟨w, hpart, hlookup⟩ := hw.shown p (mem_shown_iff.2 ⟨hp, hsecret⟩)
      rw [hlookup]
      exact (Leafy.written hpart).fits l hl
  · obtain ⟨hpart, hleaf⟩ := Bool.or_eq_false_iff.1 hshown
    obtain ⟨w, hpart, hlookup⟩ := hw.shown p (mem_shown_iff.2 ⟨hp, hpart⟩)
    obtain ⟨x, hx, hread, hat⟩ := (Leafy.written hpart).shown l hl hleaf
    exact ⟨x, hx, hread, (congrArg (Option.bind · _) hlookup).trans hat⟩
  · change (entries.lookup p.name).bind (fun w => w.at? l.path) = none
    cases hsecret : p.secret with
    | true => rw [habsent p hp hsecret, Option.bind_none]
    | false =>
      obtain ⟨w, hpart, hlookup⟩ := hw.shown p (mem_shown_iff.2 ⟨hp, hsecret⟩)
      have hleaf : l.secret = true := by
        simpa [Leaf.within, hsecret] using hhidden
      rw [hlookup]
      exact (Leafy.written hpart).hidden l hl hleaf

theorem exists_toLayer {s : S}
    (h : ∀ l ∈ leaves S, l.secret = false → ∃ w, Setting.toLayer (l.get s) = .ok w) :
    ∃ v, Setting.toLayer s = .ok v := by
  rw [forall_mem_leaves] at h
  have hparts : ∀ p ∈ shown S, ∃ w, Setting.toLayer (p.get s) = .ok w := by
    intro p hp
    obtain ⟨hp, hsecret⟩ := mem_shown_iff.1 hp
    refine Leafy.exists_toLayer fun l hl hshown => h p hp l hl ?_
    simp [Leaf.within, hsecret, hshown]
  obtain ⟨entries, hentries⟩ := exists_layerEntries hparts
  exact ⟨_, toLayer_eq_ok_iff.2 ⟨entries, hentries, rfl⟩⟩

/-! ## Out of a layer -/

/-- What a complete table has for a part: something that is complete again, or nothing if the part
is secret. -/
theorem child?_of_complete {p : Part S} (hp : p ∈ parts) {v : Value} (h : Complete (leaves S) v) :
    (∃ w, v.child? p.name = some w ∧ Complete p.inner w)
      ∨ v.child? p.name = none ∧ p.secret = true := by
  have hpart := forall_mem_leaves.1 h p hp
  cases hw : v.child? p.name with
  | none =>
    refine .inr ⟨rfl, ?_⟩
    cases hsecret : p.secret with
    | true => rfl
    | false =>
      obtain ⟨l, hl, hshown⟩ : ∃ l ∈ p.inner, l.secret = false := Leafy.exists_shown
      have hsome := hpart l hl (by simp [Leaf.within, hsecret, hshown])
      obtain ⟨w, hw', -⟩ := Value.isSome_child?_of_at?_cons hsome
      rw [hw] at hw'
      exact absurd hw' nofun
  | some w =>
    refine .inl ⟨w, rfl, fun l hl hshown => ?_⟩
    cases hsecret : p.secret with
    | true =>
      rw [path_eq_nil p hp hsecret l hl]
      rfl
    | false =>
      have hsome := hpart l hl (by simp [Leaf.within, hsecret, hshown])
      obtain ⟨w', hw', hat⟩ := Value.isSome_child?_of_at?_cons hsome
      obtain rfl := Option.some.inj (hw.symm.trans hw')
      exact hat

/-- A complete value is a table. -/
theorem exists_table_of_complete {v : Value} (h : Complete (leaves S) v) :
    ∃ origin entries, v = .table origin entries := by
  obtain ⟨l, hl, hshown⟩ := exists_shown_leaf (S := S)
  obtain ⟨p, hp, hl'⟩ := List.mem_flatMap.1 hl
  obtain ⟨l', -, rfl⟩ := List.mem_map.1 hl'
  exact Value.exists_table_of_at?_cons (h _ hl hshown)

/-- The fields of some parts, as a reader of layers sees them. -/
def layerFields (ps : List (Part S)) : List (Layers.Field S) := ps.map fun p => p.field.layer

/-- What a table has for a part, read. -/
def readPart (entries : List (String × Value)) (p : Part S) : Option (Except Layers.Fault p.α) :=
  (entries.lookup p.name).map Setting.ofLayer

omit [Schema S] [Group S] in
theorem fillEntries_cons (entries : List (String × Value)) (p : Part S) (ps : List (Part S))
    (r : S) :
    Layers.fillEntries entries (layerFields (p :: ps)) r =
      match readPart entries p with
      | none => Layers.fillEntries entries (layerFields ps) r
      | some (.error fault) => .error (fault.underKey p.name)
      | some (.ok a) => Layers.fillEntries entries (layerFields ps) (p.set a r) := by
  have hname : p.field.layer.name = p.name := rfl
  rw [layerFields, List.map_cons, Layers.fillEntries, hname, readPart]
  cases entries.lookup p.name with
  | none => rfl
  | some w =>
    have hdecode : p.field.layer.decode w = (Setting.ofLayer w).map p.set := rfl
    simp only [hdecode, Option.map_some]
    cases (Setting.ofLayer w : Except Layers.Fault p.α) <;> rfl

omit [Schema S] [Group S] in
/-- Tables that agree on every part fill a group alike. -/
theorem fillEntries_congr {entries entries' : List (String × Value)} {ps : List (Part S)} {r : S}
    (h : ∀ p ∈ ps, readPart entries p = readPart entries' p) :
    Layers.fillEntries entries (layerFields ps) r
      = Layers.fillEntries entries' (layerFields ps) r := by
  induction ps generalizing r with
  | nil => rfl
  | cons p ps ih =>
    rw [List.forall_mem_cons] at h
    have ih (r : S) := ih (r := r) h.2
    rw [fillEntries_cons, fillEntries_cons, h.1]
    split
    · exact ih r
    · rfl
    · exact ih _

/-- A part of a setting is what a table has for it, or else what it is in another setting. -/
def Fills (entries : List (String × Value)) (r s : S) (p : Part S) : Prop :=
  (readPart entries p).getD (.ok (p.get r)) = .ok (p.get s)

omit [Schema S] [Group S] in
theorem fills_congr {entries : List (String × Value)} {r r' s : S} {p : Part S}
    (h : p.get r = p.get r') : Fills entries r s p ↔ Fills entries r' s p := by
  rw [Fills, Fills, h]

/-- **Filling a group from a table sets each part on its own.** The parts in front are filled
already, those at the back are still to come. -/
theorem fillEntries_eq_ok_iff (entries : List (String × Value)) (s : S) :
    ∀ (back front : List (Part S)) (r : S), front ++ back = parts →
      (Layers.fillEntries entries (layerFields back) r = .ok s ↔
        (∀ p ∈ front, p.get r = p.get s) ∧ ∀ p ∈ back, Fills entries r s p)
  | [], front, r, hparts => by
    rw [List.append_nil] at hparts
    subst hparts
    constructor
    · rintro ⟨⟩
      exact ⟨fun _ _ => rfl, nofun⟩
    · rintro ⟨h, -⟩
      exact congrArg Except.ok (ext h)
  | p :: back, front, r, hparts => by
    have hp : p ∈ parts := hparts ▸ List.mem_append_right front List.mem_cons_self
    -- Setting this part changes neither the parts in front nor those at the back.
    have hapart : (front ++ p :: back).Pairwise Part.Apart := hparts ▸ apart
    obtain ⟨-, htail, hcross⟩ := List.pairwise_append.1 hapart
    have hfront : ∀ q ∈ front, ∀ a, q.get (p.set a r) = q.get r := fun q hq a =>
      (hcross q hq p List.mem_cons_self).1 a r
    have hback : ∀ q ∈ back, ∀ a, q.get (p.set a r) = q.get r := fun q hq a =>
      ((List.pairwise_cons.1 htail).1 q hq).2 a r
    have ih (r : S) := fillEntries_eq_ok_iff entries s back (front ++ [p]) r (by simpa using hparts)
    simp only [List.forall_mem_append, List.forall_mem_singleton, and_assoc] at ih
    rw [List.forall_mem_cons, fillEntries_cons, Fills]
    cases readPart entries p with
    | none => exact (ih r).trans (by simp)
    | some read =>
      cases read with
      | error fault => simp
      | ok a =>
        refine (ih (p.set a r)).trans (and_congr ?_ (and_congr ?_ ?_))
        · exact forall₂_congr fun q hq => by rw [hfront q hq]
        · rw [get_set p hp]
          simp
        · exact forall₂_congr fun q hq => fills_congr (hback q hq a)

/-- A group is read from a complete table by filling it: no part that has to be there is missing. -/
theorem ofLayer_eq_fillEntries {origin : Option String} {entries : List (String × Value)}
    (h : Complete (leaves S) (.table origin entries)) :
    Setting.ofLayer (.table origin entries)
      = Layers.fillEntries entries (layerFields parts) (Schema.start : S) := by
  have hmissing : (layerFields (parts (S := S))).find?
      (fun f => f.required && (entries.lookup f.name).isNone) = none := by
    rw [List.find?_eq_none]
    intro f hf
    obtain ⟨p, hp, rfl⟩ := List.mem_map.1 hf
    rcases child?_of_complete hp h with ⟨w, hw, -⟩ | ⟨-, hsecret⟩
    · have hlookup : entries.lookup p.field.layer.name = some w := hw
      simp [hlookup]
    · have hrequired : p.field.layer.required = false :=
        Bool.eq_false_iff.2 fun hrequired => by
          rw [shown_of_required p hp hrequired] at hsecret
          exact absurd hsecret nofun
      simp [hrequired]
  change Layers.coerceRecord _ ((Schema.fields (S := S)).map Field.layer) Schema.start _ = _
  have hfields : (Schema.fields (S := S)).map Field.layer = layerFields parts := by
    rw [fields_eq, List.map_map]
    rfl
  rw [hfields, Layers.coerceRecord]
  cases Layers.fillEntries entries (layerFields parts) (Schema.start : S) with
  | error fault => rfl
  | ok s =>
    simp only [bind, Except.bind, hmissing]
    rfl

/-- A part of a setting is read from a complete table leaf by leaf. -/
theorem fills_iff {origin : Option String} {entries : List (String × Value)}
    (h : Complete (leaves S) (.table origin entries)) {p : Part S} (hp : p ∈ parts) (s : S) :
    Fills entries Schema.start s p ↔ ∀ l ∈ p.inner,
      (l.within p.name p.secret p.get).Reads (Value.table origin entries).at? Schema.start s := by
  rcases child?_of_complete hp h with ⟨w, hw, hcomplete⟩ | ⟨hw, -⟩
  · have hlookup : entries.lookup p.name = some w := hw
    have hreads : ∀ l : Leaf p.α,
        (l.within p.name p.secret p.get).Reads (Value.table origin entries).at? Schema.start s
          ↔ l.Reads w.at? (p.get Schema.start) (p.get s) := by
      intro l
      rw [Leaf.Reads, Leaf.Reads, Leaf.within, Value.at?_cons, hw]
      rfl
    rw [Fills, readPart, hlookup]
    refine (Leafy.ofLayer_eq_ok_iff (isStart p hp) hcomplete).trans ?_
    exact forall₂_congr fun l _ => (hreads l).symm
  · have hlookup : entries.lookup p.name = none := hw
    have hreads : ∀ l : Leaf p.α,
        (l.within p.name p.secret p.get).Reads (Value.table origin entries).at? Schema.start s
          ↔ l.get (p.get s) = l.get (p.get Schema.start) := by
      intro l
      rw [Leaf.Reads, Leaf.within, Value.at?_cons, hw]
      rfl
    rw [Fills, readPart, hlookup]
    constructor
    · intro hget l _
      exact (hreads l).2 (congrArg l.get (Except.ok.inj hget).symm)
    · intro hget
      exact congrArg Except.ok (Leafy.ext fun l hl => ((hreads l).1 (hget l hl)).symm)

/-- Tables that agree on every leaf of a part have the same for the part. -/
theorem readPart_congr {origin origin' : Option String} {entries entries' : List (String × Value)}
    (h : Complete (leaves S) (.table origin entries)) {p : Part S} (hp : p ∈ parts)
    (hat : ∀ l ∈ p.inner, (Value.table origin entries).at? (p.name :: l.path)
      = (Value.table origin' entries').at? (p.name :: l.path)) :
    readPart entries p = readPart entries' p := by
  -- A leaf that is written tells whether the other table has the part as well.
  obtain ⟨l, hl, hshown⟩ : ∃ l ∈ p.inner, l.secret = false := Leafy.exists_shown
  rcases child?_of_complete hp h with ⟨w, hw, hcomplete⟩ | ⟨hw, hsecret⟩
  · have hsome := hcomplete l hl hshown
    have hleaf : (Value.table origin entries).at? (p.name :: l.path) = w.at? l.path := by
      rw [Value.at?_cons, hw, Option.bind_some]
    rw [← hleaf, hat l hl] at hsome
    obtain ⟨w', hw', -⟩ := Value.isSome_child?_of_at?_cons hsome
    have hlookup : entries.lookup p.name = some w := hw
    have hlookup' : entries'.lookup p.name = some w' := hw'
    rw [readPart, readPart, hlookup, hlookup', Option.map_some, Option.map_some]
    refine congrArg some (Leafy.ofLayer_congr hcomplete fun l hl => ?_)
    simpa [Value.at?_cons, hw, hw'] using hat l hl
  · have hlookup : entries.lookup p.name = none := hw
    have hleaf := hat l hl
    rw [path_eq_nil p hp hsecret l hl, Value.at?_cons, hw] at hleaf
    have hlookup' : entries'.lookup p.name = none := by
      simpa [Value.at?_cons, Value.child?, Value.entries] using hleaf.symm
    rw [readPart, readPart, hlookup, hlookup']

instance : Leafy S where
  leaves := leaves S
  IsStart s := s = Schema.start
  exists_shown := exists_shown_leaf
  ext := ext_leaves
  written := written_leaves
  exists_toLayer := exists_toLayer
  ofLayer_eq_ok_iff := by
    rintro v _ s rfl h
    obtain ⟨origin, entries, rfl⟩ := exists_table_of_complete h
    rw [ofLayer_eq_fillEntries h, fillEntries_eq_ok_iff entries s parts [] _ rfl, forall_mem_leaves]
    exact (and_iff_right nofun).trans (forall₂_congr fun p hp => fills_iff h hp s)
  ofLayer_congr := by
    intro v v' h hat
    have h' : Complete (leaves S) v' := fun l hl hshown => hat l hl ▸ h l hl hshown
    obtain ⟨origin, entries, rfl⟩ := exists_table_of_complete h
    obtain ⟨origin', entries', rfl⟩ := exists_table_of_complete h'
    rw [ofLayer_eq_fillEntries h, ofLayer_eq_fillEntries h']
    exact fillEntries_congr fun p hp => readPart_congr h hp (forall_mem_leaves.1 hat p hp)

end Group

end Passcode.Settings
