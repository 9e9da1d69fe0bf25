import Passcode.Proofs.Layers.Overlay
import Passcode.Toml.Document

/-!
# Keys of a document

Nothing is defined twice in a document: no table of the layer that is read from a text has two
entries under one key.

## Main statements

* `Place.distinct_layer` — the layer of a place of a document
* `distinct_read` — the layer of a whole text
-/

namespace Passcode.Toml

open Layers (Value entriesDistinct_iff)

variable {origin : String}

theorem distinct_dateLayer {written : List Char} {v : Value}
    (h : dateLayer origin written = some v) : v.Distinct := by
  obtain ⟨text, -, rfl⟩ := Option.map_eq_some_iff.1 h
  trivial

theorem distinct_datedLayer {entries : List (String × Node)} {v : Value}
    (h : datedLayer origin entries = some v) : v.Distinct := by
  unfold datedLayer at h
  split at h
  · exact distinct_dateLayer h
  · exact absurd h nofun

/-- A table has distinct keys if its entries have, and so have its values. -/
theorem distinct_table {α : Type} {entries : List (String × α)} {layers : List (String × Value)}
    (hentries : areDistinct entries = true) (hkeys : layers.map Prod.fst = entries.map Prod.fst)
    (hvalues : ∀ entry ∈ layers, entry.2.Distinct) :
    (Value.table (some origin) layers).Distinct := by
  have hnodup : (entries.map Prod.fst).Nodup := of_decide_eq_true hentries
  exact entriesDistinct_iff.2 ⟨hkeys ▸ hnodup, hvalues⟩

mutual

theorem Node.distinct_layer : ∀ (n : Node) (v : Value), n.layer origin = some v → v.Distinct
  | .leaf l, v, h => by
    obtain rfl := Option.some.inj h
    trivial
  | .date written, v, h => distinct_dateLayer h
  | .array items, v, h => by
    obtain ⟨items, -, rfl⟩ := Option.map_eq_some_iff.1 h
    trivial
  | .table _ entries, v, h => by
    rw [Node.layer] at h
    split at h
    · exact distinct_datedLayer h
    · split at h
      · next hentries =>
        obtain ⟨layers, hlayers, rfl⟩ := Option.map_eq_some_iff.1 h
        obtain ⟨hkeys, hvalues⟩ := distinct_entryLayers entries layers hlayers
        exact distinct_table hentries hkeys hvalues
      · exact absurd h nofun

theorem distinct_entryLayers : ∀ (entries : List (String × Node)) (layers : List (String × Value)),
    entryLayers origin entries = some layers →
    layers.map Prod.fst = entries.map Prod.fst ∧ ∀ entry ∈ layers, entry.2.Distinct
  | [], layers, h => by
    obtain rfl := Option.some.inj h
    exact ⟨rfl, nofun⟩
  | (k, n) :: ns, layers, h => by
    obtain ⟨v, hv, h⟩ := Option.bind_eq_some_iff.1 h
    obtain ⟨rest, hrest, h⟩ := Option.bind_eq_some_iff.1 h
    obtain rfl := Option.some.inj h
    obtain ⟨hkeys, hvalues⟩ := distinct_entryLayers ns rest hrest
    exact ⟨congrArg (k :: ·) hkeys,
      List.forall_mem_cons.2 ⟨Node.distinct_layer n v hv, hvalues⟩⟩

end

mutual

/-- The layer of a place of a document has distinct keys. -/
theorem Place.distinct_layer : ∀ (p : Place) (v : Value), p.layer origin = some v → v.Distinct
  | .value n, v, h => Node.distinct_layer n v h
  | .table _ entries, v, h => by
    rw [Place.layer, tableLayer] at h
    split at h
    · obtain ⟨values, -, h⟩ := Option.bind_eq_some_iff.1 h
      exact distinct_datedLayer h
    · split at h
      · next hentries =>
        obtain ⟨layers, hlayers, rfl⟩ := Option.map_eq_some_iff.1 h
        obtain ⟨hkeys, hvalues⟩ := distinct_placeLayers entries layers hlayers
        exact distinct_table hentries hkeys hvalues
      · exact absurd h nofun
  | .tables items, v, h => by
    obtain ⟨items, -, rfl⟩ := Option.map_eq_some_iff.1 h
    trivial

theorem distinct_placeLayers : ∀ (entries : List (String × Place))
    (layers : List (String × Value)), placeLayers origin entries = some layers →
    layers.map Prod.fst = entries.map Prod.fst ∧ ∀ entry ∈ layers, entry.2.Distinct
  | [], layers, h => by
    obtain rfl := Option.some.inj h
    exact ⟨rfl, nofun⟩
  | (k, p) :: ps, layers, h => by
    obtain ⟨v, hv, h⟩ := Option.bind_eq_some_iff.1 h
    obtain ⟨rest, hrest, h⟩ := Option.bind_eq_some_iff.1 h
    obtain rfl := Option.some.inj h
    obtain ⟨hkeys, hvalues⟩ := distinct_placeLayers ps rest hrest
    exact ⟨congrArg (k :: ·) hkeys,
      List.forall_mem_cons.2 ⟨Place.distinct_layer p v hv, hvalues⟩⟩

end

/-- **The layer of a text has distinct keys.** -/
theorem distinct_read {text : String} {entries : List (String × Value)}
    (h : read origin text = some entries) : ∀ entry ∈ entries, entry.2.Distinct := by
  obtain ⟨⟨⟨lines, sections⟩, rest⟩, -, h⟩ := Option.bind_eq_some_iff.1 h
  obtain ⟨root, -, h⟩ := Option.bind_eq_some_iff.1 h
  obtain ⟨v, hv, h⟩ := Option.bind_eq_some_iff.1 h
  obtain rfl := Option.some.inj h
  have hdistinct := Place.distinct_layer root v hv
  cases v with
  | leaf origin l => exact nofun
  | array origin items => exact nofun
  | table origin entries => exact (entriesDistinct_iff.1 hdistinct).2

end Passcode.Toml
