import Mathlib.Data.List.Induction
import Mathlib.Data.List.Nodup
import NodeBridge.Metadata.ChunkedDatums
import NodeBridge.Proofs.Text.Binary

/-!
Datums put together from their chunks. A map of metadata holds one datum for each key under which
it has a well-formed entry: the keys come in the order of their first such entry, and the chunks
are those of the last one. Entries of any other shape change nothing.
-/

namespace NodeBridge

section

variable {κ α : Type} [BEq κ] [LawfulBEq κ]

theorem erase_dups_snoc (keys : List κ) (key : κ) :
    (keys ++ [key]).eraseDups = if key ∈ keys then keys.eraseDups else keys.eraseDups ++ [key] := by
  rw [List.eraseDups_append]
  by_cases there : key ∈ keys
  · simp [there, List.removeAll]
  · simp [there, List.removeAll, List.eraseDups_cons]

theorem erase_dups_map [BEq α] [LawfulBEq α] {rename : κ → α} (apart : Function.Injective rename)
    (keys : List κ) : (keys.map rename).eraseDups = keys.eraseDups.map rename := by
  induction keys using List.reverseRecOn with
  | nil => rfl
  | append_singleton keys key induction =>
      rw [List.map_append, List.map_singleton, erase_dups_snoc, erase_dups_snoc, induction]
      simp only [List.mem_map_of_injective apart]
      split
      · rfl
      · rw [List.map_append, List.map_singleton]

end

namespace OrderedMap

variable {κ α : Type} [DecidableEq κ]

theorem of_list_snoc (entries : List (κ × α)) (entry : κ × α) :
    ofList (entries ++ [entry]) = (ofList entries).insert entry.1 entry.2 := by
  simp [ofList]

/-- The keys of a map are in the order of their first writing. -/
theorem keys_of_list (entries : List (κ × α)) :
    (ofList entries).keys = (entries.map Prod.fst).eraseDups := by
  induction entries using List.reverseRecOn with
  | nil => rfl
  | append_singleton entries entry induction =>
      rw [of_list_snoc, List.map_append, List.map_singleton, erase_dups_snoc, ← induction]
      unfold keys at induction ⊢
      rw [insert, keys_put_entry, induction]
      simp only [List.mem_eraseDups]

/-- A key leads to what was written under it last. -/
theorem find_of_list_last {before after : List (κ × α)} {key : κ} (value : α)
    (last : key ∉ after.map Prod.fst) :
    (ofList (before ++ (key, value) :: after)).find? key = some value := by
  induction after using List.reverseRecOn with
  | nil => rw [of_list_snoc, find_insert, if_pos rfl]
  | append_singleton after entry induction =>
      rw [List.map_append, List.mem_append, not_or] at last
      have other : ¬key = entry.1 := by simpa using last.2
      rw [← List.cons_append, ← List.append_assoc, of_list_snoc, find_insert, if_neg other,
        induction last.1]

end OrderedMap

namespace Metadatum

def isBytes : Metadatum → Bool
  | .bytes _ => true
  | _ => false

/-- Whether an entry leads from bytes to a list of nothing but bytes. -/
def isWellFormed : Metadatum × Metadatum → Bool
  | (.bytes _, .list items) => items.all isBytes
  | _ => false

/-- The entry that holds the chunks of a datum under its key. -/
def chunked (key : Bytes) (chunks : List Bytes) : Metadatum × Metadatum :=
  (.bytes key, .list (chunks.map .bytes))

/-- Whether an entry holds a datum, cut into chunks in any way, under its key. -/
def Holds (entry : Metadatum × Metadatum) (datum : Bytes × Bytes) : Prop :=
  ∃ chunks : List Bytes, chunks.flatten = datum.2 ∧ entry = chunked datum.1 chunks

theorem encode_hex_injective : Function.Injective Text.encodeHex := by
  intro left right same
  have read := Text.decode_hex_encode_hex left
  rw [same, Text.decode_hex_encode_hex] at read
  exact (Option.some.inj read).symm

theorem exists_chunks_of_all {items : List Metadatum} (all : items.all isBytes = true) :
    ∃ chunks : List Bytes, items = chunks.map .bytes := by
  induction items with
  | nil => exact ⟨[], rfl⟩
  | cons item items induction =>
      rw [List.all_cons, Bool.and_eq_true] at all
      obtain ⟨chunks, rfl⟩ := induction all.2
      cases item with
      | bytes chunk => exact ⟨chunk :: chunks, rfl⟩
      | _ => cases all.1

theorem well_formed_iff {entry : Metadatum × Metadatum} :
    isWellFormed entry = true ↔ ∃ key chunks, entry = chunked key chunks := by
  constructor
  · intro formed
    unfold isWellFormed at formed
    split at formed
    · next key items =>
        obtain ⟨chunks, rfl⟩ := exists_chunks_of_all formed
        exact ⟨key, chunks, rfl⟩
    · cases formed
  · rintro ⟨key, chunks, rfl⟩
    simp [isWellFormed, chunked, isBytes]

theorem chunks_map_bytes (chunks : List Bytes) : chunks? (chunks.map .bytes) = some chunks := by
  induction chunks with
  | nil => rfl
  | cons chunk chunks induction => simp [chunks?, induction]

theorem chunks_of_not_all {items : List Metadatum} (other : items.all isBytes = false) :
    chunks? items = none := by
  induction items with
  | nil => cases other
  | cons item items induction =>
      cases item with
      | bytes chunk => simp [chunks?, induction (by simpa [isBytes] using other)]
      | _ => rfl

theorem datum_chunked (key : Bytes) (chunks : List Bytes) :
    datum? (chunked key chunks) = some (Text.encodeHex key, chunks.flatten) := by
  simp [datum?, chunked, chunks_map_bytes]

theorem datum_of_malformed {entry : Metadatum × Metadatum}
    (malformed : isWellFormed entry = false) : datum? entry = none := by
  unfold isWellFormed at malformed
  split at malformed
  · next key items => simp [datum?, chunks_of_not_all malformed]
  · next others =>
      unfold datum?
      split
      · next key items => exact absurd rfl (others key items)
      · rfl

/-- Entries that are not well-formed change nothing. -/
theorem filter_map_datum (entries : List (Metadatum × Metadatum)) :
    entries.filterMap datum? = (entries.filter isWellFormed).filterMap datum? := by
  rw [List.filterMap_filter]
  apply List.filterMap_congr
  intro entry member
  cases formed : isWellFormed entry with
  | true => rfl
  | false => exact datum_of_malformed formed

section

variable {entries : List (Metadatum × Metadatum)} {cuts : List (Bytes × List Bytes)}

theorem datums_of_chunked
    (formed : entries.filter isWellFormed = cuts.map fun cut => chunked cut.1 cut.2) :
    (Metadatum.map entries).datums =
      OrderedMap.ofList (cuts.map fun cut => (Text.encodeHex cut.1, cut.2.flatten)) := by
  rw [datums, filter_map_datum, formed, List.filterMap_map]
  congr 1
  rw [← List.filterMap_eq_map]
  apply List.filterMap_congr
  intro cut member
  exact datum_chunked cut.1 cut.2

theorem exists_cuts (entries : List (Metadatum × Metadatum)) :
    ∃ cuts : List (Bytes × List Bytes),
      entries.filter isWellFormed = cuts.map fun cut => chunked cut.1 cut.2 := by
  induction entries with
  | nil => exact ⟨[], rfl⟩
  | cons entry entries induction =>
      obtain ⟨cuts, rest⟩ := induction
      cases formed : isWellFormed entry with
      | true =>
          obtain ⟨key, chunks, rfl⟩ := well_formed_iff.mp formed
          exact ⟨(key, chunks) :: cuts, by simp [formed, rest]⟩
      | false => exact ⟨cuts, by simp [formed, rest]⟩

theorem keys_datums
    (formed : entries.filter isWellFormed = cuts.map fun cut => chunked cut.1 cut.2) :
    (Metadatum.map entries).datums.keys =
      (cuts.map Prod.fst).eraseDups.map Text.encodeHex := by
  rw [datums_of_chunked formed, OrderedMap.keys_of_list, ← erase_dups_map encode_hex_injective,
    List.map_map, List.map_map]
  rfl

theorem find_datums {before after : List (Bytes × List Bytes)} {key : Bytes}
    {chunks : List Bytes}
    (formed : entries.filter isWellFormed =
      (before ++ (key, chunks) :: after).map fun cut => chunked cut.1 cut.2)
    (last : key ∉ after.map Prod.fst) :
    (Metadatum.map entries).datums.find? (Text.encodeHex key) = some chunks.flatten := by
  rw [datums_of_chunked formed, List.map_append, List.map_cons]
  apply OrderedMap.find_of_list_last
  rw [List.map_map]
  intro member
  obtain ⟨cut, there, same⟩ := List.mem_map.mp member
  exact last (List.mem_map.mpr ⟨cut, there, encode_hex_injective same⟩)

theorem cuts_of_holds {data : List (Bytes × Bytes)}
    (holds : List.Forall₂ Holds entries data) :
    ∃ cuts : List (Bytes × List Bytes),
      entries = (cuts.map fun cut => chunked cut.1 cut.2) ∧
        data = cuts.map fun cut => (cut.1, cut.2.flatten) := by
  induction holds with
  | nil => exact ⟨[], rfl, rfl⟩
  | @cons entry datum entries data held rest induction =>
      obtain ⟨chunks, whole, rfl⟩ := held
      obtain ⟨cuts, rfl, rfl⟩ := induction
      exact ⟨(datum.1, chunks) :: cuts, rfl, by rw [List.map_cons, whole]⟩

/-- Data with distinct keys is put together again, however it was cut. -/
theorem datums_of_holds {data : List (Bytes × Bytes)} (distinct : (data.map Prod.fst).Nodup)
    (holds : List.Forall₂ Holds (entries.filter isWellFormed) data) :
    (Metadatum.map entries).datums.entries =
      data.map fun datum => (Text.encodeHex datum.1, datum.2) := by
  obtain ⟨cuts, formed, rfl⟩ := cuts_of_holds holds
  rw [datums_of_chunked formed, OrderedMap.entries_of_list, List.map_map]
  · rfl
  · have names := List.Nodup.map encode_hex_injective distinct
    simpa only [List.map_map, Function.comp_def] using names

end

/-- The datums of a tree. Of the entries of a map the well-formed ones are chunks under keys, and
they alone count: the keys of the datums are those keys in the order in which they come first, each
key leads to the chunks that come last under it, put together, and so data with distinct keys is
found again however it was cut and whatever else stands between. Other trees have no datums. -/
theorem datums_reassembled :
    (∀ entries : List (Metadatum × Metadatum), ∃ cuts : List (Bytes × List Bytes),
      entries.filter isWellFormed = cuts.map fun cut => chunked cut.1 cut.2) ∧
    (∀ entries : List (Metadatum × Metadatum), (Metadatum.map entries).datums =
      (Metadatum.map (entries.filter isWellFormed)).datums) ∧
    (∀ (entries : List (Metadatum × Metadatum)) (cuts : List (Bytes × List Bytes)),
      entries.filter isWellFormed = (cuts.map fun cut => chunked cut.1 cut.2) →
        (Metadatum.map entries).datums.keys =
            (cuts.map Prod.fst).eraseDups.map Text.encodeHex ∧
          ∀ before key chunks after, cuts = before ++ (key, chunks) :: after →
            key ∉ after.map Prod.fst →
              (Metadatum.map entries).datums.find? (Text.encodeHex key) =
                some chunks.flatten) ∧
    (∀ (entries : List (Metadatum × Metadatum)) (data : List (Bytes × Bytes)),
      (data.map Prod.fst).Nodup →
      List.Forall₂ Holds (entries.filter isWellFormed) data →
        (Metadatum.map entries).datums.entries =
          data.map fun datum => (Text.encodeHex datum.1, datum.2)) ∧
    ∀ tree : Metadatum, (∀ entries, tree ≠ .map entries) → tree.datums = OrderedMap.empty := by
  refine ⟨exists_cuts, fun entries => ?_, ?_, fun entries data => datums_of_holds, ?_⟩
  · rw [datums, datums, filter_map_datum]
  · intro entries cuts formed
    refine ⟨keys_datums formed, ?_⟩
    rintro before key chunks after rfl last
    exact find_datums formed last
  · intro tree other
    cases tree with
    | map entries => exact absurd rfl (other entries)
    | _ => rfl

/-- A datum in two chunks and an empty one, an entry of another shape between them, and at the end
a second datum under the first key. -/
def scattered : List (Metadatum × Metadatum) :=
  [chunked [1] [[2], [3]], (.bytes [1], .list [.bytes [4], .int 5]), chunked [6] [],
    chunked [1] [[7, 8]]]

theorem datums_reassembled_of_scattered :
    (Metadatum.map scattered).datums.keys = ["01", "06"] ∧
      (Metadatum.map scattered).datums.find? "01" = some [7, 8] ∧
      (Metadatum.map (scattered.take 3)).datums.entries = [("01", [2, 3]), ("06", [])] ∧
      (Metadatum.int 5).datums = OrderedMap.empty := by
  obtain ⟨-, -, counted, whole, others⟩ := datums_reassembled
  obtain ⟨keys, last⟩ := counted scattered [([1], [[2], [3]]), ([6], []), ([1], [[7, 8]])] rfl
  refine ⟨keys, last [([1], [[2], [3]]), ([6], [])] [1] [[7, 8]] [] rfl (by decide), ?_,
    others (.int 5) nofun⟩
  exact whole (scattered.take 3) [([1], [2, 3]), ([6], [])] (by decide)
    (.cons ⟨[[2], [3]], rfl, rfl⟩ (.cons ⟨[], rfl, rfl⟩ .nil))

end Metadatum

end NodeBridge
