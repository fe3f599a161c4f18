import NodeBridge.Proofs.Legacy.Conversion

/-!
Signatures on the way from the legacy schema into the current one and back. The two kinds of
signatures are merged into one list by their keys, and taken apart again by what each of them
holds. As the merging is stable, nothing is lost or put out of its place.
-/

namespace NodeBridge

namespace Text

/-- Whether two texts are the same bytes, in base 64 and in hexadecimal digits. -/
def SameBytes (base64 hex : String) : Prop :=
  ∃ bytes, base64 = encodeBase64 bytes ∧ hex = encodeHex bytes

theorem same_bytes_of_is_base64 {text : String} (canonical : IsBase64 text) :
    SameBytes text (base64ToHex text) := by
  obtain ⟨bytes, rfl⟩ := canonical
  refine ⟨bytes, rfl, ?_⟩
  unfold base64ToHex
  rw [decode_base64_encode_base64]
  rfl

theorem base64_to_hex_ne_empty {text : String} (canonical : IsBase64 text) (filled : text ≠ "") :
    base64ToHex text ≠ "" := by
  intro empty
  have back := hex_to_base64_base64_to_hex canonical
  rw [empty] at back
  exact filled back.symm

end Text

theorem lookup_of_perm {κ α : Type} [DecidableEq κ] [BEq κ] [LawfulBEq κ]
    {left right : List (κ × α)} (perm : left.Perm right) (distinct : (right.map Prod.fst).Nodup)
    (key : κ) : left.lookup key = right.lookup key := by
  have leftDistinct : (left.map Prod.fst).Nodup := (perm.map Prod.fst).nodup_iff.mpr distinct
  apply Option.ext
  intro value
  rw [lookup_eq_some_iff_mem leftDistinct, lookup_eq_some_iff_mem distinct, perm.mem_iff]

theorem OrderedMap.same_of_perm {κ α : Type} [DecidableEq κ] {entries : List (κ × α)}
    {map : OrderedMap κ α} (perm : entries.Perm map.entries) : (ofList entries).Same map := by
  have distinct : (entries.map Prod.fst).Nodup := (perm.map Prod.fst).nodup_iff.mpr map.distinct
  apply same_of_mem_iff
  intro key value
  rw [entries_of_list distinct, perm.mem_iff]

theorem exists_related {α β : Type} {related : α → β → Prop} {lefts : List α} {rights : List β}
    (all : List.Forall₂ related lefts rights) {right : β} (member : right ∈ rights) :
    ∃ left, related left right := by
  induction all with
  | nil => cases member
  | cons first rest induction =>
      rcases List.mem_cons.mp member with rfl | later
      · exact ⟨_, first⟩
      · exact induction later

/-- Sorting is stable: of two lists in one, the first is found again in its order if it was sorted
and if the elements of the second can be told from it. -/
theorem filter_mergeSort_append {α : Type} {before : α → α → Bool}
    (transitive : ∀ first second third, before first second = true →
      before second third = true → before first third = true)
    (total : ∀ first second, (before first second || before second first) = true)
    {keep : α → Bool} {kept others : List α} (sorted : kept.Pairwise fun first second =>
      before first second = true)
    (all : ∀ item ∈ kept, keep item = true) (none : ∀ item ∈ others, keep item = false) :
    ((kept ++ others).mergeSort before).filter keep = kept := by
  have whole : (kept ++ others).filter keep = kept := by
    rw [List.filter_append, List.filter_eq_self.mpr all, List.filter_eq_nil_iff.mpr,
      List.append_nil]
    intro item member
    simp [none item member]
  have inside : kept.Sublist (((kept ++ others).mergeSort before).filter keep) := by
    have there := List.sublist_mergeSort transitive total sorted
      (List.sublist_append_left kept others)
    have filtered := there.filter keep
    rw [List.filter_eq_self.mpr all] at filtered
    exact filtered
  have length : kept.length = (((kept ++ others).mergeSort before).filter keep).length := by
    have perm := (List.mergeSort_perm (kept ++ others) before).filter keep
    rw [whole] at perm
    exact perm.length_eq.symm
  exact (inside.eq_of_length length).symm

namespace Current.Signatory

/-- A field that is there only if it says something. -/
def optionalField (name text : String) : Fields := if text = "" then [] else [(name, .text text)]

theorem fields_eq (signatory : Signatory) :
    signatory.fields = [("key", .text signatory.key), ("signature", .text signatory.signature)] ++
      optionalField "chainCode" signatory.chainCode ++
      optionalField "addressAttributes" signatory.addressAttributes := by
  by_cases noCode : signatory.chainCode = "" <;>
    by_cases noAttributes : signatory.addressAttributes = "" <;>
    simp [fields, optionalField, Json.compact, Json.isBare, noCode, noAttributes]

theorem nodup_fields (signatory : Signatory) : (signatory.fields.map Prod.fst).Nodup := by
  unfold fields Json.compact
  exact List.Nodup.sublist (List.filter_sublist.map Prod.fst) (by simp)

theorem of_json_of_perm {entry : Fields} {signatory : Signatory}
    (perm : entry.Perm signatory.fields) : ofJson (.object entry) = .ok signatory := by
  have same (name : String) : Json.get entry name = Json.get signatory.fields name := by
    unfold Json.get
    rw [lookup_of_perm perm signatory.nodup_fields]
  have reads := of_json_to_json signatory
  simp only [ofJson, Decode.object_object, Decode.ok_bind, same] at reads ⊢
  exact reads

end Current.Signatory

namespace Legacy.Witness

open Current

/-- An entry that holds exactly the parts of a signature in base 64, with a chain code or with the
attributes of an address or with both. -/
structure Holds (entry : Fields) (signatory : Signatory) : Prop where
  fields : entry.Perm
    ([("key", .text signatory.key), ("signature", .text signatory.signature)] ++
      Signatory.optionalField "chainCode" signatory.chainCode ++
      Signatory.optionalField "addressAttributes" signatory.addressAttributes)
  signature : Text.IsBase64 signatory.signature
  attributes : Text.IsBase64 signatory.addressAttributes
  kind : signatory.chainCode ≠ "" ∨ signatory.addressAttributes ≠ ""

/-- A witness whose signatures are in base 64, with those of bootstrap addresses in the order of
their keys. -/
structure IsCanonical (witness : Witness) (held : List Signatory) : Prop where
  bootstrap : List.Forall₂ Holds witness.bootstrap held
  ordered : held.Pairwise fun left right => left.key ≤ right.key
  signatures : ∀ entry ∈ witness.signatures.entries, Text.IsBase64 entry.2

/-- A signature of a bootstrap address in the current schema. -/
structure Retold (signatory current : Signatory) : Prop where
  key : current.key = signatory.key
  signature : Text.SameBytes signatory.signature current.signature
  chainCode : current.chainCode = signatory.chainCode
  attributes : Text.SameBytes signatory.addressAttributes current.addressAttributes

/-- A signature of a plain key in the current schema. -/
structure PlainRetold (entry : String × String) (current : Signatory) : Prop where
  key : current.key = entry.1
  signature : Text.SameBytes entry.2 current.signature
  chainCode : current.chainCode = ""
  attributes : current.addressAttributes = ""

/-- One record for each signature, all of them in ascending order of their keys. -/
structure Signed (witness : Witness) (held signatories : List Signatory) : Prop where
  ordered : signatories.Pairwise fun left right => left.key ≤ right.key
  each : ∃ bootstrap plain, List.Forall₂ Retold held bootstrap ∧
    List.Forall₂ PlainRetold witness.signatures.entries plain ∧
    signatories.Perm (bootstrap ++ plain)

/-- Witnesses with the same entries of bootstrap addresses in the same order, whatever the order of
the fields of an entry, and with the same signature for every plain key. -/
structure SameSignatures (back origin : Witness) : Prop where
  bootstrap : List.Forall₂ List.Perm back.bootstrap origin.bootstrap
  signatures : back.signatures.Same origin.signatures

/-- A signature with its binary parts in hexadecimal digits. -/
def retell (signatory : Signatory) : Signatory :=
  { signatory with
    signature := Text.base64ToHex signatory.signature
    addressAttributes := Text.base64ToHex signatory.addressAttributes }

section Entry

variable {entry : Fields} {signatory : Signatory}

theorem Holds.perm_fields (holds : Holds entry signatory) : entry.Perm signatory.fields := by
  rw [Signatory.fields_eq]
  exact holds.fields

theorem Holds.bootstrap_signatory (holds : Holds entry signatory) :
    bootstrapSignatory entry = .ok (retell signatory) := by
  unfold bootstrapSignatory
  rw [Signatory.of_json_of_perm holds.perm_fields, Decode.ok_bind]
  rfl

theorem Holds.retold (holds : Holds entry signatory) : Retold signatory (retell signatory) where
  key := rfl
  signature := Text.same_bytes_of_is_base64 holds.signature
  chainCode := rfl
  attributes := Text.same_bytes_of_is_base64 holds.attributes

/-- Attributes that are there are still there in hexadecimal digits, so that the kind of a
signature can be told from them. -/
theorem Holds.is_bootstrap_retell (holds : Holds entry signatory) :
    (retell signatory).isBootstrap = true := by
  rcases holds.kind with code | attributes
  · simp [Signatory.isBootstrap, retell, code]
  · have still := Text.base64_to_hex_ne_empty holds.attributes attributes
    simp [Signatory.isBootstrap, retell, still]

theorem Holds.legacy_retell (holds : Holds entry signatory) :
    legacySignatory (retell signatory) = signatory := by
  unfold legacySignatory retell
  simp only [Text.hex_to_base64_base64_to_hex holds.signature,
    Text.hex_to_base64_base64_to_hex holds.attributes]

end Entry

theorem bootstrap_signatories_of_holds {entries : List Fields} {held : List Signatory}
    (holds : List.Forall₂ Holds entries held) :
    bootstrapSignatories entries = .ok (held.map retell) := by
  induction holds with
  | nil => rfl
  | cons first rest induction =>
      unfold bootstrapSignatories
      rw [first.bootstrap_signatory, Decode.ok_bind, induction, Decode.ok_bind]
      rfl

section Signed

variable {witness : Witness} {held : List Signatory}

theorem not_is_bootstrap_plain (entry : String × String) :
    (plainSignatory entry).isBootstrap = false := rfl

/-- All signatures of a witness in the current schema, before they are sorted. -/
def unsorted (witness : Witness) (held : List Signatory) : List Signatory :=
  held.map retell ++ witness.signatures.entries.map plainSignatory

theorem signatories_of_canonical (canonical : witness.IsCanonical held) :
    witness.signatories = .ok ((witness.unsorted held).mergeSort byKey) := by
  unfold signatories
  rw [bootstrap_signatories_of_holds canonical.bootstrap, Decode.ok_bind]
  rfl

theorem is_bootstrap_of_mem (canonical : witness.IsCanonical held) {signatory : Signatory}
    (member : signatory ∈ held.map retell) : signatory.isBootstrap = true := by
  obtain ⟨origin, there, rfl⟩ := List.mem_map.mp member
  obtain ⟨entry, holds⟩ := exists_related canonical.bootstrap there
  exact holds.is_bootstrap_retell

theorem signed_of_canonical (canonical : witness.IsCanonical held) :
    witness.Signed held ((witness.unsorted held).mergeSort byKey) where
  ordered := pairwise_by_key _
  each := by
    refine ⟨held.map retell, witness.signatures.entries.map plainSignatory, ?_, ?_,
      List.mergeSort_perm _ _⟩
    · rw [List.forall₂_map_right_iff, List.forall₂_same]
      intro signatory member
      obtain ⟨entry, holds⟩ := exists_related canonical.bootstrap member
      exact holds.retold
    · rw [List.forall₂_map_right_iff, List.forall₂_same]
      intro entry member
      exact ⟨rfl, Text.same_bytes_of_is_base64 (canonical.signatures entry member), rfl, rfl⟩

/-- The signatures of bootstrap addresses are found again among all of them, in their order. -/
theorem filter_bootstrap_sorted (canonical : witness.IsCanonical held) :
    ((witness.unsorted held).mergeSort byKey).filter Signatory.isBootstrap = held.map retell := by
  apply filter_mergeSort_append by_key_trans by_key_total
  · rw [List.pairwise_map]
    exact canonical.ordered.imp fun ordered => (by_key_iff _ _).mpr ordered
  · intro signatory member
    exact is_bootstrap_of_mem canonical member
  · intro signatory member
    obtain ⟨entry, -, rfl⟩ := List.mem_map.mp member
    exact not_is_bootstrap_plain entry

theorem filter_plain_sorted (canonical : witness.IsCanonical held) :
    (((witness.unsorted held).mergeSort byKey).filter fun signatory =>
      !signatory.isBootstrap).Perm (witness.signatures.entries.map plainSignatory) := by
  have plain : (witness.unsorted held).filter (fun signatory => !signatory.isBootstrap) =
      witness.signatures.entries.map plainSignatory := by
    unfold unsorted
    rw [List.filter_append, List.filter_eq_nil_iff.mpr, List.nil_append,
      List.filter_eq_self.mpr]
    · intro signatory member
      obtain ⟨entry, -, rfl⟩ := List.mem_map.mp member
      rfl
    · intro signatory member
      simp [is_bootstrap_of_mem canonical member]
  rw [← plain]
  exact (List.mergeSort_perm _ _).filter _

theorem bootstrap_of_sorted (canonical : witness.IsCanonical held) :
    List.Forall₂ List.Perm (bootstrapOfCurrent ((witness.unsorted held).mergeSort byKey))
      witness.bootstrap := by
  unfold bootstrapOfCurrent
  rw [filter_bootstrap_sorted canonical, List.map_map, List.forall₂_map_left_iff]
  apply List.Forall₂.flip
  refine canonical.bootstrap.imp ?_
  intro entry signatory holds
  show (legacySignatory (retell signatory)).fields.Perm entry
  rw [holds.legacy_retell]
  exact holds.perm_fields.symm

theorem signatures_of_sorted (canonical : witness.IsCanonical held) :
    (signaturesOfCurrent ((witness.unsorted held).mergeSort byKey)).Same witness.signatures := by
  unfold signaturesOfCurrent
  apply OrderedMap.same_of_perm
  have again : (witness.signatures.entries.map plainSignatory).map (fun signatory =>
      (signatory.key, Text.hexToBase64 signatory.signature)) = witness.signatures.entries := by
    rw [List.map_map]
    conv_rhs => rw [← List.map_id witness.signatures.entries]
    apply List.map_congr_left
    intro entry member
    exact Prod.ext rfl (Text.hex_to_base64_base64_to_hex (canonical.signatures entry member))
  have perm := (filter_plain_sorted canonical).map fun signatory =>
    (signatory.key, Text.hexToBase64 signatory.signature)
  rw [again] at perm
  exact perm

end Signed

end Legacy.Witness

namespace Legacy.Transaction

open Witness

/-- Signatures in base 64 are all found in the current schema, sorted by their keys and in
hexadecimal digits, and from there come back as they were. -/
theorem signatures_reproduced {transaction : Transaction} {held : List Current.Signatory}
    (canonical : transaction.witness.IsCanonical held) :
    ∃ current, transaction.toCurrent = .ok current ∧
      transaction.witness.Signed held current.signatories ∧
      (ofCurrent current).witness.SameSignatures transaction.witness := by
  have sorted := signatories_of_canonical canonical
  unfold toCurrent
  simp only [sorted, Decode.ok_bind]
  refine ⟨_, rfl, signed_of_canonical canonical, ?_⟩
  exact {
    bootstrap := bootstrap_of_sorted canonical
    signatures := signatures_of_sorted canonical }

/-- A payment signed with keys of both kinds, one of which signed as either. -/
def countersigned : Transaction :=
  let payment := ofCurrent Current.Transaction.paid
  { payment with
    witness := { payment.witness with
      bootstrap := [
        [("signature", .text "Dw=="), ("key", .text "b"), ("addressAttributes", .text "oA==")],
        [("key", .text "d"), ("signature", .text ""), ("chainCode", .text "c0")]]
      signatures := OrderedMap.ofList [("e", "AQI="), ("b", "AQID"), ("c", "")] } }

theorem is_canonical_countersigned :
    countersigned.witness.IsCanonical [⟨"b", "Dw==", "", "oA=="⟩, ⟨"d", "", "c0", ""⟩] where
  bootstrap := by
    refine .cons ⟨by decide +kernel, ⟨[15], by decide +kernel⟩, ⟨[160], by decide +kernel⟩, ?_⟩
      (.cons ⟨by decide +kernel, ⟨[], rfl⟩, ⟨[], rfl⟩, ?_⟩ .nil)
    · exact .inr (by decide)
    · exact .inl (by decide)
  ordered := by decide +kernel
  signatures := by
    have entries : countersigned.witness.signatures.entries =
        [("e", "AQI="), ("b", "AQID"), ("c", "")] := by
      decide +kernel
    intro entry member
    rw [entries] at member
    simp only [List.mem_cons, List.not_mem_nil, or_false] at member
    rcases member with rfl | rfl | rfl
    · exact ⟨[1, 2], by decide +kernel⟩
    · exact ⟨[1, 2, 3], by decide +kernel⟩
    · exact ⟨[], rfl⟩

theorem signatures_reproduced_of_countersigned :
    ∃ current, countersigned.toCurrent = .ok current ∧
      countersigned.witness.Signed [⟨"b", "Dw==", "", "oA=="⟩, ⟨"d", "", "c0", ""⟩]
        current.signatories ∧
      (ofCurrent current).witness.SameSignatures countersigned.witness :=
  signatures_reproduced is_canonical_countersigned

end Legacy.Transaction

end NodeBridge
