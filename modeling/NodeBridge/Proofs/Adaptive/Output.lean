import Mathlib.Data.Finset.Max
import NodeBridge.Proofs.Adaptive.Reading
import NodeBridge.Proofs.Ledger.Printed
import NodeBridge.Proofs.Legacy.Transaction

/-!
Outputs of either schema, and the schema under which a printed one is read. A printed current
output is always read as what it is. A printed legacy output is read as what it is exactly if
its value holds lovelace: without it the value is printed as a document of one field, which
has the shape of a current value with a single policy.
-/

namespace NodeBridge

open Json Decode

namespace Current.Output

def settle (output : Output) : Output := { output with script := output.script.settle }

theorem of_json_to_json (output : Output) : ofJson output.toJson = .ok output.settle := by
  simp [ofJson, toJson, get_compact, get_cons, settle, Value.of_json_settle]

end Current.Output

namespace Legacy.FlatValue

/-- The value of the current schema that a legacy value without lovelace looks like when it
is printed. -/
def misread (value : FlatValue) : Value := ⟨OrderedMap.empty.insert "assets" value.assets⟩

theorem misread_of_no_coins {value : FlatValue} (none : value.coins = 0) :
    Value.ofJson value.toJson = .ok value.misread := by
  have holdings : Value.readHoldings "assets" (Json.ofMap .int value.assets) = .ok value.assets :=
    Value.read_holdings_to_json "assets" value.assets
  simp only [Value.ofJson, toJson, none, if_true, List.nil_append, entries, holdings, ok_bind]
  rfl

theorem refused_of_coins {value : FlatValue} (some : value.coins ≠ 0) :
    Value.ofJson value.toJson = .error (.policyNotObject "coins") := by
  simp only [Value.ofJson, toJson, some, if_false, List.cons_append, entries, Value.readHoldings]
  rfl

theorem names_misread_iff (value : FlatValue) (policy name : String) :
    value.misread.Names policy name ↔ policy = "assets" ∧ name ∈ value.assets.keys := by
  unfold Value.Names misread
  rw [OrderedMap.find_insert]
  by_cases same : policy = "assets"
  · have found : (value.assets.find? name).isSome = true ↔ name ∈ value.assets.keys := by
      unfold OrderedMap.find? OrderedMap.keys
      rw [List.lookup_isSome_iff]
      simp
    simp [same, found]
  · simp [same, OrderedMap.find_empty]

theorem names_to_current_iff {value : FlatValue} (none : value.coins = 0) (policy name : String) :
    value.toCurrent.Names policy name ↔ ∃ id ∈ value.assets.keys, splitAsset id = (policy, name) := by
  have folded : value.toCurrent =
      (value.assets.entries.map fun entry => (splitAsset entry.1, entry.2)).foldl
        (fun result write => result.put write.1.1 write.1.2 write.2) Value.empty := by
    rw [List.foldl_map, toCurrent, if_pos none]
  rw [folded, Value.names_foldl_put_iff, or_iff_left (Value.not_names_empty policy name)]
  simp [OrderedMap.keys]

theorem length_split_asset (id : String) :
    (splitAsset id).1.length + (splitAsset id).2.length ≤ id.length := by
  have whole : (id.toList.takeWhile (· ≠ '.')).length + (id.toList.dropWhile (· ≠ '.')).length =
      id.toList.length := by
    rw [← List.length_append, List.takeWhile_append_dropWhile]
  rw [String.length_toList] at whole
  simp only [splitAsset]
  split
  · simp only [String.length_ofList, String.length_empty]
    omega
  · simp only [String.length_ofList, List.length_drop]
    omega

/-- The misread value is never the one that was meant: each identifier would be the name
within another one, and so be shorter than it. -/
theorem misread_ne_to_current {value : FlatValue} (none : value.coins = 0) :
    value.misread ≠ value.toCurrent := by
  intro same
  have nested : ∀ id ∈ value.assets.keys, ∃ other ∈ value.assets.keys, id.length < other.length := by
    intro id member
    have named : value.misread.Names "assets" id := (names_misread_iff value _ _).mpr ⟨rfl, member⟩
    rw [same, names_to_current_iff none] at named
    obtain ⟨other, there, split⟩ := named
    have bound := length_split_asset other
    rw [split] at bound
    have policy : "assets".length = 6 := by decide
    refine ⟨other, there, ?_⟩
    simp only at bound
    omega
  by_cases filled : value.assets.keys = []
  · have meant : value.toCurrent = Value.empty := by
      rw [toCurrent, if_pos none, List.map_eq_nil_iff.mp filled]
      rfl
    rw [meant] at same
    cases same
  · obtain ⟨id, member, longest⟩ := Finset.exists_max_image value.assets.keys.toFinset
      String.length (by simpa using filled)
    obtain ⟨other, there, longer⟩ := nested id (List.mem_toFinset.mp member)
    have bound := longest other (List.mem_toFinset.mpr there)
    omega

end Legacy.FlatValue

namespace Legacy.Output

/-- An output with the value that it seems to hold when it is printed without lovelace. -/
def misread (output : Output) : Current.Output :=
  { output.settle.toCurrent with value := output.value.misread }

theorem current_of_json_of_no_coins {output : Output} (none : output.value.coins = 0) :
    Current.Output.ofJson output.toJson = .ok output.misread := by
  have value := FlatValue.misread_of_no_coins none
  have full := settle_of_not_bare output.value.is_bare_to_json
  simp [Current.Output.ofJson, toJson, get_compact, get_cons, full, value, misread, settle,
    toCurrent]

theorem current_of_json_of_coins {output : Output} (some : output.value.coins ≠ 0) :
    Current.Output.ofJson output.toJson = .error (.policyNotObject "coins") := by
  have value := FlatValue.refused_of_coins some
  have full := settle_of_not_bare output.value.is_bare_to_json
  simp [Current.Output.ofJson, toJson, get_compact, get_cons, full, value]
  rfl

end Legacy.Output

namespace Adaptive

theorem decode_of_no_coins {sent : Legacy.Output} (addressed : sent.address ≠ "")
    (none : sent.value.coins = 0) : output.decode sent.toJson = .ok sent.misread := by
  apply Reading.decode_of_current (Legacy.Output.current_of_json_of_no_coins none)
  have filled : sent.misread.address ≠ "" := addressed
  simp [output, filled]

theorem decode_of_coins {sent : Legacy.Output} (addressed : sent.address ≠ "")
    (some : sent.value.coins ≠ 0) :
    output.decode sent.toJson = .ok sent.settle.toCurrent := by
  have fails : Reading.attempt output.kind .current output.current output.fitsCurrent sent.toJson =
      .error (.policyNotObject "coins") := by
    simp only [Reading.attempt, output, Legacy.Output.current_of_json_of_coins some]
  have filled : sent.settle.address ≠ "" := addressed
  exact Reading.decode_of_legacy fails sent.of_json_to_json (by simp [output, filled])

/-- A printed output is read under the schema that it was printed in, unless it is a legacy
output without lovelace. That one is read as a current output whose only policy is the name
of the field that holds its assets. -/
theorem decode_printed_output (current : Current.Output) (legacy : Legacy.Output) :
    (current.address ≠ "" → output.decode current.toJson = .ok current.settle) ∧
    (legacy.address ≠ "" →
      (output.decode legacy.toJson = .ok legacy.settle.toCurrent ↔ legacy.value.coins ≠ 0) ∧
      (legacy.value.coins = 0 → output.decode legacy.toJson = .ok legacy.misread)) := by
  constructor
  · intro addressed
    have filled : current.settle.address ≠ "" := addressed
    exact Reading.decode_of_current current.of_json_to_json (by simp [output, filled])
  · intro addressed
    refine ⟨⟨?_, decode_of_coins addressed⟩, decode_of_no_coins addressed⟩
    intro decodes none
    rw [decode_of_no_coins addressed none] at decodes
    have same : legacy.misread.value = legacy.settle.toCurrent.value :=
      congrArg Current.Output.value (Except.ok.inj decodes)
    exact Legacy.FlatValue.misread_ne_to_current none same

/-- Five of one token and no lovelace. -/
def tokens : Legacy.Output :=
  ⟨"addr1", "", "", ⟨0, OrderedMap.empty.insert "ab.cd" 5⟩, .object []⟩

/-- A current output whose policies are named like the fields of a legacy value. -/
def disguised : Current.Output :=
  ⟨"addr1", "", "", (Value.empty.put "coins" "" 0).put "assets" "ab.cd" 5, .null⟩

theorem decode_printed_output_of_samples :
    output.decode disguised.toJson = .ok disguised ∧
      output.decode tokens.toJson = .ok tokens.misread ∧
      output.decode { tokens with value.coins := 7 }.toJson =
        .ok { tokens with value.coins := 7 }.settle.toCurrent :=
  ⟨(decode_printed_output disguised tokens).1 (by decide),
    ((decode_printed_output disguised tokens).2 (by decide)).2 rfl,
    ((decode_printed_output disguised { tokens with value.coins := 7 }).2 (by decide)).1.mpr
      (by decide)⟩

/-- The token is taken for a name under a policy of its own, which the output never held. -/
theorem tokens_taken_for_policy :
    tokens.address ≠ "" ∧ output.decode tokens.toJson ≠ .ok tokens.settle.toCurrent ∧
      tokens.settle.toCurrent.value.amount "ab" "cd" = 5 ∧
      output.decode tokens.toJson =
        .ok { tokens.settle.toCurrent with value := Value.empty.put "assets" "ab.cd" 5 } := by
  have read : output.decode tokens.toJson =
      .ok { tokens.settle.toCurrent with value := Value.empty.put "assets" "ab.cd" 5 } := by
    rfl
  have other : Value.empty.put "assets" "ab.cd" 5 ≠ tokens.settle.toCurrent.value := by
    decide +kernel
  refine ⟨by decide, ?_, by decide +kernel, read⟩
  intro decodes
  rw [read] at decodes
  exact other (congrArg Current.Output.value (Except.ok.inj decodes))

end Adaptive

end NodeBridge
