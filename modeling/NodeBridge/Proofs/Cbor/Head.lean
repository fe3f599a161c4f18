import NodeBridge.Cbor.Head
import NodeBridge.Proofs.Text.Utf8

/-!
Heads of items are read as they were written: the first byte tells the kind, and the argument is
found again, whatever follows it.
-/

namespace NodeBridge.Cbor

theorem length_big_endian (width value : Nat) : (bigEndian width value).length = width := by
  induction width generalizing value with
  | zero => rfl
  | succ width induction => rw [bigEndian, List.length_append, induction, List.length_singleton]

theorem of_big_endian_append (bytes : Bytes) (last : UInt8) :
    ofBigEndian (bytes ++ [last]) = 256 * ofBigEndian bytes + last.toNat := by
  unfold ofBigEndian
  rw [List.foldl_append, List.foldl_cons, List.foldl_nil]

/-- As many bytes as are written hold a number that they have the room for. -/
theorem of_big_endian_big_endian {width value : Nat} (fits : value < Nat.pow 256 width) :
    ofBigEndian (bigEndian width value) = value := by
  induction width generalizing value with
  | zero =>
      have none : value = 0 := Nat.lt_one_iff.mp fits
      rw [none]
      rfl
  | succ width induction =>
      have front : value / 256 < Nat.pow 256 width := Nat.div_lt_of_lt_mul (by
        rw [Nat.mul_comm]
        exact fits)
      have last : (Text.byte value).toNat = value % 256 := UInt8.toNat_ofNat'
      rw [bigEndian, of_big_endian_append, induction front, last]
      omega

theorem lt_byte_width (value : Nat) : value < Nat.pow 256 (byteWidth value) := by
  have bytes : Nat.pow 256 (byteWidth value) = 2 ^ (8 * byteWidth value) :=
    (Nat.pow_mul 2 8 (byteWidth value)).symm
  have bits : Nat.log2 value + 1 ≤ 8 * byteWidth value := by
    unfold byteWidth
    omega
  rw [bytes]
  exact Nat.lt_of_lt_of_le Nat.lt_log2_self (Nat.pow_le_pow_right (by decide) bits)

theorem read_fixed_append (bytes suffix : Bytes) :
    readFixed bytes.length (bytes ++ suffix) = some (bytes, suffix) := by
  unfold readFixed
  rw [List.take_left, List.drop_left, if_pos rfl]

theorem read_number_big_endian {width value : Nat} (fits : value < Nat.pow 256 width)
    (suffix : Bytes) : readNumber width (bigEndian width value ++ suffix) =
      some (value, suffix) := by
  have bytes := read_fixed_append (bigEndian width value) suffix
  rw [length_big_endian] at bytes
  simp only [readNumber, bytes, Option.bind_eq_bind, Option.bind_some,
    of_big_endian_big_endian fits]

/-! The first byte of a head. -/

section Lead

variable {major bits : Nat}

theorem to_nat_lead (kind : major < 8) (small : bits < 32) :
    (lead major bits).toNat = major * 32 + bits := by
  apply Text.to_nat_byte
  omega

theorem major_lead (kind : major < 8) (small : bits < 32) :
    (lead major bits).toNat / 32 = major := by
  rw [to_nat_lead kind small]
  omega

theorem bits_lead (kind : major < 8) (small : bits < 32) :
    (lead major bits).toNat % 32 = bits := by
  rw [to_nat_lead kind small]
  omega

theorem lead_ne_stop (kind : major < 7) (small : bits < 32) : lead major bits ≠ stop := by
  intro same
  have number := to_nat_lead (show major < 8 by omega) small
  rw [same] at number
  have last : stop.toNat = 255 := rfl
  omega

end Lead

theorem head_ne_nil (major argument : Nat) : head major argument ≠ [] := by
  fun_cases head major argument <;> exact List.cons_ne_nil _ _

/-- A head is a first byte that leaves no length open, and the rest of its argument. -/
theorem exists_lead_of_head (major : Nat) {argument : Nat} (fits : argument < Nat.pow 2 64) :
    ∃ bits rest, bits < openLength ∧ head major argument = lead major bits :: rest ∧
      ∀ suffix, readArgument bits (rest ++ suffix) = some (argument, suffix) := by
  have number {width bits : Nat} (room : argument < Nat.pow 256 width)
      (reads : ∀ input, readArgument bits input = readNumber width input) (suffix : Bytes) :
      readArgument bits (bigEndian width argument ++ suffix) = some (argument, suffix) := by
    rw [reads, read_number_big_endian room]
  unfold head
  split
  · next small =>
      refine ⟨argument, [], Nat.lt_trans small (by decide), rfl, fun suffix => ?_⟩
      unfold readArgument
      rw [if_pos small, List.nil_append]
  split
  · next one => exact ⟨24, _, by decide, rfl, number one fun _ => rfl⟩
  split
  · next two => exact ⟨25, _, by decide, rfl, number two fun _ => rfl⟩
  split
  · next four => exact ⟨26, _, by decide, rfl, number four fun _ => rfl⟩
  · exact ⟨27, _, by decide, rfl, number fits fun _ => rfl⟩

end NodeBridge.Cbor
