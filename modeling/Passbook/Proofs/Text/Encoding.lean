import Passbook.Text.Scheme

/-!
Plain text as bytes. A text of characters that take one byte each, none of which is zero, is kept in these bytes,
and they are read as the text (`decode?_bytes`).
-/

set_option autoImplicit false
set_option relaxedAutoImplicit false

-- What holds of all members of a list is decided along the list, whatever else is imported.
attribute [local instance (high)] List.decidableBAll

namespace Passbook.Text

/-- Walking over an array of bytes gives the list behind it. The induction is over the bytes that are left. -/
theorem toList_eq_data (bytes : ByteArray) : bytes.toList = bytes.data.toList := by
  suffices loop : ∀ place gathered, place ≤ bytes.size →
      ByteArray.toList.loop bytes place gathered = gathered.reverse ++ bytes.data.toList.drop place by
    exact loop 0 [] (Nat.zero_le _)
  intro place gathered within
  induction left : bytes.size - place generalizing place gathered with
  | zero =>
    rw [ByteArray.toList.loop, if_neg (by omega), List.drop_eq_nil_of_le, List.append_nil]
    change bytes.size ≤ place
    omega
  | succ more ih =>
    have inside : place < bytes.size := by omega
    have counted : place < bytes.data.toList.length := inside
    have byte : bytes.get! place = bytes.data[place] := getElem!_pos bytes.data place inside
    rw [ByteArray.toList.loop, if_pos inside, ih (place + 1) _ (by omega) (by omega),
      List.drop_eq_getElem_cons counted, byte]
    simp

/-- A character that takes one byte, which is not zero. -/
def IsOneByte (c : Char) : Prop := 0 < c.toNat ∧ c.toNat < 0x80

instance (c : Char) : Decidable (IsOneByte c) := inferInstanceAs (Decidable (_ ∧ _))

theorem bytes_ofList {text : List Char} (plain : ∀ c ∈ text, IsOneByte c) :
    bytes (String.ofList text) = text.map Char.toNat := by
  have units : (String.ofList text).toUTF8.toList = text.flatMap String.utf8EncodeChar := by
    rw [toList_eq_data]
    change (text.flatMap String.utf8EncodeChar).toByteArray.data.toList = _
    rw [List.toList_data_toByteArray]
  rw [bytes, units]
  clear units
  induction text with
  | nil => rfl
  | cons c rest ih =>
    obtain ⟨-, low⟩ := plain c List.mem_cons_self
    have single : String.utf8EncodeChar c = [c.val.toUInt8] := by
      refine String.utf8EncodeChar_eq_singleton (Char.utf8Size_eq_one_iff.2 ?_)
      exact UInt32.le_iff_toNat_le.2 (Nat.le_of_lt_succ low)
    have same : c.val.toUInt8.toNat = c.toNat := by
      rw [UInt32.toNat_toUInt8]
      exact Nat.mod_eq_of_lt (Nat.lt_trans low (by decide))
    rw [List.flatMap_cons, single, List.map_append, List.map_singleton, same,
      ih fun d member ↦ plain d (List.mem_cons_of_mem c member)]
    rfl

theorem decodeFrom_plain {text : List Char} (plain : ∀ c ∈ text, IsOneByte c) :
    decodeFrom none (text.map Char.toNat) = text := by
  induction text with
  | nil => rfl
  | cons c rest ih =>
    obtain ⟨-, low⟩ := plain c List.mem_cons_self
    have single : beginWith c.toNat = ([c], none) := by
      rw [beginWith, if_pos low, Char.ofNat_toNat]
    rw [List.map_cons, decodeFrom, single]
    exact congrArg (c :: ·) (ih fun d member ↦ plain d (List.mem_cons_of_mem c member))

theorem ofStart_plain {text : List Char} (plain : ∀ c ∈ text, IsOneByte c) :
    Scheme.ofStart (text.map Char.toNat) = .bytes := by
  have apart : ∀ number ∈ text.map Char.toNat, number ≠ 0 := by
    intro number member
    obtain ⟨c, there, rfl⟩ := List.mem_map.1 member
    exact Nat.pos_iff_ne_zero.1 (plain c there).1
  unfold Scheme.ofStart
  split
  · next same =>
    rw [same] at apart
    simp [apart]
  · next same =>
    rw [same] at apart
    simp [apart]
  · rfl

/-- Bytes of plain characters are read as these. -/
theorem decode?_bytes {text : List Char} (plain : ∀ c ∈ text, IsOneByte c) :
    (Scheme.ofStart (bytes (String.ofList text))).decode? (bytes (String.ofList text)) = some text := by
  rw [bytes_ofList plain, ofStart_plain plain, Scheme.decode?, decodeFrom_plain plain]
  split
  · next rest =>
    exact absurd (plain _ List.mem_cons_self).2 (by decide)
  · rfl

end Passbook.Text
