import TaxFlow.Text.Utf8

/-!
# Texts as bytes

Whatever text is encoded, its bytes are decoded to the same characters again.
-/
namespace TaxFlow.Text

theorem toList_loop (bytes : ByteArray) (i : Nat) (taken : List UInt8) :
    ByteArray.toList.loop bytes i taken = taken.reverse ++ bytes.data.toList.drop i := by
  rw [ByteArray.toList.loop]
  by_cases hi : i < bytes.size
  · have hget : bytes.get! i = bytes.data.toList[i] := by
      simp [ByteArray.get!, getElem!_pos bytes.data i hi]
    rw [if_pos hi, toList_loop bytes (i + 1), hget, List.reverse_cons, List.append_assoc,
      List.singleton_append, List.getElem_cons_drop]
  · rw [if_neg hi, List.drop_eq_nil_of_le (by simpa using hi), List.append_nil]
termination_by bytes.size - i

theorem toList_toUTF8 (s : String) : s.toUTF8.toList = s.toList.flatMap String.utf8EncodeChar := by
  have hbytes : s.toUTF8 = s.toList.utf8Encode := String.utf8Encode_toList.symm
  have hloop : s.toUTF8.toList = s.toUTF8.data.toList := toList_loop s.toUTF8 0 []
  rw [hloop, hbytes, List.utf8Encode, List.toList_data_toByteArray]

theorem follow_cons {range : Nat × Nat} {b : Nat} (h : range.1 ≤ b ∧ b ≤ range.2)
    (count good value : Nat) (bs : List Nat) :
    follow range (count + 1) good value (b :: bs) =
      follow (0x80, 0xBF) count (good + 1) (value * 64 + b % 64) bs :=
  if_pos h

/-- One character is decoded, and what follows it afterwards. -/
theorem decodeFrom_cons {b count value : Nat} {bs rest : List Nat}
    (hcount : followers b = some count)
    (hfollow : follow (secondRange b) count 0 (startValue b count) bs = .ok (value, rest))
    (position : Nat) :
    decodeFrom position (b :: bs) =
      (decodeFrom (position + count + 1) rest).map (Char.ofNat value :: ·) := by
  rw [decodeFrom]
  simp only [hcount]
  split
  next hfault => cases hfollow.symm.trans hfault
  next hok =>
    cases hfollow.symm.trans hok
    rfl

theorem toNat_byte {n : Nat} (h : n < 256) : (UInt8.ofNat n).toNat = n := by
  rw [UInt8.toNat_ofNat', Nat.mod_eq_of_lt h]

theorem followers_eq {b count : Nat}
    (h : count = 0 ∧ b < 0x80 ∨ count = 1 ∧ 0xC2 ≤ b ∧ b ≤ 0xDF ∨
      count = 2 ∧ 0xE0 ≤ b ∧ b ≤ 0xEF ∨ count = 3 ∧ 0xF0 ≤ b ∧ b ≤ 0xF4) :
    followers b = some count := by
  unfold followers
  rcases h with ⟨rfl, h⟩ | ⟨rfl, h⟩ | ⟨rfl, h⟩ | ⟨rfl, h⟩
  · rw [if_pos h]
  · rw [if_neg (by omega), if_pos h]
  · rw [if_neg (by omega), if_neg (by omega), if_pos h]
  · rw [if_neg (by omega), if_neg (by omega), if_neg (by omega), if_pos h]

theorem startValue_one (b : Nat) : startValue b 1 = b % 0x20 := rfl

theorem startValue_two (b : Nat) : startValue b 2 = b % 0x10 := rfl

theorem startValue_three (b : Nat) : startValue b 3 = b % 0x08 := rfl

/-- A second byte fits its first one if the two together begin no other encoding of a character. -/
theorem mem_secondRange {a b : Nat} (h : 0x80 ≤ b ∧ b ≤ 0xBF) (hE0 : a = 0xE0 → 0xA0 ≤ b)
    (hED : a = 0xED → b ≤ 0x9F) (hF0 : a = 0xF0 → 0x90 ≤ b) (hF4 : a = 0xF4 → b ≤ 0x8F) :
    (secondRange a).1 ≤ b ∧ b ≤ (secondRange a).2 := by
  unfold secondRange
  split
  next ha => exact ⟨hE0 ha, h.2⟩
  split
  next ha => exact ⟨h.1, hED ha⟩
  split
  next ha => exact ⟨hF0 ha, h.2⟩
  split
  next ha => exact ⟨h.1, hF4 ha⟩
  next => exact h

/-- The bytes of one character are decoded to it. -/
theorem decodeFrom_encoded (c : Char) (bs : List Nat) (position : Nat) :
    ∃ next, decodeFrom position ((String.utf8EncodeChar c).map UInt8.toNat ++ bs) =
      (decodeFrom next bs).map (c :: ·) := by
  have hc : Char.ofNat c.val.toNat = c := Char.ofNat_toNat c
  have hvalid : c.val.toNat < 0xD800 ∨ 0xDFFF < c.val.toNat ∧ c.val.toNat < 0x110000 := c.valid
  unfold String.utf8EncodeChar
  generalize c.val.toNat = v at hc hvalid
  subst hc
  dsimp only
  split
  next hone =>
    refine ⟨position + 0 + 1, ?_⟩
    simp only [List.map_cons, List.map_nil, List.cons_append, List.nil_append]
    rw [toNat_byte (by omega)]
    exact decodeFrom_cons (followers_eq (.inl ⟨rfl, by omega⟩)) rfl position
  split
  next htwo =>
    refine ⟨position + 1 + 1, ?_⟩
    simp only [List.map_cons, List.map_nil, List.cons_append, List.nil_append]
    rw [toNat_byte (by omega), toNat_byte (by omega)]
    refine decodeFrom_cons (followers_eq (.inr (.inl ⟨rfl, by omega⟩))) ?_ position
    rw [follow_cons (mem_secondRange (by omega) (by omega) (by omega) (by omega) (by omega)),
      follow]
    rw [startValue_one]
    congr 2
    omega
  split
  next hthree =>
    refine ⟨position + 2 + 1, ?_⟩
    simp only [List.map_cons, List.map_nil, List.cons_append, List.nil_append]
    rw [toNat_byte (by omega), toNat_byte (by omega), toNat_byte (by omega)]
    refine decodeFrom_cons (followers_eq (.inr (.inr (.inl ⟨rfl, by omega⟩)))) ?_ position
    rw [follow_cons (mem_secondRange (by omega) (by omega) (by omega) (by omega) (by omega)),
      follow_cons (by omega), follow]
    rw [startValue_two]
    congr 2
    omega
  next hfour =>
    refine ⟨position + 3 + 1, ?_⟩
    simp only [List.map_cons, List.map_nil, List.cons_append, List.nil_append]
    rw [toNat_byte (by omega), toNat_byte (by omega), toNat_byte (by omega), toNat_byte (by omega)]
    refine decodeFrom_cons (followers_eq (.inr (.inr (.inr ⟨rfl, by omega⟩)))) ?_ position
    rw [follow_cons (mem_secondRange (by omega) (by omega) (by omega) (by omega) (by omega)),
      follow_cons (by omega), follow_cons (by omega), follow]
    rw [startValue_three]
    congr 2
    omega

theorem decodeUtf8_toUTF8 (s : String) : decodeUtf8 s.toUTF8 = .ok s.toList := by
  have hall (cs : List Char) (position : Nat) :
      decodeFrom position ((cs.flatMap String.utf8EncodeChar).map UInt8.toNat) = .ok cs := by
    induction cs generalizing position with
    | nil => simp [decodeFrom]
    | cons c cs ih =>
      obtain ⟨next, hnext⟩ :=
        decodeFrom_encoded c ((cs.flatMap String.utf8EncodeChar).map UInt8.toNat) position
      rw [List.flatMap_cons, List.map_append, hnext, ih next]
      rfl
  rw [decodeUtf8, toList_toUTF8]
  exact hall s.toList 0

end TaxFlow.Text
