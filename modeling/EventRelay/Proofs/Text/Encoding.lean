import EventRelay.Text.Bytes

namespace EventRelay.Bytes

theorem toList_loop (bytes : ByteArray) (i : Nat) (read : List UInt8) :
    ByteArray.toList.loop bytes i read = read.reverse ++ bytes.data.toList.drop i := by
  fun_induction ByteArray.toList.loop bytes i read with
  | case1 i read h ih =>
    have hi : i < bytes.data.toList.length := h
    have here : bytes.get! i = bytes.data.toList[i] := by
      change bytes.data[i]! = _
      rw [getElem!_pos bytes.data i h, Array.getElem_toList]
    rw [ih, List.reverse_cons, List.append_assoc, List.drop_eq_getElem_cons hi, here]
    rfl
  | case2 i read h =>
    have hi : bytes.data.toList.length ≤ i := Nat.le_of_not_lt h
    rw [List.drop_eq_nil_of_le hi, List.append_nil]

theorem ofString_eq_data (s : String) : ofString s = s.toByteArray.data.toList := by
  rw [ofString, ByteArray.toList, toList_loop]
  rfl

theorem ofString_eq_flatMap (s : String) :
    ofString s = s.toList.flatMap String.utf8EncodeChar := by
  rw [ofString_eq_data, ← String.utf8Encode_toList, List.utf8Encode]
  simp

@[simp] theorem toString?_ofString (s : String) : toString? (ofString s) = some s := by
  have encoded : (⟨(ofString s).toArray⟩ : ByteArray) = s.toByteArray := by
    rw [ofString_eq_data]
  rw [toString?, encoded, String.fromUTF8?, dif_pos s.isValidUTF8]
  rfl

theorem ofString_of_toString? {bytes : Bytes} {s : String} (h : bytes.toString? = some s) :
    ofString s = bytes := by
  unfold toString? String.fromUTF8? at h
  split at h
  · cases h
    rw [ofString_eq_data]
    simp [String.fromUTF8]
  · cases h

@[simp] theorem ofString_append (s t : String) : ofString (s ++ t) = ofString s ++ ofString t := by
  simp [ofString_eq_flatMap]

@[simp] theorem ofString_empty : ofString "" = [] := by simp [ofString_eq_flatMap]

theorem utf8EncodeChar_append_inj {c d : Char} {a b : Bytes}
    (h : String.utf8EncodeChar c ++ a = String.utf8EncodeChar d ++ b) : c = d ∧ a = b := by
  have read (e : Char) (more : Bytes) :
      ByteArray.utf8DecodeChar? (String.utf8EncodeChar e ++ more).toByteArray 0 = some e := by
    rw [List.toByteArray_append, ByteArray.utf8DecodeChar?_utf8EncodeChar_append]
  have same : some c = some d := by rw [← read c a, h, read d b]
  cases same
  exact ⟨rfl, List.append_cancel_left h⟩

theorem prefix_of_ofString_append {s t : String} {more : Bytes}
    (h : ofString s ++ more = ofString t) : s.toList <+: t.toList := by
  rw [ofString_eq_flatMap, ofString_eq_flatMap] at h
  generalize s.toList = cs at h ⊢
  generalize t.toList = ds at h ⊢
  induction cs generalizing ds with
  | nil => exact List.nil_prefix
  | cons c cs ih =>
    rw [List.flatMap_cons, List.append_assoc] at h
    cases ds with
    | nil => exact absurd (List.append_eq_nil_iff.mp h).1 String.utf8EncodeChar_ne_nil
    | cons d ds =>
      rw [List.flatMap_cons] at h
      obtain ⟨rfl, rest⟩ := utf8EncodeChar_append_inj h
      exact List.cons_prefix_cons.mpr ⟨rfl, ih ds rest⟩

def ofAscii (c : Char) : UInt8 := c.val.toUInt8

theorem toNat_ofAscii (c : Char) : (ofAscii c).toNat = c.toNat % 256 := UInt32.toNat_toUInt8 _

theorem utf8Size_eq_one_iff {c : Char} : c.utf8Size = 1 ↔ c.toNat < 128 := by
  rw [Char.utf8Size_eq_one_iff, UInt32.le_iff_toNat_le]
  exact Nat.lt_succ_iff.symm

theorem utf8EncodeChar_ascii {c : Char} (h : c.toNat < 128) :
    String.utf8EncodeChar c = [ofAscii c] :=
  String.utf8EncodeChar_eq_singleton (utf8Size_eq_one_iff.mpr h)

theorem ofAscii_inj {c d : Char} (hc : c.toNat < 128) (hd : d.toNat < 128)
    (h : ofAscii c = ofAscii d) : c = d := by
  have codes := congrArg UInt8.toNat h
  rw [toNat_ofAscii, toNat_ofAscii] at codes
  apply Char.ext
  apply UInt32.toNat_inj.mp
  change c.toNat = d.toNat
  omega

theorem high_or (b : UInt8) {mark : UInt8} (h : 128 ≤ mark.toNat) : 128 ≤ (b ||| mark).toNat := by
  rw [UInt8.toNat_or]
  exact Nat.le_trans h Nat.right_le_or

theorem high_of_mem_utf8EncodeChar {c : Char} (h : ¬ c.toNat < 128) {b : UInt8}
    (hb : b ∈ String.utf8EncodeChar c) : 128 ≤ b.toNat := by
  rcases Char.utf8Size_eq c with h₁ | h₂ | h₃ | h₄
  · exact absurd (utf8Size_eq_one_iff.mp h₁) h
  · rw [String.utf8EncodeChar_eq_cons_cons h₂] at hb
    simp only [List.mem_cons, List.not_mem_nil, or_false] at hb
    rcases hb with rfl | rfl <;> exact high_or _ (by decide)
  · rw [String.utf8EncodeChar_eq_cons_cons_cons h₃] at hb
    simp only [List.mem_cons, List.not_mem_nil, or_false] at hb
    rcases hb with rfl | rfl | rfl <;> exact high_or _ (by decide)
  · rw [String.utf8EncodeChar_eq_cons_cons_cons_cons h₄] at hb
    simp only [List.mem_cons, List.not_mem_nil, or_false] at hb
    rcases hb with rfl | rfl | rfl | rfl <;> exact high_or _ (by decide)

theorem ofAscii_mem_utf8EncodeChar {a c : Char} (ha : a.toNat < 128) :
    ofAscii a ∈ String.utf8EncodeChar c ↔ a = c := by
  by_cases hc : c.toNat < 128
  · rw [utf8EncodeChar_ascii hc, List.mem_singleton]
    exact ⟨ofAscii_inj ha hc, congrArg ofAscii⟩
  · constructor
    · intro h
      have := high_of_mem_utf8EncodeChar hc h
      rw [toNat_ofAscii] at this
      omega
    · rintro rfl
      exact absurd ha hc

theorem ofAscii_mem_ofString {a : Char} (ha : a.toNat < 128) {s : String} :
    ofAscii a ∈ ofString s ↔ a ∈ s.toList := by
  rw [ofString_eq_flatMap, List.mem_flatMap]
  constructor
  · rintro ⟨c, hc, h⟩
    rw [(ofAscii_mem_utf8EncodeChar ha).mp h]
    exact hc
  · intro h
    exact ⟨a, h, (ofAscii_mem_utf8EncodeChar ha).mpr rfl⟩

theorem ofString_feed (s : String) : ofString (s ++ "\n") = ofString s ++ [10] := by
  have feed : ofString "\n" = [10] := by decide +kernel
  rw [ofString_append, feed]

theorem bne_of_not_mem {line : Bytes} {b : UInt8} (h : b ∉ line) : ∀ a ∈ line, (a != b) = true := by
  intro a ha
  rw [bne_iff_ne]
  rintro rfl
  exact h ha

theorem takeWhile_ne {line : Bytes} {b : UInt8} (h : b ∉ line) (more : Bytes) :
    (line ++ b :: more).takeWhile (· != b) = line := by
  rw [List.takeWhile_append_of_pos (bne_of_not_mem h)]
  simp

theorem takeWhile_ne_self {line : Bytes} {b : UInt8} (h : b ∉ line) :
    line.takeWhile (· != b) = line := by
  have whole : (line ++ []).takeWhile (· != b) = line ++ [].takeWhile (· != b) :=
    List.takeWhile_append_of_pos (bne_of_not_mem h)
  rwa [List.takeWhile_nil, List.append_nil] at whole

end EventRelay.Bytes
