import EventRelay.Mail.EncodedWord
import EventRelay.Proofs.Text.Cut
import EventRelay.Proofs.Text.Encoding
import Mathlib.Data.List.Forall2

namespace EventRelay.EncodedWord

def IsUpperHex (c : Char) : Prop := c.isDigit = true ∨ 'A' ≤ c ∧ c ≤ 'F'

inductive IsPayload : List Char → Prop
  | nil : IsPayload []
  | sign {c : Char} {p : List Char}
    (safe : c.isAlphanum = true ∨ c ∈ ['_', '-', '.', '!', '*', '+', '/']) (rest : IsPayload p) :
    IsPayload (c :: p)
  | byte {high low : Char} {p : List Char} (h : IsUpperHex high) (l : IsUpperHex low)
    (rest : IsPayload p) : IsPayload ('=' :: high :: low :: p)

theorem isUpperHex_upperHexDigit : ∀ n < 16, (upperHexDigit n).isDigit = true ∨
    'A' ≤ upperHexDigit n ∧ upperHexDigit n ≤ 'F' := by
  decide

theorem hexValue?_upperHexDigit : ∀ n < 16, hexValue? (upperHexDigit n) = some n := by
  decide

section Bytes

variable (b : UInt8) (bytes : Bytes) (p : List Char)

theorem isPayload_byte (h : IsPayload p) : IsPayload (encodeByte b ++ p) := by
  have bound := b.toNat_lt
  exact .byte (isUpperHex_upperHexDigit _ (by omega)) (isUpperHex_upperHexDigit _ (by omega)) h

theorem decode_byte : decodePayload? (encodeByte b ++ p) = (decodePayload? p).map (b :: ·) := by
  have bound := b.toNat_lt
  have whole : UInt8.ofNat (b.toNat / 16 * 16 + b.toNat % 16) = b := by
    rw [Nat.mul_comm, Nat.div_add_mod, UInt8.ofNat_toNat]
  change decodePayload? ('=' :: upperHexDigit (b.toNat / 16) ::
    upperHexDigit (b.toNat % 16) :: p) = _
  rw [decodePayload?, hexValue?_upperHexDigit _ (by omega), hexValue?_upperHexDigit _ (by omega)]
  cases decodePayload? p with
  | none => rfl
  | some bytes =>
    change some (UInt8.ofNat _ :: bytes) = _
    rw [whole]
    rfl

theorem isPayload_bytes (h : IsPayload p) : IsPayload (bytes.flatMap encodeByte ++ p) := by
  induction bytes with
  | nil => exact h
  | cons b bytes ih =>
    rw [List.flatMap_cons, List.append_assoc]
    exact isPayload_byte b _ ih

theorem decode_bytes :
    decodePayload? (bytes.flatMap encodeByte ++ p) = (decodePayload? p).map (bytes ++ ·) := by
  induction bytes with
  | nil => exact Option.map_id'.symm
  | cons b bytes ih =>
    rw [List.flatMap_cons, List.append_assoc, decode_byte, ih, Option.map_map]
    rfl

theorem length_encodeBytes : (bytes.flatMap encodeByte).length = 3 * bytes.length := by
  induction bytes with
  | nil => rfl
  | cons b bytes ih =>
    rw [List.flatMap_cons, List.length_append, ih, List.length_cons]
    change 3 + _ = _
    omega

end Bytes

theorem isSafe_iff {c : Char} :
    isSafe c = true ↔ c.isAlphanum = true ∨ c ∈ ['-', '.', '!', '*', '+', '/'] := by
  simp [isSafe, or_assoc]

theorem isAlphanum_ascii {c : Char} (h : c.isAlphanum = true) : c.toNat < 128 := by
  change (decide (c.val ≥ 'A'.val ∧ c.val ≤ 'Z'.val) ||
    decide (c.val ≥ 'a'.val) && decide (c.val ≤ 'z'.val) ||
    decide (c.val ≥ '0'.val) && decide (c.val ≤ '9'.val)) = true at h
  simp only [Bool.or_eq_true, Bool.and_eq_true, decide_eq_true_eq, UInt32.le_iff_toNat_le] at h
  rcases h with (⟨-, h⟩ | ⟨-, h⟩) | ⟨-, h⟩ <;> exact Nat.lt_of_le_of_lt h (by decide)

theorem isSafe_ascii {c : Char} (h : isSafe c = true) : c.toNat < 128 := by
  rcases isSafe_iff.mp h with letter | sign
  · exact isAlphanum_ascii letter
  · have small : ∀ d ∈ ['-', '.', '!', '*', '+', '/'], d.toNat < 128 := by simp
    exact small c sign

inductive Piece (c : Char) : List Char → Prop
  | space (h : c = ' ') : Piece c ['_']
  | safe (h : isSafe c = true) : Piece c [c]
  | bytes : Piece c ((String.utf8EncodeChar c).flatMap encodeByte)

theorem piece_encodeChar (c : Char) : Piece c (encodeChar c) := by
  have single : Bytes.ofString (String.singleton c) = String.utf8EncodeChar c := by
    rw [Bytes.ofString_eq_flatMap, String.toList_singleton, List.flatMap_singleton]
  unfold encodeChar
  rw [single]
  split
  · next space => exact .space space
  · split
    · next safe => exact .safe safe
    · exact .bytes

section Characters

variable {c : Char} {piece p : List Char}

theorem Piece.isPayload (h : Piece c piece) (rest : IsPayload p) : IsPayload (piece ++ p) := by
  cases h with
  | space => exact .sign (.inr (by decide)) rest
  | safe safe =>
    refine .sign ?_ rest
    exact (isSafe_iff.mp safe).imp_right (List.mem_cons_of_mem _)
  | bytes => exact isPayload_bytes _ p rest

theorem decode_safe (h : isSafe c = true) (p : List Char) :
    decodePayload? (c :: p) = (decodePayload? p).map (Bytes.ofAscii c :: ·) := by
  have same : UInt8.ofNat c.toNat = Bytes.ofAscii c := by
    apply UInt8.toNat_inj.mp
    rw [Bytes.toNat_ofAscii, UInt8.toNat_ofNat']
  have notSpace : isSafe '_' = false := by decide
  have notByte : isSafe '=' = false := by decide
  rw [decodePayload?.eq_def (c :: p)]
  split
  · next eq => cases eq
  · next eq =>
    cases eq
    rw [notSpace] at h
    cases h
  · next eq =>
    cases eq
    rw [notByte] at h
    cases h
  · next eq =>
    cases eq
    rw [if_pos h, same]

theorem Piece.decode (h : Piece c piece) (p : List Char) :
    decodePayload? (piece ++ p) = (decodePayload? p).map (String.utf8EncodeChar c ++ ·) := by
  cases h with
  | space space =>
    subst space
    rfl
  | safe safe =>
    rw [Bytes.utf8EncodeChar_ascii (isSafe_ascii safe)]
    exact decode_safe safe p
  | bytes => exact decode_bytes _ p

theorem Piece.length (h : Piece c piece) : piece ≠ [] ∧ piece.length ≤ 12 := by
  cases h with
  | space => simp
  | safe => simp
  | bytes =>
    have most := c.utf8Size_le_four
    have least := c.utf8Size_pos
    have length := length_encodeBytes (String.utf8EncodeChar c)
    rw [String.length_utf8EncodeChar] at length
    refine ⟨fun nothing => ?_, by omega⟩
    rw [nothing, List.length_nil] at length
    omega

end Characters

def wordOf (cs : List Char) : List Char := cs.flatMap encodeChar

theorem isPayload_wordOf (cs : List Char) : IsPayload (wordOf cs) := by
  induction cs with
  | nil => exact .nil
  | cons c cs ih => exact (piece_encodeChar c).isPayload ih

theorem decode_wordOf (cs : List Char) :
    decodePayload? (wordOf cs) = some (cs.flatMap String.utf8EncodeChar) := by
  induction cs with
  | nil => rfl
  | cons c cs ih =>
    rw [wordOf, List.flatMap_cons, (piece_encodeChar c).decode, ← wordOf, ih]
    rfl

theorem toString?_decode_wordOf (cs : List Char) :
    (decodePayload? (wordOf cs)).bind Bytes.toString? = some (String.ofList cs) := by
  rw [decode_wordOf, Option.bind_some, ← Bytes.toString?_ofString, Bytes.ofString_eq_flatMap,
    String.toList_ofList]

theorem wordOf_ne_nil {cs : List Char} (h : cs ≠ []) : wordOf cs ≠ [] := by
  cases cs with
  | nil => exact absurd rfl h
  | cons c cs =>
    rw [wordOf, List.flatMap_cons]
    exact fun nothing => (piece_encodeChar c).length.1 (List.append_eq_nil_iff.mp nothing).1

/--
Words are filled with whole characters, in order. None stays empty, and none grows longer than it
may, provided that a character does not.
-/
theorem fill_groups {limit : Nat} (wide : 12 ≤ limit) (begun cs : List Char)
    (fits : (wordOf begun).length ≤ limit) :
    ∃ groups : List (List Char), groups.flatten = begun ++ cs ∧
      fill limit (wordOf begun) (cs.map encodeChar) = groups.map wordOf ∧
      ∀ g ∈ groups, g ≠ [] ∧ (wordOf g).length ≤ limit := by
  induction cs generalizing begun with
  | nil =>
    rw [List.map_nil, fill]
    cases begun with
    | nil => exact ⟨[], rfl, rfl, by simp⟩
    | cons c cs =>
      have some : (wordOf (c :: cs)).isEmpty = false :=
        List.isEmpty_eq_false_iff.mpr (wordOf_ne_nil (List.cons_ne_nil c cs))
      refine ⟨[c :: cs], by simp, ?_, by simp [fits]⟩
      rw [some]
      rfl
  | cons c cs ih =>
    obtain ⟨-, short⟩ := (piece_encodeChar c).length
    rw [List.map_cons, fill]
    split
    · next full =>
      -- the character begins a word of its own, in which it fits
      have alone : wordOf [c] = encodeChar c := by simp [wordOf]
      obtain ⟨groups, all, filled, bounds⟩ := ih [c] (by rw [alone]; omega)
      refine ⟨begun :: groups, by simp [all], ?_, ?_⟩
      · rw [← alone, filled, List.map_cons]
      · refine List.forall_mem_cons.mpr ⟨⟨?_, fits⟩, bounds⟩
        -- an empty word would have had room for it
        rintro rfl
        change limit < 0 + (encodeChar c).length at full
        omega
    · next room =>
      have joined : wordOf (begun ++ [c]) = wordOf begun ++ encodeChar c := by simp [wordOf]
      obtain ⟨groups, all, filled, bounds⟩ := ih (begun ++ [c]) (by
        rw [joined, List.length_append]
        omega)
      refine ⟨groups, by simp [all], ?_, bounds⟩
      rw [← joined, filled]

/-- A word of a mail header that is read as the given text. -/
def IsWord (word : List Char) (text : String) : Prop :=
  word.length ≤ 75 ∧ ∃ p, word = "=?UTF-8?Q?".toList ++ p ++ "?=".toList ∧ p ≠ [] ∧ IsPayload p ∧
    (decodePayload? p).bind Bytes.toString? = some text

def frame (p : List Char) : List Char := opening.toList ++ p ++ closing.toList

theorem isWord_frame {g : List Char} (some : g ≠ []) (fits : (wordOf g).length ≤ maxPayload) :
    IsWord (frame (wordOf g)) (String.ofList g) := by
  refine ⟨?_, wordOf g, rfl, wordOf_ne_nil some, isPayload_wordOf g, toString?_decode_wordOf g⟩
  have limit : maxPayload = 63 := rfl
  have left : opening.toList.length = 10 := rfl
  have right : closing.toList.length = 2 := rfl
  rw [frame, List.length_append, List.length_append, left, right]
  omega

theorem IsPayload.free {p : List Char} (h : IsPayload p) {c : Char} (mark : c ≠ '=')
    (notSign : ¬ (c.isAlphanum = true ∨ c ∈ ['_', '-', '.', '!', '*', '+', '/']))
    (noDigit : ¬ IsUpperHex c) : c ∉ p := by
  induction h with
  | nil => exact List.not_mem_nil
  | sign safe _ ih =>
    rw [List.mem_cons, not_or]
    exact ⟨fun same => notSign (same ▸ safe), ih⟩
  | byte high low _ ih =>
    rw [List.mem_cons, List.mem_cons, List.mem_cons, not_or, not_or, not_or]
    exact ⟨mark, fun same => noDigit (same ▸ high), fun same => noDigit (same ▸ low), ih⟩

theorem unbroken_frame {p : List Char} (h : IsPayload p) : '\r' ∉ frame p ∧ '\n' ∉ frame p := by
  have ret : '\r' ∉ p := h.free (by decide) (by decide) (by unfold IsUpperHex; decide)
  have feed : '\n' ∉ p := h.free (by decide) (by decide) (by unfold IsUpperHex; decide)
  have left : '\r' ∉ opening.toList ∧ '\n' ∉ opening.toList := by decide
  have right : '\r' ∉ closing.toList ∧ '\n' ∉ closing.toList := by decide
  simp only [frame, List.mem_append, not_or]
  exact ⟨⟨⟨left.1, ret⟩, right.1⟩, ⟨⟨left.2, feed⟩, right.2⟩⟩

theorem encode_eq {value : String} (h : value.toList.all isPlain = false) :
    ∃ groups : List (List Char), groups.flatten = value.toList ∧
      (∀ g ∈ groups, g ≠ [] ∧ (wordOf g).length ≤ maxPayload) ∧
      (encode value).toList = separator.toList.intercalate (groups.map (frame ∘ wordOf)) := by
  obtain ⟨groups, all, filled, bounds⟩ :=
    fill_groups (by decide : 12 ≤ maxPayload) [] value.toList (Nat.zero_le _)
  have payloads : payloads value = groups.map wordOf := filled
  refine ⟨groups, all, bounds, ?_⟩
  rw [encode, h, if_neg Bool.false_ne_true, payloads, String.toList_intercalate, List.map_map,
    List.map_map]
  congr 2
  funext g
  simp [frame]

theorem parts_encode {groups : List (List Char)} (some : groups ≠ []) :
    Text.parts separator.toList (separator.toList.intercalate (groups.map (frame ∘ wordOf))) =
      groups.map (frame ∘ wordOf) := by
  apply Text.parts_intercalate
  · intro w hw
    obtain ⟨g, -, rfl⟩ := List.mem_map.mp hw
    exact (unbroken_frame (isPayload_wordOf g)).1
  · simpa using some

/--
A plain value stays as it is. Any other one becomes words, divided by line breaks, that stand for
texts of their own, and these make up the value.
-/
theorem encode_words (value : String) :
    if value.toList.all isPlain then encode value = value
    else ∃ texts : List String, texts ≠ [] ∧
      List.Forall₂ IsWord (Text.parts separator.toList (encode value).toList) texts ∧
      String.join texts = value := by
  split
  · next plain => rw [encode, if_pos plain]
  · next other =>
    obtain ⟨groups, all, bounds, written⟩ := encode_eq (Bool.eq_false_iff.mpr other)
    have some : groups ≠ [] := by
      rintro rfl
      rw [← all] at other
      exact other rfl
    refine ⟨groups.map String.ofList, by simpa using some, ?_, ?_⟩
    · rw [written, parts_encode some, List.forall₂_map_left_iff, List.forall₂_map_right_iff,
        List.forall₂_same]
      exact fun g hg => isWord_frame (bounds g hg).1 (bounds g hg).2
    · rw [← String.toList_inj, String.toList_join, List.flatMap_map, ← all]
      simp [List.flatMap]

end EventRelay.EncodedWord
