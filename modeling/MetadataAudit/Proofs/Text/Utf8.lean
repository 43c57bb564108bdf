import MetadataAudit.Proofs.Outcome
import MetadataAudit.Text.Utf8

/-! # Text written as bytes and read again

The bytes of a character are read as that character whatever follows them (`next?_encodeChar`), so
a text that was encoded is decoded to its characters, with no byte left alone
(`decode_encode_append`).
-/
namespace MetadataAudit
namespace Utf8

theorem toNat_byte {n : Nat} (h : n < 256) : (UInt8.ofNat n).toNat = n := by
  rw [UInt8.toNat_ofNat', Nat.mod_eq_of_lt h]

theorem isContinuation_byte (n : Nat) : isContinuation (UInt8.ofNat (n % 64 + 128)) = true := by
  have hb := toNat_byte (n := n % 64 + 128) (by omega)
  simp only [isContinuation, Bool.and_eq_true, decide_eq_true_eq, UInt8.le_iff_toNat_le, hb]
  constructor
  · show 128 ≤ _
    omega
  · show _ ≤ 191
    omega

theorem payload_byte (n : Nat) : payload (UInt8.ofNat (n % 64 + 128)) = n % 64 := by
  rw [payload, toNat_byte (by omega)]
  omega

theorem byte_lt {n m : Nat} (hn : n < 256) (hm : m < 256) :
    UInt8.ofNat n < UInt8.ofNat m ↔ n < m := by
  rw [UInt8.lt_iff_toNat_lt, toNat_byte hn, toNat_byte hm]

theorem byte_le {n m : Nat} (hn : n < 256) (hm : m < 256) :
    UInt8.ofNat n ≤ UInt8.ofNat m ↔ n ≤ m := by
  rw [UInt8.le_iff_toNat_le, toNat_byte hn, toNat_byte hm]

theorem next?_one {a : Nat} (ha : a < 0x80) (rest : Bytes) :
    next? (UInt8.ofNat a :: rest) = some (Char.ofNat a, rest) := by
  have h1 : UInt8.ofNat a < 0x80 := (byte_lt (m := 0x80) (by omega) (by omega)).mpr ha
  unfold next?
  simp only [h1, if_true, toNat_byte (show a < 256 by omega)]

theorem next?_two {a : Nat} (h : 0xC2 ≤ a ∧ a ≤ 0xDF) (m : Nat) (rest : Bytes) :
    next? (UInt8.ofNat a :: UInt8.ofNat (m % 64 + 128) :: rest) =
      some (Char.ofNat ((a - 0xC0) * 64 + m % 64), rest) := by
  have h1 : ¬ UInt8.ofNat a < 0x80 := fun hlt =>
    absurd ((byte_lt (m := 0x80) (by omega) (by omega)).mp hlt) (by omega)
  have h2 : 0xC2 ≤ UInt8.ofNat a := (byte_le (n := 0xC2) (by omega) (by omega)).mpr h.1
  have h3 : UInt8.ofNat a ≤ 0xDF := (byte_le (m := 0xDF) (by omega) (by omega)).mpr h.2
  rw [next?, if_neg h1, if_pos (by simp [h2, h3])]
  simp only [isContinuation_byte, payload_byte, toNat_byte (show a < 256 by omega), if_true]

theorem next?_three {a : Nat} (h : 0xE0 ≤ a ∧ a ≤ 0xEF) (m k : Nat) (rest : Bytes)
    (hn : 0x800 ≤ ((a - 0xE0) * 64 + m % 64) * 64 + k % 64 ∧
      (((a - 0xE0) * 64 + m % 64) * 64 + k % 64 < 0xD800 ∨
        0xDFFF < ((a - 0xE0) * 64 + m % 64) * 64 + k % 64)) :
    next? (UInt8.ofNat a :: UInt8.ofNat (m % 64 + 128) :: UInt8.ofNat (k % 64 + 128) :: rest) =
      some (Char.ofNat (((a - 0xE0) * 64 + m % 64) * 64 + k % 64), rest) := by
  have h1 : ¬ UInt8.ofNat a < 0x80 := fun hlt =>
    absurd ((byte_lt (m := 0x80) (by omega) (by omega)).mp hlt) (by omega)
  have h2 : ¬ UInt8.ofNat a ≤ 0xDF := fun hle =>
    absurd ((byte_le (m := 0xDF) (by omega) (by omega)).mp hle) (by omega)
  have h3 : 0xE0 ≤ UInt8.ofNat a := (byte_le (n := 0xE0) (by omega) (by omega)).mpr h.1
  have h4 : UInt8.ofNat a ≤ 0xEF := (byte_le (m := 0xEF) (by omega) (by omega)).mpr h.2
  rw [next?, if_neg h1, if_neg (by simp [h2]), if_pos (by simp [h3, h4])]
  simp only [isContinuation_byte, payload_byte, toNat_byte (show a < 256 by omega)]
  rw [if_pos (by simp [hn.1, hn.2])]

theorem next?_four {a : Nat} (h : 0xF0 ≤ a ∧ a ≤ 0xF4) (m k l : Nat) (rest : Bytes)
    (hn : 0x10000 ≤ (((a - 0xF0) * 64 + m % 64) * 64 + k % 64) * 64 + l % 64 ∧
      (((a - 0xF0) * 64 + m % 64) * 64 + k % 64) * 64 + l % 64 ≤ 0x10FFFF) :
    next? (UInt8.ofNat a :: UInt8.ofNat (m % 64 + 128) :: UInt8.ofNat (k % 64 + 128) ::
        UInt8.ofNat (l % 64 + 128) :: rest) =
      some (Char.ofNat ((((a - 0xF0) * 64 + m % 64) * 64 + k % 64) * 64 + l % 64), rest) := by
  have h1 : ¬ UInt8.ofNat a < 0x80 := fun hlt =>
    absurd ((byte_lt (m := 0x80) (by omega) (by omega)).mp hlt) (by omega)
  have h2 : ¬ UInt8.ofNat a ≤ 0xDF := fun hle =>
    absurd ((byte_le (m := 0xDF) (by omega) (by omega)).mp hle) (by omega)
  have h3 : ¬ UInt8.ofNat a ≤ 0xEF := fun hle =>
    absurd ((byte_le (m := 0xEF) (by omega) (by omega)).mp hle) (by omega)
  have h4 : 0xF0 ≤ UInt8.ofNat a := (byte_le (n := 0xF0) (by omega) (by omega)).mpr h.1
  have h5 : UInt8.ofNat a ≤ 0xF4 := (byte_le (m := 0xF4) (by omega) (by omega)).mpr h.2
  rw [next?, if_neg h1, if_neg (by simp [h2]), if_neg (by simp [h3]), if_pos (by simp [h4, h5])]
  simp only [isContinuation_byte, payload_byte, toNat_byte (show a < 256 by omega)]
  rw [if_pos (by simp [hn.1, hn.2])]

/-- The bytes of a character are read as that character, whatever follows them. -/
theorem next?_encodeChar (c : Char) (rest : Bytes) :
    next? (String.utf8EncodeChar c ++ rest) = some (c, rest) := by
  have hv : c.toNat < 0xD800 ∨ 0xDFFF < c.toNat ∧ c.toNat < 0x110000 := c.valid
  have hc : Char.ofNat c.toNat = c := Char.ofNat_toNat c
  have hval : c.val.toNat = c.toNat := rfl
  rw [String.utf8EncodeChar, hval]
  generalize c.toNat = v at hv hc ⊢
  have read {n : Nat} (hn : n = v) : some (Char.ofNat n, rest) = some (c, rest) := by
    rw [hn, hc]
  -- one case for each number of bytes; the leading one holds what is left of the code point
  split
  · rw [List.cons_append, List.nil_append, next?_one (by omega)]
    exact read rfl
  · split
    · rw [List.cons_append, List.cons_append, List.nil_append, next?_two (by omega)]
      exact read (by omega)
    · split
      · rw [List.cons_append, List.cons_append, List.cons_append, List.nil_append,
          next?_three (by omega) (v / 64) v rest (by omega)]
        exact read (by omega)
      · rw [List.cons_append, List.cons_append, List.cons_append, List.cons_append,
          List.nil_append, next?_four (by omega) (v / 4096) (v / 64) v rest (by omega)]
        exact read (by omega)

theorem decode_encodeChar (c : Char) (rest : Bytes) :
    decode (String.utf8EncodeChar c ++ rest) = some c :: decode rest := by
  have hnext := next?_encodeChar c rest
  cases hbytes : String.utf8EncodeChar c ++ rest with
  | nil => rw [hbytes] at hnext; cases hnext
  | cons b bs =>
    rw [hbytes] at hnext
    rw [decode]
    split
    · rename_i c' rest' hn
      rw [hnext] at hn
      cases hn
      rfl
    · rename_i hn
      rw [hnext] at hn
      cases hn

/-- **An encoded text is decoded to its characters**, whatever bytes follow it. -/
theorem decode_encode_append (s : String) (rest : Bytes) :
    decode (encode s ++ rest) = s.toList.map some ++ decode rest := by
  rw [encode]
  induction s.toList with
  | nil => rfl
  | cons c cs ih =>
    rw [List.flatMap_cons, List.append_assoc, decode_encodeChar, ih, List.map_cons,
      List.cons_append]

theorem decode_encode (s : String) : decode (encode s) = s.toList.map some := by
  have h := decode_encode_append s []
  rw [List.append_nil, decode, List.append_nil] at h
  exact h

/-- **An encoded text is that text.** -/
theorem decodeText?_encode (s : String) : decodeText? (encode s) = some s := by
  have hall : (s.toList.map some).mapM id = some s.toList := mapM_map_eq_some fun _ _ => rfl
  rw [decodeText?, decode_encode, text?, hall, Option.map_some, String.ofList_toList]

theorem encode_inj {s t : String} : encode s = encode t ↔ s = t := by
  constructor
  · intro h
    have hdecode := decodeText?_encode s
    rw [h, decodeText?_encode] at hdecode
    exact (Option.some.inj hdecode).symm
  · rintro rfl
    rfl

/-! ## Bytes of parts -/

theorem encode_ofList (cs : List Char) :
    encode (String.ofList cs) = cs.flatMap String.utf8EncodeChar := by
  rw [encode, String.toList_ofList]

theorem encode_append (s t : String) : encode (s ++ t) = encode s ++ encode t := by
  rw [encode, encode, encode, String.toList_append, List.flatMap_append]

/-- A byte without the highest bit is a character by itself and no part of another one. -/
theorem toNat_of_mem_encodeChar {b : UInt8} {c : Char} (hb : b < 0x80)
    (h : b ∈ String.utf8EncodeChar c) : c.toNat = b.toNat := by
  have hlow : b.toNat < 128 := UInt8.lt_iff_toNat_lt.mp hb
  have hval : c.val.toNat = c.toNat := rfl
  have hc : c.toNat < 0xD800 ∨ 0xDFFF < c.toNat ∧ c.toNat < 0x110000 := c.valid
  rw [String.utf8EncodeChar, hval] at h
  split at h
  · rw [List.mem_singleton.mp h, toNat_byte (by omega)]
  -- every byte of a longer form has its highest bit set
  · split at h
    · simp only [List.mem_cons, List.not_mem_nil, or_false] at h
      rcases h with rfl | rfl <;> rw [toNat_byte (by omega)] at hlow <;> omega
    · split at h
      · simp only [List.mem_cons, List.not_mem_nil, or_false] at h
        rcases h with rfl | rfl | rfl <;> rw [toNat_byte (by omega)] at hlow <;> omega
      · simp only [List.mem_cons, List.not_mem_nil, or_false] at h
        rcases h with rfl | rfl | rfl | rfl <;> rw [toNat_byte (by omega)] at hlow <;> omega

end Utf8
end MetadataAudit
