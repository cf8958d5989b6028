import ChatSocket.Text.Utf8
import Mathlib.Tactic.SplitIfs

/-!
# Text and its bytes

The bytes of a text are read as the text.  `decodeHead_encodeChar` shows this for one
character, by the length of its encoding; `decode_encode` takes one character after the
other.
-/

set_option autoImplicit false

namespace ChatSocket.Text.Utf8

/-! ## Bytes as numbers -/

theorem toNat_ofNat_of_lt (value : Nat) (small : value < 256) :
    (UInt8.ofNat value).toNat = value := by
  rw [UInt8.toNat_ofNat']
  exact Nat.mod_eq_of_lt small

theorem isContinuation_iff (byte : UInt8) :
    isContinuation byte = true ↔ 0x80 ≤ byte.toNat ∧ byte.toNat < 0xc0 := by
  simp [isContinuation, UInt8.le_iff_toNat_le, UInt8.lt_iff_toNat_lt]

/-- The continuation byte of the six lowest bits. -/
theorem continuation_of_bits (value : Nat) :
    isContinuation (UInt8.ofNat (value % 64 + 128)) = true ∧
      payload (UInt8.ofNat (value % 64 + 128)) = value % 64 := by
  have same := toNat_ofNat_of_lt (value % 64 + 128) (by omega)
  rw [isContinuation_iff, payload, same]
  omega

theorem mayFollow_of_bounds (lead second : UInt8) (continues : isContinuation second = true)
    (notShortThree : lead.toNat = 0xe0 → 0xa0 ≤ second.toNat)
    (noSurrogate : lead.toNat = 0xed → second.toNat < 0xa0)
    (notShortFour : lead.toNat = 0xf0 → 0x90 ≤ second.toNat)
    (notBeyond : lead.toNat = 0xf4 → second.toNat < 0x90) : mayFollow lead second = true := by
  rw [mayFollow, continues, Bool.true_and]
  simp only [← UInt8.toNat_inj, UInt8.le_iff_toNat_le, UInt8.lt_iff_toNat_lt]
  split_ifs with three surrogate four beyond
  · exact decide_eq_true (notShortThree three)
  · exact decide_eq_true (noSurrogate surrogate)
  · exact decide_eq_true (notShortFour four)
  · exact decide_eq_true (notBeyond beyond)
  · rfl

/-! ## Heads by their length -/

section Head

variable (lead b c d : UInt8) (rest : List UInt8)

theorem decodeHead_one (ascii : lead.toNat < 0x80) :
    decodeHead lead rest = (Char.ofNat lead.toNat, 1) := by
  simp only [decodeHead, UInt8.lt_iff_toNat_lt, UInt8.reduceToNat, ascii, if_true]

theorem decodeHead_two (low : 0xc2 ≤ lead.toNat) (high : lead.toNat < 0xe0)
    (second : isContinuation b = true) :
    decodeHead lead (b :: rest) = (Char.ofNat ((lead.toNat - 0xc0) * 0x40 + payload b), 2) := by
  have notOne : ¬ lead.toNat < 0x80 := by omega
  have notLone : ¬ lead.toNat < 0xc2 := by omega
  simp only [decodeHead, UInt8.lt_iff_toNat_lt, UInt8.reduceToNat, notOne, notLone, high, second,
    if_true, if_false]

theorem decodeHead_three (low : 0xe0 ≤ lead.toNat) (high : lead.toNat < 0xf0)
    (second : mayFollow lead b = true) (third : isContinuation c = true) :
    decodeHead lead (b :: c :: rest) =
      (Char.ofNat (((lead.toNat - 0xe0) * 0x40 + payload b) * 0x40 + payload c), 3) := by
  have notOne : ¬ lead.toNat < 0x80 := by omega
  have notLone : ¬ lead.toNat < 0xc2 := by omega
  have notTwo : ¬ lead.toNat < 0xe0 := by omega
  simp only [decodeHead, UInt8.lt_iff_toNat_lt, UInt8.reduceToNat, notOne, notLone, notTwo, high,
    second, third, if_true, if_false, Bool.not_true, Bool.false_eq_true]

theorem decodeHead_four (low : 0xf0 ≤ lead.toNat) (high : lead.toNat < 0xf5)
    (second : mayFollow lead b = true) (third : isContinuation c = true)
    (fourth : isContinuation d = true) :
    decodeHead lead (b :: c :: d :: rest) =
      (Char.ofNat ((((lead.toNat - 0xf0) * 0x40 + payload b) * 0x40 + payload c) * 0x40 +
        payload d), 4) := by
  have notOne : ¬ lead.toNat < 0x80 := by omega
  have notLone : ¬ lead.toNat < 0xc2 := by omega
  have notTwo : ¬ lead.toNat < 0xe0 := by omega
  have notThree : ¬ lead.toNat < 0xf0 := by omega
  simp only [decodeHead, UInt8.lt_iff_toNat_lt, UInt8.reduceToNat, notOne, notLone, notTwo,
    notThree, high, second, third, fourth, if_true, if_false, Bool.not_true, Bool.false_eq_true]

end Head

/-! ## Characters -/

/-- The bytes of a character are read as the character, whatever comes after them. -/
theorem decodeHead_encodeChar (c : Char) (rest : List UInt8) :
    ∃ lead more, String.utf8EncodeChar c = lead :: more ∧
      decodeHead lead (more ++ rest) = (c, more.length + 1) := by
  have scalar : c.toNat < 0xd800 ∨ 0xdfff < c.toNat ∧ c.toNat < 0x110000 := c.valid
  have value : ∀ n, n = c.toNat → Char.ofNat n = c := by
    rintro n rfl
    exact c.ofNat_toNat
  rw [String.utf8EncodeChar]
  simp only [← Char.toNat_val] at *
  generalize bits : c.val.toNat = v at *
  split_ifs with one two three
  · refine ⟨_, [], rfl, ?_⟩
    have lead := toNat_ofNat_of_lt v (by omega)
    rw [decodeHead_one _ _ (by omega), lead, value v rfl]
    rfl
  · obtain ⟨second, secondBits⟩ := continuation_of_bits v
    have lead := toNat_ofNat_of_lt (v / 64 % 32 + 192) (by omega)
    refine ⟨_, [_], rfl, ?_⟩
    rw [List.singleton_append, decodeHead_two _ _ _ (by omega) (by omega) second, lead, secondBits,
      value _ (by omega)]
    rfl
  · obtain ⟨second, secondBits⟩ := continuation_of_bits (v / 64)
    obtain ⟨third, thirdBits⟩ := continuation_of_bits v
    have lead := toNat_ofNat_of_lt (v / 4096 % 16 + 224) (by omega)
    have next := toNat_ofNat_of_lt (v / 64 % 64 + 128) (by omega)
    have follows : mayFollow (UInt8.ofNat (v / 4096 % 16 + 224))
        (UInt8.ofNat (v / 64 % 64 + 128)) = true := by
      refine mayFollow_of_bounds _ _ second ?_ ?_ ?_ ?_ <;> rw [lead, next] <;> omega
    refine ⟨_, [_, _], rfl, ?_⟩
    rw [List.cons_append, List.singleton_append,
      decodeHead_three _ _ _ _ (by omega) (by omega) follows third, lead, secondBits, thirdBits,
      value _ (by omega)]
    rfl
  · obtain ⟨second, secondBits⟩ := continuation_of_bits (v / 4096)
    obtain ⟨third, thirdBits⟩ := continuation_of_bits (v / 64)
    obtain ⟨fourth, fourthBits⟩ := continuation_of_bits v
    have lead := toNat_ofNat_of_lt (v / 262144 % 8 + 240) (by omega)
    have next := toNat_ofNat_of_lt (v / 4096 % 64 + 128) (by omega)
    have follows : mayFollow (UInt8.ofNat (v / 262144 % 8 + 240))
        (UInt8.ofNat (v / 4096 % 64 + 128)) = true := by
      refine mayFollow_of_bounds _ _ second ?_ ?_ ?_ ?_ <;> rw [lead, next] <;> omega
    refine ⟨_, [_, _, _], rfl, ?_⟩
    rw [List.cons_append, List.cons_append, List.singleton_append,
      decodeHead_four _ _ _ _ _ (by omega) (by omega) follows third fourth, lead, secondBits,
      thirdBits, fourthBits, value _ (by omega)]
    rfl

/-! ## Texts -/

theorem encode_cons_of_ascii (c : Char) (text : List Char) (ascii : c.toNat < 0x80) :
    encode (c :: text) = UInt8.ofNat c.toNat :: encode text := by
  have one : c.val.toNat ≤ 0x7f := by
    rw [Char.toNat_val]
    omega
  rw [encode, List.flatMap_cons, String.utf8EncodeChar, if_pos one]
  rfl

theorem decodeUpTo_encode (text : List Char) (fuel : Nat)
    (enough : (encode text).length ≤ fuel) : decodeUpTo fuel (encode text) = text := by
  induction text generalizing fuel with
  | nil => cases fuel <;> rfl
  | cons c text ih =>
      obtain ⟨lead, more, bytes, head⟩ := decodeHead_encodeChar c (encode text)
      have split : encode (c :: text) = lead :: (more ++ encode text) := by
        simp [encode, bytes]
      rw [split, List.length_cons, List.length_append] at enough
      obtain ⟨fuel, rfl⟩ : ∃ less, fuel = less + 1 := ⟨fuel - 1, by omega⟩
      rw [split, decodeUpTo, head]
      simp only [Nat.add_sub_cancel, List.drop_left]
      rw [ih fuel (by omega)]

theorem decode_encode (text : List Char) : decode (encode text) = text :=
  decodeUpTo_encode text _ (Nat.le_refl _)

end ChatSocket.Text.Utf8
