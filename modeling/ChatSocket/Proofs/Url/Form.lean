import ChatSocket.Proofs.Text.Utf8
import ChatSocket.Url.Form

/-!
# Pairs that come back from a query

The names and values that are written into a query are read from it as they were.
A written text has no separator in it, so it can neither end its pair nor begin
another one: `pairs_append` says that the pairs of a query to which some were
appended are those that it had, and then those.
-/

set_option autoImplicit false

namespace ChatSocket.Url

/-! ## Bytes in base sixteen -/

namespace Percent

theorem hexValue?_hexDigit (n : Nat) :
    hexValue? (UInt8.ofNat (hexDigit n).toNat) = some (n % 16) := by
  have table : ∀ digit : Fin 16,
      hexValue? (UInt8.ofNat (Nat.digitChar digit).toUpper.toNat) = some digit.val := by decide
  exact table ⟨n % 16, Nat.mod_lt n (by omega)⟩

theorem hexDigit_bounds (n : Nat) :
    (hexDigit n).isAlphanum = true ∧ (hexDigit n).toNat < 0x80 ∧ hexDigit n ≠ '+' := by
  have table : ∀ digit : Fin 16, (Nat.digitChar digit).toUpper.isAlphanum = true ∧
      (Nat.digitChar digit).toUpper.toNat < 0x80 ∧ (Nat.digitChar digit).toUpper ≠ '+' := by decide
  exact table ⟨n % 16, Nat.mod_lt n (by omega)⟩

theorem decode_cons_of_ne (byte : UInt8) (rest : List UInt8) (other : byte ≠ 0x25) :
    decode (byte :: rest) = byte :: decode rest := by
  rw [decode]
  rintro high low rest rfl
  exact absurd rfl other

/-- The two digits of a byte give it back. -/
theorem decode_digits (byte : UInt8) (rest : List UInt8) :
    decode (0x25 :: UInt8.ofNat (hexDigit (byte.toNat / 16)).toNat ::
      UInt8.ofNat (hexDigit byte.toNat).toNat :: rest) = byte :: decode rest := by
  have value : byte.toNat / 16 % 16 * 16 + byte.toNat % 16 = byte.toNat := by
    have bound := byte.toNat_lt
    omega
  simp only [decode, hexValue?_hexDigit]
  rw [value, UInt8.ofNat_toNat]

end Percent

namespace Form

/-! ## What is written -/

/-- What the written form of a text consists of. -/
def isWritten (c : Char) : Bool := c.isAlphanum || ['*', '-', '.', '_', '+', '%'].contains c

theorem plain_bounds (byte : UInt8) (plain : isPlain byte = true) :
    (Char.ofNat byte.toNat).toNat = byte.toNat ∧ byte.toNat < 0x80 ∧ byte ≠ 0x25 ∧
      Char.ofNat byte.toNat ≠ '+' ∧ isWritten (Char.ofNat byte.toNat) = true := by
  have table : ∀ value : Fin 256, isPlain (UInt8.ofNat value) = true →
      (Char.ofNat value).toNat = value.val ∧ value.val < 0x80 ∧ UInt8.ofNat value ≠ 0x25 ∧
        Char.ofNat value ≠ '+' ∧ isWritten (Char.ofNat value) = true := by decide +kernel
  have entry := table ⟨byte.toNat, byte.toNat_lt⟩
  rw [UInt8.ofNat_toNat] at entry
  exact entry plain

theorem isWritten_of_mem_writeByte (byte : UInt8) (c : Char) (member : c ∈ writeByte byte) :
    isWritten c = true := by
  rw [writeByte] at member
  split at member
  case isTrue plain =>
    obtain rfl := List.mem_singleton.mp member
    exact (plain_bounds byte plain).2.2.2.2
  case isFalse =>
    split at member
    case isTrue =>
      obtain rfl := List.mem_singleton.mp member
      rfl
    case isFalse =>
      simp only [Percent.encodeByte, List.mem_cons, List.not_mem_nil, or_false] at member
      rcases member with rfl | rfl | rfl
      · rfl
      · rw [isWritten, (Percent.hexDigit_bounds _).1, Bool.true_or]
      · rw [isWritten, (Percent.hexDigit_bounds _).1, Bool.true_or]

theorem isWritten_of_mem_writeText (text : String) (c : Char) (member : c ∈ writeText text) :
    isWritten c = true := by
  obtain ⟨byte, -, written⟩ := List.mem_flatMap.mp member
  exact isWritten_of_mem_writeByte byte c written

theorem not_mem_writeText (text : String) (separator : Char)
    (foreign : isWritten separator = false) : separator ∉ writeText text := by
  intro member
  rw [isWritten_of_mem_writeText text separator member] at foreign
  exact absurd foreign (by decide)

theorem isWritten_of_mem_writePair (pair : String × String) (c : Char)
    (member : c ∈ writePair pair) : isWritten c = true ∨ c = '=' := by
  simp only [writePair, List.mem_append, List.mem_cons] at member
  rcases member with name | sign | value
  · exact .inl (isWritten_of_mem_writeText pair.1 c name)
  · exact .inr sign
  · exact .inl (isWritten_of_mem_writeText pair.2 c value)

theorem writePair_ne_nil (pair : String × String) : writePair pair ≠ [] := by
  simp [writePair]

/-! ## Texts and pairs read back -/

/-- The bytes that a written text stands for. -/
def bytesOf (written : List Char) : List UInt8 :=
  Percent.decode (Text.Utf8.encode (written.map fun c => if c = '+' then ' ' else c))

theorem bytesOf_writeByte_append (byte : UInt8) (rest : List Char) :
    bytesOf (writeByte byte ++ rest) = byte :: bytesOf rest := by
  rw [writeByte]
  split
  case isTrue plain =>
    obtain ⟨same, ascii, notPercent, notPlus, -⟩ := plain_bounds byte plain
    have back : UInt8.ofNat (Char.ofNat byte.toNat).toNat = byte := by
      rw [same, UInt8.ofNat_toNat]
    rw [List.singleton_append, bytesOf, List.map_cons, if_neg notPlus,
      Text.Utf8.encode_cons_of_ascii _ _ (by omega), back,
      Percent.decode_cons_of_ne byte _ notPercent]
    rfl
  case isFalse =>
    split
    case isTrue space =>
      subst space
      unfold bytesOf
      rw [List.singleton_append, List.map_cons, if_pos rfl,
        Text.Utf8.encode_cons_of_ascii ' ' _ (by decide), Percent.decode_cons_of_ne _ _ (by decide)]
      rfl
    case isFalse =>
      obtain ⟨-, highAscii, highNotPlus⟩ := Percent.hexDigit_bounds (byte.toNat / 16)
      obtain ⟨-, lowAscii, lowNotPlus⟩ := Percent.hexDigit_bounds byte.toNat
      unfold bytesOf Percent.encodeByte
      simp only [List.cons_append, List.nil_append, List.map_cons, if_neg highNotPlus,
        if_neg lowNotPlus]
      rw [if_neg (by decide), Text.Utf8.encode_cons_of_ascii '%' _ (by decide),
        Text.Utf8.encode_cons_of_ascii _ _ highAscii, Text.Utf8.encode_cons_of_ascii _ _ lowAscii]
      exact Percent.decode_digits byte _

theorem bytesOf_flatMap_writeByte (bytes : List UInt8) :
    bytesOf (bytes.flatMap writeByte) = bytes := by
  induction bytes with
  | nil => rfl
  | cons byte bytes ih => rw [List.flatMap_cons, bytesOf_writeByte_append, ih]

theorem readText_writeText (text : String) : readText (writeText text) = text := by
  have bytes := bytesOf_flatMap_writeByte (Text.Utf8.encode text.toList)
  calc readText (writeText text)
      = String.ofList (Text.Utf8.decode (bytesOf (writeText text))) := rfl
    _ = String.ofList (Text.Utf8.decode (Text.Utf8.encode text.toList)) := by
        rw [writeText, bytes]
    _ = text := by rw [Text.Utf8.decode_encode, String.ofList_toList]

theorem readPair_writePair (pair : String × String) : readPair (writePair pair) = pair := by
  have cut := Text.splitFirst?_append '=' (writeText pair.1) (writeText pair.2)
    (not_mem_writeText pair.1 '=' (by decide))
  rw [readPair, writePair, cut]
  simp only [readText_writeText]

/-! ## Pairs of a query -/

theorem pairs_writePair (pair : String × String) : pairs (writePair pair) = [pair] := by
  have whole : Text.splitOn (· == '&') (writePair pair) = [writePair pair] := by
    apply Text.splitOn_of_unseparated
    intro c member
    have other : c ≠ '&' := by
      intro same
      subst same
      exact absurd (isWritten_of_mem_writePair pair '&' member) (by decide)
    simp [other]
  have kept : (writePair pair).isEmpty = false :=
    List.isEmpty_eq_false_iff.mpr (writePair_ne_nil pair)
  simp [pairs, whole, kept, readPair_writePair]

/-- The pieces on the two sides of an `&` do not know of each other. -/
theorem pairs_separated (front back : List Char) :
    pairs (front ++ '&' :: back) = pairs front ++ pairs back := by
  have cut := Text.splitOn_append (· == '&') front back '&' (by decide)
  simp only [pairs, cut, List.filter_append, List.map_append]

theorem append_cons (query : List Char) (pair : String × String) (later : List (String × String)) :
    append query (pair :: later) =
      append (if query.isEmpty then writePair pair else query ++ '&' :: writePair pair) later :=
  rfl

/-- Whatever the query holds, what is appended comes after its pairs as it is. -/
theorem pairs_append (query : List Char) (added : List (String × String)) :
    pairs (append query added) = pairs query ++ added := by
  induction added generalizing query with
  | nil => simp [append]
  | cons pair later ih =>
      rw [append_cons, ih]
      by_cases none : query = []
      · subst none
        have empty : pairs [] = [] := rfl
        rw [List.isEmpty_nil, if_pos rfl, pairs_writePair, empty]
        rfl
      · rw [if_neg (by simpa using none), pairs_separated, pairs_writePair, List.append_assoc]
        rfl

/-- What an appended pair adds: the pair itself, behind an `&` if there is anything
in front of it. -/
theorem append_pair_eq (query : List Char) (pair : String × String) :
    ∃ more, (if query.isEmpty then writePair pair else query ++ '&' :: writePair pair) =
        query ++ more ∧ ∀ c ∈ more, isWritten c = true ∨ c = '=' ∨ c = '&' := by
  have signs : ∀ c ∈ writePair pair, isWritten c = true ∨ c = '=' ∨ c = '&' := by
    intro c member
    rcases isWritten_of_mem_writePair pair c member with written | sign
    · exact .inl written
    · exact .inr (.inl sign)
  by_cases none : query = []
  · exact ⟨writePair pair, by simp [none], signs⟩
  · refine ⟨'&' :: writePair pair, by simp [none], ?_⟩
    intro c member
    rcases List.mem_cons.mp member with sign | inside
    · exact .inr (.inr sign)
    · exact signs c inside

/-- A query grows at its end only, and by nothing that could end it. -/
theorem append_eq (query : List Char) (added : List (String × String)) :
    ∃ more, append query added = query ++ more ∧
      ∀ c ∈ more, isWritten c = true ∨ c = '=' ∨ c = '&' := by
  induction added generalizing query with
  | nil => exact ⟨[], by simp [append], by simp⟩
  | cons pair later ih =>
      obtain ⟨first, step, firstSigns⟩ := append_pair_eq query pair
      obtain ⟨more, grown, moreSigns⟩ := ih (query ++ first)
      refine ⟨first ++ more, ?_, List.forall_mem_append.mpr ⟨firstSigns, moreSigns⟩⟩
      rw [append_cons, step, grown, List.append_assoc]

end Form

end ChatSocket.Url
