import ChatSocket.Socket.Packet
import Mathlib.Data.List.TakeWhile

/-!
# Reading back the head of a packet

The parts of a head have no separators of their own, so a reader could take a piece of one
part for another.  `scan_head` shows that it does not: a head that is written as a digit,
a namespace with its comma, a decimal number and then a payload is taken apart in the same
places, provided that the payload does not start like one of the parts before it.
-/

set_option autoImplicit false

namespace ChatSocket.Socket

/-- A slash, and nowhere a character that ends a namespace. -/
def IsNamespace (ns : List Char) : Prop :=
  ns.head? = some '/' ∧ ',' ∉ ns ∧ '[' ∉ ns ∧ '\x7b' ∉ ns ∧ '"' ∉ ns

namespace Header

theorem isNamespace_cons_iff (rest : List Char) :
    IsNamespace ('/' :: rest) ↔ ∀ c ∈ rest, endsNamespace c = false := by
  constructor
  · rintro ⟨_, comma, bracket, brace, quote⟩ c member
    have different : ∀ other, other ∉ '/' :: rest → c ≠ other := by
      intro other absent equal
      rw [equal] at member
      exact absent (List.mem_cons_of_mem '/' member)
    simp [endsNamespace, different _ comma, different _ bracket, different _ brace,
      different _ quote]
  · intro quiet
    have absent : ∀ c, endsNamespace c = true → c ∉ '/' :: rest := by
      intro c ends member
      rcases List.mem_cons.mp member with rfl | inRest
      · cases ends
      · rw [quiet c inRest] at ends
        cases ends
    exact ⟨rfl, absent _ rfl, absent _ rfl, absent _ rfl, absent _ rfl⟩

/-! ## Numbers -/

theorem valueOf_eq (digits : List Char) : valueOf digits = Nat.ofDigitChars 10 digits 0 := by
  simp only [valueOf, Nat.ofDigitChars_eq_foldl, Nat.mul_comm]

theorem valueOf_toDigits (value : Nat) : valueOf (Nat.toDigits 10 value) = value := by
  rw [valueOf_eq, Nat.ofDigitChars_ten_toDigits]

theorem isDigit_of_mem_toDigits (value : Nat) (c : Char) (member : c ∈ Nat.toDigits 10 value) :
    c.isDigit = true :=
  Nat.isDigit_of_mem_toDigits (by decide) (by decide) member

/-! ## Parts -/

/-- Text that none of the parts before it reaches into. -/
def Apart (text : List Char) : Prop :=
  ∀ c ∈ text.head?, c.isDigit = false ∧ c ≠ '-' ∧ c ≠ '/'

def writeNamespace (ns : Option (List Char)) : List Char :=
  (ns.map (· ++ [','])).getD []

def writeAckId (ackId : Option UInt64) : List Char :=
  (ackId.map fun id => Nat.toDigits 10 id.toNat).getD []

theorem takeWhile_of_apart (text : List Char) (apart : Apart text) :
    text.takeWhile Char.isDigit = [] := by
  cases text with
  | nil => rfl
  | cons c rest => simp [(apart c rfl).1]

theorem dropWhile_of_apart (text : List Char) (apart : Apart text) :
    text.dropWhile Char.isDigit = text := by
  cases text with
  | nil => rfl
  | cons c rest => simp [(apart c rfl).1]

theorem takeWhile_writeAckId (ackId : Option UInt64) (text : List Char) (apart : Apart text) :
    (writeAckId ackId ++ text).takeWhile Char.isDigit = writeAckId ackId := by
  cases ackId with
  | none => exact takeWhile_of_apart text apart
  | some id =>
      have digits := isDigit_of_mem_toDigits id.toNat
      have nothing := takeWhile_of_apart text apart
      simp only [writeAckId, Option.map_some, Option.getD_some]
      rw [List.takeWhile_append_of_pos digits, nothing, List.append_nil]

theorem dropWhile_writeAckId (ackId : Option UInt64) (text : List Char) (apart : Apart text) :
    (writeAckId ackId ++ text).dropWhile Char.isDigit = text := by
  cases ackId with
  | none => exact dropWhile_of_apart text apart
  | some id =>
      have digits := isDigit_of_mem_toDigits id.toNat
      simp only [writeAckId, Option.map_some, Option.getD_some]
      rw [List.dropWhile_append_of_pos digits, dropWhile_of_apart text apart]

theorem scanAckId_written (ackId : Option UInt64) (text : List Char) (apart : Apart text) :
    scanAckId (writeAckId ackId ++ text) = .ok (ackId, text) := by
  have taken := takeWhile_writeAckId ackId text apart
  have dropped := dropWhile_writeAckId ackId text apart
  cases ackId with
  | none =>
      simp only [scanAckId, taken]
      rfl
  | some id =>
      have small : id.toNat ≤ maxAckId := Nat.le_of_lt_succ id.toNat_lt
      have written : writeAckId (some id) = Nat.toDigits 10 id.toNat := rfl
      simp only [scanAckId, taken, dropped]
      rw [written, valueOf_toDigits]
      simp [small]

/-- Without a dash behind them, digits are no number of attachments. -/
theorem scanAttachments_of_next (text : List Char)
    (next : ∀ c ∈ (text.dropWhile Char.isDigit).head?, c ≠ '-') :
    scanAttachments text = .ok (none, text) := by
  simp only [scanAttachments]
  split
  · rename_i rest dash
    exact absurd rfl (next '-' (by simp [dash]))
  · rfl

theorem scanNamespace_written (rest text : List Char)
    (named : ∀ c ∈ rest, endsNamespace c = false) :
    scanNamespace ('/' :: rest ++ ',' :: text) = (some ('/' :: rest), text) := by
  have quiet : ∀ c ∈ rest, (!endsNamespace c) = true := by
    intro c member
    rw [named c member]
    rfl
  have comma : endsNamespace ',' = true := rfl
  have taken : (rest ++ ',' :: text).takeWhile (!endsNamespace ·) = rest := by
    rw [List.takeWhile_append_of_pos quiet]
    simp [comma]
  have dropped : (rest ++ ',' :: text).dropWhile (!endsNamespace ·) = ',' :: text := by
    rw [List.dropWhile_append_of_pos quiet]
    simp [comma]
  simp only [List.cons_append, scanNamespace, dropped, taken]

theorem scanNamespace_of_next (text : List Char) (next : ∀ c ∈ text.head?, c ≠ '/') :
    scanNamespace text = (none, text) := by
  rw [scanNamespace]
  rintro rest rfl
  exact next '/' rfl rfl

/-! ## Heads -/

/-- The parts in the order in which they are written, without attachments. -/
def written (header : Header) : List Char :=
  Nat.digitChar header.kind ::
    (writeNamespace header.ns ++ (writeAckId header.ackId ++ header.payload))

theorem scanKind_digitChar (kind : Nat) (small : kind < 10) (text : List Char) :
    scanKind (Nat.digitChar kind :: text) = .ok (kind, text) := by
  have digit : (Nat.digitChar kind).isDigit = true := by simp [small]
  have value : (Nat.digitChar kind).toNat - '0'.toNat = kind :=
    Nat.toNat_digitChar_sub_48_of_lt_ten small
  simp only [scanKind, digit, if_true, value]

/-- What was written without attachments is read without attachments. -/
theorem scanAttachments_written (ns : Option (List Char)) (ackId : Option UInt64)
    (text : List Char) (named : ∀ name ∈ ns, IsNamespace name) (apart : Apart text) :
    scanAttachments (writeNamespace ns ++ (writeAckId ackId ++ text)) =
      .ok (none, writeNamespace ns ++ (writeAckId ackId ++ text)) := by
  apply scanAttachments_of_next
  cases ns with
  | none =>
      -- The digits of an id may come first, but no dash follows them.
      intro c first
      have dropped := dropWhile_writeAckId ackId text apart
      simp only [writeNamespace, Option.map_none, Option.getD_none, List.nil_append] at first
      rw [dropped] at first
      exact (apart c first).2.1
  | some name =>
      intro c first
      obtain ⟨slash, _⟩ := named name rfl
      obtain ⟨rest, rfl⟩ := List.head?_eq_some_iff.mp slash
      have equal : '/' = c := by simpa [writeNamespace] using first
      rw [← equal]
      decide

theorem scanNamespace_writeNamespace (ns : Option (List Char)) (ackId : Option UInt64)
    (text : List Char) (named : ∀ name ∈ ns, IsNamespace name) (apart : Apart text) :
    scanNamespace (writeNamespace ns ++ (writeAckId ackId ++ text)) =
      (ns, writeAckId ackId ++ text) := by
  cases ns with
  | none =>
      apply scanNamespace_of_next
      intro c first
      cases ackId with
      | none => exact (apart c first).2.2
      | some id =>
          obtain ⟨head, tail, digits⟩ :=
            List.exists_cons_of_ne_nil (Nat.toDigits_ne_nil : Nat.toDigits 10 id.toNat ≠ [])
          have equal : head = c := by simpa [writeNamespace, writeAckId, digits] using first
          have digit := isDigit_of_mem_toDigits id.toNat c (by simp [digits, equal])
          rintro rfl
          cases digit
  | some name =>
      have wellFormed := named name rfl
      obtain ⟨rest, rfl⟩ := List.head?_eq_some_iff.mp wellFormed.1
      have quiet := (isNamespace_cons_iff rest).mp wellFormed
      have read := scanNamespace_written rest (writeAckId ackId ++ text) quiet
      simpa [writeNamespace] using read

/-- A head is read as it was written. -/
theorem scan_written (header : Header) (small : header.kind < 10)
    (bare : header.attachments = none) (named : ∀ name ∈ header.ns, IsNamespace name)
    (apart : Apart header.payload) : scan header.written = .ok header := by
  obtain ⟨kind, attachments, ns, ackId, payload⟩ := header
  cases bare
  have kindRead :=
    scanKind_digitChar kind small (writeNamespace ns ++ (writeAckId ackId ++ payload))
  have attachmentsRead := scanAttachments_written ns ackId payload named apart
  have nsRead := scanNamespace_writeNamespace ns ackId payload named apart
  have ackIdRead := scanAckId_written ackId payload apart
  simp only [scan, written, kindRead, attachmentsRead, nsRead, ackIdRead, bind, Except.bind, pure,
    Except.pure]

/-- Whatever is read as a namespace is one. -/
theorem isNamespace_of_scanNamespace (text ns rest : List Char)
    (read : scanNamespace text = (some ns, rest)) : IsNamespace ns := by
  simp only [scanNamespace] at read
  split at read
  · rename_i tail
    split at read
    · cases read
      apply (isNamespace_cons_iff _).mpr
      intro c member
      have quiet := List.mem_takeWhile_imp member
      simpa using quiet
    · cases read
  · cases read

theorem isNamespace_of_scan (text : List Char) (header : Header) (read : scan text = .ok header) :
    ∀ ns ∈ header.ns, IsNamespace ns := by
  intro ns member
  simp only [scan, bind, Except.bind, pure, Except.pure] at read
  split at read
  · cases read
  · rename_i kind kindRead
    split at read
    · cases read
    · rename_i attachments attachmentsRead
      split at read
      · cases read
      · rename_i ackId ackIdRead
        cases read
        exact isNamespace_of_scanNamespace attachments.2 ns _ (Prod.ext member rfl)

end Header

end ChatSocket.Socket
