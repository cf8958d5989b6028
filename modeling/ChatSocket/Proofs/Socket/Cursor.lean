import ChatSocket.Proofs.Socket.Split
import Mathlib.Algebra.GroupWithZero.Nat

/-!
# Scanning with a position

The head of a packet can also be scanned without taking the text apart: a cursor counts bytes,
and each part is a slice of the whole text between two positions.  Slicing can fail, because a
position may fall inside a character (`cut?_isSome_iff`).  `scan?_eq_scan` shows that it never
does: every position at which the cursor slices stands between two characters, also where it
goes back to a mark, and what it finds is what `scan` finds.
-/

set_option autoImplicit false

namespace ChatSocket.Socket.Header.Cursor

def byteSize (text : List Char) : Nat := (text.map Char.utf8Size).sum

@[simp] theorem byteSize_nil : byteSize [] = 0 := rfl

@[simp] theorem byteSize_cons (c : Char) (text : List Char) :
    byteSize (c :: text) = c.utf8Size + byteSize text := by
  simp [byteSize]

@[simp] theorem byteSize_append (front rest : List Char) :
    byteSize (front ++ rest) = byteSize front + byteSize rest := by
  simp [byteSize]

theorem byteSize_eq (text : List Char) : byteSize text = (String.ofList text).utf8ByteSize := by
  induction text with
  | nil => rfl
  | cons c text ih =>
      rw [byteSize_cons, ih, String.ofList_cons, String.utf8ByteSize_append,
        String.utf8ByteSize_singleton]

/-! ## Slices -/

/-- The text in front of a position and the text from there on.  Inside a character and
beyond the end nothing can be cut. -/
def cut? : List Char → Nat → Option (List Char × List Char)
  | text, 0 => some ([], text)
  | [], _ + 1 => none
  | c :: text, pos + 1 =>
      if c.utf8Size ≤ pos + 1 then
        (cut? text (pos + 1 - c.utf8Size)).map fun (front, rest) => (c :: front, rest)
      else none

theorem cut?_append (front rest : List Char) :
    cut? (front ++ rest) (byteSize front) = some (front, rest) := by
  induction front with
  | nil => rw [List.nil_append, byteSize_nil, cut?]
  | cons c front ih =>
      have positive := c.utf8Size_pos
      obtain ⟨pos, size⟩ : ∃ pos, byteSize (c :: front) = pos + 1 :=
        Nat.exists_eq_succ_of_ne_zero (by rw [byteSize_cons]; omega)
      have left : pos + 1 - c.utf8Size = byteSize front := by
        rw [← size, byteSize_cons, Nat.add_sub_cancel_left]
      have fits : c.utf8Size ≤ pos + 1 := by
        rw [← size, byteSize_cons]
        exact Nat.le_add_right _ _
      rw [size, List.cons_append, cut?, if_pos fits, left, ih]
      rfl

theorem eq_append_of_cut? (text : List Char) (pos : Nat) (front rest : List Char)
    (found : cut? text pos = some (front, rest)) : text = front ++ rest ∧ pos = byteSize front := by
  induction text generalizing pos front with
  | nil =>
      cases pos with
      | zero => cases found; exact ⟨rfl, rfl⟩
      | succ pos => cases found
  | cons c text ih =>
      cases pos with
      | zero => cases found; exact ⟨rfl, rfl⟩
      | succ pos =>
          rw [cut?] at found
          split at found
          · rename_i fits
            obtain ⟨⟨inner, later⟩, cut, same⟩ := Option.map_eq_some_iff.mp found
            cases same
            obtain ⟨whole, left⟩ := ih _ _ cut
            refine ⟨by rw [whole, List.cons_append], ?_⟩
            rw [byteSize_cons]
            omega
          · cases found

/-- The positions where a text can be cut are the boundaries of its characters. -/
theorem cut?_isSome_iff (text : List Char) (pos : Nat) :
    (cut? text pos).isSome ↔ (⟨pos⟩ : String.Pos.Raw).IsValid (String.ofList text) := by
  rw [String.Pos.Raw.isValid_ofList, Option.isSome_iff_exists]
  constructor
  · rintro ⟨⟨front, rest⟩, found⟩
    obtain ⟨rfl, rfl⟩ := eq_append_of_cut? text pos front rest found
    exact ⟨front.length, by rw [List.take_left, byteSize_eq]⟩
  · rintro ⟨count, size⟩
    have found := cut?_append (text.take count) (text.drop count)
    rw [List.take_append_drop, byteSize_eq, ← size] at found
    exact ⟨_, found⟩

def rest? (text : List Char) (pos : Nat) : Option (List Char) := (cut? text pos).map Prod.snd

/-- The text between two positions. -/
def slice? (text : List Char) (start stop : Nat) : Option (List Char) := do
  let (front, _) ← cut? text stop
  rest? front start

/-! ## A cursor over a text -/

section Scanner

variable (text : List Char)

def peek? (pos : Nat) : Option (Option Char) := (rest? text pos).map List.head?

/-- Whether the character comes next, and the position behind it if it does. -/
def eat? (expected : Char) (pos : Nat) : Option (Bool × Nat) := do
  let next ← peek? text pos
  return if next = some expected then (true, pos + expected.utf8Size) else (false, pos)

def takeWhile? (keep : Char → Bool) (pos : Nat) : Option (List Char × Nat) := do
  let rest ← rest? text pos
  let stop := pos + byteSize (rest.takeWhile keep)
  let taken ← slice? text pos stop
  return (taken, stop)

def packetType? (pos : Nat) : Option (Except Fault (Nat × Nat)) := do
  match ← peek? text pos with
  | none => return .error .empty
  | some c =>
      -- A digit is one byte long.
      return if c.isDigit then .ok (c.toNat - '0'.toNat, pos + 1) else .error (.invalidKind c)

def attachments? (mark : Nat) : Option (Except Fault (Option UInt32 × Nat)) := do
  let (digits, pos) ← takeWhile? text Char.isDigit mark
  if digits.isEmpty then return .ok (none, mark)
  let (dashed, pos) ← eat? text '-' pos
  return if dashed then (readCount (some digits)).map (·, pos) else .ok (none, mark)

def namespace? (mark : Nat) : Option (Option (List Char) × Nat) := do
  let next ← peek? text mark
  if next ≠ some '/' then return (none, mark)
  let (_, stop) ← takeWhile? text (!endsNamespace ·) (mark + 1)
  let (ended, pos) ← eat? text ',' stop
  if ended then
    let name ← slice? text mark stop
    return (some name, pos)
  else return (none, mark)

def ackId? (pos : Nat) : Option (Except Fault (Option UInt64 × Nat)) := do
  let (digits, pos) ← takeWhile? text Char.isDigit pos
  return if digits.isEmpty then .ok (none, pos) else (readAckId (some digits)).map (·, pos)

/-- The answer of the whole scan, or nothing where a slice would cut a character in two. -/
def scan? : Option (Except Fault Header) := do
  match ← packetType? text 0 with
  | .error fault => return .error fault
  | .ok (kind, pos) =>
      match ← attachments? text pos with
      | .error fault => return .error fault
      | .ok (attachments, pos) =>
          let (ns, pos) ← namespace? text pos
          match ← ackId? text pos with
          | .error fault => return .error fault
          | .ok (ackId, pos) =>
              let payload ← rest? text pos
              return .ok { kind, attachments, ns, ackId, payload }

end Scanner

/-! ## Where the cursor stands -/

/-- The position in front of a rest of the text. -/
def Stands (text : List Char) (pos : Nat) (rest : List Char) : Prop :=
  ∃ front, text = front ++ rest ∧ pos = byteSize front

variable {text : List Char} {pos : Nat} {rest : List Char}

theorem stands_zero (text : List Char) : Stands text 0 text := ⟨[], rfl, rfl⟩

theorem Stands.cut? (stands : Stands text pos rest) :
    ∃ front, Cursor.cut? text pos = some (front, rest) := by
  obtain ⟨front, rfl, rfl⟩ := stands
  exact ⟨front, cut?_append front rest⟩

theorem Stands.rest? (stands : Stands text pos rest) : Cursor.rest? text pos = some rest := by
  obtain ⟨front, found⟩ := stands.cut?
  rw [Cursor.rest?, found]
  rfl

theorem Stands.peek? (stands : Stands text pos rest) :
    Cursor.peek? text pos = some rest.head? := by
  rw [Cursor.peek?, stands.rest?]
  rfl

/-- Behind a part of the rest the cursor stands in front of what is left. -/
theorem Stands.skip (middle : List Char) {later : List Char}
    (stands : Stands text pos (middle ++ later)) :
    Stands text (pos + byteSize middle) later := by
  obtain ⟨front, rfl, rfl⟩ := stands
  exact ⟨front ++ middle, by rw [List.append_assoc], by rw [byteSize_append]⟩

theorem Stands.slice? {middle later : List Char} (stands : Stands text pos (middle ++ later)) :
    Cursor.slice? text pos (pos + byteSize middle) = some middle := by
  obtain ⟨front, rfl, rfl⟩ := stands
  have stop : Cursor.cut? (front ++ (middle ++ later)) (byteSize front + byteSize middle) =
      some (front ++ middle, later) := by
    rw [← List.append_assoc, ← byteSize_append]
    exact cut?_append _ _
  have start : Cursor.rest? (front ++ middle) (byteSize front) = some middle :=
    Stands.rest? ⟨front, rfl, rfl⟩
  rw [Cursor.slice?, stop]
  exact start

theorem Stands.eat? (stands : Stands text pos rest) (expected : Char) :
    Cursor.eat? text expected pos =
      some (if rest.head? = some expected then (true, pos + expected.utf8Size)
        else (false, pos)) := by
  rw [Cursor.eat?, stands.peek?]
  rfl

theorem Stands.takeWhile? (stands : Stands text pos rest) (keep : Char → Bool) :
    Cursor.takeWhile? text keep pos =
        some (rest.takeWhile keep, pos + byteSize (rest.takeWhile keep)) ∧
      Stands text (pos + byteSize (rest.takeWhile keep)) (rest.dropWhile keep) := by
  have parts : Stands text pos (rest.takeWhile keep ++ rest.dropWhile keep) := by
    rw [List.takeWhile_append_dropWhile]
    exact stands
  refine ⟨?_, Stands.skip _ parts⟩
  simp only [Cursor.takeWhile?, stands.rest?, bind, Option.bind, parts.slice?, pure]

/-- The cursor has the answer of a scanner that takes the text apart: the same fault, or the
same value with the cursor in front of what the scanner leaves. -/
inductive Follows (text : List Char) {Value : Type} :
    Except Fault (Value × List Char) → Except Fault (Value × Nat) → Prop
  | fault (fault : Fault) : Follows text (.error fault) (.error fault)
  | value (value : Value) (rest : List Char) (pos : Nat) (stands : Stands text pos rest) :
      Follows text (.ok (value, rest)) (.ok (value, pos))

theorem packetType?_follows (text : List Char) :
    ∃ answer, packetType? text 0 = some answer ∧ Follows text (scanKind text) answer := by
  rw [packetType?, (stands_zero text).peek?]
  cases text with
  | nil => exact ⟨_, rfl, .fault .empty⟩
  | cons c rest =>
      refine ⟨_, rfl, ?_⟩
      rw [scanKind]
      by_cases digit : c.isDigit
      · have ascii : byteSize [c] = 1 := by
          have low : c.val ≤ 0x7f := by
            simp only [Char.isDigit, Bool.and_eq_true, decide_eq_true_eq] at digit
            exact UInt32.le_trans digit.2 (by decide)
          simp [Char.utf8Size, low]
        have behind : Stands (c :: rest) (0 + byteSize [c]) rest :=
          Stands.skip [c] (stands_zero (c :: rest))
        rw [if_pos digit, if_pos digit]
        exact .value _ _ _ (by rwa [ascii] at behind)
      · rw [if_neg digit, if_neg digit]
        exact .fault (.invalidKind c)

/-- A number that is read in the same place has the same answer. -/
theorem follows_map {Value : Type} (read : Except Fault Value) (stands : Stands text pos rest) :
    Follows text (read.map (·, rest)) (read.map (·, pos)) := by
  cases read with
  | error fault => exact .fault fault
  | ok value => exact .value value rest pos stands

theorem scanAttachments_of_unfilled (text : List Char)
    (unfilled : text.takeWhile Char.isDigit = []) : scanAttachments text = .ok (none, text) := by
  simp only [scanAttachments, unfilled, List.isEmpty_nil, if_true]
  split <;> rfl

theorem scanAttachments_of_dash (text later : List Char)
    (filled : text.takeWhile Char.isDigit ≠ [])
    (dash : text.dropWhile Char.isDigit = '-' :: later) :
    scanAttachments text = (readCount (some (text.takeWhile Char.isDigit))).map (·, later) := by
  simp only [scanAttachments, dash, readCount, readNumber]
  rw [if_neg (by simpa using filled)]
  split <;> rfl

theorem attachments?_follows (stands : Stands text pos rest) :
    ∃ answer, attachments? text pos = some answer ∧
      Follows text (scanAttachments rest) answer := by
  obtain ⟨taken, behind⟩ := stands.takeWhile? Char.isDigit
  -- Without a number or without the dash the cursor goes back to where it stood.
  have back : Follows text (.ok ((none : Option UInt32), rest)) (.ok (none, pos)) :=
    .value none rest pos stands
  simp only [attachments?, taken, behind.eat?, bind, Option.bind, pure]
  by_cases unfilled : rest.takeWhile Char.isDigit = []
  · rw [scanAttachments_of_unfilled rest unfilled]
    exact ⟨_, if_pos (List.isEmpty_iff.mpr unfilled), back⟩
  · refine ⟨_, if_neg (mt List.isEmpty_iff.mp unfilled), ?_⟩
    by_cases dashed : (rest.dropWhile Char.isDigit).head? = some '-'
    · obtain ⟨later, dash⟩ := List.head?_eq_some_iff.mp dashed
      rw [dash] at behind
      rw [if_pos dashed, scanAttachments_of_dash rest later unfilled dash]
      exact follows_map _ (Stands.skip ['-'] behind)
    · rw [if_neg dashed, scanAttachments_of_next rest fun c first same => dashed (same ▸ first)]
      exact back

theorem scanNamespace_of_comma (tail later : List Char)
    (comma : tail.dropWhile (!endsNamespace ·) = ',' :: later) :
    scanNamespace ('/' :: tail) = (some ('/' :: tail.takeWhile (!endsNamespace ·)), later) := by
  simp only [scanNamespace, comma]

theorem scanNamespace_of_other (tail : List Char)
    (other : (tail.dropWhile (!endsNamespace ·)).head? ≠ some ',') :
    scanNamespace ('/' :: tail) = (none, '/' :: tail) := by
  simp only [scanNamespace]
  split
  · rename_i later comma
    exact absurd (by rw [comma]; rfl) other
  · rfl

theorem namespace?_follows (stands : Stands text pos rest) :
    ∃ stop, namespace? text pos = some ((scanNamespace rest).1, stop) ∧
      Stands text stop (scanNamespace rest).2 := by
  simp only [namespace?, stands.peek?, bind, Option.bind, pure]
  by_cases slash : rest.head? = some '/'
  · obtain ⟨tail, rfl⟩ := List.head?_eq_some_iff.mp slash
    have inside : Stands text (pos + 1) tail := Stands.skip ['/'] stands
    obtain ⟨taken, behind⟩ := inside.takeWhile? (!endsNamespace ·)
    have whole : Stands text pos
        ('/' :: tail.takeWhile (!endsNamespace ·) ++ tail.dropWhile (!endsNamespace ·)) := by
      rw [List.cons_append, List.takeWhile_append_dropWhile]
      exact stands
    have name := whole.slice?
    rw [byteSize_cons, ← Nat.add_assoc] at name
    change Cursor.slice? text pos (pos + 1 + _) = _ at name
    simp only [taken, behind.eat?, name, List.head?_cons, ne_eq, not_true_eq_false, if_false]
    by_cases ended : (tail.dropWhile (!endsNamespace ·)).head? = some ','
    · obtain ⟨later, comma⟩ := List.head?_eq_some_iff.mp ended
      rw [comma] at behind
      rw [if_pos ended, scanNamespace_of_comma tail later comma]
      exact ⟨_, rfl, Stands.skip [','] behind⟩
    · rw [if_neg ended, scanNamespace_of_other tail ended]
      exact ⟨pos, rfl, stands⟩
  · rw [scanNamespace_of_next rest fun c first same => slash (same ▸ first)]
    exact ⟨pos, if_pos slash, stands⟩

theorem ackId?_follows (stands : Stands text pos rest) :
    ∃ answer, ackId? text pos = some answer ∧ Follows text (scanAckId rest) answer := by
  obtain ⟨taken, behind⟩ := stands.takeWhile? Char.isDigit
  simp only [ackId?, taken, bind, Option.bind, pure]
  refine ⟨_, rfl, ?_⟩
  by_cases unfilled : rest.takeWhile Char.isDigit = []
  · simp only [scanAckId, unfilled, List.isEmpty_nil, if_true]
    exact .value none rest pos stands
  · have filled : ¬ (rest.takeWhile Char.isDigit).isEmpty := mt List.isEmpty_iff.mp unfilled
    have read : scanAckId rest = (readAckId (some (rest.takeWhile Char.isDigit))).map
        (·, rest.dropWhile Char.isDigit) := by
      simp only [scanAckId, readAckId, readNumber]
      rw [if_neg filled]
      split <;> rfl
    rw [if_neg filled, read]
    exact follows_map _ behind

/-- The cursor never slices inside a character, and it finds what the scanner finds. -/
theorem scan?_eq_scan (text : List Char) : scan? text = some (scan text) := by
  obtain ⟨kindAnswer, kindRead, kindSame⟩ := packetType?_follows text
  simp only [scan?, kindRead, scan, bind, Option.bind, Except.bind, pure, Except.pure]
  generalize scanKind text = kindFound at kindSame
  cases kindSame with
  | fault fault => rfl
  | value kind afterKind pos stands =>
      obtain ⟨countAnswer, countRead, countSame⟩ := attachments?_follows stands
      simp only [countRead]
      generalize scanAttachments afterKind = countFound at countSame
      cases countSame with
      | fault fault => rfl
      | value count afterCount pos stands =>
          obtain ⟨stop, nsRead, stands⟩ := namespace?_follows stands
          obtain ⟨ackIdAnswer, ackIdRead, ackIdSame⟩ := ackId?_follows stands
          simp only [nsRead, ackIdRead]
          generalize scanAckId (scanNamespace afterCount).2 = ackIdFound at ackIdSame
          cases ackIdSame with
          | fault fault => rfl
          | value ackId payload pos stands => simp only [stands.rest?]

end ChatSocket.Socket.Header.Cursor
