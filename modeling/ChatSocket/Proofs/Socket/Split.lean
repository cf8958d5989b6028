import ChatSocket.Proofs.Socket.Head

/-!
# Taking a text apart

`Parts` are the parts of a text as they stand there, numbers still as digits, and `Munched`
says that no part could be longer and none that is left out could be there.  A text that
starts with a digit has exactly one such set of parts, and the scanner finds it: what it
answers depends on the parts alone (`scan_of_munched`).
-/

set_option autoImplicit false

namespace ChatSocket.Socket.Header

def IsNumeral (digits : List Char) : Prop := digits ≠ [] ∧ ∀ c ∈ digits, c.isDigit = true

def writeCount (count : Option (List Char)) : List Char := (count.map (· ++ ['-'])).getD []

structure Parts where
  kind : Char
  count : Option (List Char)
  ns : Option (List Char)
  ackId : Option (List Char)
  payload : List Char

namespace Parts

def afterNs (parts : Parts) : List Char := parts.ackId.getD [] ++ parts.payload

def afterCount (parts : Parts) : List Char := writeNamespace parts.ns ++ parts.afterNs

def afterKind (parts : Parts) : List Char := writeCount parts.count ++ parts.afterCount

def text (parts : Parts) : List Char := parts.kind :: parts.afterKind

/-- A part is there exactly if something of its form stands in its place, and it takes
all that it can. -/
structure Munched (parts : Parts) : Prop where
  kind : parts.kind.isDigit = true
  count : ∀ digits, parts.count = some digits ↔
    IsNumeral digits ∧ digits ++ ['-'] <+: parts.afterKind
  ns : ∀ name, parts.ns = some name ↔ IsNamespace name ∧ name ++ [','] <+: parts.afterCount
  ackId : ∀ digits, parts.ackId = some digits → IsNumeral digits
  payload : ∀ c ∈ parts.payload.head?, c.isDigit = false

end Parts

/-! ## Numbers -/

theorem takeWhile_of_next (text : List Char) (next : ∀ c ∈ text.head?, c.isDigit = false) :
    text.takeWhile Char.isDigit = [] ∧ text.dropWhile Char.isDigit = text := by
  cases text with
  | nil => exact ⟨rfl, rfl⟩
  | cons c later => simp [next c rfl]

theorem takeWhile_of_numeral (digits rest : List Char) (numeral : IsNumeral digits)
    (next : ∀ c ∈ rest.head?, c.isDigit = false) :
    (digits ++ rest).takeWhile Char.isDigit = digits ∧
      (digits ++ rest).dropWhile Char.isDigit = rest := by
  obtain ⟨nothing, untouched⟩ := takeWhile_of_next rest next
  rw [List.takeWhile_append_of_pos numeral.2, List.dropWhile_append_of_pos numeral.2, nothing,
    untouched, List.append_nil]
  exact ⟨rfl, rfl⟩

theorem isNumeral_takeWhile (text : List Char) (filled : text.takeWhile Char.isDigit ≠ []) :
    IsNumeral (text.takeWhile Char.isDigit) :=
  ⟨filled, fun _ member => List.mem_takeWhile_imp member⟩

theorem not_isDigit_dropWhile (text : List Char) :
    ∀ c ∈ (text.dropWhile Char.isDigit).head?, c.isDigit = false := by
  intro c first
  have stopped := List.head?_dropWhile_not Char.isDigit text
  rw [Option.mem_def.mp first] at stopped
  simpa using stopped

/-- A number from its digits, unless it is too large. -/
def readNumber {Word : Type} (number : Number) (limit : Nat) (ofNat : Nat → Word) :
    Option (List Char) → Except Fault (Option Word)
  | none => .ok none
  | some digits =>
      if valueOf digits ≤ limit then .ok (some (ofNat (valueOf digits)))
      else .error (.outOfRange number digits)

def readCount : Option (List Char) → Except Fault (Option UInt32) :=
  readNumber .attachmentCount maxCount UInt32.ofNat

def readAckId : Option (List Char) → Except Fault (Option UInt64) :=
  readNumber .acknowledgementId maxAckId UInt64.ofNat

/-! ## One part after the other -/

/-- Digits are a number of attachments exactly if a dash follows them. -/
theorem scanAttachments_split (text : List Char) :
    ∃ count rest, text = writeCount count ++ rest ∧
      (∀ digits, count = some digits ↔ IsNumeral digits ∧ digits ++ ['-'] <+: text) ∧
      scanAttachments text = (readCount count).map (·, rest) := by
  have whole := List.takeWhile_append_dropWhile (p := Char.isDigit) (l := text)
  -- Digits with a dash behind them can only be all the digits at the front.
  have alone : ∀ digits, IsNumeral digits → digits ++ ['-'] <+: text →
      text.takeWhile Char.isDigit = digits ∧
        ∃ rest, text.dropWhile Char.isDigit = '-' :: rest := by
    rintro digits numeral ⟨rest, same⟩
    rw [List.append_assoc] at same
    obtain ⟨taken, dropped⟩ := takeWhile_of_numeral digits (['-'] ++ rest) numeral (by simp)
    rw [same] at taken dropped
    exact ⟨taken, rest, dropped⟩
  by_cases counted : text.takeWhile Char.isDigit ≠ [] ∧
      ∃ rest, text.dropWhile Char.isDigit = '-' :: rest
  · obtain ⟨filled, rest, dash⟩ := counted
    refine ⟨some (text.takeWhile Char.isDigit), rest, ?_, ?_, ?_⟩
    · rw [dash] at whole
      simpa [writeCount] using whole.symm
    · intro digits
      constructor
      · rintro same
        cases same
        refine ⟨isNumeral_takeWhile text filled, rest, ?_⟩
        rw [dash] at whole
        simpa using whole
      · rintro ⟨numeral, stands⟩
        rw [(alone digits numeral stands).1]
    · simp only [scanAttachments, dash, readCount, readNumber]
      rw [if_neg (by simpa using filled)]
      split <;> rfl
  · refine ⟨none, text, rfl, ?_, ?_⟩
    · intro digits
      constructor
      · intro same
        cases same
      · rintro ⟨numeral, stands⟩
        obtain ⟨taken, dash⟩ := alone digits numeral stands
        exact absurd ⟨by rw [taken]; exact numeral.1, dash⟩ counted
    · simp only [scanAttachments, readCount, readNumber]
      split
      · rename_i rest dash
        have unfilled : text.takeWhile Char.isDigit = [] := by
          by_contra filled
          exact counted ⟨filled, rest, dash⟩
        simp [unfilled, Except.map]
      · rfl

/-- What starts like a namespace is one exactly if a comma is the first thing to end it. -/
theorem scanNamespace_split (text : List Char) :
    ∃ ns rest, text = writeNamespace ns ++ rest ∧
      (∀ name, ns = some name ↔ IsNamespace name ∧ name ++ [','] <+: text) ∧
      scanNamespace text = (ns, rest) := by
  cases read : scanNamespace text with
  | mk ns rest =>
      have written : ∀ name, IsNamespace name → name ++ [','] <+: text → ns = some name := by
        rintro name named ⟨later, rfl⟩
        obtain ⟨tail, rfl⟩ := List.head?_eq_some_iff.mp named.1
        have found := scanNamespace_written tail later ((isNamespace_cons_iff tail).mp named)
        rw [List.append_assoc, List.singleton_append] at read
        cases read.symm.trans found
        rfl
      cases ns with
      | none =>
          have untouched : text = rest := by
            simp only [scanNamespace] at read
            split at read
            · split at read <;> cases read
              rfl
            · cases read
              rfl
          refine ⟨none, rest, untouched, ?_, rfl⟩
          intro name
          constructor
          · intro same
            cases same
          · rintro ⟨named, stands⟩
            exact written name named stands
      | some name =>
          have named := isNamespace_of_scanNamespace text name rest read
          have whole : text = name ++ [','] ++ rest := by
            simp only [scanNamespace] at read
            split at read
            · rename_i tail
              have parts := List.takeWhile_append_dropWhile (p := (!endsNamespace ·)) (l := tail)
              split at read
              · rename_i after comma
                cases read
                rw [comma] at parts
                rw [List.append_assoc, List.singleton_append, List.cons_append, parts]
              · cases read
            · cases read
          refine ⟨some name, rest, whole, ?_, rfl⟩
          intro other
          constructor
          · rintro same
            cases same
            exact ⟨named, rest, whole.symm⟩
          · rintro ⟨otherNamed, stands⟩
            exact written other otherNamed stands

theorem scanAckId_split (text : List Char) :
    ∃ ackId payload, text = ackId.getD [] ++ payload ∧
      (∀ digits, ackId = some digits → IsNumeral digits) ∧
      (∀ c ∈ payload.head?, c.isDigit = false) ∧
      scanAckId text = (readAckId ackId).map (·, payload) := by
  have whole := List.takeWhile_append_dropWhile (p := Char.isDigit) (l := text)
  have next := not_isDigit_dropWhile text
  by_cases filled : text.takeWhile Char.isDigit = []
  · rw [filled, List.nil_append] at whole
    rw [whole] at next
    exact ⟨none, text, rfl, by simp, next, by simp [scanAckId, filled, readAckId, readNumber, Except.map]⟩
  · refine ⟨some (text.takeWhile Char.isDigit), text.dropWhile Char.isDigit, whole.symm, ?_, next,
      ?_⟩
    · intro digits same
      cases same
      exact isNumeral_takeWhile text filled
    · simp only [scanAckId, readAckId, readNumber]
      rw [if_neg (by simpa using filled)]
      split <;> rfl

/-! ## All parts -/

/-- The header that parts make, unless a number is too large. -/
def Parts.read (parts : Parts) : Except Fault Header := do
  let attachments ← readCount parts.count
  let ackId ← readAckId parts.ackId
  return ⟨valueOf [parts.kind], attachments, parts.ns, ackId, parts.payload⟩

theorem scan_split (kind : Char) (rest : List Char) (digit : kind.isDigit = true) :
    ∃ parts : Parts, parts.text = kind :: rest ∧ parts.Munched ∧ scan (kind :: rest) = parts.read := by
  obtain ⟨count, afterCount, countWhole, countMunched, countRead⟩ := scanAttachments_split rest
  obtain ⟨ns, afterNs, nsWhole, nsMunched, nsRead⟩ := scanNamespace_split afterCount
  obtain ⟨ackId, payload, ackIdWhole, ackIdMunched, payloadMunched, ackIdRead⟩ :=
    scanAckId_split afterNs
  have afterNsSame : Parts.afterNs ⟨kind, count, ns, ackId, payload⟩ = afterNs := ackIdWhole.symm
  have afterCountSame : Parts.afterCount ⟨kind, count, ns, ackId, payload⟩ = afterCount := by
    rw [Parts.afterCount, afterNsSame]
    exact nsWhole.symm
  have afterKindSame : Parts.afterKind ⟨kind, count, ns, ackId, payload⟩ = rest := by
    rw [Parts.afterKind, afterCountSame]
    exact countWhole.symm
  refine ⟨⟨kind, count, ns, ackId, payload⟩, ?_, ⟨digit, ?_, ?_, ackIdMunched, payloadMunched⟩, ?_⟩
  · rw [Parts.text, afterKindSame]
  · rw [afterKindSame]
    exact countMunched
  · rw [afterCountSame]
    exact nsMunched
  · have kindRead : scanKind (kind :: rest) = .ok (valueOf [kind], rest) := by
      simp [scanKind, digit, valueOf]
    simp only [scan, Parts.read, kindRead, countRead, bind, Except.bind, pure, Except.pure]
    cases readCount count with
    | error fault => rfl
    | ok attachments =>
        simp only [Except.map, nsRead, ackIdRead]
        cases readAckId ackId <;> rfl

/-- Behind the namespace stand the digits of the id and then something that is none. -/
theorem digits_of_munched (parts : Parts) (munched : parts.Munched) :
    (∀ digits, parts.ackId = some digits ↔
        IsNumeral digits ∧ parts.afterNs.takeWhile Char.isDigit = digits) ∧
      parts.payload = parts.afterNs.dropWhile Char.isDigit := by
  cases held : parts.ackId with
  | none =>
      obtain ⟨nothing, untouched⟩ := takeWhile_of_next parts.payload munched.payload
      have same : parts.afterNs = parts.payload := by rw [Parts.afterNs, held]; rfl
      rw [same, nothing, untouched]
      refine ⟨fun digits => ⟨by simp, ?_⟩, rfl⟩
      rintro ⟨⟨filled, _⟩, empty⟩
      exact absurd empty.symm filled
  | some held' =>
      have numeral := munched.ackId held' held
      obtain ⟨taken, dropped⟩ := takeWhile_of_numeral held' parts.payload numeral munched.payload
      have same : parts.afterNs = held' ++ parts.payload := by rw [Parts.afterNs, held]; rfl
      rw [same, taken, dropped]
      refine ⟨fun digits => ⟨?_, ?_⟩, rfl⟩
      · intro equal
        cases equal
        exact ⟨numeral, rfl⟩
      · rintro ⟨_, rfl⟩
        rfl

/-- The parts of a text are determined by the text. -/
theorem munched_unique (first second : Parts) (firstMunched : first.Munched)
    (secondMunched : second.Munched) (same : first.text = second.text) : first = second := by
  obtain ⟨sameKind, sameAfterKind⟩ := List.cons.inj same
  have sameCount : first.count = second.count := by
    apply Option.ext
    intro digits
    rw [firstMunched.count, secondMunched.count, sameAfterKind]
  have sameAfterCount : first.afterCount = second.afterCount := by
    rw [Parts.afterKind, Parts.afterKind, sameCount] at sameAfterKind
    exact List.append_cancel_left sameAfterKind
  have sameNs : first.ns = second.ns := by
    apply Option.ext
    intro name
    rw [firstMunched.ns, secondMunched.ns, sameAfterCount]
  have sameAfterNs : first.afterNs = second.afterNs := by
    rw [Parts.afterCount, Parts.afterCount, sameNs] at sameAfterCount
    exact List.append_cancel_left sameAfterCount
  obtain ⟨firstDigits, firstPayload⟩ := digits_of_munched first firstMunched
  obtain ⟨secondDigits, secondPayload⟩ := digits_of_munched second secondMunched
  have sameAckId : first.ackId = second.ackId := by
    apply Option.ext
    intro digits
    rw [firstDigits, secondDigits, sameAfterNs]
  have samePayload : first.payload = second.payload := by
    rw [firstPayload, secondPayload, sameAfterNs]
  obtain ⟨kind, count, ns, ackId, payload⟩ := first
  cases sameKind
  cases sameCount
  cases sameNs
  cases sameAckId
  cases samePayload
  rfl

theorem scan_of_munched (parts : Parts) (munched : parts.Munched) :
    scan parts.text = parts.read := by
  obtain ⟨found, same, foundMunched, read⟩ := scan_split parts.kind parts.afterKind munched.kind
  rw [munched_unique found parts foundMunched munched same] at read
  exact read

/-! ## Headers -/

/-- The header has the values that the parts are written for, so it has room for them. -/
structure Parts.Means (parts : Parts) (header : Header) : Prop where
  kind : header.kind = valueOf [parts.kind]
  attachments : header.attachments.map UInt32.toNat = parts.count.map valueOf
  ns : header.ns = parts.ns
  ackId : header.ackId.map UInt64.toNat = parts.ackId.map valueOf
  payload : header.payload = parts.payload

/-- Words that hold every number up to the limit hold exactly the numbers that are read. -/
theorem readNumber_eq_ok_iff {Word : Type} (number : Number) (limit : Nat) (ofNat : Nat → Word)
    (toNat : Word → Nat) (injective : ∀ word other, toNat word = toNat other → word = other)
    (bounded : ∀ word, toNat word ≤ limit) (exact : ∀ value ≤ limit, toNat (ofNat value) = value)
    (digits : Option (List Char)) (word : Option Word) :
    readNumber number limit ofNat digits = .ok word ↔ word.map toNat = digits.map valueOf := by
  cases digits with
  | none => cases word <;> simp [readNumber]
  | some digits =>
      by_cases small : valueOf digits ≤ limit
      · have value := exact (valueOf digits) small
        simp only [readNumber, small, if_true, Except.ok.injEq]
        constructor
        · rintro rfl
          rw [Option.map_some, value, Option.map_some]
        · intro same
          obtain ⟨held, rfl, equal⟩ := Option.map_eq_some_iff.mp same
          exact congrArg some (injective _ held (value.trans equal.symm))
      · simp only [readNumber, small, if_false]
        constructor
        · intro read
          cases read
        · intro same
          obtain ⟨held, _, equal⟩ := Option.map_eq_some_iff.mp same
          exact absurd (equal ▸ bounded held) small

theorem readCount_eq_ok_iff (digits : Option (List Char)) (count : Option UInt32) :
    readCount digits = .ok count ↔ count.map UInt32.toNat = digits.map valueOf :=
  readNumber_eq_ok_iff _ _ _ UInt32.toNat (fun _ _ => UInt32.toNat_inj.mp)
    (fun word => Nat.le_of_lt_succ word.toNat_lt)
    (fun _ small => UInt32.toNat_ofNat_of_lt' (Nat.lt_succ_of_le small)) digits count

theorem readAckId_eq_ok_iff (digits : Option (List Char)) (ackId : Option UInt64) :
    readAckId digits = .ok ackId ↔ ackId.map UInt64.toNat = digits.map valueOf :=
  readNumber_eq_ok_iff _ _ _ UInt64.toNat (fun _ _ => UInt64.toNat_inj.mp)
    (fun word => Nat.le_of_lt_succ word.toNat_lt)
    (fun _ small => UInt64.toNat_ofNat_of_lt' (Nat.lt_succ_of_le small)) digits ackId

theorem read_eq_ok_iff (parts : Parts) (header : Header) :
    parts.read = .ok header ↔ parts.Means header := by
  constructor
  · intro read
    cases counted : readCount parts.count with
    | error fault => simp [Parts.read, counted, bind, Except.bind] at read
    | ok attachments =>
        cases identified : readAckId parts.ackId with
        | error fault => simp [Parts.read, counted, identified, bind, Except.bind] at read
        | ok ackId =>
            simp only [Parts.read, counted, identified, bind, Except.bind, pure, Except.pure] at read
            cases read
            exact ⟨rfl, (readCount_eq_ok_iff _ _).mp counted, rfl,
              (readAckId_eq_ok_iff _ _).mp identified, rfl⟩
  · rintro ⟨kind, attachments, ns, ackId, payload⟩
    have counted := (readCount_eq_ok_iff _ _).mpr attachments
    have identified := (readAckId_eq_ok_iff _ _).mpr ackId
    rw [Parts.read, counted, identified, ← kind, ← ns, ← payload]
    rfl

/-- A header is what the parts of the text mean. -/
theorem scan_eq_ok_iff (text : List Char) (header : Header) :
    scan text = .ok header ↔
      ∃ parts : Parts, parts.text = text ∧ parts.Munched ∧ parts.Means header := by
  constructor
  · intro read
    cases text with
    | nil => cases read
    | cons kind rest =>
        by_cases digit : kind.isDigit = true
        · obtain ⟨parts, same, munched, found⟩ := scan_split kind rest digit
          exact ⟨parts, same, munched, (read_eq_ok_iff parts header).mp (found.symm.trans read)⟩
        · simp [scan, scanKind, digit, bind, Except.bind] at read
  · rintro ⟨parts, rfl, munched, means⟩
    rw [scan_of_munched parts munched]
    exact (read_eq_ok_iff parts header).mpr means

end ChatSocket.Socket.Header
