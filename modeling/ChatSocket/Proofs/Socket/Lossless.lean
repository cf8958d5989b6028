import ChatSocket.Proofs.Socket.Cursor
import Mathlib.Logic.ExistsUnique

/-!
# Nothing of a text is lost

When the scanner refuses a text, the text says which of four things is wrong with it; a number
is refused for its value alone, however many zeros it starts with.  Every other text is the
parts of its header, one after the other and with nothing between them, in the only way in
which each part takes all that it can.
-/

set_option autoImplicit false

namespace ChatSocket.Socket.Header

/-! ## Refusals -/

theorem readNumber_eq_error_iff {Word : Type} (number : Number) (limit : Nat) (ofNat : Nat → Word)
    (digits : Option (List Char)) (fault : Fault) :
    readNumber number limit ofNat digits = .error fault ↔
      ∃ held, digits = some held ∧ limit < valueOf held ∧ fault = .outOfRange number held := by
  cases digits with
  | none => simp [readNumber]
  | some held =>
      by_cases small : valueOf held ≤ limit
      · simp [readNumber, small, Nat.not_lt_of_le small]
      · simp [readNumber, small, Nat.lt_of_not_le small, eq_comm]

/-- The id of an acknowledgement is read only behind attachments that can be counted. -/
theorem Parts.read_eq_error_iff (parts : Parts) (fault : Fault) :
    parts.read = .error fault ↔
      (∃ digits, parts.count = some digits ∧ maxCount < valueOf digits ∧
        fault = .outOfRange .attachmentCount digits) ∨
      (∀ digits ∈ parts.count, valueOf digits ≤ maxCount) ∧
        ∃ digits, parts.ackId = some digits ∧ maxAckId < valueOf digits ∧
          fault = .outOfRange .acknowledgementId digits := by
  have counted := fun fault => readNumber_eq_error_iff .attachmentCount maxCount UInt32.ofNat
    parts.count fault
  have identified := fun fault => readNumber_eq_error_iff .acknowledgementId maxAckId UInt64.ofNat
    parts.ackId fault
  rw [← counted, ← identified, Parts.read, readCount, readAckId]
  cases count : readNumber .attachmentCount maxCount UInt32.ofNat parts.count with
  | error countFault =>
      obtain ⟨digits, held, large, _⟩ := (counted countFault).mp count
      simp [bind, Except.bind, held, Nat.not_le_of_lt large]
  | ok attachments =>
      have small : ∀ digits ∈ parts.count, valueOf digits ≤ maxCount := by
        intro digits held
        by_contra large
        have refused := (counted _).mpr ⟨digits, held, Nat.lt_of_not_le large, rfl⟩
        cases count.symm.trans refused
      cases readNumber .acknowledgementId maxAckId UInt64.ofNat parts.ackId with
      | error ackIdFault => simpa [bind, Except.bind] using fun _ => small
      | ok ackId => simp [bind, Except.bind, pure, Except.pure]

theorem scan_eq_error_iff (text : List Char) (fault : Fault) :
    scan text = .error fault ↔
      (text = [] ∧ fault = .empty) ∨
      (∃ c rest, text = c :: rest ∧ c.isDigit = false ∧ fault = .invalidKind c) ∨
      ∃ parts : Parts, parts.text = text ∧ parts.Munched ∧ parts.read = .error fault := by
  constructor
  · intro refused
    cases text with
    | nil =>
        cases refused
        exact .inl ⟨rfl, rfl⟩
    | cons kind rest =>
        by_cases digit : kind.isDigit = true
        · obtain ⟨parts, whole, munched, found⟩ := scan_split kind rest digit
          exact .inr (.inr ⟨parts, whole, munched, found.symm.trans refused⟩)
        · simp only [scan, scanKind, digit, bind, Except.bind] at refused
          cases refused
          exact .inr (.inl ⟨kind, rest, rfl, by simpa using digit, rfl⟩)
  · rintro (⟨rfl, rfl⟩ | ⟨c, rest, rfl, other, rfl⟩ | ⟨parts, rfl, munched, refused⟩)
    · rfl
    · simp [scan, scanKind, other, bind, Except.bind]
    · exact (scan_of_munched parts munched).trans refused

/-- Only a number is wrong with parts. -/
theorem Parts.outOfRange_of_read {parts : Parts} {fault : Fault}
    (refused : parts.read = .error fault) : ∃ number digits, fault = .outOfRange number digits := by
  rcases (read_eq_error_iff parts fault).mp refused with
    ⟨digits, _, _, same⟩ | ⟨_, digits, _, _, same⟩
  · exact ⟨_, digits, same⟩
  · exact ⟨_, digits, same⟩

/-- A number that is out of range is one of the parts. -/
theorem scan_eq_outOfRange_iff (text : List Char) (number : Number) (digits : List Char) :
    scan text = .error (.outOfRange number digits) ↔
      ∃ parts : Parts, parts.text = text ∧ parts.Munched ∧
        parts.read = .error (.outOfRange number digits) := by
  rw [scan_eq_error_iff]
  simp

theorem scan_eq_empty_iff (text : List Char) : scan text = .error .empty ↔ text = [] := by
  rw [scan_eq_error_iff]
  constructor
  · rintro (⟨rfl, _⟩ | ⟨_, _, _, _, same⟩ | ⟨parts, _, _, refused⟩)
    · rfl
    · cases same
    · obtain ⟨_, _, same⟩ := Parts.outOfRange_of_read refused
      cases same
  · rintro rfl
    exact .inl ⟨rfl, rfl⟩

theorem scan_eq_invalidKind_iff (text : List Char) (c : Char) :
    scan text = .error (.invalidKind c) ↔ text.head? = some c ∧ c.isDigit = false := by
  rw [scan_eq_error_iff, List.head?_eq_some_iff]
  constructor
  · rintro (⟨_, same⟩ | ⟨_, rest, rfl, other, same⟩ | ⟨parts, _, _, refused⟩)
    · cases same
    · cases same
      exact ⟨⟨rest, rfl⟩, other⟩
    · obtain ⟨_, _, same⟩ := Parts.outOfRange_of_read refused
      cases same
  · rintro ⟨⟨rest, rfl⟩, other⟩
    exact .inr (.inl ⟨c, rest, rfl, other, rfl⟩)

/-- The digits that a dash counts as attachments stand right behind the kind. -/
theorem exists_munched_count_iff (text digits : List Char) :
    (∃ parts : Parts, parts.text = text ∧ parts.Munched ∧ parts.count = some digits) ↔
      ∃ kind rest, kind.isDigit = true ∧ IsNumeral digits ∧
        text = kind :: (digits ++ '-' :: rest) := by
  constructor
  · rintro ⟨parts, rfl, munched, counted⟩
    obtain ⟨numeral, rest, whole⟩ := (munched.count digits).mp counted
    refine ⟨parts.kind, rest, munched.kind, numeral, ?_⟩
    rw [Parts.text, ← whole, List.append_assoc, List.singleton_append]
  · rintro ⟨kind, rest, digit, numeral, rfl⟩
    obtain ⟨parts, whole, munched, _⟩ := scan_split kind (digits ++ '-' :: rest) digit
    refine ⟨parts, whole, munched, (munched.count digits).mpr ⟨numeral, rest, ?_⟩⟩
    rw [List.append_assoc, List.singleton_append]
    exact (List.cons.inj whole).2.symm

theorem scan_eq_attachmentCount_iff (text digits : List Char) :
    scan text = .error (.outOfRange .attachmentCount digits) ↔
      ∃ kind rest, kind.isDigit = true ∧ IsNumeral digits ∧
        text = kind :: (digits ++ '-' :: rest) ∧ maxCount < Nat.ofDigitChars 10 digits 0 := by
  rw [scan_eq_outOfRange_iff, ← valueOf_eq]
  constructor
  · rintro ⟨parts, whole, munched, refused⟩
    rcases (parts.read_eq_error_iff _).mp refused with
      ⟨held, counted, large, same⟩ | ⟨_, _, _, _, same⟩
    · cases same
      obtain ⟨kind, rest, digit, numeral, spelled⟩ :=
        (exists_munched_count_iff text digits).mp ⟨parts, whole, munched, counted⟩
      exact ⟨kind, rest, digit, numeral, spelled, large⟩
    · cases same
  · rintro ⟨kind, rest, digit, numeral, spelled, large⟩
    obtain ⟨parts, whole, munched, counted⟩ :=
      (exists_munched_count_iff text digits).mpr ⟨kind, rest, digit, numeral, spelled⟩
    have refused := (parts.read_eq_error_iff _).mpr (.inl ⟨digits, counted, large, rfl⟩)
    exact ⟨parts, whole, munched, refused⟩

theorem scan_eq_acknowledgementId_iff (text digits : List Char) :
    scan text = .error (.outOfRange .acknowledgementId digits) ↔
      ∃ parts : Parts, parts.text = text ∧ parts.Munched ∧
        (∀ count ∈ parts.count, Nat.ofDigitChars 10 count 0 ≤ maxCount) ∧
        parts.ackId = some digits ∧ maxAckId < Nat.ofDigitChars 10 digits 0 := by
  simp only [scan_eq_outOfRange_iff, ← valueOf_eq]
  constructor
  · rintro ⟨parts, whole, munched, refused⟩
    rcases (parts.read_eq_error_iff _).mp refused with
      ⟨_, _, _, same⟩ | ⟨small, held, identified, large, same⟩
    · cases same
    · cases same
      exact ⟨parts, whole, munched, small, identified, large⟩
  · rintro ⟨parts, whole, munched, small, identified, large⟩
    have refused := (parts.read_eq_error_iff _).mpr (.inr ⟨small, digits, identified, large, rfl⟩)
    exact ⟨parts, whole, munched, refused⟩

/-! ## What is there and what is not -/

/-- A namespace is there if the first of the characters that could end it is the comma. -/
theorem exists_namespace_iff (text : List Char) :
    (∃ name, IsNamespace name ∧ name ++ [','] <+: text) ↔
      ∃ rest, text = '/' :: rest ∧ rest.find? endsNamespace = some ',' := by
  constructor
  · rintro ⟨name, named, later, rfl⟩
    obtain ⟨tail, rfl⟩ := List.head?_eq_some_iff.mp named.1
    have quiet := (isNamespace_cons_iff tail).mp named
    refine ⟨tail ++ ',' :: later, by simp, ?_⟩
    have none : tail.find? endsNamespace = none := by simpa using quiet
    rw [List.find?_append, none, Option.none_or]
    rfl
  · rintro ⟨rest, rfl, first⟩
    obtain ⟨_, tail, later, rfl, quiet⟩ := List.find?_eq_some_iff_append.mp first
    refine ⟨'/' :: tail, (isNamespace_cons_iff tail).mpr (by simpa using quiet), later, by simp⟩

/-- Whether attachments and a namespace are there is seen in front of them. -/
theorem Parts.Munched.isSome_iff {parts : Parts} (munched : parts.Munched) :
    (parts.count.isSome ↔
      ∃ digits rest, IsNumeral digits ∧ parts.afterKind = digits ++ '-' :: rest) ∧
    (parts.ns.isSome ↔
      ∃ rest, parts.afterCount = '/' :: rest ∧ rest.find? endsNamespace = some ',') := by
  constructor
  · rw [Option.isSome_iff_exists]
    constructor
    · rintro ⟨digits, counted⟩
      obtain ⟨numeral, rest, whole⟩ := (munched.count digits).mp counted
      exact ⟨digits, rest, numeral, by simpa using whole.symm⟩
    · rintro ⟨digits, rest, numeral, whole⟩
      exact ⟨digits, (munched.count digits).mpr ⟨numeral, rest, by simpa using whole.symm⟩⟩
  · rw [← exists_namespace_iff, Option.isSome_iff_exists]
    simp only [munched.ns]

/-! ## Zeros in front of numbers -/

/-- The parts with zeros in front of their numbers. -/
def Parts.padded (parts : Parts) (countZeros ackIdZeros : Nat) : Parts :=
  { parts with
    count := parts.count.map (List.replicate countZeros '0' ++ ·)
    ackId := parts.ackId.map (List.replicate ackIdZeros '0' ++ ·) }

theorem valueOf_padded (zeros : Nat) (digits : List Char) :
    valueOf (List.replicate zeros '0' ++ digits) = valueOf digits := by
  rw [valueOf_eq, valueOf_eq, Nat.ofDigitChars_append, Nat.ofDigitChars_replicate_zero,
    Nat.mul_zero]

theorem IsNumeral.padded {digits : List Char} (numeral : IsNumeral digits) (zeros : Nat) :
    IsNumeral (List.replicate zeros '0' ++ digits) := by
  refine ⟨by simp [numeral.1], ?_⟩
  intro c member
  rcases List.mem_append.mp member with zero | digit
  · rw [List.eq_of_mem_replicate zero]
    rfl
  · exact numeral.2 c digit

theorem Parts.means_padded_iff (parts : Parts) (countZeros ackIdZeros : Nat) (header : Header) :
    (parts.padded countZeros ackIdZeros).Means header ↔ parts.Means header := by
  have count : (parts.padded countZeros ackIdZeros).count.map valueOf =
      parts.count.map valueOf := by
    simp [padded, Function.comp_def, valueOf_padded]
  have ackId : (parts.padded countZeros ackIdZeros).ackId.map valueOf =
      parts.ackId.map valueOf := by
    simp [padded, Function.comp_def, valueOf_padded]
  constructor
  · rintro ⟨kind, attachments, ns, id, payload⟩
    exact ⟨kind, attachments.trans count, ns, id.trans ackId, payload⟩
  · rintro ⟨kind, attachments, ns, id, payload⟩
    exact ⟨kind, attachments.trans count.symm, ns, id.trans ackId.symm, payload⟩

/-- What stands there with a dash behind it is all the digits there are. -/
theorem numeral_unique {digits held later : List Char} (numeral : IsNumeral digits)
    (heldNumeral : IsNumeral held) (stands : digits ++ ['-'] <+: held ++ '-' :: later) :
    held = digits := by
  obtain ⟨rest, whole⟩ := stands
  rw [List.append_assoc, List.singleton_append] at whole
  have taken := (takeWhile_of_numeral digits ('-' :: rest) numeral (by simp)).1
  rw [whole, (takeWhile_of_numeral held ('-' :: later) heldNumeral (by simp)).1] at taken
  exact taken

theorem namespace_unique {name held later : List Char} (named : IsNamespace name)
    (heldNamed : IsNamespace held) (stands : name ++ [','] <+: held ++ ',' :: later) :
    held = name := by
  obtain ⟨rest, whole⟩ := stands
  rw [List.append_assoc, List.singleton_append] at whole
  obtain ⟨tail, rfl⟩ := List.head?_eq_some_iff.mp named.1
  obtain ⟨heldTail, rfl⟩ := List.head?_eq_some_iff.mp heldNamed.1
  have read := scanNamespace_written tail rest ((isNamespace_cons_iff tail).mp named)
  rw [whole, scanNamespace_written heldTail later ((isNamespace_cons_iff heldTail).mp heldNamed)]
    at read
  cases read
  rfl

/-- A part with a mark behind it is there exactly if something of its form stands there, provided
that nothing else of its form can stand in its place. -/
theorem present_iff {Form : List Char → Prop} {mark : Char} {held : Option (List Char)}
    {later : List Char}
    (unique : ∀ part other, Form part → Form other →
      part ++ [mark] <+: other ++ mark :: later → other = part)
    (formed : ∀ part ∈ held, Form part)
    (absent : held = none → ∀ part, Form part → ¬ part ++ [mark] <+: later) (part : List Char) :
    held = some part ↔
      Form part ∧ part ++ [mark] <+: (held.map (· ++ [mark])).getD [] ++ later := by
  cases held with
  | none =>
      constructor
      · intro same
        cases same
      · rintro ⟨form, stands⟩
        exact absurd stands (absent rfl part form)
  | some other =>
      have whole : ((some other).map (· ++ [mark])).getD [] ++ later = other ++ mark :: later := by
        simp
      rw [whole]
      constructor
      · intro same
        cases same
        exact ⟨formed part rfl, later, by simp⟩
      · rintro ⟨form, stands⟩
        rw [unique part other form (formed other rfl) stands]

/-- Parts of the right form take all that they can if nothing of the form of a part that is
left out stands in its place. -/
theorem Parts.munched_of (parts : Parts) (kind : parts.kind.isDigit = true)
    (counted : ∀ digits ∈ parts.count, IsNumeral digits)
    (uncounted : parts.count = none → ∀ digits, IsNumeral digits →
      ¬ digits ++ ['-'] <+: parts.afterCount)
    (named : ∀ name ∈ parts.ns, IsNamespace name)
    (unnamed : parts.ns = none → ∀ name, IsNamespace name → ¬ name ++ [','] <+: parts.afterNs)
    (identified : ∀ digits ∈ parts.ackId, IsNumeral digits)
    (payload : ∀ c ∈ parts.payload.head?, c.isDigit = false) : parts.Munched :=
  ⟨kind, present_iff (fun _ _ => numeral_unique) counted uncounted,
    present_iff (fun _ _ => namespace_unique) named unnamed, identified, payload⟩

/-- What starts with a digit is not what starts with a slash. -/
theorem numeral_ne_namespace {digits name later rest : List Char} (numeral : IsNumeral digits)
    (named : IsNamespace name) : digits ++ later ≠ name ++ rest := by
  intro same
  obtain ⟨tail, rfl⟩ := List.head?_eq_some_iff.mp named.1
  obtain ⟨c, more, rfl⟩ := List.exists_cons_of_ne_nil numeral.1
  have slash : c = '/' := (List.cons.inj same).1
  have digit := numeral.2 c List.mem_cons_self
  rw [slash] at digit
  cases digit

theorem Parts.munched_padded (parts : Parts) (munched : parts.Munched)
    (countZeros ackIdZeros : Nat) : (parts.padded countZeros ackIdZeros).Munched := by
  obtain ⟨kind, count, ns, ackId, payload⟩ := parts
  have named : ∀ name ∈ ns, IsNamespace name :=
    fun name present => ((munched.ns name).mp present).1
  apply munched_of
  · exact munched.kind
  · intro digits member
    obtain ⟨held, present, rfl⟩ := Option.map_eq_some_iff.mp member
    exact ((munched.count held).mp present).1.padded countZeros
  · intro absent digits numeral stands
    have uncounted : count = none := Option.map_eq_none_iff.mp absent
    subst uncounted
    cases ns with
    | some name =>
        obtain ⟨rest, whole⟩ := stands
        rw [afterCount, padded, writeNamespace, Option.map_some, Option.getD_some,
          List.append_assoc, List.append_assoc] at whole
        exact numeral_ne_namespace numeral (named name rfl) whole
    | none =>
        cases ackId with
        | none => cases (munched.count digits).mpr ⟨numeral, stands⟩
        | some held =>
            -- A dash behind the longer id would be one behind the shorter id.
            have heldNumeral := munched.ackId held rfl
            obtain ⟨rest, whole⟩ := stands
            change digits ++ ['-'] ++ rest = List.replicate ackIdZeros '0' ++ held ++ payload
              at whole
            rw [List.append_assoc, List.singleton_append] at whole
            have dropped := (takeWhile_of_numeral digits ('-' :: rest) numeral (by simp)).2
            rw [whole, (takeWhile_of_numeral _ payload (heldNumeral.padded ackIdZeros)
              munched.payload).2] at dropped
            have stands : held ++ ['-'] <+: held ++ payload := ⟨rest, by simp [dropped]⟩
            cases (munched.count held).mpr ⟨heldNumeral, stands⟩
  · exact named
  · intro absent name isName stands
    have unnamed : ns = none := absent
    subst unnamed
    cases ackId with
    | none => cases (munched.ns name).mpr ⟨isName, stands⟩
    | some held =>
        obtain ⟨rest, whole⟩ := stands
        rw [List.append_assoc] at whole
        exact numeral_ne_namespace ((munched.ackId held rfl).padded ackIdZeros) isName whole.symm
  · intro digits member
    obtain ⟨held, present, rfl⟩ := Option.map_eq_some_iff.mp member
    exact (munched.ackId held present).padded ackIdZeros
  · exact munched.payload

/-- A text is read with zeros in front of its numbers as it is read without them. -/
theorem scan_padded_iff (parts : Parts) (munched : parts.Munched) (countZeros ackIdZeros : Nat)
    (header : Header) :
    scan (parts.padded countZeros ackIdZeros).text = .ok header ↔
      scan parts.text = .ok header := by
  rw [scan_of_munched parts munched, read_eq_ok_iff,
    scan_of_munched _ (parts.munched_padded munched countZeros ackIdZeros), read_eq_ok_iff,
    parts.means_padded_iff]

/-! ## All of it -/

/-- How a header is read off a text: the text is the parts one after the other, each as
long as it can be, and the header has their values. -/
structure Parts.Decomposes (parts : Parts) (text : List Char) (header : Header) : Prop where
  whole : text = parts.kind :: (writeCount parts.count ++ (writeNamespace parts.ns ++
    (parts.ackId.getD [] ++ parts.payload)))
  munched : parts.Munched
  kind : header.kind = Nat.ofDigitChars 10 [parts.kind] 0
  attachments : header.attachments.map UInt32.toNat =
    parts.count.map (Nat.ofDigitChars 10 · 0)
  ns : header.ns = parts.ns
  ackId : header.ackId.map UInt64.toNat = parts.ackId.map (Nat.ofDigitChars 10 · 0)
  payload : header.payload = parts.payload

theorem Parts.decomposes_iff (parts : Parts) (text : List Char) (header : Header) :
    parts.Decomposes text header ↔
      parts.text = text ∧ parts.Munched ∧ parts.Means header := by
  have values : (Nat.ofDigitChars 10 · 0) = valueOf := funext fun digits => (valueOf_eq digits).symm
  constructor
  · rintro ⟨whole, munched, kind, attachments, ns, ackId, payload⟩
    rw [values] at attachments ackId
    exact ⟨whole.symm, munched, kind.trans (valueOf_eq _).symm, attachments, ns, ackId, payload⟩
  · rintro ⟨rfl, munched, kind, attachments, ns, ackId, payload⟩
    refine ⟨rfl, munched, kind.trans (valueOf_eq _), ?_, ns, ?_, payload⟩
    · rw [values]
      exact attachments
    · rw [values]
      exact ackId

theorem existsUnique_decomposes (text : List Char) (header : Header)
    (read : scan text = .ok header) : ∃! parts : Parts, parts.Decomposes text header := by
  obtain ⟨parts, whole, munched, means⟩ := (scan_eq_ok_iff text header).mp read
  refine ⟨parts, (parts.decomposes_iff text header).mpr ⟨whole, munched, means⟩, ?_⟩
  intro other decomposes
  obtain ⟨otherWhole, otherMunched, _⟩ := (other.decomposes_iff text header).mp decomposes
  exact munched_unique other parts otherMunched munched (otherWhole.trans whole.symm)

/-- The scanner refuses a text for what the text says is wrong, and otherwise takes it apart
without losing anything of it.  A cursor that slices the text by byte positions, and can slice
it only between two characters, has the same answer. -/
theorem scan_lossless (text : List Char) :
    (scan text = .error .empty ↔ text = []) ∧
    (∀ c, scan text = .error (.invalidKind c) ↔ text.head? = some c ∧ c.isDigit = false) ∧
    (∀ digits, scan text = .error (.outOfRange .attachmentCount digits) ↔
      ∃ kind rest, kind.isDigit = true ∧ IsNumeral digits ∧
        text = kind :: (digits ++ '-' :: rest) ∧ maxCount < Nat.ofDigitChars 10 digits 0) ∧
    (∀ digits, scan text = .error (.outOfRange .acknowledgementId digits) ↔
      ∃ parts : Parts, parts.text = text ∧ parts.Munched ∧
        (∀ count ∈ parts.count, Nat.ofDigitChars 10 count 0 ≤ maxCount) ∧
        parts.ackId = some digits ∧ maxAckId < Nat.ofDigitChars 10 digits 0) ∧
    (∀ header, scan text = .ok header → ∃! parts : Parts, parts.Decomposes text header ∧
      (header.attachments.isSome ↔
        ∃ digits rest, IsNumeral digits ∧ parts.afterKind = digits ++ '-' :: rest) ∧
      (header.ns.isSome ↔
        ∃ rest, parts.afterCount = '/' :: rest ∧ rest.find? endsNamespace = some ',') ∧
      ∀ c ∈ header.payload.head?, c.isDigit = false) ∧
    (∀ parts : Parts, parts.text = text → parts.Munched → ∀ countZeros ackIdZeros header,
      scan (parts.padded countZeros ackIdZeros).text = .ok header ↔ scan text = .ok header) ∧
    Cursor.scan? text = some (scan text) ∧
    ∀ pos, (Cursor.cut? text pos).isSome ↔
      (⟨pos⟩ : String.Pos.Raw).IsValid (String.ofList text) := by
  refine ⟨scan_eq_empty_iff text, scan_eq_invalidKind_iff text, scan_eq_attachmentCount_iff text,
    scan_eq_acknowledgementId_iff text, ?_, ?_, Cursor.scan?_eq_scan text,
    Cursor.cut?_isSome_iff text⟩
  · intro header read
    obtain ⟨parts, decomposes, unique⟩ := existsUnique_decomposes text header read
    obtain ⟨counted, named⟩ := decomposes.munched.isSome_iff
    have present : header.attachments.isSome = parts.count.isSome := by
      simpa using congrArg Option.isSome decomposes.attachments
    refine ⟨parts, ⟨decomposes, ?_, ?_, ?_⟩, fun other found => unique other found.1⟩
    · rw [present]
      exact counted
    · rw [decomposes.ns]
      exact named
    · rw [decomposes.payload]
      exact decomposes.munched.payload
  · rintro parts rfl munched countZeros ackIdZeros header
    exact scan_padded_iff parts munched countZeros ackIdZeros header

/-- A namespace that holds a wide character, and an id that starts with zeros. -/
theorem scan_lossless_of_wideNamespace :
    scan ['2', '/', 'ü', ',', '0', '7', '['] =
        .ok ⟨2, none, some ['/', 'ü'], some 7, ['[']⟩ ∧
      ∃ parts : Parts,
        parts.Decomposes ['2', '/', 'ü', ',', '0', '7', '[']
          ⟨2, none, some ['/', 'ü'], some 7, ['[']⟩ := by
  have read : scan ['2', '/', 'ü', ',', '0', '7', '['] =
      .ok ⟨2, none, some ['/', 'ü'], some 7, ['[']⟩ := by decide
  obtain ⟨_, _, _, _, taken, _⟩ := scan_lossless ['2', '/', 'ü', ',', '0', '7', '[']
  obtain ⟨parts, ⟨decomposes, _⟩, _⟩ := taken _ read
  exact ⟨read, parts, decomposes⟩

end ChatSocket.Socket.Header
