import ChatSocket.Json.Typed
import Mathlib.Data.List.Flatten

/-!
# Scalars that survive the text

Strings are read from their quotes as they were written into them, and natural numbers of 64
bits from their digits.  A number has no end of its own, so something must follow that does not
go on with it (`Ends`).
-/

set_option autoImplicit false

namespace ChatSocket.Json

/-! ## Strings -/

theorem hexValue?_hexDigit (value : Nat) : hexValue? (hexDigit value) = some (value % 16) := by
  have all : ∀ digit < 16, hexValue? (Nat.digitChar digit) = some digit := by decide
  exact all (value % 16) (Nat.mod_lt value (by decide))

theorem unicodeEscape_control (c : Char) (rest : List Char) (control : c.toNat < 0x20) :
    unicodeEscape ('0' :: '0' :: hexDigit (c.toNat / 16) :: hexDigit c.toNat :: rest) =
      .ok (c, rest) := by
  have zero : hexValue? '0' = some 0 := by decide
  have unit : (((0 * 16 + 0) * 16 + c.toNat / 16 % 16) * 16 + c.toNat % 16) = c.toNat := by omega
  have four : hexFour ('0' :: '0' :: hexDigit (c.toNat / 16) :: hexDigit c.toNat :: rest) =
      .ok (c.toNat, rest) := by
    simp only [hexFour, zero, hexValue?_hexDigit, unit]
  have notLow : isLowSurrogate c.toNat = false := by
    simp only [isLowSurrogate, Bool.and_eq_false_iff, decide_eq_false_iff_not]
    omega
  have notHigh : isHighSurrogate c.toNat = false := by
    simp only [isHighSurrogate, Bool.and_eq_false_iff, decide_eq_false_iff_not]
    omega
  simp [unicodeEscape, four, notLow, notHigh, bind, Except.bind, Char.ofNat_toNat]

theorem stringChar_escapeChar (c : Char) (rest : List Char) :
    stringChar (escapeChar c ++ rest) = .ok (some c, rest) := by
  unfold escapeChar
  split
  · rfl
  · rfl
  · rfl
  · rfl
  · rfl
  · rfl
  · rfl
  · rename_i notQuote notBackslash _ _ _ _ _
    split
    · rename_i control
      have escape := unicodeEscape_control c rest control
      simp only [List.cons_append, List.nil_append, stringChar, escape, bind, Except.bind, pure,
        Except.pure]
    · rename_i plain
      rw [List.singleton_append, stringChar]
      · rw [if_neg plain]
      · exact notQuote
      · rintro rfl
        exact absurd rfl notBackslash
      · rintro _ rfl
        exact absurd rfl notBackslash
      · rintro _ _ rfl
        exact absurd rfl notBackslash

theorem stringChars_written (chars budget read rest : List Char)
    (enough : chars.length < budget.length) :
    stringChars budget read (chars.flatMap escapeChar ++ '"' :: rest) =
      .ok (String.ofList (read.reverse ++ chars), rest) := by
  induction chars generalizing budget read with
  | nil =>
      obtain ⟨_, budget, rfl⟩ := List.exists_cons_of_length_pos enough
      simp [stringChars, stringChar, bind, Except.bind, pure, Except.pure]
  | cons c later ih =>
      obtain ⟨_, budget, rfl⟩ := List.exists_cons_of_length_pos (Nat.zero_lt_of_lt enough)
      have step := stringChar_escapeChar c (later.flatMap escapeChar ++ '"' :: rest)
      have enoughLater : later.length < budget.length := Nat.lt_of_succ_lt_succ enough
      simp only [stringChars, List.flatMap_cons, List.append_assoc, step, bind, Except.bind]
      rw [ih budget (c :: read) enoughLater]
      simp

theorem length_le_flatMap_escapeChar (chars : List Char) :
    chars.length ≤ (chars.flatMap escapeChar).length := by
  have filled : ∀ c, 1 ≤ (escapeChar c).length := by
    intro c
    unfold escapeChar
    repeat' split
    all_goals simp
  induction chars with
  | nil => simp
  | cons c later ih =>
      rw [List.flatMap_cons, List.length_append, List.length_cons]
      have one := filled c
      omega

/-- What stands between the quotes of a string is read as the string. -/
theorem stringBody_written (text : String) (rest : List Char) :
    stringBody (text.toList.flatMap escapeChar ++ '"' :: rest) = .ok (text, rest) := by
  have enough : text.toList.length < (text.toList.flatMap escapeChar ++ '"' :: rest).length := by
    have longer := length_le_flatMap_escapeChar text.toList
    simp only [List.length_append, List.length_cons]
    omega
  simpa [stringBody] using stringChars_written text.toList _ [] rest enough

/-! ## Natural numbers -/

/-- Text that does not go on with the number before it. -/
def Ends (rest : List Char) : Prop :=
  ∀ c ∈ rest.head?, c.isDigit = false ∧ c ≠ '.' ∧ c ≠ 'e' ∧ c ≠ 'E'

theorem afterInteger_of_ends (value : Nat) (rest : List Char) (ends : Ends rest) :
    afterInteger false value rest = .ok (.integer value, rest) := by
  cases rest with
  | nil => rfl
  | cons c later =>
      obtain ⟨_, point, lower, upper⟩ := ends c rfl
      rw [afterInteger]
      · rfl
      · intro _ same
        exact point (List.cons.inj same).1
      · intro _ same
        exact lower (List.cons.inj same).1
      · intro _ same
        exact upper (List.cons.inj same).1

theorem le_ofDigitChars (digits : List Char) (value : Nat) :
    value ≤ Nat.ofDigitChars 10 digits value := by
  induction digits generalizing value with
  | nil => simp
  | cons c later ih =>
      rw [Nat.ofDigitChars_cons]
      exact Nat.le_trans (by omega) (ih _)

theorem integerDigits_written (digits rest : List Char) (value : Nat)
    (numeral : ∀ c ∈ digits, c.isDigit = true) (ends : Ends rest)
    (fits : Nat.ofDigitChars 10 digits value ≤ maxSignificand) :
    integerDigits false value (digits ++ rest) =
      .ok (.integer (Nat.ofDigitChars 10 digits value), rest) := by
  induction digits generalizing value with
  | nil =>
      rw [List.nil_append, Nat.ofDigitChars_nil]
      cases rest with
      | nil => rfl
      | cons c later =>
          have other := (ends c rfl).1
          rw [integerDigits, other]
          exact afterInteger_of_ends value (c :: later) ends
  | cons c later ih =>
      have digit := numeral c List.mem_cons_self
      have next : value * 10 + digitValue c = 10 * value + (c.toNat - '0'.toNat) := by
        rw [digitValue, Nat.mul_comm]
      rw [Nat.ofDigitChars_cons] at fits ⊢
      have nextFits := Nat.le_trans (le_ofDigitChars later _) fits
      rw [List.cons_append, integerDigits, digit, if_pos rfl, next, if_pos nextFits]
      exact ih _ (fun other member => numeral other (List.mem_cons_of_mem c member)) fits

theorem toDigits_eq_cons (value : Nat) :
    ∃ c later, Nat.toDigits 10 value = c :: later ∧
      ∀ other ∈ c :: later, other.isDigit = true := by
  obtain ⟨c, later, written⟩ :=
    List.exists_cons_of_ne_nil (Nat.toDigits_ne_nil : Nat.toDigits 10 value ≠ [])
  refine ⟨c, later, written, fun other member => ?_⟩
  rw [← written] at member
  exact Nat.isDigit_of_mem_toDigits (by decide) (by decide) member

/-- Only zero is written with a zero in front. -/
theorem head?_toDigits (value : Nat) (positive : 0 < value) :
    (Nat.toDigits 10 value).head? ≠ some '0' := by
  induction value using Nat.strongRecOn with
  | _ value ih =>
      by_cases small : value < 10
      · rw [Nat.toDigits_of_lt_base small]
        simp only [List.head?_cons, ne_eq, Option.some.injEq, Nat.digitChar_eq_zero]
        omega
      · have shorter := ih (value / 10) (by omega) (by omega)
        rw [Nat.toDigits_of_base_le (by decide) (by omega)]
        cases digits : Nat.toDigits 10 (value / 10) with
        | nil => exact absurd digits Nat.toDigits_ne_nil
        | cons c later =>
            rw [digits] at shorter
            exact shorter

theorem numberBody_written (value : Nat) (rest : List Char) (ends : Ends rest)
    (fits : value ≤ maxSignificand) :
    numberBody false (Nat.toDigits 10 value ++ rest) = .ok (.integer value, rest) := by
  rcases Nat.eq_zero_or_pos value with rfl | positive
  · rw [Nat.toDigits_zero, List.singleton_append]
    cases rest with
    | nil => rfl
    | cons c later =>
        rw [numberBody, (ends c rfl).1]
        exact afterInteger_of_ends 0 (c :: later) ends
  · have whole : Nat.ofDigitChars 10 (Nat.toDigits 10 value) 0 = value :=
      Nat.ofDigitChars_ten_toDigits
    have notZero := head?_toDigits value positive
    obtain ⟨c, later, written, digits⟩ := toDigits_eq_cons value
    rw [written] at whole notZero ⊢
    have digit := digits c List.mem_cons_self
    rw [Nat.ofDigitChars_cons] at whole
    rw [List.cons_append, numberBody]
    · have start : digitValue c = 10 * 0 + (c.toNat - '0'.toNat) := by simp [digitValue]
      rw [if_pos digit, start, integerDigits_written later rest _
        (fun other member => digits other (List.mem_cons_of_mem c member)) ends
        (by rw [whole]; exact fits), whole]
    · rintro _ _ rfl
      exact absurd rfl notZero

/-! ## Values -/

theorem skipBlanks_of_head (c : Char) (rest : List Char) (filled : isBlank c = false) :
    skipBlanks (c :: rest) = c :: rest := by
  simp [skipBlanks, filled]

theorem readValue_string (fuel depth : Nat) (text : String) (rest : List Char) :
    readValue (fuel + 1) depth (print (.string text) ++ rest) = .ok (.string text, rest) := by
  have body := stringBody_written text rest
  have shown : print (.string text) ++ rest =
      '"' :: (text.toList.flatMap escapeChar ++ '"' :: rest) := by
    simp [print, quote]
  rw [shown, readValue, skipBlanks_of_head '"' _ rfl]
  simp only [body, bind, Except.bind, pure, Except.pure]

theorem print_ofNat (value : Nat) : print (.ofNat value) = Nat.toDigits 10 value := by
  rw [ofNat, print, Number.write]
  exact Nat.toList_repr

theorem different_of_isDigit (c : Char) (digit : c.isDigit = true) (other : Char)
    (none : other.isDigit = false) : c ≠ other := by
  rintro rfl
  cases digit.symm.trans none

theorem not_isBlank_of_isDigit (c : Char) (digit : c.isDigit = true) : isBlank c = false := by
  have different := different_of_isDigit c digit
  simp [isBlank, different ' ' rfl, different '\t' rfl, different '\n' rfl, different '\r' rfl]

/-- A digit starts a number. -/
theorem readValue_digit (fuel depth : Nat) (c : Char) (rest : List Char)
    (digit : c.isDigit = true) :
    readValue (fuel + 1) depth (c :: rest) =
      (numberBody false (c :: rest)).map fun (value, rest) => (.number value, rest) := by
  have filled := not_isBlank_of_isDigit c digit
  rw [readValue, skipBlanks_of_head c rest filled]
  split
  · rename_i same
    cases same
  all_goals
    rename_i same
    obtain ⟨rfl, rfl⟩ := List.cons.inj same
  all_goals try cases digit
  rw [if_pos digit]
  cases numberBody false (c :: rest) <;> rfl

theorem readValue_ofNat (fuel depth value : Nat) (rest : List Char) (ends : Ends rest)
    (fits : value ≤ maxSignificand) :
    readValue (fuel + 1) depth (print (.ofNat value) ++ rest) = .ok (.ofNat value, rest) := by
  have body := numberBody_written value rest ends fits
  obtain ⟨c, later, written, digits⟩ := toDigits_eq_cons value
  rw [written] at body
  rw [print_ofNat, written]
  rw [List.cons_append] at body ⊢
  rw [readValue_digit fuel depth c _ (digits c List.mem_cons_self), body]
  rfl

/-! ## Values without parts -/

section Schema

variable {α : Type} (schema : Json → Schema.Result α) (meant : α)

/-- What does not start with a bracket is read whole before the schema sees it. -/
theorem readScalar_of_read (c : Char) (chars rest : List Char) (value : Json)
    (filled : isBlank c = false) (noArray : c ≠ '[') (noObject : c ≠ '\x7b')
    (read : readValue 1 maxDepth (c :: chars) = .ok (value, rest))
    (fits : schema value = .ok meant) : readScalar schema (c :: chars) = .ok (meant, rest) := by
  rw [readScalar, skipBlanks_of_head c chars filled]
  split
  · rename_i same
    exact absurd (List.cons.inj same).1 noArray
  · rename_i same
    exact absurd (List.cons.inj same).1 noObject
  · simp only [read, bind, Except.bind, fits, fit]

theorem readScalar_string (text : String) (rest : List Char)
    (fits : schema (.string text) = .ok meant) :
    readScalar schema (print (.string text) ++ rest) = .ok (meant, rest) := by
  have read := readValue_string 0 maxDepth text rest
  rw [print, quote, List.cons_append] at read ⊢
  exact readScalar_of_read schema meant '"' _ rest _ rfl (by decide) (by decide) read fits

theorem readScalar_ofNat (value : Nat) (rest : List Char) (ends : Ends rest)
    (small : value ≤ maxSignificand) (fits : schema (.ofNat value) = .ok meant) :
    readScalar schema (print (.ofNat value) ++ rest) = .ok (meant, rest) := by
  have read := readValue_ofNat 0 maxDepth value rest ends small
  obtain ⟨c, later, written, digits⟩ := toDigits_eq_cons value
  have digit := digits c List.mem_cons_self
  have different := different_of_isDigit c digit
  rw [print_ofNat, written, List.cons_append] at read ⊢
  exact readScalar_of_read schema meant c _ rest _ (not_isBlank_of_isDigit c digit)
    (different '[' rfl) (different '\x7b' rfl) read fits

end Schema

/-! ## Parts with commas between them -/

/-- What stands before a part: nothing before the first, a comma before the others. -/
def separator (first : Bool) : List Char := if first then [] else [',']

def separateItems (first : Bool) : List Json → List Char
  | [] => []
  | item :: later => separator first ++ (print item ++ separateItems false later)

def separateMembers (first : Bool) : List (String × Json) → List Char
  | [] => []
  | (key, value) :: later =>
      separator first ++ (quote key ++ ':' :: (print value ++ separateMembers false later))

theorem printItems_eq (items : List Json) : printItems items = separateItems true items := by
  cases items with
  | nil => rfl
  | cons item later =>
      induction later generalizing item with
      | nil => simp [printItems, separateItems, separator]
      | cons next later ih =>
          rw [printItems, ih next]
          · simp [separateItems, separator]
          · simp

theorem printMembers_eq (members : List (String × Json)) :
    printMembers members = separateMembers true members := by
  cases members with
  | nil => rfl
  | cons member later =>
      induction later generalizing member with
      | nil => simp [printMembers, separateMembers, separator]
      | cons next later ih =>
          rw [printMembers, ih next]
          · simp [separateMembers, separator]
          · simp

theorem nextKey_quote (first : Bool) (key : String) (rest : List Char) :
    nextKey first (separator first ++ (quote key ++ rest)) =
      .ok (some (), key.toList.flatMap escapeChar ++ '"' :: rest) := by
  cases first <;> simp [nextKey, separator, skipBlanks, isBlank, quote]

theorem colon_written (rest : List Char) : colon (':' :: rest) = .ok rest := by
  simp [colon, skipBlanks_of_head ':' rest rfl]

/-- Between the members of an object no number goes on. -/
theorem ends_separateMembers (members : List (String × Json)) (rest : List Char) :
    Ends (separateMembers false members ++ '\x7d' :: rest) := by
  intro c start
  cases members with
  | nil =>
      cases start
      decide
  | cons member later =>
      cases start
      decide

theorem nextItem_string (first : Bool) (text : String) (rest : List Char) :
    nextItem first (separator first ++ (print (.string text) ++ rest)) =
      .ok (some (), print (.string text) ++ rest) := by
  cases first <;> simp [nextItem, separator, skipBlanks, isBlank, print, quote]

theorem readScalars_string (texts read : List String) (first : Bool) (fuel : Nat)
    (rest : List Char) (enough : texts.length < fuel) :
    readScalars Schema.string fuel first read
        (separateItems first (texts.map Json.string) ++ ']' :: rest) =
      .ok (read.reverse ++ texts, rest) := by
  induction texts generalizing read first fuel with
  | nil =>
      obtain ⟨fuel, rfl⟩ := Nat.exists_eq_add_one.mpr enough
      have closed : nextItem first (']' :: rest) = .ok (none, rest) := by
        simp [nextItem, skipBlanks, isBlank]
      rw [List.map_nil, separateItems, List.nil_append, readScalars, closed]
      simp [bind, Except.bind, pure, Except.pure]
  | cons text later ih =>
      obtain ⟨fuel, rfl⟩ := Nat.exists_eq_add_one.mpr (Nat.zero_lt_of_lt enough)
      have enoughLater : later.length < fuel := Nat.lt_of_succ_lt_succ enough
      have next := nextItem_string first text
        (separateItems false (later.map Json.string) ++ ']' :: rest)
      have scalar := readScalar_string Schema.string text text
        (separateItems false (later.map Json.string) ++ ']' :: rest) rfl
      rw [List.map_cons, separateItems, List.append_assoc, List.append_assoc, readScalars, next]
      simp only [bind, Except.bind, scalar]
      rw [ih (text :: read) false fuel enoughLater, List.reverse_cons, List.append_assoc,
        List.singleton_append]

theorem length_le_separateItems (texts : List String) (first : Bool) :
    texts.length ≤ (separateItems first (texts.map Json.string)).length := by
  induction texts generalizing first with
  | nil => simp
  | cons text later ih =>
      have longer := ih false
      simp only [List.map_cons, separateItems, print, quote, List.length_append, List.length_cons]
      omega

theorem readSequence_string (texts : List String) (rest : List Char) :
    readSequence Schema.string (print (.array (texts.map Json.string)) ++ rest) =
      .ok (texts, rest) := by
  have shown : print (.array (texts.map Json.string)) ++ rest =
      '[' :: (separateItems true (texts.map Json.string) ++ ']' :: rest) := by
    simp [print, printItems_eq]
  have enough : texts.length <
      (separateItems true (texts.map Json.string) ++ ']' :: rest).length + 1 := by
    have longer := length_le_separateItems texts true
    rw [List.length_append]
    omega
  rw [shown, readSequence, skipBlanks_of_head '[' _ rfl]
  exact readScalars_string texts [] true _ rest enough

end ChatSocket.Json
