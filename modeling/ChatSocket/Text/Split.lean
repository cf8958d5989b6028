/-!
# Splitting text at separators

A text with `n` separators splits into `n + 1` parts.  Two texts with a separator
between them split into the parts of the one and then those of the other, so
what is written piece by piece comes apart again.
-/

set_option autoImplicit false

namespace ChatSocket.Text

/-- The parts between the separators; at least one, and empty ones are kept. -/
def splitOn (isSeparator : Char → Bool) : List Char → List (List Char)
  | [] => [[]]
  | c :: rest =>
      if isSeparator c then [] :: splitOn isSeparator rest
      else
        match splitOn isSeparator rest with
        | [] => [[c]]
        | part :: parts => (c :: part) :: parts

/-- Splits before the first separator; the separator itself belongs to neither
part.  Nothing if there is none. -/
def splitFirst? (separator : Char) : List Char → Option (List Char × List Char)
  | [] => none
  | c :: rest =>
      if c = separator then some ([], rest)
      else (splitFirst? separator rest).map fun parts => (c :: parts.1, parts.2)

/-- As `splitFirst?`, at the last separator. -/
def splitLast? (separator : Char) (text : List Char) : Option (List Char × List Char) :=
  (splitFirst? separator text.reverse).map fun parts => (parts.2.reverse, parts.1.reverse)

theorem splitOn_ne_nil (isSeparator : Char → Bool) (text : List Char) :
    splitOn isSeparator text ≠ [] := by
  cases text with
  | nil => simp [splitOn]
  | cons c rest =>
      by_cases hit : isSeparator c
      · simp [splitOn, hit]
      · simp only [splitOn, hit]
        cases splitOn isSeparator rest <;> simp

theorem splitOn_append (isSeparator : Char → Bool) (front back : List Char) (separator : Char)
    (separates : isSeparator separator = true) :
    splitOn isSeparator (front ++ separator :: back) =
      splitOn isSeparator front ++ splitOn isSeparator back := by
  induction front with
  | nil => simp [splitOn, separates]
  | cons c front ih =>
      rw [List.cons_append]
      by_cases hit : isSeparator c = true
      · simp [splitOn, hit, ih]
      · cases split : splitOn isSeparator front with
        | nil => exact absurd split (splitOn_ne_nil isSeparator front)
        | cons part parts => simp [splitOn, hit, ih, split]

theorem splitOn_of_unseparated (isSeparator : Char → Bool) (text : List Char)
    (unseparated : ∀ c ∈ text, isSeparator c = false) : splitOn isSeparator text = [text] := by
  induction text with
  | nil => rfl
  | cons c rest ih =>
      have none : isSeparator c = false := unseparated c List.mem_cons_self
      have later := ih fun d member => unseparated d (List.mem_cons_of_mem c member)
      simp [splitOn, none, later]

theorem splitFirst?_append (separator : Char) (front back : List Char)
    (unseparated : separator ∉ front) :
    splitFirst? separator (front ++ separator :: back) = some (front, back) := by
  induction front with
  | nil => simp [splitFirst?]
  | cons c front ih =>
      have other : c ≠ separator := fun same => unseparated (same ▸ List.mem_cons_self)
      have later := ih fun member => unseparated (List.mem_cons_of_mem c member)
      simp [splitFirst?, other, later]

theorem splitFirst?_of_unseparated (separator : Char) (text : List Char)
    (unseparated : separator ∉ text) : splitFirst? separator text = none := by
  induction text with
  | nil => rfl
  | cons c rest ih =>
      have other : c ≠ separator := fun same => unseparated (same ▸ List.mem_cons_self)
      have later := ih fun member => unseparated (List.mem_cons_of_mem c member)
      simp [splitFirst?, other, later]

end ChatSocket.Text
