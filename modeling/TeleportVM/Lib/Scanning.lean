import Mathlib.Data.List.Basic

/-! Scanning text from its left end: runs of characters, decimal numbers, fixed words. -/
namespace Scanning

variable {p : Char → Bool} {word rest text : List Char}

/-- The text does not go on with such a character. -/
def StopsAt (p : Char → Bool) (text : List Char) : Prop := ∀ c ∈ text.head?, p c = false

instance (p : Char → Bool) (text : List Char) : Decidable (StopsAt p text) :=
  decidable_of_iff (text.head?.any p = false) (by cases text <;> simp [StopsAt])

theorem stopsAt_nil : StopsAt p [] := fun _ found => by cases found

theorem stopsAt_cons {c : Char} (other : p c = false) : StopsAt p (c :: rest) := by
  rintro _ ⟨⟩
  exact other

theorem stopsAt_append (some : word ≠ []) (stops : StopsAt p word) : StopsAt p (word ++ rest) := by
  cases word with
  | nil => exact absurd rfl some
  | cons c word => exact stops

theorem StopsAt.takeWhile (stops : StopsAt p text) : text.takeWhile p = [] := by
  cases text with
  | nil => rfl
  | cons c rest => simp [stops c rfl]

theorem StopsAt.dropWhile (stops : StopsAt p text) : text.dropWhile p = text := by
  cases text with
  | nil => rfl
  | cons c rest => simp [stops c rfl]

theorem takeWhile_append_stops (all : ∀ c ∈ word, p c = true) (stops : StopsAt p rest) :
    (word ++ rest).takeWhile p = word := by
  rw [List.takeWhile_append_of_pos all, stops.takeWhile, List.append_nil]

theorem dropWhile_append_stops (all : ∀ c ∈ word, p c = true) (stops : StopsAt p rest) :
    (word ++ rest).dropWhile p = rest := by
  rw [List.dropWhile_append_of_pos all, stops.dropWhile]

/-! ### Runs and numbers -/

/-- The longest run of such characters, if there is one, and the text after it. -/
def readRun (p : Char → Bool) (text : List Char) : Option (List Char × List Char) :=
  if text.takeWhile p = [] then none else some (text.takeWhile p, text.dropWhile p)

theorem readRun_append (all : ∀ c ∈ word, p c = true) (some : word ≠ []) (stops : StopsAt p rest) :
    readRun p (word ++ rest) = .some (word, rest) := by
  rw [readRun, takeWhile_append_stops all stops, dropWhile_append_stops all stops, if_neg some]

/-- A decimal number, and the text after its last digit. -/
def readNumber (text : List Char) : Option (Nat × List Char) :=
  (readRun Char.isDigit text).map fun (digits, rest) => (Nat.ofDigitChars 10 digits 0, rest)

theorem isDigit_toDigits {n : Nat} {c : Char} (digit : c ∈ Nat.toDigits 10 n) : c.isDigit = true :=
  Nat.isDigit_of_mem_toDigits (by decide) (by decide) digit

/-- What is printed is read back. -/
theorem readNumber_toDigits (n : Nat) (stops : StopsAt Char.isDigit rest) :
    readNumber (Nat.toDigits 10 n ++ rest) = some (n, rest) := by
  rw [readNumber, readRun_append (fun _ => isDigit_toDigits) Nat.toDigits_ne_nil stops]
  simp

/-! ### Fixed words -/

/-- The text after the word, if it begins with it. -/
def expect : List Char → List Char → Option (List Char)
  | [], text => some text
  | _ :: _, [] => none
  | c :: word, d :: text => if c = d then expect word text else none

theorem expect_append (word rest : List Char) : expect word (word ++ rest) = some rest := by
  induction word with
  | nil => rfl
  | cons c word ih => exact (if_pos rfl).trans ih

theorem eq_append_of_expect (found : expect word text = some rest) : text = word ++ rest := by
  induction word generalizing text with
  | nil => exact Option.some.inj found
  | cons c word ih =>
    cases text with
    | nil => cases found
    | cons d text =>
      unfold expect at found
      split at found
      next same => rw [same, ih found, List.cons_append]
      · cases found

/-! ### Searching -/

variable {α : Type*} {matcher : List Char → Option α}

/-- The leftmost match. -/
def search (matcher : List Char → Option α) : List Char → Option α
  | [] => matcher []
  | c :: rest => (matcher (c :: rest)).or (search matcher rest)

theorem search_of_match {x : α} (found : matcher text = some x) : search matcher text = some x := by
  cases text with
  | nil => exact found
  | cons c rest => rw [search, found, Option.some_or]

/-- Nothing matches before the rest of the text. -/
theorem search_append (skips : ∀ suffix, suffix ≠ [] → suffix <:+ word → matcher (suffix ++ rest) = none) :
    search matcher (word ++ rest) = search matcher rest := by
  induction word with
  | nil => rfl
  | cons c word ih =>
    have first := skips (c :: word) (by simp) List.suffix_rfl
    rw [List.cons_append] at first
    rw [List.cons_append, search, first, Option.none_or]
    exact ih fun suffix some later => skips suffix some (later.trans (List.suffix_cons c word))

theorem search_none (skips : ∀ suffix, suffix <:+ text → matcher suffix = none) :
    search matcher text = none := by
  induction text with
  | nil => exact skips [] List.suffix_rfl
  | cons c rest ih =>
    rw [search, skips _ List.suffix_rfl, Option.none_or]
    exact ih fun suffix later => skips suffix (later.trans (List.suffix_cons c rest))

/-! ### Lines -/

/-- The lines of a text, without their ends; `current` is what has been read of the first. -/
def textLines (current : List Char) : List Char → List (List Char)
  | [] => if current = [] then [] else [current]
  | c :: rest => if c = '\n' then current :: textLines [] rest else textLines (current ++ [c]) rest

theorem textLines_append {current : List Char} (oneLine : '\n' ∉ word) :
    textLines current (word ++ '\n' :: rest) = (current ++ word) :: textLines [] rest := by
  induction word generalizing current with
  | nil => simp [textLines]
  | cons c word ih =>
    obtain ⟨other, later⟩ := not_or.mp (mt List.mem_cons.mpr oneLine)
    rw [List.cons_append, textLines, if_neg (Ne.symm other), ih later, List.append_assoc]
    rfl

end Scanning
