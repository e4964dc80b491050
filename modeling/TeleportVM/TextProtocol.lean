import TeleportVM.CoherenceTest
import TeleportVM.Lib.Scanning

/-!
The text between the coherence test and its driver: the driver's commands as `fgets` and `sscanf`
take them apart, and the replies as the driver's regular expression finds them.
-/
namespace TeleportVM

open Scanning

/-! ### The test's input -/

/-- `isspace`. -/
def isSpace (c : Char) : Bool := [' ', '\t', '\n', '\x0b', '\x0c', '\r'].contains c

/-- One call with this buffer size: a line with its end, or as much of it as the buffer takes, and
what is left of the input; `none` at the end of the input. -/
def fgets (size : Nat) (input : List Char) : Option (List Char × List Char) :=
  if input = [] then none
  else
    let body := (input.take (size - 1)).takeWhile (· != '\n')
    let length := min (body.length + 1) (size - 1)
    some (input.take length, input.drop length)

/-- `%15s`. -/
def scanWord (text : List Char) : Option (List Char × List Char) :=
  (readRun (!isSpace ·) (text.dropWhile isSpace)).map fun (word, rest) =>
    (word.take 15, word.drop 15 ++ rest)

/-- `strtoul` gives `ULONG_MAX` for a number that is too large, with either sign. -/
def toUnsignedLong (negative : Bool) (n : Nat) : BitVec 64 :=
  if 2 ^ 64 ≤ n then BitVec.allOnes 64
  else if negative then -BitVec.ofNat 64 n
  else BitVec.ofNat 64 n

/-- `%lu`. -/
def scanUnsigned (text : List Char) : Option (BitVec 64 × List Char) :=
  match text.dropWhile isSpace with
  | '-' :: rest => (readNumber rest).map fun (n, rest) => (toUnsignedLong true n, rest)
  | '+' :: rest => (readNumber rest).map fun (n, rest) => (toUnsignedLong false n, rest)
  | rest => (readNumber rest).map fun (n, rest) => (toUnsignedLong false n, rest)

/-- `sscanf(line, "%15s %lu %lu", cmd, &page_idx, &value)`; the line ends at its first null. -/
def sscanf (line : List Char) : ParsedLine :=
  match scanWord (line.takeWhile (· != '\x00')) with
  | none => ⟨-1, "", 0, 0⟩
  | some (cmd, rest) =>
    match scanUnsigned rest with
    | none => ⟨1, .ofList cmd, 0, 0⟩
    | some (pageIdx, rest) =>
      match scanUnsigned rest with
      | none => ⟨2, .ofList cmd, pageIdx, 0⟩
      | some (value, _) => ⟨3, .ofList cmd, pageIdx, value⟩

theorem fgets_shorter (size : Nat) {input line rest : List Char} (room : 2 ≤ size)
    (got : fgets size input = some (line, rest)) : rest.length < input.length := by
  unfold fgets at got
  split at got
  · cases got
  next some =>
    cases got
    have length := List.length_pos_iff.mpr some
    rw [List.length_drop]
    omega

/-- `run_coherence_test_loop`, line after line up to the end of the input or `DONE`. -/
def CoherenceTest.run (s : CoherenceTest) (input : List Char) : CoherenceTest :=
  match _got : fgets 256 input with
  | none => s
  | some (line, rest) =>
    match s.step (sscanf line) with
    | none => s
    | some s' => if s'.finished then s' else s'.run rest
  termination_by input.length
  decreasing_by exact fgets_shorter 256 (by decide) (by assumption)

def runCoherenceTestLoop (region : RegionBytes) (input : List Char) : CoherenceTest :=
  CoherenceTest.run ⟨region, ["[CoherenceTest] Ready. Waiting for commands on stdin...\n"], false⟩ input

/-! ### The driver -/

/-- A line that the driver sends before `DONE`. -/
inductive DriverCommand where
  | write (page value : Nat)
  | read (page : Nat)

def DriverCommand.text : DriverCommand → String
  | .write page value => "WRITE " ++ toString page ++ " " ++ toString value
  | .read page => "READ " ++ toString page

/-- What `send` writes for a line. -/
def sent (line : String) : List Char := line.toList ++ ['\n']

/-- `\w`, as far as the test's output goes. -/
def isWordChar (c : Char) : Bool := c.isAlphanum || c == '_'

/-- `RESULT (\w+) page=(\d+) value=(\d+)` at the start of the text. No run of the expression can be
cut short: what has to follow it is not one of its characters. -/
def matchResult (text : List Char) : Option (List Char × Nat × Nat) :=
  (expect "RESULT ".toList text).bind fun text =>
    (readRun isWordChar text).bind fun (word, text) =>
      (expect " page=".toList text).bind fun text =>
        (readNumber text).bind fun (page, text) =>
          (expect " value=".toList text).bind fun text =>
            (readNumber text).map fun (value, _) => (word, page, value)

/-- `RESULT_RE.search` on a line. -/
def searchResult (line : List Char) : Option (List Char × Nat × Nat) := search matchResult line

/-- The results that `pump` finds in the output of a node. -/
def pumped (output : List String) : List (List Char × Nat × Nat) :=
  (textLines [] (output.flatMap String.toList)).filterMap searchResult

/-! ### Reading a command -/

section Characters

variable {c : Char}

theorem isSpace_of_isWordChar (letter : isWordChar c = true) : isSpace c = false := by
  by_contra space
  rw [Bool.not_eq_false] at space
  simp only [isSpace, List.contains_iff_mem, List.mem_cons, List.not_mem_nil, or_false] at space
  rcases space with rfl | rfl | rfl | rfl | rfl | rfl <;> exact absurd letter (by decide)

theorem isWordChar_of_isDigit (digit : c.isDigit = true) : isWordChar c = true := by
  simp [isWordChar, Char.isAlphanum, digit]

theorem ne_of_isWordChar {d : Char} (letter : isWordChar c = true) (other : isWordChar d = false) :
    c ≠ d := by
  rintro rfl
  rw [letter] at other
  cases other

end Characters

section Commands

variable {name rest : List Char}

theorem scanWord_append (letters : name.all isWordChar = true) (some : name ≠ [])
    (short : name.length ≤ 15) (stops : StopsAt (!isSpace ·) rest) :
    scanWord (name ++ rest) = .some (name, rest) := by
  have plain (c : Char) (member : c ∈ name) : (!isSpace c) = true := by
    rw [isSpace_of_isWordChar (List.all_eq_true.mp letters c member)]
    rfl
  have begins : StopsAt isSpace (name ++ rest) := by
    cases name with
    | nil => exact absurd rfl some
    | cons c name => exact stopsAt_cons (by simpa using plain c List.mem_cons_self)
  rw [scanWord, begins.dropWhile, readRun_append plain some stops, Option.map_some]
  dsimp only
  rw [List.take_of_length_le short, List.drop_of_length_le short, List.nil_append]

/-- A printed number after a space, below the range of `unsigned long`. -/
theorem scanUnsigned_toDigits {n : Nat} (small : n < 2 ^ 64) (stops : StopsAt Char.isDigit rest) :
    scanUnsigned (' ' :: (Nat.toDigits 10 n ++ rest)) = some (BitVec.ofNat 64 n, rest) := by
  have read := readNumber_toDigits n stops
  cases digits : Nat.toDigits 10 n with
  | nil => exact absurd digits Nat.toDigits_ne_nil
  | cons d ds =>
    rw [digits] at read
    have letter : isWordChar d = true :=
      isWordChar_of_isDigit (isDigit_toDigits (n := n) (digits ▸ List.mem_cons_self))
    have skipped : (' ' :: (d :: ds ++ rest)).dropWhile isSpace = d :: ds ++ rest := by
      rw [List.dropWhile_cons_of_pos (by decide)]
      exact (stopsAt_cons (isSpace_of_isWordChar letter)).dropWhile
    rw [scanUnsigned, skipped]
    split
    next same => exact absurd (List.cons.inj same).1 (ne_of_isWordChar letter (by decide))
    next same => exact absurd (List.cons.inj same).1 (ne_of_isWordChar letter (by decide))
    · rw [read, Option.map_some]
      exact congrArg (fun v => some (v, rest)) (if_neg (Nat.not_le.mpr small))

theorem takeWhile_nonnull {line : List Char} (nonnull : '\x00' ∉ line) :
    line.takeWhile (· != '\x00') = line := by
  have all : ∀ c ∈ line, (c != '\x00') = true := fun c member => by
    have other : c ≠ '\x00' := ne_of_mem_of_not_mem member nonnull
    simpa using other
  simpa using takeWhile_append_stops all stopsAt_nil

theorem nonnull_toDigits (n : Nat) : '\x00' ∉ Nat.toDigits 10 n := fun member =>
  absurd (isDigit_toDigits member) (by decide)

theorem nonnull_name (letters : name.all isWordChar = true) : '\x00' ∉ name := fun member =>
  absurd (List.all_eq_true.mp letters _ member) (by decide)

/-- A name and two numbers. -/
theorem sscanf_two (letters : name.all isWordChar = true) (some : name ≠ [])
    (short : name.length ≤ 15) {m n : Nat} (first : m < 2 ^ 64) (second : n < 2 ^ 64) :
    sscanf (name ++ ' ' :: (Nat.toDigits 10 m ++ ' ' :: (Nat.toDigits 10 n ++ ['\n']))) =
      ⟨3, .ofList name, .ofNat 64 m, .ofNat 64 n⟩ := by
  have nonnull : '\x00' ∉
      name ++ ' ' :: (Nat.toDigits 10 m ++ ' ' :: (Nat.toDigits 10 n ++ ['\n'])) := by
    simp [nonnull_name letters, nonnull_toDigits]
  rw [sscanf, takeWhile_nonnull nonnull, scanWord_append letters some short (stopsAt_cons (by decide))]
  dsimp only
  rw [scanUnsigned_toDigits first (stopsAt_cons (by decide))]
  dsimp only
  rw [scanUnsigned_toDigits second (stopsAt_cons (by decide))]

/-- A name and one number. -/
theorem sscanf_one (letters : name.all isWordChar = true) (some : name ≠ [])
    (short : name.length ≤ 15) {m : Nat} (first : m < 2 ^ 64) :
    sscanf (name ++ ' ' :: (Nat.toDigits 10 m ++ ['\n'])) =
      ⟨2, .ofList name, .ofNat 64 m, 0⟩ := by
  have nonnull : '\x00' ∉ name ++ ' ' :: (Nat.toDigits 10 m ++ ['\n']) := by
    simp [nonnull_name letters, nonnull_toDigits]
  rw [sscanf, takeWhile_nonnull nonnull, scanWord_append letters some short (stopsAt_cons (by decide))]
  dsimp only
  rw [scanUnsigned_toDigits first (stopsAt_cons (by decide))]
  rfl

end Commands

/-- A line that the buffer takes is read to its end. -/
theorem fgets_line {line rest : List Char} (oneLine : '\n' ∉ line) (short : line.length + 1 ≤ 255) :
    fgets 256 (line ++ '\n' :: rest) = some (line ++ ['\n'], rest) := by
  have some_ : line ++ '\n' :: rest ≠ [] := by simp
  have inside : ∀ c ∈ line, (c != '\n') = true := fun c member => by
    simpa using ne_of_mem_of_not_mem member oneLine
  have body : ((line ++ '\n' :: rest).take 255).takeWhile (· != '\n') = line := by
    obtain ⟨room, sum⟩ := Nat.exists_eq_add_of_le short
    rw [sum, show line.length + 1 + room = line.length + (room + 1) by omega, List.take_length_add_append,
      List.take_succ_cons]
    exact takeWhile_append_stops inside (stopsAt_cons (by decide))
  have whole : line ++ '\n' :: rest = (line ++ ['\n']) ++ rest := by simp
  have length : (line ++ ['\n']).length = line.length + 1 := by simp
  rw [fgets, if_neg some_]
  dsimp only
  rw [show 256 - 1 = 255 from rfl, body, min_eq_left short, whole, ← length, List.take_left,
    List.drop_left]

/-! ### Finding a result -/

/-- What the driver should find in a reply. -/
def Reply.result : Reply → Option (List Char × Nat × Nat)
  | .written pageIdx value => some ("WRITE".toList, pageIdx.toNat, value.toNat)
  | .read pageIdx value => some ("READ".toList, pageIdx.toNat, value.toNat)
  | _ => none

section Results

variable {text name : List Char}

/-- Every match has all characters of the first word. -/
theorem searchResult_none {c : Char} (needed : c ∈ "RESULT ".toList) (missing : c ∉ text) :
    searchResult text = none := by
  refine search_none fun suffix later => ?_
  unfold matchResult
  cases found : expect "RESULT ".toList suffix with
  | none => rfl
  | some rest =>
    rw [eq_append_of_expect found] at later
    exact absurd (later.subset (List.mem_append_left rest needed)) missing

theorem matchResult_append (letters : name.all isWordChar = true) (some : name ≠ [])
    (stops : StopsAt isWordChar text) : matchResult ("RESULT ".toList ++ (name ++ text)) =
      (expect " page=".toList text).bind fun text =>
        (readNumber text).bind fun (page, text) =>
          (expect " value=".toList text).bind fun text =>
            (readNumber text).map fun (value, _) => (name, page, value) := by
  rw [matchResult, expect_append, Option.bind_some, readRun_append (List.all_eq_true.mp letters) some stops,
    Option.bind_some]

/-- Past the first word only another one can match. -/
theorem searchResult_result {rest : List Char} (unmatched : matchResult ("RESULT".toList ++ rest) = none) :
    searchResult ("RESULT".toList ++ rest) = searchResult rest := by
  have word : "RESULT ".toList = 'R' :: "ESULT ".toList := by decide
  have first (c : Char) (other : c ≠ 'R') (rest : List Char) : matchResult (c :: rest) = none := by
    rw [matchResult, word, expect, if_neg (Ne.symm other), Option.bind_none]
  change search matchResult ('R' :: 'E' :: 'S' :: 'U' :: 'L' :: 'T' :: rest) = search matchResult rest
  change matchResult ('R' :: 'E' :: 'S' :: 'U' :: 'L' :: 'T' :: rest) = none at unmatched
  simp only [search, unmatched, first 'E' (by decide), first 'S' (by decide), first 'U' (by decide),
    first 'L' (by decide), first 'T' (by decide), Option.none_or]

/-- No match begins inside of a prefix that has no `RE` and does not end in `R`. -/
theorem searchResult_skip (others : ∀ suffix ∈ name.tails, suffix.head? = some 'R' →
    suffix.tail.head?.any (· != 'E') = true) : searchResult (name ++ text) = searchResult text := by
  have word : "RESULT ".toList = 'R' :: 'E' :: "SULT ".toList := by decide
  refine search_append fun suffix nonempty later => ?_
  unfold matchResult
  cases found : expect "RESULT ".toList (suffix ++ text) with
  | none => rfl
  | some rest =>
    exfalso
    have begins := eq_append_of_expect found
    have second := others suffix ((List.mem_tails _ _).mpr later)
    rw [word] at begins
    cases suffix with
    | nil => exact nonempty rfl
    | cons c suffix =>
      obtain ⟨rfl, after⟩ := List.cons.inj begins
      cases suffix with
      | nil => exact absurd (second rfl) (by decide)
      | cons d suffix =>
        obtain ⟨rfl, -⟩ := List.cons.inj after
        exact absurd (second rfl) (by simp)

/-- A line that is not about a page. -/
theorem searchResult_other (letters : name.all isWordChar = true) (nonempty : name ≠ [])
    (stops : StopsAt isWordChar text) (other : expect " page=".toList text = none)
    (later : searchResult (' ' :: (name ++ text)) = none) :
    searchResult ("RESULT ".toList ++ (name ++ text)) = none := by
  have unmatched := matchResult_append letters nonempty stops
  rw [other, Option.bind_none] at unmatched
  change searchResult ("RESULT".toList ++ ' ' :: (name ++ text)) = none
  exact (searchResult_result unmatched).trans later

/-- A line about an access. -/
def accessLine (name : List Char) (page : Nat) (outcome : List Char) : List Char :=
  "RESULT ".toList ++ (name ++ (" page=".toList ++ (Nat.toDigits 10 page ++ outcome)))

/-- An accepted access is found with its page and its value. -/
theorem searchResult_accepted (letters : name.all isWordChar = true) (nonempty : name ≠ [])
    (page value : Nat) :
    searchResult (accessLine name page (" value=".toList ++ Nat.toDigits 10 value)) =
      some (name, page, value) := by
  have last := readNumber_toDigits value (stopsAt_nil (p := Char.isDigit))
  rw [List.append_nil] at last
  refine search_of_match ?_
  unfold accessLine
  rw [matchResult_append letters nonempty (stopsAt_append (by decide) (by decide)),
    expect_append, Option.bind_some,
    readNumber_toDigits page (stopsAt_append (by decide) (by decide)), Option.bind_some]
  dsimp only
  rw [expect_append, Option.bind_some, last, Option.map_some]

/-- A rejected one is not. -/
theorem searchResult_rejected (letters : name.all isWordChar = true) (nonempty : name ≠ [])
    (other : 'U' ∉ name) (page : Nat) :
    searchResult (accessLine name page " ERROR=out_of_range".toList) = none := by
  have unmatched : matchResult (accessLine name page " ERROR=out_of_range".toList) = none := by
    unfold accessLine
    rw [matchResult_append letters nonempty (stopsAt_append (by decide) (by decide)),
      expect_append, Option.bind_some, readNumber_toDigits page (by decide), Option.bind_some]
    rfl
  have digits : 'U' ∉ Nat.toDigits 10 page := fun member =>
    absurd (isDigit_toDigits member) (by decide)
  have tail : 'U' ∉ ' ' :: (name ++ (" page=".toList ++ (Nat.toDigits 10 page ++
      " ERROR=out_of_range".toList))) := by
    simp [other, digits]
  exact (searchResult_result unmatched).trans (searchResult_none (by decide) tail)

end Results

/-- The text of a reply without its line's end. -/
def Reply.line : Reply → List Char
  | .writeOutOfRange pageIdx => accessLine "WRITE".toList pageIdx.toNat " ERROR=out_of_range".toList
  | .written pageIdx value =>
    accessLine "WRITE".toList pageIdx.toNat (" value=".toList ++ Nat.toDigits 10 value.toNat)
  | .readOutOfRange pageIdx => accessLine "READ".toList pageIdx.toNat " ERROR=out_of_range".toList
  | .read pageIdx value =>
    accessLine "READ".toList pageIdx.toNat (" value=".toList ++ Nat.toDigits 10 value.toNat)
  | .slept ms _ => "RESULT SLEEP ms=".toList ++ Nat.toDigits 10 ms.toNat
  | .done => "RESULT DONE".toList
  | .unknownCommand cmd => "RESULT ERROR unknown_command=".toList ++ cmd.toList

theorem toList_rejected (name : String) (page : Nat) :
    ("RESULT " ++ name ++ " page=" ++ toString page ++ " ERROR=out_of_range\n").toList =
      accessLine name.toList page " ERROR=out_of_range".toList ++ ['\n'] := by
  have last : " ERROR=out_of_range\n".toList = " ERROR=out_of_range".toList ++ ['\n'] := by decide
  unfold accessLine
  simp only [String.toList_append, Nat.toString_eq_repr, Nat.toList_repr,
    List.append_assoc, last]

theorem toList_accepted (name : String) (page value : Nat) :
    ("RESULT " ++ name ++ " page=" ++ toString page ++ " value=" ++ toString value ++ "\n").toList =
      accessLine name.toList page (" value=".toList ++ Nat.toDigits 10 value) ++ ['\n'] := by
  have last : "\n".toList = ['\n'] := by decide
  unfold accessLine
  simp only [String.toList_append, Nat.toString_eq_repr, Nat.toList_repr,
    List.append_assoc, last]

/-- A reply is one line. -/
theorem reply_text (reply : Reply) : reply.text.toList = reply.line ++ ['\n'] := by
  have write : "RESULT WRITE page=" = "RESULT " ++ "WRITE" ++ " page=" := by decide
  have read : "RESULT READ page=" = "RESULT " ++ "READ" ++ " page=" := by decide
  have newline : "\n".toList = ['\n'] := by decide
  cases reply with
  | writeOutOfRange pageIdx =>
    exact (congrArg (fun first : String => (first ++ toString pageIdx.toNat ++
      " ERROR=out_of_range\n").toList) write).trans (toList_rejected "WRITE" pageIdx.toNat)
  | written pageIdx value =>
    exact (congrArg (fun first : String => (first ++ toString pageIdx.toNat ++ " value=" ++
      toString value.toNat ++ "\n").toList) write).trans
        (toList_accepted "WRITE" pageIdx.toNat value.toNat)
  | readOutOfRange pageIdx =>
    exact (congrArg (fun first : String => (first ++ toString pageIdx.toNat ++
      " ERROR=out_of_range\n").toList) read).trans (toList_rejected "READ" pageIdx.toNat)
  | read pageIdx value =>
    exact (congrArg (fun first : String => (first ++ toString pageIdx.toNat ++ " value=" ++
      toString value.toNat ++ "\n").toList) read).trans
        (toList_accepted "READ" pageIdx.toNat value.toNat)
  | slept ms microseconds =>
    change ("RESULT SLEEP ms=" ++ toString ms.toNat ++ "\n").toList =
      "RESULT SLEEP ms=".toList ++ Nat.toDigits 10 ms.toNat ++ ['\n']
    simp only [String.toList_append, Nat.toString_eq_repr, Nat.toList_repr, newline]
  | done => decide
  | unknownCommand cmd =>
    change ("RESULT ERROR unknown_command=" ++ cmd ++ "\n").toList =
      "RESULT ERROR unknown_command=".toList ++ cmd.toList ++ ['\n']
    simp only [String.toList_append, newline]

/-- The word that the reply repeats, if it does, has been read by `%15s`. -/
def Reply.Scanned : Reply → Prop
  | .unknownCommand cmd => ∀ c ∈ cmd.toList, isSpace c = false
  | _ => True

theorem newline_toDigits (n : Nat) : '\n' ∉ Nat.toDigits 10 n := fun member =>
  absurd (isDigit_toDigits member) (by decide)

theorem newline_accessLine {name outcome : List Char} (page : Nat) (first : '\n' ∉ name)
    (last : '\n' ∉ outcome) : '\n' ∉ accessLine name page outcome := by
  have result : '\n' ∉ "RESULT ".toList := by decide
  have middle : '\n' ∉ " page=".toList := by decide
  unfold accessLine
  simp only [List.mem_append, result, first, middle, newline_toDigits, last, or_false,
    not_false_eq_true]

theorem newline_line {reply : Reply} (scanned : reply.Scanned) : '\n' ∉ reply.line := by
  have value (n : Nat) : '\n' ∉ " value=".toList ++ Nat.toDigits 10 n := fun member =>
    (List.mem_append.mp member).elim (by decide) (newline_toDigits n)
  cases reply with
  | writeOutOfRange | readOutOfRange => exact newline_accessLine _ (by decide) (by decide)
  | written | read => exact newline_accessLine _ (by decide) (value _)
  | slept ms microseconds => exact fun member =>
      (List.mem_append.mp member).elim (by decide) (newline_toDigits _)
  | done => decide
  | unknownCommand cmd => exact fun member =>
      (List.mem_append.mp member).elim (by decide) fun plain => absurd (scanned _ plain) (by decide)

/-- The driver finds the accepted accesses, and nothing in any other reply. -/
theorem searchResult_line {reply : Reply} (scanned : reply.Scanned) :
    searchResult reply.line = reply.result := by
  cases reply with
  | written | read => exact searchResult_accepted (by decide) (by decide) _ _
  | writeOutOfRange | readOutOfRange =>
    exact searchResult_rejected (by decide) (by decide) (by decide) _
  | slept ms microseconds =>
    have digits : 'U' ∉ Nat.toDigits 10 ms.toNat := fun member =>
      absurd (isDigit_toDigits member) (by decide)
    change searchResult ("RESULT ".toList ++ ("SLEEP".toList ++ (" ms=".toList ++
      Nat.toDigits 10 ms.toNat))) = none
    refine searchResult_other (by decide) (by decide) (stopsAt_append (by decide) (by decide)) rfl ?_
    exact searchResult_none (c := 'U') (by decide) (by simp [digits])
  | done => decide
  | unknownCommand cmd =>
    change searchResult ("RESULT ".toList ++ ("ERROR".toList ++ (" unknown_command=".toList ++
      cmd.toList))) = none
    refine searchResult_other (by decide) (by decide) (stopsAt_append (by decide) (by decide)) rfl ?_
    -- the word has no space, which every match has
    have plain : ' ' ∉ cmd.toList := fun member => absurd (scanned _ member) (by decide)
    change searchResult (" ERROR unknown_command=".toList ++ cmd.toList) = none
    exact (searchResult_skip (by decide)).trans (searchResult_none (c := ' ') (by decide) plain)

/-! ### The driver's lines -/

namespace DriverCommand

/-- The numbers fit the scanner, and the page's address its word. -/
def Small : DriverCommand → Prop
  | .write page value => page < 2 ^ 52 ∧ value < 2 ^ 64
  | .read page => page < 2 ^ 52

def parsed : DriverCommand → ParsedLine
  | .write page value => ⟨3, "WRITE", .ofNat 64 page, .ofNat 64 value⟩
  | .read page => ⟨2, "READ", .ofNat 64 page, 0⟩

theorem text_write (page value : Nat) : (write page value).text.toList =
    "WRITE".toList ++ ' ' :: (Nat.toDigits 10 page ++ ' ' :: Nat.toDigits 10 value) := by
  have word : "WRITE ".toList = "WRITE".toList ++ [' '] := by decide
  have space : " ".toList = [' '] := by decide
  change ("WRITE " ++ toString page ++ " " ++ toString value).toList = _
  simp only [String.toList_append, Nat.toString_eq_repr, Nat.toList_repr, word, space,
    List.append_assoc, List.cons_append, List.nil_append]

theorem text_read (page : Nat) : (read page).text.toList =
    "READ".toList ++ ' ' :: Nat.toDigits 10 page := by
  have word : "READ ".toList = "READ".toList ++ [' '] := by decide
  change ("READ " ++ toString page).toList = _
  simp only [String.toList_append, Nat.toString_eq_repr, Nat.toList_repr, word, List.append_assoc,
    List.singleton_append]

theorem sent_write (page value : Nat) : sent (write page value).text =
    "WRITE".toList ++ ' ' :: (Nat.toDigits 10 page ++ ' ' :: (Nat.toDigits 10 value ++ ['\n'])) := by
  simp only [sent, text_write, List.append_assoc, List.cons_append]

theorem sent_read (page : Nat) : sent (read page).text =
    "READ".toList ++ ' ' :: (Nat.toDigits 10 page ++ ['\n']) := by
  simp only [sent, text_read, List.append_assoc, List.cons_append]

theorem sscanf_sent {command : DriverCommand} (small : command.Small) :
    sscanf (sent command.text) = command.parsed := by
  cases command with
  | write page value =>
    have word : String.ofList "WRITE".toList = "WRITE" := String.ofList_toList
    rw [sent_write, sscanf_two (by decide) (by decide) (by decide) (lt_trans small.1 (by decide))
      small.2, word]
    rfl
  | read page =>
    have word : String.ofList "READ".toList = "READ" := String.ofList_toList
    rw [sent_read, sscanf_one (by decide) (by decide) (by decide) (lt_trans small (by decide)), word]
    rfl

/-- A line is shorter than the buffer. -/
theorem text_short {command : DriverCommand} (small : command.Small) :
    command.text.toList.length + 1 ≤ 255 := by
  have twenty {n : Nat} (bound : n < 2 ^ 64) : (Nat.toDigits 10 n).length ≤ 20 :=
    (Nat.length_toDigits_le_iff (by decide) (by decide)).mpr (bound.trans (by decide))
  cases command with
  | write page value =>
    have first := twenty (small.1.trans (by decide))
    have second := twenty small.2
    have word : "WRITE".toList.length = 5 := by decide
    rw [text_write]
    simp only [List.length_append, List.length_cons, word]
    omega
  | read page =>
    have first := twenty (lt_trans small (by decide))
    have word : "READ".toList.length = 4 := by decide
    rw [text_read]
    simp only [List.length_append, List.length_cons, word]
    omega

theorem newline_text (command : DriverCommand) : '\n' ∉ command.text.toList := by
  have space : '\n' ≠ ' ' := by decide
  cases command with
  | write page value =>
    have word : '\n' ∉ "WRITE".toList := by decide
    simp only [text_write, List.mem_append, List.mem_cons, word, space, newline_toDigits, or_false,
      not_false_eq_true]
  | read page =>
    have word : '\n' ∉ "READ".toList := by decide
    simp only [text_read, List.mem_append, List.mem_cons, word, space, newline_toDigits, or_false,
      not_false_eq_true]

theorem fgets_sent {command : DriverCommand} (small : command.Small) (rest : List Char) :
    fgets 256 (sent command.text ++ rest) = some (sent command.text, rest) := by
  rw [sent, List.append_assoc]
  exact fgets_line command.newline_text (text_short small)

/-- What the line does to an array of 32-bit numbers, one for each of the four pages, and what the
driver hears of it. -/
def outcome (memory : Nat → Nat) : DriverCommand → (Nat → Nat) × Option (List Char × Nat × Nat)
  | .write page value =>
    if page < 4 then
      (Function.update memory page (value % 2 ^ 32), some ("WRITE".toList, page, value % 2 ^ 32))
    else (memory, none)
  | .read page => (memory, if page < 4 then some ("READ".toList, page, memory page) else none)

/-- The results of a whole session. -/
def outcomes (memory : Nat → Nat) : List DriverCommand → List (List Char × Nat × Nat)
  | [] => []
  | command :: rest =>
    (command.outcome memory).2.toList ++ outcomes (command.outcome memory).1 rest

end DriverCommand

/-- The slots of the region are the array. -/
def RegionBytes.Holds (region : RegionBytes) (memory : Nat → Nat) : Prop :=
  ∀ p < 4, (region.slot (p * 4096)).toNat = memory p

section Session

variable {region : RegionBytes} {memory : Nat → Nat} {command : DriverCommand}

theorem inRange_ofNat {page : Nat} (small : page < 2 ^ 52) :
    outOfRange (.ofNat 64 page) = decide (4 ≤ page) := by
  have value : (BitVec.ofNat 64 page).toNat = page := by
    rw [BitVec.toNat_ofNat, Nat.mod_eq_of_lt (small.trans (by decide))]
  have exact_test := outOfRange_iff (.ofNat 64 page)
  rw [value, Nat.mod_eq_of_lt small] at exact_test
  by_cases inside : page < 4
  · rw [exact_test.mpr inside, decide_eq_false (Nat.not_le.mpr inside)]
  · have outside := mt exact_test.mp inside
    rw [Bool.not_eq_false] at outside
    rw [outside, decide_eq_true (Nat.not_lt.mp inside)]

theorem slotOffset_ofNat {page : Nat} (inside : page < 4) :
    slotOffset (.ofNat 64 page) = page * 4096 := by
  rw [slotOffset_eq, BitVec.toNat_ofNat, Nat.mod_eq_of_lt (inside.trans (by decide)),
    Nat.mod_eq_of_lt (inside.trans (by decide))]

theorem toNat_page {page : Nat} (small : page < 2 ^ 52) : (BitVec.ofNat 64 page).toNat = page := by
  rw [BitVec.toNat_ofNat, Nat.mod_eq_of_lt (small.trans (by decide))]

theorem holds_setSlot {page : Nat} (holds : region.Holds memory) (inside : page < 4)
    (value : BitVec 32) :
    (region.setSlot (page * 4096) value).Holds (Function.update memory page value.toNat) := by
  have size : regionSize = 16384 := rfl
  intro q bound
  by_cases own : q = page
  · subst own
    rw [RegionBytes.slot_setSlot _ _ (by omega), Function.update_self]
  · rw [RegionBytes.slot_setSlot_apart _ _ (by omega) (by omega), Function.update_of_ne own]
    exact holds q bound

/-- One line: the reply tells the driver what the array would. -/
theorem execute_parsed (small : command.Small) (holds : region.Holds memory) :
    ∃ region' reply, CoherenceTest.execute region command.parsed = (region', some reply) ∧
      region'.Holds (command.outcome memory).1 ∧ reply.result = (command.outcome memory).2 ∧
      reply.Scanned ∧ reply ≠ .done := by
  cases command with
  | write page value =>
    have write : (DriverCommand.write page value).parsed.IsWrite := ⟨rfl, Int.le_refl 3⟩
    have out : outOfRange (DriverCommand.write page value).parsed.pageIdx = decide (4 ≤ page) :=
      inRange_ofNat small.1
    by_cases inside : page < 4
    · have stored : ((BitVec.ofNat 64 value).setWidth 32).toNat = value % 2 ^ 32 := by
        rw [BitVec.toNat_setWidth, BitVec.toNat_ofNat]
        exact Nat.mod_mod_of_dvd value (by decide)
      have after := holds_setSlot holds inside ((BitVec.ofNat 64 value).setWidth 32)
      rw [stored] at after
      rw [CoherenceTest.execute_write region write, if_neg (by simpa [out] using inside)]
      dsimp only [DriverCommand.parsed]
      rw [slotOffset_ofNat inside]
      refine ⟨_, _, rfl, ?_, ?_, trivial, by simp⟩
      · simpa [DriverCommand.outcome, inside] using after
      · simp only [Reply.result, toNat_page small.1, stored, DriverCommand.outcome, inside, if_true]
    · rw [CoherenceTest.execute_write region write, if_pos (by simpa [out] using inside)]
      refine ⟨region, _, rfl, ?_, ?_, trivial, by simp⟩
      · simpa [DriverCommand.outcome, inside] using holds
      · simp only [Reply.result, DriverCommand.outcome, inside, if_false]
  | read page =>
    have read : (DriverCommand.read page).parsed.IsRead := ⟨rfl, Int.le_refl 2⟩
    have out : outOfRange (DriverCommand.read page).parsed.pageIdx = decide (4 ≤ page) :=
      inRange_ofNat small
    by_cases inside : page < 4
    · rw [CoherenceTest.execute_read region read, if_neg (by simpa [out] using inside)]
      dsimp only [DriverCommand.parsed]
      rw [slotOffset_ofNat inside]
      refine ⟨_, _, rfl, holds, ?_, trivial, by simp⟩
      simp only [Reply.result, toNat_page small, DriverCommand.outcome, inside, if_true,
        holds page inside]
    · rw [CoherenceTest.execute_read region read, if_pos (by simpa [out] using inside)]
      refine ⟨region, _, rfl, holds, ?_, trivial, by simp⟩
      simp only [Reply.result, DriverCommand.outcome, inside, if_false]

/-- A line that is read and does not end the loop. -/
theorem run_line {s s' : CoherenceTest} {input line rest : List Char}
    (got : fgets 256 input = some (line, rest)) (next : s.step (sscanf line) = some s') :
    s.run input = if s'.finished then s' else s'.run rest := by
  rw [CoherenceTest.run]
  split
  next ended => cases got.symm.trans ended
  next line' rest' got' =>
    cases got.symm.trans got'
    rw [next]

theorem run_command (small : command.Small) (holds : region.Holds memory) (output : List String)
    (rest : List Char) :
    ∃ (region' : RegionBytes) (reply : Reply), CoherenceTest.run ⟨region, output, false⟩ (sent command.text ++ rest) =
        CoherenceTest.run ⟨region', output ++ [reply.text], false⟩ rest ∧
      region'.Holds (command.outcome memory).1 ∧ reply.result = (command.outcome memory).2 ∧
      reply.Scanned := by
  obtain ⟨region', reply, executed, holds', result, scanned, goes⟩ := execute_parsed small holds
  refine ⟨region', reply, ?_, holds', result, scanned⟩
  have next : CoherenceTest.step ⟨region, output, false⟩ (sscanf (sent command.text)) =
      some ⟨region', output ++ [reply.text], false⟩ := by
    rw [DriverCommand.sscanf_sent small, CoherenceTest.step, if_neg (by simp), executed]
    cases reply with
    | done => exact absurd rfl goes
    | _ => rfl
  exact (run_line (DriverCommand.fgets_sent small rest) next).trans (if_neg (by simp))

theorem run_commands {commands : List DriverCommand} (small : ∀ command ∈ commands, command.Small)
    (holds : region.Holds memory) (output : List String) (rest : List Char) :
    ∃ (region' : RegionBytes) (replies : List Reply), CoherenceTest.run ⟨region, output, false⟩
        (commands.flatMap (fun command => sent command.text) ++ rest) =
        CoherenceTest.run ⟨region', output ++ replies.map Reply.text, false⟩ rest ∧
      replies.filterMap Reply.result = DriverCommand.outcomes memory commands ∧
      ∀ reply ∈ replies, reply.Scanned := by
  induction commands generalizing region memory output with
  | nil => exact ⟨region, [], by simp, rfl, by simp⟩
  | cons command commands ih =>
    obtain ⟨region₁, reply, first, holds₁, result, scanned⟩ := run_command
      (small command List.mem_cons_self) holds output
      (commands.flatMap (fun command => sent command.text) ++ rest)
    obtain ⟨region₂, replies, others, results, all⟩ := ih
      (fun command member => small command (List.mem_cons_of_mem _ member)) holds₁
      (output ++ [reply.text])
    refine ⟨region₂, reply :: replies, ?_, ?_, ?_⟩
    · rw [List.flatMap_cons, List.append_assoc, first, others, List.map_cons, List.append_assoc]
      rfl
    · rw [DriverCommand.outcomes, ← result, ← results]
      cases found : reply.result <;> simp [found]
    · exact List.forall_mem_cons.mpr ⟨scanned, all⟩

/-- The driver finds the result of every reply. -/
theorem pumped_replies {replies : List Reply} (scanned : ∀ reply ∈ replies, reply.Scanned) :
    pumped (replies.map Reply.text) = replies.filterMap Reply.result := by
  induction replies with
  | nil => rfl
  | cons reply replies ih =>
    have first := scanned reply List.mem_cons_self
    have rest := ih fun other member => scanned other (List.mem_cons_of_mem _ member)
    unfold pumped at rest ⊢
    rw [List.map_cons, List.flatMap_cons, reply_text, List.append_assoc, List.singleton_append,
      textLines_append (newline_line first), List.nil_append, List.filterMap_cons, rest,
      searchResult_line first, List.filterMap_cons]

theorem sscanf_done : sscanf (sent "DONE") = ⟨1, "DONE", 0, 0⟩ := by
  have word : String.ofList "DONE".toList = "DONE" := String.ofList_toList
  rw [sent, sscanf, takeWhile_nonnull (by decide),
    scanWord_append (by decide) (by decide) (by decide) (stopsAt_cons (by decide))]
  change (⟨1, .ofList "DONE".toList, 0, 0⟩ : ParsedLine) = _
  rw [word]

theorem run_done (region : RegionBytes) (output : List String) (rest : List Char) :
    CoherenceTest.run ⟨region, output, false⟩ (sent "DONE" ++ rest) =
      ⟨region, output ++ [Reply.done.text], true⟩ := by
  have got : fgets 256 (sent "DONE" ++ rest) = some (sent "DONE", rest) := by
    rw [sent, List.append_assoc]
    exact fgets_line (by decide) (by decide)
  have next : CoherenceTest.step ⟨region, output, false⟩ (sscanf (sent "DONE")) =
      some ⟨region, output ++ [Reply.done.text], true⟩ := by
    rw [sscanf_done]
    rfl
  exact (run_line got next).trans (if_pos rfl)

theorem pumped_ready (output : List String) :
    pumped ("[CoherenceTest] Ready. Waiting for commands on stdin...\n" :: output) = pumped output := by
  have line : "[CoherenceTest] Ready. Waiting for commands on stdin...\n".toList =
      "[CoherenceTest] Ready. Waiting for commands on stdin...".toList ++ ['\n'] := by decide
  unfold pumped
  rw [List.flatMap_cons, line, List.append_assoc, List.singleton_append, textLines_append (by decide),
    List.nil_append, List.filterMap_cons, searchResult_none (c := 'U') (by decide) (by decide)]

/-- Whatever the driver writes and reads before `DONE`, to pages in and out of the region: the
results that it finds in the output of the test are those of an array of four 32-bit numbers, in
the order of the commands. Nothing after `DONE` is read. -/
theorem driver_results {commands : List DriverCommand} (small : ∀ command ∈ commands, command.Small)
    (rest : List Char) :
    pumped (runCoherenceTestLoop .zeros
      (commands.flatMap (fun command => sent command.text) ++ (sent "DONE" ++ rest))).output =
      DriverCommand.outcomes (fun _ => 0) commands := by
  have zeros : RegionBytes.zeros.Holds fun _ => 0 := fun p _ => by rw [RegionBytes.slot_zeros]; rfl
  obtain ⟨region, replies, ran, results, scanned⟩ := run_commands small zeros
    ["[CoherenceTest] Ready. Waiting for commands on stdin...\n"] (sent "DONE" ++ rest)
  have all : ∀ reply ∈ replies ++ [Reply.done], reply.Scanned := by
    intro reply member
    rcases List.mem_append.mp member with member | last
    · exact scanned reply member
    · cases List.mem_singleton.mp last
      trivial
  rw [runCoherenceTestLoop, ran, run_done]
  dsimp only
  rw [List.append_assoc, List.singleton_append, pumped_ready]
  rw [show replies.map Reply.text ++ [Reply.done.text] = (replies ++ [Reply.done]).map Reply.text by
    simp]
  rw [pumped_replies all, List.filterMap_append, results]
  exact List.append_nil _

end Session

theorem driver_results_rejected :
    pumped (runCoherenceTestLoop .zeros
      (([.write 3 (2 ^ 32 + 5), .read 4, .read 3] : List DriverCommand).flatMap
        (fun command => sent command.text) ++ (sent "DONE" ++ sent "READ 3"))).output =
      [("WRITE".toList, 3, 5), ("READ".toList, 3, 5)] := by
  refine (driver_results ?_ (sent "READ 3")).trans (by decide)
  simp [DriverCommand.Small]

end TeleportVM
