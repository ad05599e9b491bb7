import Mathlib.Data.List.Basic
import Mathlib.Algebra.Ring.Nat
import Mathlib.Tactic.Common

/-!
# The command line of a Windows child

The arguments of a child are joined into one line and split again by the child. The
line is modelled as `backend/windows.rs` writes it, the split by the documented rules
of `CommandLineToArgvW`. Quotation marks are escaped only in an argument that is
quoted, and an argument is quoted only when it is empty or has a blank; the line
round trips exactly when no other argument has a quotation mark.
-/

namespace NativeIpc.Windows

open List

/-- The units of an `OsStr`, as `encode_wide` gives them. -/
abbrev WideString : Type := List UInt16

/-- `b' '`. -/
def space : UInt16 := 0x20

/-- `b'\t'`. -/
def tab : UInt16 := 0x09

/-- `b'"'`. -/
def quote : UInt16 := 0x22

/-- `b'\\'`. -/
def backslash : UInt16 := 0x5c

/-- The units that separate arguments. -/
def isBlank (unit : UInt16) : Bool := unit = space ∨ unit = tab

/-- A run of backslashes. -/
def backslashes (count : Nat) : WideString := List.replicate count backslash

/-! ### The line that is written -/

/-- Whether an argument is quoted, windows.rs:1776-1779. -/
def needsQuotes (units : WideString) : Bool := units.isEmpty || units.any isBlank

/-- One turn of the loop of `quote_argument`, windows.rs:1786-1798: the output, and the backslashes
    that are still held back. -/
def quoteUnit (state : WideString × Nat) (unit : UInt16) : WideString × Nat :=
  let (output, slashes) := state
  if unit = backslash then (output, slashes + 1)
  else if unit = quote then (output ++ backslashes (slashes * 2 + 1) ++ [unit], 0)
  else (output ++ backslashes slashes ++ [unit], 0)

/-- windows.rs:1774-1801. -/
def quoteArgument (value output : WideString) : WideString :=
  if needsQuotes value then
    let (output, slashes) := value.foldl quoteUnit (output ++ [quote], 0)
    output ++ backslashes (slashes * 2) ++ [quote]
  else output ++ value

/-- windows.rs:1817-1827. -/
def commandLineExact (arguments : List WideString) : WideString :=
  let result := arguments.zipIdx.foldl (fun result (argument, index) =>
    quoteArgument argument (if index ≠ 0 then result ++ [space] else result)) []
  result ++ [0]

/-! ### The rules of `CommandLineToArgvW` -/

/-- An argument that is being read: its text so far, the backslashes that are not decided yet, and
    whether blanks belong to it. -/
structure Argument where
  text : WideString
  slashes : Nat
  quoted : Bool
  deriving DecidableEq

namespace Argument

/-- The start of an argument. -/
def fresh : Argument := ⟨[], 0, false⟩

/-- One unit of an argument. Before a quotation mark `2n` backslashes give `n` and the mark toggles
    the quoting, `2n + 1` give `n` and a literal mark; all others are literal. -/
def consume (argument : Argument) (unit : UInt16) : Argument :=
  if unit = backslash then { argument with slashes := argument.slashes + 1 }
  else if unit = quote then
    if argument.slashes % 2 = 0 then
      ⟨argument.text ++ backslashes (argument.slashes / 2), 0, !argument.quoted⟩
    else ⟨argument.text ++ backslashes (argument.slashes / 2) ++ [quote], 0, argument.quoted⟩
  else ⟨argument.text ++ backslashes argument.slashes ++ [unit], 0, argument.quoted⟩

/-- The end of an argument: the backslashes that are left are literal. -/
def finish (argument : Argument) : WideString := argument.text ++ backslashes argument.slashes

end Argument

/-- The arguments after the program's name, from within an argument or between two. -/
def parseArguments : Option Argument → WideString → List WideString
  | none, [] => []
  | some argument, [] => [argument.finish]
  | none, unit :: units =>
    if isBlank unit then parseArguments none units
    else parseArguments (some (Argument.fresh.consume unit)) units
  | some argument, unit :: units =>
    if isBlank unit && !argument.quoted then argument.finish :: parseArguments none units
    else parseArguments (some (argument.consume unit)) units

/-- The program's name, with what follows it: up to the next quotation mark when it starts with
    one, and else up to a blank. Backslashes mean nothing in it. -/
def programName : WideString → WideString × WideString
  | [] => ([], [])
  | unit :: units =>
    if unit = quote then (units.takeWhile (· ≠ quote), (units.dropWhile (· ≠ quote)).tail)
    else ((unit :: units).takeWhile (!isBlank ·), (unit :: units).dropWhile (!isBlank ·))

/-- `CommandLineToArgvW` of a line that ends at its first `NUL`. -/
def commandLineToArgv (line : WideString) : List WideString :=
  let (program, rest) := programName (line.takeWhile (· ≠ 0))
  program :: parseArguments none rest

/-! ### The written line, argument by argument -/

/-- The units of a quoted argument with backslashes held back before them, up to the closing
    mark. -/
def escaped : Nat → WideString → WideString
  | slashes, [] => backslashes (slashes * 2)
  | slashes, unit :: units =>
    if unit = backslash then escaped (slashes + 1) units
    else if unit = quote then backslashes (slashes * 2 + 1) ++ unit :: escaped 0 units
    else backslashes slashes ++ unit :: escaped 0 units

/-- What is written for one argument. -/
def written (value : WideString) : WideString :=
  if needsQuotes value then quote :: escaped 0 value ++ [quote] else value

/-- What is written for the arguments after the program. -/
def writtenRest (arguments : List WideString) : WideString :=
  arguments.flatMap fun argument => space :: written argument

theorem foldl_quoteUnit (units output : WideString) (slashes : Nat) :
    (units.foldl quoteUnit (output, slashes)).1 ++
        backslashes ((units.foldl quoteUnit (output, slashes)).2 * 2) =
      output ++ escaped slashes units := by
  induction units generalizing output slashes with
  | nil => rfl
  | cons unit units ih =>
    simp only [foldl_cons, quoteUnit, escaped]
    split
    · exact ih output (slashes + 1)
    · split
      · rw [ih]
        simp [append_assoc]
      · rw [ih]
        simp [append_assoc]

theorem quoteArgument_eq (value output : WideString) :
    quoteArgument value output = output ++ written value := by
  unfold quoteArgument written
  split
  · dsimp only
    rw [foldl_quoteUnit]
    simp [append_assoc]
  · rfl

theorem commandLineExact_cons (program : WideString) (arguments : List WideString) :
    commandLineExact (program :: arguments) = written program ++ writtenRest arguments ++ [0] := by
  have rest (result : WideString) (start : Nat) :
      (arguments.zipIdx (start + 1)).foldl (fun result (argument, index) =>
        quoteArgument argument (if index ≠ 0 then result ++ [space] else result)) result =
        result ++ writtenRest arguments := by
    induction arguments generalizing result start with
    | nil => simp [writtenRest]
    | cons argument arguments ih =>
      rw [zipIdx_cons, foldl_cons, ih]
      simp [quoteArgument_eq, writtenRest, append_assoc]
  unfold commandLineExact
  rw [zipIdx_cons, foldl_cons, rest]
  simp [quoteArgument_eq]

/-! ### Reading the line back -/

open Argument

section Reading

variable {argument : Argument} {units rest : WideString} {unit : UInt16}

theorem not_isBlank_backslash : isBlank backslash = false := rfl

theorem not_isBlank_quote : isBlank quote = false := rfl

/-- A unit that separates nothing is consumed. -/
theorem parseArguments_consume (kept : isBlank unit = false ∨ argument.quoted = true) :
    parseArguments (some argument) (unit :: units) =
      parseArguments (some (argument.consume unit)) units := by
  rw [parseArguments, if_neg]
  rcases kept with kept | kept
  · simp [kept]
  · simp [kept]

/-- An argument starts at the first unit that is not a blank. -/
theorem parseArguments_start (visible : isBlank unit = false) :
    parseArguments none (unit :: units) = parseArguments (some .fresh) (unit :: units) := by
  rw [parseArguments_consume (.inl visible), parseArguments, if_neg (by simp [visible])]

theorem parseArguments_backslashes (count : Nat) :
    parseArguments (some argument) (backslashes count ++ rest) =
      parseArguments (some { argument with slashes := argument.slashes + count }) rest := by
  induction count generalizing argument with
  | zero => rfl
  | succ count ih =>
    rw [backslashes, replicate_succ, cons_append,
      parseArguments_consume (.inl not_isBlank_backslash)]
    refine ih.trans ?_
    simp [consume, Nat.add_assoc, Nat.add_comm 1]

/-- A quoted argument reads back as it was, whatever its units are. -/
theorem parseArguments_escaped (text : WideString) (slashes : Nat) :
    parseArguments (some ⟨text, 0, true⟩) (escaped slashes units ++ quote :: rest) =
      parseArguments (some ⟨text ++ backslashes slashes ++ units, 0, false⟩) rest := by
  induction units generalizing text slashes with
  | nil =>
    rw [escaped, parseArguments_backslashes, parseArguments_consume (.inl not_isBlank_quote)]
    simp [consume, quote, backslash]
  | cons unit units ih =>
    rw [escaped]
    split
    · rename_i isBackslash
      subst isBackslash
      rw [ih]
      simp [backslashes, replicate_succ', append_assoc]
    · rename_i other
      split
      · rename_i isQuote
        subst isQuote
        have odd : (0 + (slashes * 2 + 1)) % 2 = 1 := by omega
        have half : (0 + (slashes * 2 + 1)) / 2 = slashes := by omega
        rw [append_assoc, parseArguments_backslashes, cons_append,
          parseArguments_consume (.inl not_isBlank_quote)]
        simp only [consume, if_neg other, odd, half]
        refine (ih _ 0).trans ?_
        simp [backslashes, append_assoc]
      · rename_i noQuote
        rw [append_assoc, parseArguments_backslashes, cons_append,
          parseArguments_consume (.inr rfl)]
        simp only [consume, if_neg other, if_neg noQuote, Nat.zero_add]
        refine (ih _ 0).trans ?_
        simp [backslashes, append_assoc]

/-- Units without blanks and quotation marks are literal. -/
theorem parseArguments_literal (argument : Argument) (rest : WideString)
    (visible : ∀ unit ∈ units, isBlank unit = false) (unmarked : quote ∉ units) :
    ∃ later : Argument, later.finish = argument.finish ++ units ∧ later.quoted = argument.quoted ∧
      parseArguments (some argument) (units ++ rest) = parseArguments (some later) rest := by
  induction units generalizing argument with
  | nil => exact ⟨argument, by simp, rfl, rfl⟩
  | cons unit units ih =>
    have noQuote : unit ≠ quote := fun same => unmarked (by simp [same])
    obtain ⟨later, text, quoted, same⟩ := ih (argument.consume unit)
      (fun unit member => visible unit (mem_cons_of_mem _ member))
      (fun member => unmarked (mem_cons_of_mem _ member))
    refine ⟨later, ?_, ?_, ?_⟩
    · rw [text]
      unfold consume finish
      rw [if_neg noQuote]
      split
      · rename_i isBackslash
        simp [isBackslash, backslashes, replicate_succ', append_assoc]
      · simp [backslashes, append_assoc]
    · rw [quoted]
      unfold consume
      rw [if_neg noQuote]
      split
      · rfl
      · rfl
    · rw [cons_append, parseArguments_consume (.inl (visible unit mem_cons_self)), same]

end Reading

/-- An argument with a quotation mark has a blank as well, so that it is quoted. -/
def Escaped (argument : WideString) : Prop := quote ∈ argument → argument.any isBlank = true

instance (argument : WideString) : Decidable (Escaped argument) :=
  inferInstanceAs (Decidable (quote ∈ argument → argument.any isBlank = true))

/-- What is written for an argument is read as that argument, and reading stands at its end. -/
theorem parseArguments_written {argument : WideString} (proper : Escaped argument)
    (rest : WideString) :
    ∃ later : Argument, later.finish = argument ∧ later.quoted = false ∧
      parseArguments none (written argument ++ rest) = parseArguments (some later) rest := by
  unfold written
  split
  · refine ⟨⟨argument, 0, false⟩, by simp [finish, backslashes], rfl, ?_⟩
    rw [cons_append, cons_append, append_assoc,
      parseArguments_start not_isBlank_quote, parseArguments_consume (.inl not_isBlank_quote)]
    exact parseArguments_escaped [] 0
  · rename_i bare
    obtain ⟨nonempty, visible⟩ : argument ≠ [] ∧ ∀ unit ∈ argument, isBlank unit = false := by
      simpa [needsQuotes] using bare
    have unmarked : quote ∉ argument := by
      intro marked
      obtain ⟨unit, member, blank⟩ := any_eq_true.mp (proper marked)
      rw [visible unit member] at blank
      cases blank
    obtain ⟨later, text, quoted, same⟩ :=
      parseArguments_literal fresh rest visible unmarked
    refine ⟨later, text, quoted, ?_⟩
    cases argument with
    | nil => exact absurd rfl nonempty
    | cons unit units =>
      rw [cons_append, parseArguments_start (visible unit mem_cons_self)]
      exact same

variable {arguments : List WideString}

theorem parseArguments_end {argument : Argument}
    (unquoted : argument.quoted = false) (proper : ∀ argument ∈ arguments, Escaped argument) :
    parseArguments (some argument) (writtenRest arguments) = argument.finish :: arguments := by
  induction arguments generalizing argument with
  | nil => rfl
  | cons next arguments ih =>
    obtain ⟨later, text, quoted, same⟩ :=
      parseArguments_written (proper next mem_cons_self) (writtenRest arguments)
    have split : parseArguments (some argument) (writtenRest (next :: arguments)) =
        argument.finish :: parseArguments none (written next ++ writtenRest arguments) := by
      simp [writtenRest, parseArguments, unquoted, isBlank, space]
    rw [split, same,
      ih quoted fun argument member => proper argument (mem_cons_of_mem _ member), text]

/-- The arguments after the program read back. -/
theorem parseArguments_writtenRest (proper : ∀ argument ∈ arguments, Escaped argument) :
    parseArguments none (writtenRest arguments) = arguments := by
  cases arguments with
  | nil => rfl
  | cons next arguments =>
    obtain ⟨later, text, quoted, same⟩ :=
      parseArguments_written (proper next mem_cons_self) (writtenRest arguments)
    have skip : parseArguments none (writtenRest (next :: arguments)) =
        parseArguments none (written next ++ writtenRest arguments) := by
      simp [writtenRest, parseArguments, isBlank, space]
    rw [skip, same, parseArguments_end quoted fun argument member =>
      proper argument (mem_cons_of_mem _ member), text]

/-! ### Marks that are lost

Whether a quotation mark toggles the quoting or is literal depends on the backslashes
before it alone, so the quotation marks and backslashes that reading keeps can be
counted without following the quoting. -/

/-- The quotation marks and backslashes of a text. -/
def marks (units : WideString) : Nat := units.countP fun unit => unit = quote ∨ unit = backslash

/-- The marks that reading keeps of a line, with backslashes read before it. -/
def keptMarks : Nat → WideString → Nat
  | slashes, [] => slashes
  | slashes, unit :: units =>
    if unit = backslash then keptMarks (slashes + 1) units
    else if unit = quote then slashes / 2 + slashes % 2 + keptMarks 0 units
    else slashes + keptMarks 0 units

@[simp] theorem marks_append (units more : WideString) :
    marks (units ++ more) = marks units + marks more := by
  simp [marks]

@[simp] theorem marks_backslashes (count : Nat) : marks (backslashes count) = count := by
  simp [marks, backslashes, countP_replicate]

@[simp] theorem marks_quote : marks [quote] = 1 := rfl

variable {unit : UInt16} {rest units : WideString} {slashes : Nat}

theorem marks_other (noBackslash : unit ≠ backslash) (noQuote : unit ≠ quote) :
    marks [unit] = 0 := by
  simp [marks, noBackslash, noQuote]

theorem isBlank_ne (blank : isBlank unit = true) : unit ≠ backslash ∧ unit ≠ quote := by
  constructor
  · rintro rfl
    cases blank
  · rintro rfl
    cases blank

/-- The marks of an argument after one more unit. -/
theorem marks_consume (argument : Argument) (unit : UInt16) (units : WideString) :
    marks (argument.consume unit).text + keptMarks (argument.consume unit).slashes units =
      marks argument.text + keptMarks argument.slashes (unit :: units) := by
  rw [keptMarks]
  unfold consume
  split
  · rfl
  · rename_i noBackslash
    split
    · split
      · rename_i even
        simp [even, Nat.add_assoc]
      · rename_i odd
        have one : argument.slashes % 2 = 1 := by omega
        simp [one, Nat.add_assoc]
    · rename_i noQuote
      simp [marks_other noBackslash noQuote, Nat.add_assoc]

theorem marks_parseArguments (units : WideString) :
    (∀ argument, ((parseArguments (some argument) units).map marks).sum =
      marks argument.text + keptMarks argument.slashes units) ∧
    ((parseArguments none units).map marks).sum = keptMarks 0 units := by
  induction units with
  | nil =>
    refine ⟨fun argument => ?_, rfl⟩
    simp [parseArguments, keptMarks, finish]
  | cons unit units ih =>
    obtain ⟨within, between⟩ := ih
    refine ⟨fun argument => ?_, ?_⟩
    · rw [parseArguments]
      split
      · rename_i separates
        obtain ⟨noBackslash, noQuote⟩ := isBlank_ne ((Bool.and_eq_true _ _).mp separates).1
        simp [keptMarks, noBackslash, noQuote, between, finish, Nat.add_assoc]
      · rw [within, marks_consume]
    · rw [parseArguments]
      split
      · rename_i blank
        obtain ⟨noBackslash, noQuote⟩ := isBlank_ne blank
        simp [keptMarks, noBackslash, noQuote, between]
      · rw [within, marks_consume]
        exact Nat.zero_add _

theorem keptMarks_backslashes (slashes count : Nat) (rest : WideString) :
    keptMarks slashes (backslashes count ++ rest) = keptMarks (slashes + count) rest := by
  induction count generalizing slashes with
  | zero => rfl
  | succ count ih =>
    rw [backslashes, replicate_succ, cons_append, keptMarks, if_pos rfl]
    refine (ih (slashes + 1)).trans ?_
    rw [Nat.add_assoc, Nat.add_comm 1]

/-- Of a quoted argument every mark is kept. -/
theorem keptMarks_escaped (slashes : Nat) (units rest : WideString) :
    keptMarks 0 (escaped slashes units ++ quote :: rest) =
      slashes + marks units + keptMarks 0 rest := by
  have noBackslash : quote ≠ backslash := by decide
  induction units generalizing slashes with
  | nil =>
    rw [escaped, keptMarks_backslashes, keptMarks, if_neg noBackslash, if_pos rfl]
    have none : marks [] = 0 := rfl
    omega
  | cons unit units ih =>
    have parts : marks (unit :: units) = marks [unit] + marks units := marks_append [unit] units
    rw [escaped]
    split
    · rename_i isBackslash
      have one : marks [unit] = 1 := by rw [isBackslash]; rfl
      rw [ih]
      omega
    · rename_i other
      split
      · rename_i isQuote
        have one : marks [unit] = 1 := by rw [isQuote]; rfl
        rw [append_assoc, keptMarks_backslashes, cons_append, keptMarks, if_neg other,
          if_pos isQuote, ih]
        omega
      · rename_i noQuote
        have none := marks_other other noQuote
        rw [append_assoc, keptMarks_backslashes, cons_append, keptMarks, if_neg other,
          if_neg noQuote, ih]
        omega

/-- At the end of an argument nothing is decided any more. -/
theorem keptMarks_append (slashes : Nat) (units : WideString)
    (ends : rest = [] ∨ ∃ more, rest = space :: more) :
    keptMarks slashes (units ++ rest) = keptMarks slashes units + keptMarks 0 rest := by
  induction units generalizing slashes with
  | nil =>
    rcases ends with rfl | ⟨more, rfl⟩
    · rfl
    · simp [keptMarks, space, backslash, quote]
  | cons unit units ih =>
    rw [cons_append, keptMarks, keptMarks]
    split
    · exact ih (slashes + 1)
    · split
      · rw [ih]
        omega
      · rw [ih]
        omega

theorem keptMarks_le (slashes : Nat) (units : WideString) :
    keptMarks slashes units ≤ slashes + marks units ∧
      (quote ∈ units → keptMarks slashes units < slashes + marks units) := by
  induction units generalizing slashes with
  | nil => exact ⟨Nat.le_refl _, fun marked => by cases marked⟩
  | cons unit units ih =>
    have parts : marks (unit :: units) = marks [unit] + marks units := marks_append [unit] units
    rw [keptMarks, mem_cons]
    split
    · rename_i isBackslash
      have one : marks [unit] = 1 := by rw [isBackslash]; rfl
      have noQuote : quote ≠ unit := by rw [isBackslash]; decide
      obtain ⟨most, fewer⟩ := ih (slashes + 1)
      refine ⟨by omega, fun marked => ?_⟩
      have less := fewer (marked.resolve_left noQuote)
      omega
    · rename_i other
      obtain ⟨most, fewer⟩ := ih 0
      split
      · rename_i isQuote
        have one : marks [unit] = 1 := by rw [isQuote]; rfl
        exact ⟨by omega, fun _ => by omega⟩
      · rename_i noQuote
        refine ⟨by omega, fun marked => ?_⟩
        have less := fewer (marked.resolve_left (Ne.symm noQuote))
        omega

/-- Reading keeps at most the marks of an argument, and loses some when it was to be quoted and
    was not. -/
theorem keptMarks_written (argument : WideString)
    (ends : rest = [] ∨ ∃ more, rest = space :: more) :
    keptMarks 0 (written argument ++ rest) ≤ marks argument + keptMarks 0 rest ∧
      (¬ Escaped argument →
        keptMarks 0 (written argument ++ rest) < marks argument + keptMarks 0 rest) := by
  unfold written
  split
  · rename_i quotes
    have kept : keptMarks 0 (quote :: escaped 0 argument ++ [quote] ++ rest) =
        marks argument + keptMarks 0 rest := by
      rw [cons_append, cons_append, append_assoc, keptMarks, if_neg (by decide), if_pos rfl]
      have body := keptMarks_escaped 0 argument rest
      simp only [singleton_append] at *
      omega
    refine ⟨Nat.le_of_eq kept, fun improper => absurd ?_ improper⟩
    intro marked
    cases argument with
    | nil => cases marked
    | cons unit units => simpa [needsQuotes] using quotes
  · obtain ⟨most, fewer⟩ := keptMarks_le 0 argument
    rw [keptMarks_append 0 argument ends]
    refine ⟨by omega, fun improper => ?_⟩
    have marked : quote ∈ argument := by
      by_contra unmarked
      exact improper fun marked => absurd marked unmarked
    have less := fewer marked
    omega

theorem writtenRest_ends (arguments : List WideString) :
    writtenRest arguments = [] ∨ ∃ more, writtenRest arguments = space :: more := by
  cases arguments with
  | nil => exact .inl rfl
  | cons argument arguments => exact .inr ⟨_, rfl⟩

theorem keptMarks_writtenRest (arguments : List WideString) :
    keptMarks 0 (writtenRest arguments) ≤ (arguments.map marks).sum ∧
      ((∃ argument ∈ arguments, ¬ Escaped argument) →
        keptMarks 0 (writtenRest arguments) < (arguments.map marks).sum) := by
  induction arguments with
  | nil => exact ⟨Nat.le_refl _, fun ⟨_, member, _⟩ => by cases member⟩
  | cons argument arguments ih =>
    obtain ⟨most, fewer⟩ := ih
    obtain ⟨here, lost⟩ := keptMarks_written argument (writtenRest_ends arguments)
    have step : keptMarks 0 (writtenRest (argument :: arguments)) =
        keptMarks 0 (written argument ++ writtenRest arguments) := by
      simp [writtenRest, keptMarks, space, backslash, quote]
    rw [step, map_cons, sum_cons]
    refine ⟨by omega, ?_⟩
    rintro ⟨improper, member, marked⟩
    rcases mem_cons.mp member with rfl | member
    · have less := lost marked
      omega
    · have less := fewer ⟨improper, member, marked⟩
      omega

/-- The arguments after the program read back only if each of them that has a quotation mark is
    quoted. -/
theorem escaped_of_parseArguments (same : parseArguments none (writtenRest arguments) = arguments) :
    ∀ argument ∈ arguments, Escaped argument := by
  by_contra improper
  push Not at improper
  have lost := (keptMarks_writtenRest arguments).2 improper
  have kept := (marks_parseArguments (writtenRest arguments)).2
  rw [same] at kept
  omega

/-! ### The program and the whole line -/

/-- Units without quotation marks that do not end in a backslash stand as they are between
    quotation marks. -/
theorem escaped_unmarked (unmarked : quote ∉ units)
    (ended : units = [] → slashes = 0) (last : units.getLast? ≠ some backslash) :
    escaped slashes units = backslashes slashes ++ units := by
  induction units generalizing slashes with
  | nil => simp [escaped, ended rfl, backslashes]
  | cons unit units ih =>
    have noQuote : unit ≠ quote := fun same => unmarked (by simp [same])
    have rest : quote ∉ units := fun member => unmarked (mem_cons_of_mem _ member)
    have later : units.getLast? ≠ some backslash := by
      intro same
      refine last ?_
      rw [getLast?_cons, same]
      rfl
    rw [escaped, if_neg noQuote]
    split
    · rename_i isBackslash
      rw [ih rest ?_ later]
      · simp [isBackslash, backslashes, replicate_succ', append_assoc]
      · rintro rfl
        exact absurd (by simp [isBackslash]) last
    · rw [ih rest (fun _ => rfl) later]
      simp [backslashes]

/-- The program's name reads back. -/
theorem programName_written {program : WideString} (nonempty : program ≠ [])
    (unmarked : quote ∉ program) (last : program.getLast? ≠ some backslash)
    (ends : rest = [] ∨ ∃ more, rest = space :: more) :
    programName (written program ++ rest) = (program, rest) := by
  unfold written
  split
  · have plain : ∀ unit ∈ program, (decide (unit ≠ quote)) = true := by
      intro unit member
      simpa using fun same : unit = quote => unmarked (same ▸ member)
    rw [escaped_unmarked unmarked (fun _ => rfl) last]
    simp only [backslashes, replicate_zero, nil_append, cons_append,
      append_assoc, programName, if_pos]
    rw [takeWhile_append_of_pos plain, dropWhile_append_of_pos plain,
      takeWhile_cons_of_neg (by simp), dropWhile_cons_of_neg (by simp), append_nil,
      tail_cons]
  · rename_i bare
    have visible : ∀ unit ∈ program, (!isBlank unit) = true := by
      intro unit member
      simp only [needsQuotes, Bool.or_eq_true, any_eq_true, not_or, not_exists, not_and] at bare
      simpa using bare.2 unit member
    have taken : rest.takeWhile (!isBlank ·) = [] ∧ rest.dropWhile (!isBlank ·) = rest := by
      rcases ends with rfl | ⟨more, rfl⟩
      · exact ⟨rfl, rfl⟩
      · exact ⟨rfl, rfl⟩
    cases program with
    | nil => exact absurd rfl nonempty
    | cons unit units =>
      have noQuote : unit ≠ quote := fun same => unmarked (by simp [same])
      rw [cons_append, programName, if_neg noQuote, ← cons_append,
        takeWhile_append_of_pos visible, dropWhile_append_of_pos visible, taken.1,
        taken.2, append_nil]

theorem zero_notMem_escaped (nulFree : (0 : UInt16) ∉ units) :
    (0 : UInt16) ∉ escaped slashes units := by
  have nonzero : (0 : UInt16) ≠ backslash := by decide
  induction units generalizing slashes with
  | nil => simp [escaped, backslashes, nonzero]
  | cons unit units ih =>
    obtain ⟨first, rest⟩ : (0 : UInt16) ≠ unit ∧ (0 : UInt16) ∉ units := by
      simpa [mem_cons, not_or] using nulFree
    rw [escaped]
    split
    · exact ih rest
    · split
      · simp [backslashes, nonzero, first, ih rest]
      · simp [backslashes, nonzero, first, ih rest]

theorem zero_notMem_written {value : WideString} (nulFree : (0 : UInt16) ∉ value) :
    (0 : UInt16) ∉ written value := by
  have nonzero : (0 : UInt16) ≠ quote := by decide
  unfold written
  split
  · simp [nonzero, zero_notMem_escaped nulFree]
  · exact nulFree

/-- The line is read up to the `NUL` that ends it. -/
theorem takeWhile_commandLineExact {program : WideString}
    (nulFree : ∀ argument ∈ program :: arguments, (0 : UInt16) ∉ argument) :
    (commandLineExact (program :: arguments)).takeWhile (· ≠ 0) =
      written program ++ writtenRest arguments := by
  have visible : ∀ unit ∈ written program ++ writtenRest arguments, decide (unit ≠ 0) = true := by
    intro unit member
    have nonzero : unit ≠ 0 := by
      rintro rfl
      rcases mem_append.mp member with member | member
      · exact zero_notMem_written (nulFree program mem_cons_self) member
      · obtain ⟨argument, given, member⟩ := mem_flatMap.mp member
        rcases mem_cons.mp member with blank | member
        · exact absurd blank (by decide)
        · exact zero_notMem_written (nulFree argument (mem_cons_of_mem _ given)) member
    simpa using nonzero
  rw [commandLineExact_cons, takeWhile_append_of_pos visible]
  simp

/-- The line of a program and its arguments reads back as it was exactly when every argument with a
    quotation mark has a blank, or it is written without the backslashes that keep the mark. -/
theorem commandLine_round_trip (program : WideString) (arguments : List WideString)
    (nulFree : ∀ argument ∈ program :: arguments, (0 : UInt16) ∉ argument) (nonempty : program ≠ [])
    (unmarked : quote ∉ program) (last : program.getLast? ≠ some backslash) :
    commandLineToArgv (commandLineExact (program :: arguments)) = program :: arguments ↔
      ∀ argument ∈ arguments, Escaped argument := by
  have parsed : commandLineToArgv (commandLineExact (program :: arguments)) =
      program :: parseArguments none (writtenRest arguments) := by
    unfold commandLineToArgv
    rw [takeWhile_commandLineExact nulFree,
      programName_written nonempty unmarked last (writtenRest_ends arguments)]
  rw [parsed, List.cons.injEq]
  constructor
  · rintro ⟨-, same⟩
    exact escaped_of_parseArguments same
  · intro proper
    exact ⟨rfl, parseArguments_writtenRest proper⟩

/-- `p "a b" a\"b c\` and an empty argument: blanks, a quoted mark and trailing backslashes. -/
theorem commandLine_round_trip_quoted :
    commandLineToArgv (commandLineExact
      [[0x70], [0x61, space, 0x62], [0x61, backslash, quote, space], [0x63, backslash], []]) =
      [[0x70], [0x61, space, 0x62], [0x61, backslash, quote, space], [0x63, backslash], []] :=
  (commandLine_round_trip [0x70]
    [[0x61, space, 0x62], [0x61, backslash, quote, space], [0x63, backslash], []] (by decide)
    (by decide) (by decide) (by decide)).mpr (by decide)

/-- An argument that is one quotation mark is written as it is, and read as an empty argument. -/
theorem commandLine_loses_quote :
    commandLineExact [[0x70], [quote]] = [0x70, space, quote, 0] ∧
      commandLineToArgv (commandLineExact [[0x70], [quote]]) = [[0x70], []] := by
  decide

end NativeIpc.Windows
