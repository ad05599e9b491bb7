import NativeIpc.Lib.Bytes

/-!
# Readers of bytes

A reader takes a value from the front of the bytes that remain. `Reads` says that
it takes exactly what a writer puts there: the values it returns are the good
ones, and it has consumed their image and nothing more. Readers are put together
with the bind of the monad; counted loops and length-framed parts keep `Reads`.
-/

namespace NativeIpc.Lib

open List

/-- A reader of values of type `α` from a buffer. -/
abbrev Reader (ε α : Type) : Type := StateT Bytes (Except (Stop ε)) α

namespace Reader

variable {ε α β : Type} {bytes rest : Bytes}

/-- A check between two reads. -/
def check (x : Run ε α) : Reader ε α := fun bytes => x >>= fun a => .ok (a, bytes)

variable (short : ε)

/-- The next `count` bytes, or the error when fewer are left. -/
def take (count : Nat) : Reader ε Bytes := fun bytes =>
  if count ≤ bytes.length then .ok (bytes.take count, bytes.drop count) else Run.fail short

/-- A little-endian integer of `width` bytes. -/
def le (width : Nat) : Reader ε Nat := do
  let part ← take short width
  pure (Bytes.toLe part)

/-- A part after its length in `width` bytes, once the length passes a check. -/
def framed (width : Nat) (limit : Nat → Run ε Unit) : Reader ε Bytes := do
  let length ← le short width
  check (limit length)
  take short length

/-- `for _ in 0..count { values.push(reader()?) }`. -/
def times (reader : Reader ε α) : Nat → Reader ε (List α)
  | 0 => pure []
  | count + 1 => do
    let a ← reader
    let as ← times reader count
    pure (a :: as)

theorem bind_eq_ok {x : Reader ε α} {f : α → Reader ε β} {b : β} :
    (x >>= f) bytes = .ok (b, rest) ↔ ∃ a mid, x bytes = .ok (a, mid) ∧ f a mid = .ok (b, rest) := by
  change (x bytes >>= fun pair => f pair.1 pair.2) = .ok (b, rest) ↔ _
  rw [Run.bind_eq_ok, Prod.exists]

theorem pure_eq_ok {a b : α} :
    (pure a : Reader ε α) bytes = .ok (b, rest) ↔ a = b ∧ bytes = rest := by
  change (Except.ok (a, bytes) : Run ε (α × Bytes)) = .ok (b, rest) ↔ _
  rw [Except.ok.injEq, Prod.mk.injEq]

theorem check_eq_ok {x : Run ε α} {a : α} :
    check x bytes = .ok (a, rest) ↔ x = .ok a ∧ bytes = rest := by
  unfold check
  cases x <;> simp [bind, Except.bind]

/-- A loop that appends an image for each of its items. -/
theorem foldlM_append {U : Type} {append : List U → α → Run ε (List U)} {write : α → List U}
    {values : List α} (each : ∀ a ∈ values, ∀ acc, append acc a = .ok (acc ++ write a))
    (acc : List U) : values.foldlM append acc = .ok (acc ++ values.flatMap write) := by
  induction values generalizing acc with
  | nil => simp [pure, Except.pure]
  | cons a values ih =>
    obtain ⟨first, others⟩ := forall_mem_cons.mp each
    rw [foldlM_cons, first, Run.ok_bind, ih others, flatMap_cons, append_assoc]

/-! ### Readers that invert a writer -/

/-- The reader returns exactly the good values, and has then consumed what `write` writes. -/
def Reads (reader : Reader ε α) (write : α → Bytes) (Good : α → Prop) : Prop :=
  ∀ bytes a rest, reader bytes = .ok (a, rest) ↔ Good a ∧ bytes = write a ++ rest

/-- What follows such a reader reads on behind the image. -/
theorem Reads.bind_iff {reader : Reader ε α} {write : α → Bytes} {Good : α → Prop}
    (reads : Reads reader write Good) {f : α → Reader ε β} {b : β} :
    (reader >>= f) bytes = .ok (b, rest) ↔
      ∃ a mid, (Good a ∧ bytes = write a ++ mid) ∧ f a mid = .ok (b, rest) := by
  simp only [bind_eq_ok, reads _ _ _]

theorem reads_take (count : Nat) : Reads (take short count) id fun part => part.length = count := by
  intro bytes part rest
  unfold take Run.fail
  by_cases fits : count ≤ bytes.length
  · rw [if_pos fits, Except.ok.injEq, Prod.mk.injEq]
    constructor
    · rintro ⟨rfl, rfl⟩
      exact ⟨length_take_of_le fits, (take_append_drop count bytes).symm⟩
    · rintro ⟨rfl, rfl⟩
      exact ⟨take_left, drop_left⟩
  · rw [if_neg fits]
    refine ⟨nofun, ?_⟩
    rintro ⟨rfl, rfl⟩
    exact absurd (by rw [length_append]; exact Nat.le_add_right _ _) fits

theorem reads_le (width : Nat) :
    Reads (le short width) (Bytes.ofLe width) fun value => value < 256 ^ width := by
  intro bytes value rest
  rw [le, (reads_take short width).bind_iff]
  simp only [pure_eq_ok]
  constructor
  · rintro ⟨part, _, ⟨rfl, rfl⟩, rfl, rfl⟩
    exact ⟨Bytes.toLe_lt part, by rw [Bytes.ofLe_toLe]; rfl⟩
  · rintro ⟨fits, rfl⟩
    refine ⟨_, rest, ⟨Bytes.length_ofLe width value, rfl⟩, ?_, rfl⟩
    rw [Bytes.toLe_ofLe, Nat.mod_eq_of_lt fits]

theorem reads_framed (width : Nat) (limit : Nat → Run ε Unit) :
    Reads (framed short width limit) (fun part => Bytes.ofLe width part.length ++ part)
      fun part => part.length < 256 ^ width ∧ limit part.length = .ok () := by
  intro bytes part rest
  rw [framed, (reads_le short width).bind_iff]
  simp only [bind_eq_ok, check_eq_ok, reads_take short _ _ _ _]
  constructor
  · rintro ⟨_, _, ⟨fits, rfl⟩, ⟨⟩, _, ⟨within, rfl⟩, rfl, rfl⟩
    exact ⟨⟨fits, within⟩, (append_assoc _ _ _).symm⟩
  · rintro ⟨⟨fits, within⟩, rfl⟩
    exact ⟨part.length, _, ⟨fits, append_assoc _ _ _⟩, (), _, ⟨within, rfl⟩, rfl, rfl⟩

/-- A counted loop reads the images one after the other. -/
theorem Reads.times {reader : Reader ε α} {write : α → Bytes} {Good : α → Prop}
    (reads : Reads reader write Good) (count : Nat) :
    Reads (times reader count) (List.flatMap write)
      fun values => values.length = count ∧ ∀ a ∈ values, Good a := by
  induction count with
  | zero =>
    intro bytes values rest
    rw [Reader.times, pure_eq_ok]
    constructor
    · rintro ⟨rfl, rfl⟩
      exact ⟨⟨rfl, nofun⟩, rfl⟩
    · rintro ⟨⟨empty, -⟩, rfl⟩
      rw [length_eq_zero_iff.mp empty]
      exact ⟨rfl, rfl⟩
  | succ count ih =>
    intro bytes values rest
    rw [Reader.times, reads.bind_iff]
    simp only [ih.bind_iff, pure_eq_ok]
    constructor
    · rintro ⟨a, _, ⟨good, rfl⟩, as, _, ⟨⟨rfl, goods⟩, rfl⟩, rfl, rfl⟩
      refine ⟨⟨rfl, forall_mem_cons.mpr ⟨good, goods⟩⟩, ?_⟩
      rw [flatMap_cons, append_assoc]
    · rintro ⟨⟨long, goods⟩, rfl⟩
      obtain ⟨a, as, rfl⟩ := exists_cons_of_length_eq_add_one long
      obtain ⟨good, others⟩ := forall_mem_cons.mp goods
      refine ⟨a, _, ⟨good, ?_⟩, as, rest, ⟨⟨Nat.succ.inj long, others⟩, rfl⟩, rfl, rfl⟩
      rw [flatMap_cons, append_assoc]

end Reader

end NativeIpc.Lib
