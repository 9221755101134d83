import Mathlib.Logic.Function.Basic

/-! # A flat memory of bytes

Ranges of bytes are read and written by their address and length. A write is seen by a read of
the same range, and by no read of a range apart from it.
-/

namespace Bytes

/-- A memory holds a byte at every address. -/
abbrev Memory := Nat → UInt8

/-- The bytes of a range. -/
def read (memory : Memory) : Nat → Nat → List UInt8
  | _, 0 => []
  | address, length + 1 => memory address :: read memory (address + 1) length

/-- The memory after bytes were written from an address on. -/
def write (memory : Memory) : Nat → List UInt8 → Memory
  | _, [] => memory
  | address, byte :: bytes => Function.update (write memory (address + 1) bytes) address byte

variable {memory memory' : Memory} {address length more : Nat} {bytes : List UInt8}

/-- Reading yields as many bytes as were asked for. -/
theorem length_read : (read memory address length).length = length := by
  induction length generalizing address with
  | zero => rfl
  | succ length ih => rw [read, List.length_cons, ih]

/-- A range read in two parts. -/
theorem read_add : read memory address (length + more) =
    read memory address length ++ read memory (address + length) more := by
  induction length generalizing address with
  | zero => simp [read]
  | succ length ih =>
      rw [Nat.succ_add, read, read, ih, List.cons_append, Nat.succ_add_eq_add_succ]

/-- A read depends on the bytes of its range only. -/
theorem read_congr
    (same : ∀ i, address ≤ i → i < address + length → memory i = memory' i) :
    read memory address length = read memory' address length := by
  induction length generalizing address with
  | zero => rfl
  | succ length ih =>
      rw [read, read, same address (Nat.le_refl _) (by omega)]
      congr 1
      exact ih fun i above below => same i (by omega) (by omega)

/-- A write changes no byte outside its range. -/
theorem write_outside {i : Nat} (outside : i < address ∨ address + bytes.length ≤ i) :
    write memory address bytes i = memory i := by
  induction bytes generalizing address with
  | nil => rfl
  | cons byte bytes ih =>
      rw [List.length_cons] at outside
      have apart : i ≠ address := by omega
      rw [write, Function.update_of_ne apart]
      exact ih (by omega)

/-- A read apart from a write does not see it. -/
theorem read_write_apart {start : Nat}
    (apart : start + length ≤ address ∨ address + bytes.length ≤ start) :
    read (write memory address bytes) start length = read memory start length := by
  apply read_congr
  intro i above below
  exact write_outside (by omega)

/-- A read from the start of a write sees the bytes written, and then what lay behind. -/
theorem read_write_append :
    read (write memory address bytes) address (bytes.length + more) =
      bytes ++ read memory (address + bytes.length) more := by
  induction bytes generalizing address with
  | nil => simp [write]
  | cons byte bytes ih =>
      have others : read (Function.update (write memory (address + 1) bytes) address byte)
          (address + 1) (bytes.length + more) =
          read (write memory (address + 1) bytes) (address + 1) (bytes.length + more) := by
        apply read_congr
        intro i above _
        exact Function.update_of_ne (by omega) _ _
      rw [List.length_cons, Nat.succ_add, read, write, Function.update_self, others, ih,
        List.cons_append, Nat.succ_add_eq_add_succ]

/-- A read of the range of a write sees the bytes written. -/
theorem read_write : read (write memory address bytes) address bytes.length = bytes := by
  have whole : read (write memory address bytes) address (bytes.length + 0) = _ :=
    read_write_append
  rwa [read, List.append_nil] at whole

end Bytes
