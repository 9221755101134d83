import Mathlib.Algebra.Group.Nat.Defs
import Mathlib.Data.List.Basic
import Mathlib.Data.List.TakeDrop

/-! # Words, bytes and texts in CDR

In the common data representation a word of four bytes stands at a multiple of four, counted
from the start of the buffer, and a text is its length as a word, its bytes and a NUL, which
the length counts. Writers here extend the output so far; what stands at a position of a
buffer is then that a writer's output is a prefix of it.
-/

namespace Cdr

universe u v

variable {σ : Type u} {bytes : BitVec 32 → List UInt8} {out data rest string : List UInt8}

/-- The next multiple of four. -/
def align (position : Nat) : Nat := (position + 3) / 4 * 4

/-- Alignment never goes back. -/
theorem le_align (position : Nat) : position ≤ align position := by
  unfold align
  omega

/-- The output with a word at the next aligned position. -/
def putWord (bytes : BitVec 32 → List UInt8) (value : BitVec 32) (out : List UInt8) : List UInt8 :=
  out ++ List.replicate (align out.length - out.length) 0 ++ bytes value

def putByte (value : UInt8) (out : List UInt8) : List UInt8 := out ++ [value]

/-- The output with a text: its length with the NUL, its bytes, and the NUL. -/
def putText (bytes : BitVec 32 → List UInt8) (string out : List UInt8) : List UInt8 :=
  putWord bytes (BitVec.ofNat 32 (string.length + 1)) out ++ (string ++ [0])

/-- A word is written behind what is there. -/
theorem prefix_putWord (value : BitVec 32) : out <+: putWord bytes value out := by
  rw [putWord, List.append_assoc]
  exact List.prefix_append _ _

/-- A byte is written behind what is there. -/
theorem prefix_putByte (value : UInt8) : out <+: putByte value out := List.prefix_append _ _

/-- A text is written behind what is there. -/
theorem prefix_putText : out <+: putText bytes string out :=
  (prefix_putWord _).trans (List.prefix_append _ _)

section Sequences

variable {α : Type v} {put : α → List UInt8 → List UInt8}

/-- A writer leaves the output so far and puts at least a byte behind it. -/
def Appends (put : α → List UInt8 → List UInt8) : Prop :=
  ∀ item out, out <+: put item out ∧ out.length < (put item out).length

/-- The output with the items, one behind the other. -/
def putItems (put : α → List UInt8 → List UInt8) (items : List α) (out : List UInt8) :
    List UInt8 :=
  items.foldl (fun out item => put item out) out

/-- The output with a sequence: the number of its items, and the items. -/
def putSequence (bytes : BitVec 32 → List UInt8) (put : α → List UInt8 → List UInt8)
    (items : List α) (out : List UInt8) : List UInt8 :=
  putItems put items (putWord bytes (BitVec.ofNat 32 items.length) out)

/-- A text takes up space. -/
theorem appends_putText : Appends (putText bytes) := by
  intro string out
  refine ⟨prefix_putText, ?_⟩
  have counted : out <+: putWord bytes (BitVec.ofNat 32 (string.length + 1)) out :=
    prefix_putWord _
  have := counted.length_le
  rw [putText, List.length_append, List.length_append, List.length_singleton]
  omega

/-- Items in sequence are written behind what is there, and take up at least a byte each. -/
theorem Appends.items (appends : Appends put) (items : List α) (out : List UInt8) :
    out <+: putItems put items out ∧
      out.length + items.length ≤ (putItems put items out).length := by
  induction items generalizing out with
  | nil => exact ⟨List.prefix_refl out, Nat.le_refl _⟩
  | cons item items ih =>
      obtain ⟨here, grows⟩ := appends item out
      obtain ⟨behind, length⟩ := ih (put item out)
      refine ⟨here.trans behind, ?_⟩
      rw [List.length_cons]
      change _ ≤ (putItems put items (put item out)).length
      omega

/-- A sequence is written behind what is there. -/
theorem Appends.sequence (appends : Appends put) (items : List α) :
    out <+: putSequence bytes put items out :=
  (prefix_putWord _).trans (appends.items items _).1

/-- The items of a sequence are no more than its bytes. -/
theorem Appends.length_le (appends : Appends put) (items : List α) :
    items.length ≤ (putSequence bytes put items out).length :=
  Nat.le_trans (Nat.le_add_left _ _) (appends.items items _).2

end Sequences

/-- A reader, with what it is at: the data up to its end, the position, and whether a read has
failed. A read that fails yields nothing. What is read of a text are all the bytes that its length
counts, a NUL or not. -/
structure Reader (σ : Type u) where
  init : List UInt8 → Nat → σ
  word : σ → Option (BitVec 32) × σ
  byte : σ → Option UInt8 × σ
  text : σ → Nat → Option (List UInt8) × σ
  data : σ → List UInt8
  position : σ → Nat
  error : σ → Bool

namespace Reader

variable {reader : Reader σ} {s : σ}

/-- Once a read has failed, every later one fails. -/
structure Sticky (reader : Reader σ) : Prop where
  word : ∀ s, reader.error s = true → (reader.word s).1 = none
  byte : ∀ s, reader.error s = true → (reader.byte s).1 = none
  text : ∀ s capacity, reader.error s = true → (reader.text s capacity).1 = none
  wordFails : ∀ s, (reader.word s).1 = none → reader.error (reader.word s).2 = true
  byteFails : ∀ s, (reader.byte s).1 = none → reader.error (reader.byte s).2 = true
  textFails : ∀ s capacity, (reader.text s capacity).1 = none →
    reader.error (reader.text s capacity).2 = true

/-- No word is read behind a text that could not be read. -/
theorem Sticky.word_text (sticky : reader.Sticky) {capacity : Nat}
    (lost : (reader.text s capacity).1 = none) :
    (reader.word (reader.text s capacity).2).1 = none :=
  sticky.word _ (sticky.textFails s capacity lost)

/-- The reader has gone on to a position of the same data, without a failure. -/
structure MovesTo (reader : Reader σ) (s s' : σ) (position : Nat) : Prop where
  data : reader.data s' = reader.data s
  position : reader.position s' = position
  error : reader.error s' = false

/-- The reader reads what stands at its position. -/
structure Follows (reader : Reader σ) (bytes : BitVec 32 → List UInt8) : Prop where
  length : ∀ value, (bytes value).length = 4
  init : ∀ buffer length, reader.data (reader.init buffer length) = buffer.take length ∧
    reader.position (reader.init buffer length) = 0 ∧
    reader.error (reader.init buffer length) = false
  word : ∀ s value rest, reader.error s = false →
    (reader.data s).drop (align (reader.position s)) = bytes value ++ rest →
    (reader.word s).1 = some value ∧
      reader.MovesTo s (reader.word s).2 (align (reader.position s) + 4)
  byte : ∀ s value rest, reader.error s = false →
    (reader.data s).drop (reader.position s) = value :: rest →
    (reader.byte s).1 = some value ∧ reader.MovesTo s (reader.byte s).2 (reader.position s + 1)
  text : ∀ s string capacity rest, reader.error s = false → 0 ∉ string →
    string.length < capacity → string.length + 1 < 2 ^ 32 →
    (reader.data s).drop (align (reader.position s)) =
      bytes (BitVec.ofNat 32 (string.length + 1)) ++ (string ++ 0 :: rest) →
    (reader.text s capacity).1 = some (string ++ [0]) ∧
      reader.MovesTo s (reader.text s capacity).2
        (align (reader.position s) + 4 + (string.length + 1))

/-- The reader is in the data, behind an output that the data starts with. -/
structure At (reader : Reader σ) (data : List UInt8) (s : σ) (out : List UInt8) : Prop where
  data : reader.data s = data
  position : reader.position s = out.length
  error : reader.error s = false

/-- A reader that moved to the end of what was written is there. -/
theorem At.moved {s' : σ} {out' : List UInt8} (here : reader.At data s out)
    (moves : reader.MovesTo s s' out'.length) : reader.At data s' out' :=
  ⟨moves.data.trans here.data, moves.position, moves.error⟩

/-- A word takes four bytes behind its alignment. -/
theorem length_putWord (follows : reader.Follows bytes) (value : BitVec 32) :
    (putWord bytes value out).length = align out.length + 4 := by
  have := le_align out.length
  simp only [putWord, List.length_append, List.length_replicate, follows.length]
  omega

/-- What stands at the next aligned position when the data starts with a word put there. -/
theorem drop_of_putWord {value : BitVec 32} (starts : putWord bytes value out ++ rest = data) :
    data.drop (align out.length) = bytes value ++ rest := by
  rw [← starts, putWord, List.append_assoc]
  apply List.drop_left'
  have := le_align out.length
  rw [List.length_append, List.length_replicate]
  omega

/-- A word that was put behind the position is read. -/
theorem At.word (here : reader.At data s out) (follows : reader.Follows bytes) {value : BitVec 32}
    (starts : putWord bytes value out <+: data) :
    (reader.word s).1 = some value ∧
      reader.At data (reader.word s).2 (putWord bytes value out) := by
  obtain ⟨rest, split⟩ := starts
  have stands := drop_of_putWord split
  rw [← here.data, ← here.position] at stands
  obtain ⟨read, moves⟩ := follows.word s value rest here.error stands
  rw [here.position, ← length_putWord follows value] at moves
  exact ⟨read, here.moved moves⟩

/-- A reader that follows the writer reads the byte written. -/
theorem At.byte (here : reader.At data s out) (follows : reader.Follows bytes) {value : UInt8}
    (starts : putByte value out <+: data) :
    (reader.byte s).1 = some value ∧ reader.At data (reader.byte s).2 (putByte value out) := by
  obtain ⟨rest, split⟩ := starts
  have stands : data.drop out.length = value :: rest := by
    rw [← split, putByte, List.append_assoc]
    exact List.drop_left' rfl
  rw [← here.data, ← here.position] at stands
  obtain ⟨read, moves⟩ := follows.byte s value rest here.error stands
  have length : (putByte value out).length = out.length + 1 := by simp [putByte]
  rw [here.position, ← length] at moves
  exact ⟨read, here.moved moves⟩

/-- A reader that follows the writer reads the text written, when it fits its buffer. -/
theorem At.text (here : reader.At data s out) (follows : reader.Follows bytes) {capacity : Nat}
    (clean : 0 ∉ string) (fits : string.length < capacity) (small : string.length + 1 < 2 ^ 32)
    (starts : putText bytes string out <+: data) :
    (reader.text s capacity).1 = some (string ++ [0]) ∧
      reader.At data (reader.text s capacity).2 (putText bytes string out) := by
  obtain ⟨rest, split⟩ := starts
  rw [putText, List.append_assoc] at split
  have stands := drop_of_putWord split
  rw [← here.data, ← here.position, List.append_assoc, List.singleton_append] at stands
  obtain ⟨read, moves⟩ := follows.text s string capacity rest here.error clean fits small stands
  have length : (putText bytes string out).length =
      align (reader.position s) + 4 + (string.length + 1) := by
    rw [putText, List.length_append, length_putWord follows, here.position, List.length_append,
      List.length_singleton]
  rw [← length] at moves
  exact ⟨read, here.moved moves⟩

end Reader

/-- A buffer that is read. -/
structure Buffer where
  data : List UInt8
  position : Nat
  error : Bool
deriving DecidableEq

/-- The bytes of a word, the lowest first. -/
def wordBytes (value : BitVec 32) : List UInt8 :=
  [UInt8.ofNat value.toNat, UInt8.ofNat (value.toNat / 2 ^ 8), UInt8.ofNat (value.toNat / 2 ^ 16),
    UInt8.ofNat (value.toNat / 2 ^ 24)]

/-- The word of four bytes. -/
def wordOf (bytes : List UInt8) : BitVec 32 :=
  BitVec.ofNat 32 (bytes.foldr (fun byte higher => byte.toNat + 2 ^ 8 * higher) 0)

/-- The bytes of a word give the word. -/
theorem wordOf_wordBytes (value : BitVec 32) : wordOf (wordBytes value) = value := by
  apply BitVec.eq_of_toNat_eq
  have small := value.isLt
  simp only [wordOf, wordBytes, List.foldr_cons, List.foldr_nil, BitVec.toNat_ofNat,
    UInt8.toNat_ofNat']
  omega

/-- The bytes from a position on, unless a read has failed or there are too few. -/
def Buffer.read (buffer : Buffer) (position count : Nat) : Option (List UInt8) × Buffer :=
  if !buffer.error && position + count ≤ buffer.data.length then
    (some ((buffer.data.drop position).take count), { buffer with position := position + count })
  else (none, { buffer with error := true })

/-- A reader of words whose lowest byte comes first. -/
def plainReader : Reader Buffer where
  init := fun buffer length => ⟨buffer.take length, 0, false⟩
  word := fun buffer =>
    let (bytes, buffer) := buffer.read (align buffer.position) 4
    (bytes.map wordOf, buffer)
  byte := fun buffer =>
    let (bytes, buffer) := buffer.read buffer.position 1
    (bytes.bind List.head?, buffer)
  text := fun buffer capacity =>
    match buffer.read (align buffer.position) 4 with
    | (none, buffer) => (none, buffer)
    | (some bytes, buffer) =>
        if (wordOf bytes).toNat ≤ capacity then
          buffer.read buffer.position (wordOf bytes).toNat
        else (none, { buffer with error := true })
  data := Buffer.data
  position := Buffer.position
  error := Buffer.error

/-- What stands at a position is read, and the buffer goes on behind it. -/
theorem Buffer.read_of_drop (buffer : Buffer) (front : List UInt8) {position : Nat}
    (sane : buffer.error = false) (nonempty : front ≠ [])
    (stands : buffer.data.drop position = front ++ rest) :
    buffer.read position front.length =
      (some front, { buffer with position := position + front.length }) := by
  have total := congrArg List.length stands
  rw [List.length_drop, List.length_append] at total
  have positive : 0 < front.length := List.length_pos_iff.mpr nonempty
  have enough : position + front.length ≤ buffer.data.length := by omega
  simp [Buffer.read, sane, enough, stands]

/-- The plain reader follows the writer of little-endian words. -/
theorem plainReader_follows : plainReader.Follows wordBytes where
  length := fun _ => rfl
  init := fun _ _ => ⟨rfl, rfl, rfl⟩
  word := by
    intro s value rest sane stands
    have isRead := Buffer.read_of_drop s (wordBytes value) sane (by simp [wordBytes]) stands
    have read : plainReader.word s = _ :=
      congrArg (fun result => (result.1.map wordOf, result.2)) isRead
    rw [read]
    exact ⟨congrArg some (wordOf_wordBytes value), rfl, rfl, sane⟩
  byte := by
    intro s value rest sane stands
    have isRead := Buffer.read_of_drop s [value] sane (by simp) stands
    have read : plainReader.byte s = _ :=
      congrArg (fun result => (result.1.bind List.head?, result.2)) isRead
    rw [read]
    exact ⟨rfl, rfl, rfl, sane⟩
  text := by
    intro s string capacity rest sane clean fits small stands
    have isRead : s.read (align s.position) 4 = (some (wordBytes _), _) :=
      Buffer.read_of_drop s (wordBytes _) sane (by simp [wordBytes]) stands
    have length : (wordOf (wordBytes (BitVec.ofNat 32 (string.length + 1)))).toNat =
        (string ++ [0]).length := by
      rw [wordOf_wordBytes, BitVec.toNat_ofNat, Nat.mod_eq_of_lt small, List.length_append,
        List.length_singleton]
    have behind : s.data.drop (align s.position + 4) = (string ++ [0]) ++ rest := by
      rw [← List.drop_drop, show s.data.drop (align s.position) = _ from stands]
      simp [wordBytes]
    have isRead' := Buffer.read_of_drop { s with position := align s.position + 4 } (string ++ [0])
      sane (by simp) behind
    have within : (string ++ [0]).length ≤ capacity := by
      rw [List.length_append, List.length_singleton]
      exact fits
    have read : plainReader.text s capacity = (some (string ++ [0]),
        { s with position := align s.position + 4 + (string ++ [0]).length }) := by
      simp only [plainReader, isRead, length, within, ↓reduceIte]
      rw [show (wordBytes (BitVec.ofNat 32 (string.length + 1))).length = 4 from rfl, isRead']
    rw [read]
    refine ⟨rfl, rfl, ?_, sane⟩
    simp [plainReader]

end Cdr
