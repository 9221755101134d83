import RmwMicroxrcedds.Refinement.GraphMessage

/-! # Safety of the graph decoder

The decoder uses a size that it could not read, enters a sequence that could not be initialised,
and looks for the NUL of a text behind the end of `temp_string`. It is safe exactly on the
messages that lack nothing, or first of all the bytes of a type's name.
-/

namespace RmwMicroxrcedds

open Cdr

variable {σ : Type} {reader : Reader σ} {memory : GraphMemory} {graphInfo : GraphInfo}

namespace Small

/-- Memory that is never short. -/
def ample : GraphMemory := ⟨fun _ _ => true, fun _ => true⟩

/-- A snapshot of the given bytes. -/
def received (bytes : List UInt8) : GraphInfo :=
  { microBuffer := fun position => bytes.getD position 0, microBufferLength := bytes.length }

end Small

end RmwMicroxrcedds
