import Mathlib

/-!
# Reading from a stream

What arrives on a connection is a list of bytes and the way in which it ends: the peer closes it, it
fails, or the peer says nothing more.  `readExact` reads so many bytes under a time limit.  If they
do not arrive, the limit elapses when the peer says nothing more; otherwise the read fails at once,
and what is then in the buffer is not specified, except for its size.
-/

namespace Streams

inductive Ending where
  | closed
  | failed
  | stalled
deriving DecidableEq

structure Stream (α : Type) where
  arrived : List α
  ending : Ending
deriving DecidableEq

/-- The buffer after a read that failed, for what had arrived and the size of the buffer. -/
structure Leftover (α : Type) where
  buffer : List α → ℕ → List α
  length_buffer : ∀ arrived size, (buffer arrived size).length = size

def Leftover.filled {α : Type} (fill : α) : Leftover α where
  buffer := fun arrived size =>
    arrived.take size ++ List.replicate (size - (arrived.take size).length) fill
  length_buffer := by
    intro arrived size
    rw [List.length_append, List.length_replicate, List.length_take]
    omega

/-- The outcome of a read: the limit has elapsed, or the buffer is as it is left, whether the read
failed or not. -/
inductive Outcome (α : Type) where
  | elapsed
  | full (buffer : List α)
  | failed (buffer : List α)
deriving DecidableEq

/-- The buffer, unless the limit has elapsed. -/
def Outcome.buffer? {α : Type} : Outcome α → Option (List α)
  | .elapsed => none
  | .full buffer => some buffer
  | .failed buffer => some buffer

variable {α : Type} (leftover : Leftover α) (size : ℕ) (stream : Stream α)

/-- Read exactly so many elements under a time limit. -/
def readExact : Outcome α × Stream α :=
  if size ≤ stream.arrived.length then
    (.full (stream.arrived.take size), ⟨stream.arrived.drop size, stream.ending⟩)
  else if stream.ending = .stalled then (.elapsed, ⟨[], stream.ending⟩)
  else (.failed (leftover.buffer stream.arrived size), ⟨[], stream.ending⟩)

theorem readExact_of_le (hsize : size ≤ stream.arrived.length) :
    readExact leftover size stream =
      (.full (stream.arrived.take size), ⟨stream.arrived.drop size, stream.ending⟩) :=
  if_pos hsize

theorem readExact_of_stalled (hsize : stream.arrived.length < size)
    (hending : stream.ending = .stalled) :
    readExact leftover size stream = (.elapsed, ⟨[], .stalled⟩) := by
  rw [readExact, if_neg (not_le.mpr hsize), if_pos hending, hending]

theorem readExact_of_not_stalled (hsize : stream.arrived.length < size)
    (hending : stream.ending ≠ .stalled) :
    readExact leftover size stream =
      (.failed (leftover.buffer stream.arrived size), ⟨[], stream.ending⟩) := by
  rw [readExact, if_neg (not_le.mpr hsize), if_neg hending]

end Streams
