import Safepoint.Report

/-!
# Root slots in batches

Root slots come one by one and go to the collector in batches.  A sink hands out a buffer, takes
it back full and hands out the next one, whose capacity is the size of the next batch; at the end
the rest is flushed and the last buffer released, also when a fault cut the visit short.  This
file gives buffers, sinks and the batch under way; `RootSink.collect` runs a whole visit.
-/

namespace Safepoint.Roots

/-- A growable row of slots. -/
structure Buffer where
  slots : Array Address
  /-- How many slots fit before the buffer has to grow. -/
  capacity : Nat
  size_le : slots.size ≤ capacity

namespace Buffer

/-- The buffer of no capacity, which stands where a buffer was taken away. -/
def none : Buffer where
  slots := #[]
  capacity := 0
  size_le := Nat.le_refl 0

/-- A buffer of the given capacity with as much of the contents as fits. -/
def filled (capacity : Nat) (contents : List Address) : Buffer where
  slots := (contents.take capacity).toArray
  capacity := capacity
  size_le := List.length_take_le capacity contents

/-- Slots in the largest buffer there can be: its bytes are counted by a signed word. -/
def maxCapacity : Nat := (Word.count / 2 - 1) / 8

/-- An empty buffer of the given capacity. -/
def allocate (capacity : Nat) : Except Fault Buffer :=
  if capacity ≤ maxCapacity then .ok (filled capacity []) else .error .capacityOverflow

/-- Capacity of the smallest buffer that holds anything after growing. -/
def minGrown : Nat := 4

/-- Adds a slot at the end; a full buffer doubles its capacity first. -/
def push (buffer : Buffer) (slot : Address) : Buffer where
  slots := buffer.slots.push slot
  capacity :=
    if buffer.slots.size < buffer.capacity then buffer.capacity
    else max (2 * buffer.capacity) minGrown
  size_le := by
    have size_le := buffer.size_le
    rw [Array.size_push]
    split
    · omega
    · simp only [minGrown]
      omega

/-- The buffer without its slots. -/
def cleared (buffer : Buffer) : Buffer where
  slots := #[]
  capacity := buffer.capacity
  size_le := by simp

/-- Slots of a batch that is collected in this buffer. -/
def batchSize (buffer : Buffer) : Nat := max buffer.capacity 1

end Buffer

/-- The collector's side of a visit of roots. -/
structure RootSink (State : Type) where
  /-- Hands out the first buffer. -/
  acquire : Action State Buffer
  /-- Takes a batch and hands out the buffer for the next one. -/
  report : Buffer → Action State Buffer
  /-- Takes back the last buffer. -/
  release : Buffer → Action State Unit := fun _ => pure ()

/-- The sink of a part of a larger state. -/
def RootSink.onPart {State Part : Type} (get : State → Part) (put : Part → State → State)
    (sink : RootSink Part) : RootSink State where
  acquire := Action.onPart get put sink.acquire
  report buffer := Action.onPart get put (sink.report buffer)
  release buffer := Action.onPart get put (sink.release buffer)

/-- A batch under way. -/
structure Batch where
  /-- Slots visited since the last flush. -/
  buffer : Buffer
  /-- Slots at which the batch is flushed. -/
  limit : Nat
  /-- Batches flushed so far. -/
  flushes : Nat := 0
  /-- Slots visited so far. -/
  visited : Nat := 0

namespace Batch

variable {State : Type}

/-- Begins a batch in a buffer of the sink. -/
def start (sink : RootSink State) : Action State Batch := fun state =>
  match sink.acquire state with
  | .ok buffer after => .ok { buffer := buffer, limit := buffer.batchSize } after
  | .error fault after => .error fault after

/--
Hands the buffer to the sink and goes on in the one that comes back.  The buffer is gone before the
sink looks at it, so a fault of the sink leaves none.
-/
def flush (sink : RootSink State) : Action (Batch × State) Unit := fun (batch, state) =>
  match sink.report batch.buffer state with
  | .ok fresh after =>
      .ok ()
        ({ batch with
            buffer := fresh.cleared
            limit := fresh.batchSize
            flushes := batch.flushes + 1 }, after)
  | .error fault after => .error fault ({ batch with buffer := .none }, after)

/-- Visits one slot and flushes a batch that is complete. -/
def visit (sink : RootSink State) (slot : Address) : Action (Batch × State) Unit :=
    fun (batch, state) =>
  let grown : Batch :=
    { batch with
      buffer := batch.buffer.push slot
      visited := batch.visited + 1 }
  if grown.limit ≤ grown.buffer.slots.size then flush sink (grown, state)
  else .ok () (grown, state)

/-- Ends a batch: flushes what is left, then releases the buffer. -/
def finish (sink : RootSink State) : Action (Batch × State) Unit := fun (batch, state) =>
  let flushed : Ending (Batch × State) Unit :=
    if batch.buffer.slots.isEmpty then .ok () (batch, state) else flush sink (batch, state)
  match flushed with
  | .ok _ (batch, state) =>
      match sink.release batch.buffer state with
      | .ok _ after => .ok () ({ batch with buffer := .none }, after)
      | .error fault after => .error fault ({ batch with buffer := .none }, after)
  | .error fault after => .error fault after

end Batch

namespace RootSink

variable {State : Type}

/--
Runs a visit with a batch that is started before it and finished after it, also when the visit met a
fault, and answers how many slots were visited.  Finishing after a fault must not meet another one.
-/
def collect (sink : RootSink State) (visits : Action (Batch × State) Unit) : Action State Nat :=
    fun state =>
  match Batch.start sink state with
  | .error fault after => .error fault after
  | .ok batch started =>
      match visits (batch, started) with
      | .ok _ (batch, visited) =>
          match Batch.finish sink (batch, visited) with
          | .ok _ (_, after) => .ok batch.visited after
          | .error fault (_, after) => .error fault after
      | .error fault (batch, visited) =>
          match Batch.finish sink (batch, visited) with
          | .ok _ (_, after) => .error fault after
          | .error _ (_, after) => .error .cleanupFailed after

end RootSink

end Safepoint.Roots
