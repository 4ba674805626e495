import Mathlib.Logic.Basic

/-!
# The ring buffer (`shared/ring-buffer.c`)

A byte queue over a caller-supplied buffer whose size is a power of two, so that
an index wraps by masking. One slot is always left empty: equal indices mean an
empty buffer, and a write that would make them equal is refused.

A buffer access outside the `size` bytes behind `rb->buffer` would be undefined;
here it makes the whole operation `none`.

The module is written for one producer and one consumer that interrupt each
other. `producerStep` and `consumerStep` are the same two functions cut at every
access to shared memory, with the local variables kept in a program counter.
-/

namespace FwCore

/-- `ring_buffer_t`, together with the bytes `buffer` points to. -/
structure RingBuffer where
  buffer : List UInt8
  mask : UInt32
  readIndex : UInt32
  writeIndex : UInt32
deriving DecidableEq, Repr

/-- `ring_buffer_setup`. -/
def ringBufferSetup (buffer : List UInt8) (size : UInt32) : RingBuffer where
  buffer := buffer
  readIndex := 0
  writeIndex := 0
  mask := size - 1

/-- `ring_buffer_empty`. -/
def ringBufferEmpty (rb : RingBuffer) : Bool := rb.readIndex == rb.writeIndex

/-- `ring_buffer_read`: the answer, the buffer and the caller's `*byte` afterwards. -/
def ringBufferRead (rb : RingBuffer) (byte : UInt8) : Option (Bool × RingBuffer × UInt8) :=
  let localReadIndex := rb.readIndex
  let localWriteIndex := rb.writeIndex
  if localReadIndex = localWriteIndex then some (false, rb, byte)
  else do
    let byte ← rb.buffer[localReadIndex.toNat]?
    let localReadIndex := (localReadIndex + 1) &&& rb.mask
    some (true, { rb with readIndex := localReadIndex }, byte)

/-- `ring_buffer_write`. -/
def ringBufferWrite (rb : RingBuffer) (byte : UInt8) : Option (Bool × RingBuffer) :=
  let localWriteIndex := rb.writeIndex
  let localReadIndex := rb.readIndex
  let nextWriteIndex := (localWriteIndex + 1) &&& rb.mask
  if nextWriteIndex = localReadIndex then some (false, rb)
  else if localWriteIndex.toNat < rb.buffer.length then
    some (true, { rb with
      buffer := rb.buffer.set localWriteIndex.toNat byte
      writeIndex := nextWriteIndex })
  else none

/-! ## Sequences of whole calls -/

/-- One call. A read comes with what the caller's `*byte` holds before it. -/
inductive RingCall where
  | write (byte : UInt8)
  | read (byte : UInt8)
  | empty
deriving DecidableEq, Repr

/-- What one call answers. -/
inductive RingAnswer where
  | wrote (ok : Bool)
  | read (ok : Bool) (byte : UInt8)
  | empty (isEmpty : Bool)
deriving DecidableEq, Repr

/-- One call on the code's buffer. -/
def ringCall (rb : RingBuffer) : RingCall → Option (RingAnswer × RingBuffer)
  | .write byte => do
      let r ← ringBufferWrite rb byte
      some (.wrote r.1, r.2)
  | .read byte => do
      let r ← ringBufferRead rb byte
      some (.read r.1 r.2.2, r.2.1)
  | .empty => some (.empty (ringBufferEmpty rb), rb)

/-- A sequence of calls; `none` if one of them leaves the buffer's bytes. -/
def ringRun (rb : RingBuffer) : List RingCall → Option (List RingAnswer × RingBuffer)
  | [] => some ([], rb)
  | c :: cs => do
      let r ← ringCall rb c
      let rest ← ringRun r.2 cs
      some (r.1 :: rest.1, rest.2)

/-! ## One producer and one consumer, step by step -/

/-- Where the producer is inside `ring_buffer_write`. -/
inductive WriterPc where
  | idle
  /-- It has loaded `write_index`. -/
  | loaded (byte : UInt8) (writeIndex : UInt32)
  /-- It has loaded `read_index` and found room: the slot comes next. -/
  | storing (byte : UInt8) (writeIndex next : UInt32)
  /-- It has stored the slot: `write_index` comes next. -/
  | publishing (byte : UInt8) (writeIndex next : UInt32)
deriving DecidableEq, Repr

/-- Where the consumer is inside `ring_buffer_read`. -/
inductive ReaderPc where
  | idle
  /-- It has loaded `read_index`. -/
  | loaded (readIndex : UInt32)
  /-- It has loaded `write_index` and found a byte: the slot comes next. -/
  | fetching (readIndex : UInt32)
  /-- It has loaded the slot: `read_index` comes next. -/
  | releasing (readIndex : UInt32) (byte : UInt8)
deriving DecidableEq, Repr

/-- The slot the producer is storing into, until `write_index` covers it. -/
def WriterPc.slot : WriterPc → Option UInt32
  | .storing _ w _ => some w
  | .publishing _ w _ => some w
  | _ => none

/-- The slot the consumer has selected, until `read_index` releases it. -/
def ReaderPc.slot : ReaderPc → Option UInt32
  | .fetching r => some r
  | .releasing r _ => some r
  | _ => none

/-- The shared buffer, both program counters, and ghost records of what was answered. -/
structure RingWorld where
  rb : RingBuffer
  writer : WriterPc
  reader : ReaderPc
  /-- Ghost: the bytes of the writes that have stored `write_index`. -/
  committed : List UInt8
  /-- Ghost: the bytes returned by successful reads. -/
  returned : List UInt8
  /-- Ghost: for each write that returned `false`, the bytes held when it loaded `read_index`. -/
  refusedWrites : List Nat
  /-- Ghost: for each read that returned `false`, the bytes held when it loaded `write_index`. -/
  refusedReads : List Nat
deriving DecidableEq, Repr

/-- The bytes committed and not yet released. -/
def RingWorld.held (w : RingWorld) : Nat := w.committed.length - w.returned.length

/-- Both sides idle, over a freshly set up buffer. -/
def RingWorld.init (rb : RingBuffer) : RingWorld := ⟨rb, .idle, .idle, [], [], [], []⟩

/-- The producer's next step; `byte` is used when it starts a call. -/
def producerStep (byte : UInt8) (w : RingWorld) : RingWorld :=
  match w.writer with
  | .idle => { w with writer := .loaded byte w.rb.writeIndex }
  | .loaded byte localWriteIndex =>
    let localReadIndex := w.rb.readIndex
    let next := (localWriteIndex + 1) &&& w.rb.mask
    if next = localReadIndex then
      { w with writer := .idle, refusedWrites := w.refusedWrites ++ [w.held] }
    else { w with writer := .storing byte localWriteIndex next }
  | .storing byte localWriteIndex next =>
    { w with
      rb := { w.rb with buffer := w.rb.buffer.set localWriteIndex.toNat byte }
      writer := .publishing byte localWriteIndex next }
  | .publishing byte _ next =>
    { w with
      rb := { w.rb with writeIndex := next }
      writer := .idle
      committed := w.committed ++ [byte] }

/-- The consumer's next step. -/
def consumerStep (w : RingWorld) : RingWorld :=
  match w.reader with
  | .idle => { w with reader := .loaded w.rb.readIndex }
  | .loaded localReadIndex =>
    let localWriteIndex := w.rb.writeIndex
    if localReadIndex = localWriteIndex then
      { w with reader := .idle, refusedReads := w.refusedReads ++ [w.held] }
    else { w with reader := .fetching localReadIndex }
  | .fetching localReadIndex =>
    { w with reader := .releasing localReadIndex (w.rb.buffer.getD localReadIndex.toNat 0) }
  | .releasing localReadIndex byte =>
    { w with
      rb := { w.rb with readIndex := (localReadIndex + 1) &&& w.rb.mask }
      reader := .idle
      returned := w.returned ++ [byte] }

/-- Whose step comes next. -/
inductive Turn where
  | producer (byte : UInt8)
  | consumer
deriving DecidableEq, Repr

def RingWorld.step (w : RingWorld) : Turn → RingWorld
  | .producer byte => producerStep byte w
  | .consumer => consumerStep w

/-- The call that a step brings to its end, with its answer. A read looks at no `*byte`. -/
def RingWorld.completes (w : RingWorld) : Turn → Option (RingCall × RingAnswer)
  | .producer _ =>
    match w.writer with
    | .loaded byte localWriteIndex =>
      if (localWriteIndex + 1) &&& w.rb.mask = w.rb.readIndex then
        some (.write byte, .wrote false)
      else none
    | .publishing byte _ _ => some (.write byte, .wrote true)
    | _ => none
  | .consumer =>
    match w.reader with
    | .loaded localReadIndex =>
      if localReadIndex = w.rb.writeIndex then some (.read 0, .read false 0) else none
    | .releasing _ byte => some (.read 0, .read true byte)
    | _ => none

/-- An interleaving of the two sides' steps. -/
def RingWorld.run (w : RingWorld) (turns : List Turn) : RingWorld := turns.foldl RingWorld.step w

end FwCore
