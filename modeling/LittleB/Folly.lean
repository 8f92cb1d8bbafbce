import LittleB.Foundations.Bytes
import LittleB.Foundations.Rope

/-!
The buffers of folly as far as the handlers of `libsrc/handlers` use them.

* `Fault`: what keeps a call from returning, an exception or a broken
  precondition;
* `IOBuf`: a chain of segments seen from its first one; `data`, `length` and
  `trimStart` act on that segment only, `computeChainDataLength` and a `Cursor`
  on the whole chain;
* `IOBufQueue`: the rope of what a socket has delivered and no decoder has
  consumed yet; `trimStart` and `split` throw when they ask for too much.
-/

namespace LittleB

/-- What keeps a call from returning normally. -/
inductive Fault where
  /-- `std::out_of_range`, thrown by a `Cursor` that runs off its chain. -/
  | out_of_range
  /-- `std::underflow_error`, thrown by an `IOBufQueue`. -/
  | underflow_error
  /-- `IOBuf::trimStart` by more than the first segment holds: undefined. -/
  | trimStart_precondition
  /-- A variable is read that no case of a `switch` has assigned. -/
  | uninitialized
  /-- The fuel of a loop is used up. -/
  | diverges
  deriving DecidableEq, Repr

/-! ### Chains of segments -/

/-- An `IOBuf`, the first segment of a chain, with the segments behind it. -/
structure IOBuf where
  data : Bytes
  next : List Bytes
  deriving DecidableEq, Repr

namespace IOBuf

/-- The number of octets of the first segment. -/
def length (buf : IOBuf) : ℕ := buf.data.length

/-- The octets of the whole chain. -/
def chain (buf : IOBuf) : Bytes := buf.data ++ buf.next.flatten

/-- The number of octets of the whole chain. -/
def computeChainDataLength (buf : IOBuf) : ℕ := buf.chain.length

/-- Drops octets of the first segment, which has to hold that many. -/
def trimStart (buf : IOBuf) (amount : ℕ) : Except Fault IOBuf :=
  if amount ≤ buf.length then .ok { buf with data := buf.data.drop amount }
  else .error .trimStart_precondition

/-- The chain in one segment. -/
def single (bs : Bytes) : IOBuf := ⟨bs, []⟩

@[simp] lemma chain_single (bs : Bytes) : (single bs).chain = bs := by simp [single, chain]

end IOBuf

namespace Cursor

/-- A cursor on the octets `bs` of a chain moves past `n` of them. -/
def skip (bs : Bytes) (n : ℕ) : Except Fault Bytes :=
  if n ≤ bs.length then .ok (bs.drop n) else .error .out_of_range

/-- A cursor on the octets `bs` of a chain reads `k` of them. -/
def read (bs : Bytes) (k : ℕ) : Except Fault Bytes :=
  if k ≤ bs.length then .ok (bs.take k) else .error .out_of_range

lemma skip_of_le {bs : Bytes} {n : ℕ} (h : n ≤ bs.length) : skip bs n = .ok (bs.drop n) := by
  rw [skip, if_pos h]

lemma read_of_le {bs : Bytes} {k : ℕ} (h : k ≤ bs.length) : read bs k = .ok (bs.take k) := by
  rw [read, if_pos h]

end Cursor

/-! ### Queues -/

/-- What has been read from the socket and not been consumed, in the segments it
arrived in. -/
abbrev IOBufQueue := Rope UInt8

namespace IOBufQueue

/-- The number of octets in the queue. -/
def chainLength (q : IOBufQueue) : ℕ := Rope.length q

/-- Drops octets, which have to be there. -/
def trimStart (q : IOBufQueue) (amount : ℕ) : Except Fault IOBufQueue :=
  if amount ≤ chainLength q then .ok (q.drop amount) else .error .underflow_error

/-- Drops octets, as many as are there. -/
def trimStartAtMost (q : IOBufQueue) (amount : ℕ) : IOBufQueue := q.drop amount

/-- Cuts the first `n` octets off as a chain of their own, one empty segment when
`n = 0`. -/
def split (q : IOBufQueue) (n : ℕ) : Except Fault (IOBuf × IOBufQueue) :=
  if n ≤ chainLength q then .ok (⟨(q.take n).head, (q.take n).tail⟩, q.drop n)
  else .error .underflow_error

@[simp] lemma chainLength_eq (q : IOBufQueue) : chainLength q = q.flat.length := Rope.length_eq q

lemma trimStart_of_le {q : IOBufQueue} {n : ℕ} (h : n ≤ q.flat.length) :
    trimStart q n = .ok (q.drop n) := by
  rw [trimStart, chainLength_eq, if_pos h]

lemma split_of_le {q : IOBufQueue} {n : ℕ} (h : n ≤ q.flat.length) :
    split q n = .ok (⟨(q.take n).head, (q.take n).tail⟩, q.drop n) := by
  rw [split, chainLength_eq, if_pos h]

/-- The chain cut off a queue carries the first octets of the queue. -/
lemma chain_take (q : IOBufQueue) (n : ℕ) :
    IOBuf.chain ⟨(q.take n).head, (q.take n).tail⟩ = q.flat.take n := by
  rw [IOBuf.chain, Rope.head_append_flatten_tail, Rope.flat_take]

end IOBufQueue

end LittleB
