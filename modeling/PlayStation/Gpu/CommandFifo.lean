/-
  The COMMAND FIFO: twelve words in a ring.

  Words are put in at the tail and taken out at the head.  A word pushed onto a full ring lands on
  the oldest one, and the head moves past it: the queue keeps the newest twelve.
-/
import PlayStation.Table

namespace PlayStation.Gpu

/-- The number of words the FIFO holds. -/
def fifoCapacity : Nat := 12

/-- A ring of command words. -/
structure CommandFifo where
  entries : Table UInt32 fifoCapacity
  /-- Where the oldest word is. -/
  head : Fin fifoCapacity
  /-- Where the next word goes. -/
  tail : Fin fifoCapacity
  /-- How many words are waiting. -/
  size : Nat
deriving DecidableEq, Repr

namespace CommandFifo

/-- The first place of the ring. -/
def first : Fin fifoCapacity := ⟨0, by decide⟩

/-- A ring without words. -/
def empty : CommandFifo := ⟨Vector.replicate fifoCapacity 0, first, first, 0⟩

instance : Inhabited CommandFifo := ⟨empty⟩

@[inline] def isEmpty (q : CommandFifo) : Bool := q.size == 0

@[inline] def isFull (q : CommandFifo) : Bool := q.size == fifoCapacity

/-- The place `n` behind `i`, around the ring. -/
@[inline] def behind (i : Fin fifoCapacity) (n : Nat) : Fin fifoCapacity :=
  ⟨(i.val + n) % fifoCapacity, Nat.mod_lt _ (by decide)⟩

/-- Appends a word; the flag says whether there was room for it. -/
def push (q : CommandFifo) (word : UInt32) : Bool × CommandFifo :=
  if q.isFull then
    (false,
      { q with
        entries := q.entries.put q.tail word
        tail := behind q.tail 1
        head := behind q.tail 1 })
  else
    (true,
      { q with
        entries := q.entries.put q.tail word
        tail := behind q.tail 1
        size := q.size + 1 })

/-- The word `i` places behind the oldest one. -/
def get? (q : CommandFifo) (i : Nat) : Option UInt32 :=
  if i < q.size then some (q.entries.entry (behind q.head i)) else none

/-- The oldest word. -/
def peek? (q : CommandFifo) : Option UInt32 := q.get? 0

/-- Takes out the oldest word. -/
def pop? (q : CommandFifo) : Option (UInt32 × CommandFifo) :=
  if q.isEmpty then none
  else some (q.entries.entry q.head, { q with head := behind q.head 1, size := q.size - 1 })

/-- Takes out the oldest `n` words, or as many as there are. -/
def take (q : CommandFifo) : Nat → List UInt32 × CommandFifo
  | 0 => ([], q)
  | n + 1 =>
    match q.pop? with
    | none => ([], q)
    | some (word, q) =>
      let (words, q) := q.take n
      (word :: words, q)

/-- Forgets all words and starts at the first place again. -/
def clear (q : CommandFifo) : CommandFifo :=
  { q with head := first, tail := first, size := 0 }

/-- The waiting words, oldest first. -/
def toList (q : CommandFifo) : List UInt32 :=
  (List.range q.size).map fun i => q.entries.entry (behind q.head i)

end CommandFifo

end PlayStation.Gpu
