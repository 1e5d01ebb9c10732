/-
  The COMMAND FIFO answers as a BOUNDED QUEUE.

  Software that pushes, pops, looks at a word or clears sees answers, and nothing of the ring.  The
  same calls can be put to a list that keeps its newest twelve words (`queueAnswer`), and the
  answers are the same.

  1. **One call**: a valid ring and the list of its words give the same answer, and behind the call
     the ring is valid again and its words are the list (`Holds.answer`).  The one call that is not
     plain from the list operations is a push onto a full ring, where the head follows the tail.

  2. **Any calls**: by induction on them, from the empty ring on (`respond_empty`).
-/
import PlayStation.Proofs.Gpu.CommandFifo

namespace PlayStation.Gpu.CommandFifo

/-! ## Calls -/

/-- A call of the FIFO. -/
inductive Call where
  | push (word : UInt32)
  | pop
  /-- Looks at the word `i` places behind the oldest one. -/
  | peekAt (i : Nat)
  | clear
deriving DecidableEq, Repr

/-- What a call answers. -/
inductive Answer where
  /-- There was room for the word, or not. -/
  | room (ok : Bool)
  /-- A word, if there is one. -/
  | word (word : Option UInt32)
  | cleared
deriving DecidableEq, Repr

/-- The ring's answer to a call, and the ring behind it. -/
def answer (q : CommandFifo) : Call → Answer × CommandFifo
  | .push word =>
    let (ok, q) := q.push word
    (.room ok, q)
  | .pop =>
    match q.pop? with
    | none => (.word none, q)
    | some (word, q) => (.word (some word), q)
  | .peekAt i => (.word (q.get? i), q)
  | .clear => (.cleared, q.clear)

/-- The answers to some calls, one behind the other, and what they lead to. -/
def respond {σ : Type} (step : σ → Call → Answer × σ) (s : σ) : List Call → List Answer × σ
  | [] => ([], s)
  | call :: calls =>
    let (first, s) := step s call
    let (rest, s) := respond step s calls
    (first :: rest, s)

/-! ## The queue -/

/-- The newest words, as many as the FIFO holds. -/
def newest (words : List UInt32) : List UInt32 := words.drop (words.length - fifoCapacity)

/-- A queue's answer to a call, and the queue behind it: oldest word first, and a push onto twelve
words drops the oldest. -/
def queueAnswer (words : List UInt32) : Call → Answer × List UInt32
  | .push word => (.room (words.length < fifoCapacity), newest (words ++ [word]))
  | .pop => (.word words.head?, words.tail)
  | .peekAt i => (.word words[i]?, words)
  | .clear => (.cleared, [])

theorem newest_of_le {words : List UInt32} (h : words.length ≤ fifoCapacity) :
    newest words = words := by
  rw [newest, Nat.sub_eq_zero_of_le h, List.drop_zero]

/-- One word too many, and the oldest one goes. -/
theorem newest_of_succ {words : List UInt32} (h : words.length = fifoCapacity + 1) :
    newest words = words.tail := by
  rw [newest, h, Nat.add_sub_cancel_left, List.drop_one]

/-! ## One call -/

/-- A valid ring with these words waiting. -/
structure Holds (q : CommandFifo) (words : List UInt32) : Prop where
  valid : q.Valid
  toList : q.toList = words

namespace Holds

variable {q : CommandFifo} {words : List UInt32}

theorem size (h : q.Holds words) : q.size = words.length := by
  rw [← h.toList, length_toList]

theorem push (h : q.Holds words) (word : UInt32) :
    (q.push word).1 = decide (words.length < fifoCapacity) ∧
      (q.push word).2.Holds (newest (words ++ [word])) := by
  have hlength : (words ++ [word]).length = words.length + 1 := List.length_append
  have hle : words.length ≤ fifoCapacity := h.size ▸ h.valid.size
  cases hfull : q.isFull with
  | false =>
    have hne : words.length ≠ fifoCapacity := h.size ▸ ne_of_beq_false hfull
    have hlt : words.length < fifoCapacity := Nat.lt_of_le_of_ne hle hne
    refine ⟨?_, valid_push h.valid word, ?_⟩
    · rw [CommandFifo.push, hfull, decide_eq_true hlt]
      rfl
    · rw [toList_push h.valid hfull, h.toList, newest_of_le (by omega)]
  | true =>
    have heq : words.length = fifoCapacity := h.size ▸ eq_of_beq hfull
    refine ⟨?_, valid_push h.valid word, ?_⟩
    · rw [CommandFifo.push, hfull, decide_eq_false (by omega)]
      rfl
    · -- twelve words are not none, so the oldest of all is the oldest of the twelve
      have hsome : words ≠ [] := by
        rintro rfl
        cases heq
      rw [toList_push_of_full h.valid hfull, h.toList, newest_of_succ (by omega),
        List.tail_append_of_ne_nil hsome]

theorem clear (q : CommandFifo) : q.clear.Holds [] := ⟨valid_clear q, rfl⟩

/-- **One call** is answered alike, and leads to a ring with the words of the queue. -/
theorem answer (h : q.Holds words) (call : Call) :
    (q.answer call).1 = (queueAnswer words call).1 ∧
      (q.answer call).2.Holds (queueAnswer words call).2 := by
  cases call with
  | push word =>
    obtain ⟨hroom, hholds⟩ := h.push word
    exact ⟨congrArg Answer.room hroom, hholds⟩
  | pop =>
    have hpop := q.pop?_eq
    rw [h.toList] at hpop
    unfold CommandFifo.answer
    cases hq : q.pop? with
    | none =>
      rw [hq] at hpop
      have hnil : words = [] := hpop
      subst hnil
      exact ⟨rfl, h⟩
    | some popped =>
      obtain ⟨word, q'⟩ := popped
      rw [hq] at hpop
      have hcons : words = word :: q'.toList := hpop
      subst hcons
      exact ⟨rfl, valid_pop? h.valid hq, rfl⟩
  | peekAt i =>
    refine ⟨congrArg Answer.word ?_, h⟩
    rw [get?_eq, h.toList]
  | clear => exact ⟨rfl, .clear q⟩

/-! ## Any calls -/

/-- **Any calls** are answered alike. -/
theorem responses (h : q.Holds words) (calls : List Call) :
    (respond CommandFifo.answer q calls).1 = (respond queueAnswer words calls).1 ∧
      (respond CommandFifo.answer q calls).2.Holds
        (respond queueAnswer words calls).2 := by
  induction calls generalizing q words with
  | nil => exact ⟨rfl, h⟩
  | cons call calls ih =>
    obtain ⟨hfirst, hnext⟩ := h.answer call
    obtain ⟨hrest, hlast⟩ := ih hnext
    exact ⟨List.cons_eq_cons.2 ⟨hfirst, hrest⟩, hlast⟩

end Holds

/-- **The FIFO is a queue of twelve words**, whatever is done with it from power-on. -/
theorem respond_empty (calls : List Call) :
    (respond answer empty calls).1 = (respond queueAnswer [] calls).1 ∧
      let q := (respond answer empty calls).2
      let words := (respond queueAnswer [] calls).2
      q.size = words.length ∧ q.toList = words ∧ (∀ i, q.get? i = words[i]?) ∧
        q.size ≤ 12 ∧ q.head.val < 12 ∧ q.tail.val = (q.head.val + q.size) % 12 := by
  have hempty : empty.Holds [] := ⟨valid_empty, rfl⟩
  obtain ⟨hanswers, hholds⟩ := hempty.responses calls
  refine ⟨hanswers, hholds.size, hholds.toList, ?_, hholds.valid.size, Fin.isLt _, ?_⟩
  · intro i
    rw [get?_eq, hholds.toList]
  · exact congrArg Fin.val hholds.valid.tail

/-- Of thirteen words, the second is the oldest that is left. -/
example : (respond answer empty
    ((List.range 13).map (fun n => Call.push (UInt32.ofNat n)) ++ [.pop])).1.drop 12 =
      [.room false, .word (some 1)] := by
  decide

end PlayStation.Gpu.CommandFifo
