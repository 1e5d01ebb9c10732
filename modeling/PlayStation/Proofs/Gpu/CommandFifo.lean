/-
  The COMMAND FIFO is a queue.

  Where the ring begins is of no interest to anyone: what counts are the waiting words, oldest
  first (`toList`).  A ring is `Valid` when its tail lies `size` places behind its head; then every
  operation is one on the list.

    push   appends, if there is room; if not, the oldest word goes
    pop?   takes the first word off
    take   splits the list
-/
import PlayStation.Gpu.CommandFifo

namespace PlayStation.Gpu.CommandFifo

/-- The tail lies as many places behind the head as there are words. -/
structure Valid (q : CommandFifo) : Prop where
  size : q.size ≤ fifoCapacity
  tail : q.tail = behind q.head q.size

/-! ## Places around the ring -/

theorem behind_zero (i : Fin fifoCapacity) : behind i 0 = i :=
  Fin.ext (Nat.mod_eq_of_lt i.isLt)

theorem behind_behind (i : Fin fifoCapacity) (m n : Nat) :
    behind (behind i m) n = behind i (m + n) := by
  apply Fin.ext
  show ((i.val + m) % fifoCapacity + n) % fifoCapacity = (i.val + (m + n)) % fifoCapacity
  rw [Nat.mod_add_mod, Nat.add_assoc]

/-- All the way around is back at the start. -/
theorem behind_capacity (i : Fin fifoCapacity) : behind i fifoCapacity = i := by
  apply Fin.ext
  show (i.val + fifoCapacity) % fifoCapacity = i.val
  rw [Nat.add_mod_right, Nat.mod_eq_of_lt i.isLt]

/-- The places less than a turn behind one place are different. -/
theorem behind_ne {i : Fin fifoCapacity} {m n : Nat} (hlt : m < n) (hn : n < m + fifoCapacity) :
    behind i m ≠ behind i n := by
  intro h
  have hval : (i.val + m) % fifoCapacity = (i.val + n) % fifoCapacity := congrArg Fin.val h
  unfold fifoCapacity at hval hn
  omega

/-! ## The list -/

theorem length_toList (q : CommandFifo) : q.toList.length = q.size := by
  rw [toList, List.length_map, List.length_range]

theorem toList_of_isEmpty {q : CommandFifo} (h : q.isEmpty = true) : q.toList = [] := by
  have hsize : q.size = 0 := eq_of_beq h
  rw [toList, hsize]
  rfl

/-- The word `i` places behind the oldest one is the one at place `i` of the list. -/
theorem get?_eq (q : CommandFifo) (i : Nat) : q.get? i = q.toList[i]? := by
  rw [get?, toList]
  by_cases h : i < q.size
  · rw [if_pos h, List.getElem?_map, List.getElem?_range h]
    rfl
  · rw [if_neg h, List.getElem?_eq_none]
    rw [List.length_map, List.length_range]
    omega

theorem peek?_eq (q : CommandFifo) : q.peek? = q.toList.head? := by
  rw [peek?, get?_eq, List.head?_eq_getElem?]

/-- The list begins with the word at the head. -/
theorem toList_of_size {q : CommandFifo} {n : Nat} (h : q.size = n + 1) :
    q.toList = q.entries.entry q.head ::
      toList { q with head := behind q.head 1, size := n } := by
  rw [toList, h, List.range_succ_eq_map, List.map_cons, List.map_map, behind_zero, toList]
  congr 1
  apply List.map_congr_left
  intro i _
  show q.entries.entry (behind q.head (i + 1)) = q.entries.entry (behind (behind q.head 1) i)
  rw [behind_behind, Nat.add_comm]

/-! ## Taking words out -/

theorem pop?_eq (q : CommandFifo) :
    match q.pop? with
    | none => q.toList = []
    | some (word, q') => q.toList = word :: q'.toList := by
  rw [pop?]
  by_cases h : q.isEmpty = true
  · rw [if_pos h]
    exact toList_of_isEmpty h
  · rw [if_neg h]
    have hsize : q.size ≠ 0 := fun hzero => h (beq_iff_eq.2 hzero)
    exact toList_of_size (n := q.size - 1) (by omega)

theorem valid_pop? {q q' : CommandFifo} {word : UInt32} (hq : q.Valid)
    (h : q.pop? = some (word, q')) : q'.Valid := by
  rw [pop?] at h
  by_cases hempty : q.isEmpty = true
  · rw [if_pos hempty] at h
    cases h
  · rw [if_neg hempty] at h
    have hsize : q.size ≠ 0 := fun hzero => hempty (beq_iff_eq.2 hzero)
    cases h
    refine ⟨Nat.le_trans (Nat.sub_le _ _) hq.size, ?_⟩
    show q.tail = behind (behind q.head 1) (q.size - 1)
    rw [behind_behind, hq.tail]
    congr 1
    omega

/-- Taking words splits the list. -/
theorem take_eq (n : Nat) : ∀ q : CommandFifo,
    (q.take n).1 = q.toList.take n ∧ (q.take n).2.toList = q.toList.drop n := by
  induction n with
  | zero => exact fun q => ⟨rfl, rfl⟩
  | succ n ih =>
    intro q
    have hpop := pop?_eq q
    rw [take]
    cases h : q.pop? with
    | none =>
      rw [h] at hpop
      have hnil : q.toList = [] := hpop
      rw [hnil]
      exact ⟨rfl, rfl⟩
    | some popped =>
      obtain ⟨word, q'⟩ := popped
      rw [h] at hpop
      obtain ⟨hwords, hrest⟩ := ih q'
      rw [hpop, List.take_succ_cons, List.drop_succ_cons, ← hwords, ← hrest]
      exact ⟨rfl, rfl⟩

theorem valid_take (n : Nat) : ∀ {q : CommandFifo}, q.Valid → (q.take n).2.Valid := by
  induction n with
  | zero => exact fun hq => hq
  | succ n ih =>
    intro q hq
    rw [take]
    cases h : q.pop? with
    | none => exact hq
    | some popped => exact ih (valid_pop? hq h)

/-! ## Putting words in -/

theorem toList_push {q : CommandFifo} (hq : q.Valid) (h : q.isFull = false) (word : UInt32) :
    (q.push word).2.toList = q.toList ++ [word] := by
  have hsize : q.size < fifoCapacity :=
    Nat.lt_of_le_of_ne hq.size (ne_of_beq_false h)
  have hlast : behind q.head q.size = q.tail := hq.tail.symm
  rw [push, h]
  show (List.range (q.size + 1)).map
    (fun i => (q.entries.put q.tail word).entry (behind q.head i)) = _
  rw [List.range_succ, List.map_append, toList]
  congr 1
  · -- the words that were there do not lie at the tail
    apply List.map_congr_left
    intro i hi
    have hlt : i < q.size := List.mem_range.1 hi
    refine Table.entry_put_of_ne _ _ fun heq => ?_
    rw [← hlast] at heq
    exact behind_ne hlt (by omega) heq.symm
  · rw [List.map_singleton, hlast, Table.entry_put_self]

/-- Onto a full ring, a word takes the place of the oldest one. -/
theorem toList_push_of_full {q : CommandFifo} (hq : q.Valid) (h : q.isFull = true)
    (word : UInt32) : (q.push word).2.toList = q.toList.tail ++ [word] := by
  have hsize : q.size = 11 + 1 := eq_of_beq h
  have htail : q.tail = q.head := by
    rw [hq.tail, hsize]
    exact behind_capacity q.head
  rw [push, h, if_pos rfl, toList_of_size hsize, List.tail_cons, htail]
  show (List.range q.size).map
    (fun i => (q.entries.put q.head word).entry (behind (behind q.head 1) i)) = _
  rw [hsize, List.range_succ, List.map_append, toList]
  congr 1
  · -- of the twelve places behind the head, only the last one is the head again
    apply List.map_congr_left
    intro i hi
    have hlt : i < 11 := List.mem_range.1 hi
    refine Table.entry_put_of_ne _ _ fun heq => ?_
    rw [behind_behind] at heq
    have hne : behind q.head 0 ≠ behind q.head (1 + i) :=
      behind_ne (by omega) (by unfold fifoCapacity; omega)
    rw [behind_zero] at hne
    exact hne heq
  · have hlast : behind q.head (1 + 11) = q.head := behind_capacity q.head
    rw [List.map_singleton, behind_behind, hlast, Table.entry_put_self]

theorem size_push_le (q : CommandFifo) (word : UInt32) : (q.push word).2.size ≤ q.size + 1 := by
  rw [push]
  split
  · exact Nat.le_succ _
  · exact Nat.le_refl _

theorem valid_push {q : CommandFifo} (hq : q.Valid) (word : UInt32) : (q.push word).2.Valid := by
  rw [push]
  by_cases h : q.isFull = true
  · rw [if_pos h]
    refine ⟨hq.size, ?_⟩
    have hsize : q.size = fifoCapacity := eq_of_beq h
    show behind q.tail 1 = behind (behind q.tail 1) q.size
    rw [hsize, behind_capacity]
  · rw [if_neg h]
    have hsize : q.size ≠ fifoCapacity := fun hfull => h (beq_iff_eq.2 hfull)
    refine ⟨Nat.lt_of_le_of_ne hq.size hsize, ?_⟩
    show behind q.tail 1 = behind q.head (q.size + 1)
    rw [hq.tail, behind_behind]

theorem valid_empty : empty.Valid := ⟨Nat.zero_le _, rfl⟩

theorem valid_clear (q : CommandFifo) : q.clear.Valid := ⟨Nat.zero_le _, rfl⟩

end PlayStation.Gpu.CommandFifo
