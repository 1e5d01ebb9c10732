/-
  Who gets the BUS.

  The controller goes through its channels, from the highest index down, and keeps the best so far.

  1. **Only eligible channels** are ever kept (`eligible_of_select`), and one that has been kept is
     only ever given up for another (`select_eq_none_iff`).  So a channel that alone is eligible has
     the bus (`select_of_only`).

  2. **Of several** the lowest priority number goes first, and of equal ones the highest index.
     This puts the channels in order, each in a place of its own (`rank`), and what is kept on the
     way down is never behind what was passed (`prefer_rank`, `rank_of_foldl`).  So the winner goes
     before all others (`select_eq_iff`).
-/
import PlayStation.Dma.Controller

namespace PlayStation.Dma

variable {dma : Dma} {i : ChannelIndex}

/-- A channel that may not have the bus changes nothing. -/
theorem prefer_of_not_eligible (best : Option ChannelIndex) (h : dma.eligible i = false) :
    dma.prefer best i = best := by
  unfold prefer
  rw [h]
  rfl

/-- An eligible channel leaves the bus to it or to the best so far. -/
theorem prefer_of_eligible (best : Option ChannelIndex) (h : dma.eligible i = true) :
    dma.prefer best i = some i ∨ (dma.prefer best i = best ∧ best.isSome = true) := by
  unfold prefer
  rw [h]
  cases best with
  | none => exact .inl rfl
  | some b =>
    by_cases hle : dma.dpcr.priority b ≤ dma.dpcr.priority i
    · exact .inr ⟨if_pos hle, rfl⟩
    · exact .inl (if_neg hle)

/-- What is kept was eligible, or was there at the start. -/
theorem eligible_of_foldl (order : List ChannelIndex) : ∀ best : Option ChannelIndex,
    order.foldl dma.prefer best = some i → dma.eligible i = true ∨ best = some i := by
  induction order with
  | nil => exact fun best h => .inr h
  | cons j order ih =>
    intro best h
    rcases ih _ h with heligible | hkept
    · exact .inl heligible
    · cases hj : dma.eligible j with
      | false =>
        rw [prefer_of_not_eligible best hj] at hkept
        exact .inr hkept
      | true =>
        rcases prefer_of_eligible best hj with hnew | ⟨hold, -⟩
        · have hsame : j = i := Option.some.inj (hnew.symm.trans hkept)
          exact .inl (hsame ▸ hj)
        · exact .inr (hold.symm.trans hkept)

/-- Nothing is kept only where there was nothing, neither at the start nor on the way. -/
theorem foldl_eq_none (order : List ChannelIndex) : ∀ best : Option ChannelIndex,
    order.foldl dma.prefer best = none ↔ best = none ∧ ∀ j ∈ order, dma.eligible j = false := by
  induction order with
  | nil => exact fun best => ⟨fun h => ⟨h, by simp⟩, fun h => h.1⟩
  | cons j order ih =>
    intro best
    rw [List.foldl_cons, ih, List.forall_mem_cons]
    cases hj : dma.eligible j with
    | false => rw [prefer_of_not_eligible best hj, eq_self_iff_true, true_and]
    | true =>
      rcases prefer_of_eligible best hj with hnew | ⟨hold, hsome⟩
      · simp [hnew]
      · cases best with
        | none => cases hsome
        | some b => simp [hold]

/-- The channel that has the bus is eligible. -/
theorem eligible_of_select (h : dma.select = some i) : dma.eligible i = true := by
  rcases eligible_of_foldl scanOrder none h with heligible | hnone
  · exact heligible
  · cases hnone

/-- The bus is free just if no channel is eligible. -/
theorem select_eq_none_iff : dma.select = none ↔ ∀ j, dma.eligible j = false := by
  have hall : ∀ j : ChannelIndex, j ∈ scanOrder := by decide
  rw [select, foldl_eq_none]
  exact ⟨fun h j => h.2 j (hall j), fun h => ⟨rfl, fun j _ => h j⟩⟩

/-- The choice depends on who is eligible, and on the priorities. -/
theorem select_congr {other : Dma} (hdpcr : dma.dpcr = other.dpcr)
    (heligible : ∀ j, dma.eligible j = other.eligible j) : dma.select = other.select := by
  have hprefer : dma.prefer = other.prefer := by
    funext best j
    unfold prefer
    rw [heligible j, hdpcr]
  rw [select, select, hprefer]

/-- **A channel that alone is eligible** has the bus. -/
theorem select_of_only (heligible : dma.eligible i = true)
    (honly : ∀ j, dma.eligible j = true → j = i) : dma.select = some i := by
  cases h : dma.select with
  | none =>
    rw [select_eq_none_iff.1 h i] at heligible
    cases heligible
  | some j => rw [honly j (eligible_of_select h)]

/-! ## The winner -/

/-- Channel `i` goes before channel `j`: its priority number is lower, or it is the same and `i` is
the higher index. -/
def Precedes (dma : Dma) (i j : ChannelIndex) : Prop :=
  dma.dpcr.priority i < dma.dpcr.priority j ∨
    (dma.dpcr.priority i = dma.dpcr.priority j ∧ j < i)

/-- The place of a channel when all are put in order. -/
def rank (dma : Dma) (i : ChannelIndex) : Nat := 7 * dma.dpcr.priority i + (6 - i.val)

theorem precedes_iff {j : ChannelIndex} : dma.Precedes i j ↔ dma.rank i < dma.rank j := by
  rw [Precedes, rank, rank, Fin.lt_def]
  omega

/-- No two channels have the same place. -/
theorem rank_injective {j : ChannelIndex} (h : dma.rank i = dma.rank j) : i = j := by
  rw [rank, rank] at h
  exact Fin.ext (by omega)

/-- On the way down, an eligible channel is kept or stays behind the best so far. -/
theorem prefer_rank {best : Option ChannelIndex} {j : ChannelIndex}
    (h : dma.eligible j = true) (hbelow : ∀ b ∈ best, j < b) :
    ∃ kept, dma.prefer best j = some kept ∧ (kept = j ∨ kept ∈ best) ∧
      dma.rank kept ≤ dma.rank j ∧ ∀ b ∈ best, dma.rank kept ≤ dma.rank b := by
  unfold prefer
  rw [h]
  cases best with
  | none => exact ⟨j, rfl, .inl rfl, Nat.le_refl _, nofun⟩
  | some b =>
    have hlt : j.val < b.val := hbelow b rfl
    have hkept : ∀ {kept}, dma.rank kept ≤ dma.rank b →
        ∀ c ∈ some b, dma.rank kept ≤ dma.rank c := by
      rintro kept hle _ ⟨⟩
      exact hle
    by_cases hle : dma.dpcr.priority b ≤ dma.dpcr.priority j
    · refine ⟨b, if_pos hle, .inr rfl, ?_, hkept (Nat.le_refl _)⟩
      rw [rank, rank]
      omega
    · refine ⟨j, if_neg hle, .inl rfl, Nat.le_refl _, hkept ?_⟩
      rw [rank, rank]
      omega

/-- What is kept in the end has the first place: before the best at the start, and before all
eligible channels on the way down. -/
theorem rank_of_foldl {order : List ChannelIndex} : ∀ {best : Option ChannelIndex},
    order.Pairwise (· > ·) → (∀ b ∈ best, ∀ j ∈ order, j < b) →
    order.foldl dma.prefer best = some i →
    (∀ b ∈ best, dma.rank i ≤ dma.rank b) ∧
      ∀ j ∈ order, dma.eligible j = true → dma.rank i ≤ dma.rank j := by
  induction order with
  | nil =>
    rintro best - - rfl
    exact ⟨by rintro _ ⟨⟩; exact Nat.le_refl _, nofun⟩
  | cons j order ih =>
    intro best hdown habove h
    obtain ⟨hbelow, hdown⟩ := List.pairwise_cons.1 hdown
    have hrest : ∀ b ∈ best, ∀ k ∈ order, k < b :=
      fun b hb k hk => habove b hb k (List.mem_cons_of_mem j hk)
    rw [List.foldl_cons] at h
    cases hj : dma.eligible j with
    | false =>
      rw [prefer_of_not_eligible best hj] at h
      obtain ⟨hbest, hothers⟩ := ih hdown hrest h
      refine ⟨hbest, List.forall_mem_cons.2 ⟨fun heligible => ?_, hothers⟩⟩
      rw [hj] at heligible
      cases heligible
    | true =>
      obtain ⟨kept, hkept, hone, hle, hbest⟩ :=
        prefer_rank hj fun b hb => habove b hb j List.mem_cons_self
      have hnext : ∀ b ∈ some kept, ∀ k ∈ order, k < b := by
        rintro _ ⟨⟩
        rcases hone with rfl | hmem
        · exact hbelow
        · exact hrest kept hmem
      rw [hkept] at h
      obtain ⟨hfirst, hothers⟩ := ih hdown hnext h
      have hi : dma.rank i ≤ dma.rank kept := hfirst kept rfl
      exact ⟨fun b hb => Nat.le_trans hi (hbest b hb),
        List.forall_mem_cons.2 ⟨fun _ => Nat.le_trans hi hle, hothers⟩⟩

/-- **The winner** is the eligible channel that goes before every other one.  There is none just if
no channel is both enabled and busy. -/
theorem select_eq_iff (dma : Dma) :
    (dma.select = none ↔ ¬∃ i, dma.dpcr.enabled i = true ∧ (dma.channel i).busy = true) ∧
    ∀ i, dma.select = some i ↔
      (dma.dpcr.enabled i = true ∧ (dma.channel i).busy = true) ∧
      ∀ j, dma.dpcr.enabled j = true → (dma.channel j).busy = true → j ≠ i → dma.Precedes i j := by
  have heligible : ∀ i, dma.eligible i = true ↔
      dma.dpcr.enabled i = true ∧ (dma.channel i).busy = true := by
    intro i
    rw [eligible, Bool.and_eq_true]
  have hall : ∀ j : ChannelIndex, j ∈ scanOrder := by decide
  have hdown : scanOrder.Pairwise (· > ·) := by decide
  have hfirst : ∀ {i}, dma.select = some i →
      ∀ j, dma.eligible j = true → dma.rank i ≤ dma.rank j :=
    fun h j => (rank_of_foldl hdown (fun b hb => absurd hb (Option.not_mem_none b)) h).2 j (hall j)
  refine ⟨?_, fun i => ⟨fun h => ⟨(heligible i).1 (eligible_of_select h), ?_⟩, fun h => ?_⟩⟩
  · rw [select_eq_none_iff, not_exists]
    exact forall_congr' fun i => by rw [← heligible, Bool.not_eq_true]
  · intro j hj hbusy hne
    have hle := hfirst h j ((heligible j).2 ⟨hj, hbusy⟩)
    exact precedes_iff.2 (Nat.lt_of_le_of_ne hle fun hsame => hne (rank_injective hsame).symm)
  · obtain ⟨hi, hbefore⟩ := h
    cases hselect : dma.select with
    | none =>
      have hno := select_eq_none_iff.1 hselect i
      rw [(heligible i).2 hi] at hno
      cases hno
    | some k =>
      -- the winner is not behind `i`, and no other channel is in front of it
      have hle := hfirst hselect i ((heligible i).2 hi)
      by_cases hki : k = i
      · rw [hki]
      · obtain ⟨hk, hbusy⟩ := (heligible k).1 (eligible_of_select hselect)
        have hlt := precedes_iff.1 (hbefore k hk hbusy hki)
        omega

end PlayStation.Dma
