/-
  A channel ALONE on the bus.

  While no other channel is eligible, and nobody writes the control register, a channel has the bus
  at every step until its transfer is over (`select_run`).  A schedule then does the first accesses
  on its plan (`plan_run`), and the next step makes the one behind them or waits (`step_planned`).
  When all are made, nobody asks for the bus any more.  All of that is `run_alone`.
-/
import Mathlib.Data.List.Induction
import PlayStation.Proofs.Dma.Plan

namespace PlayStation.Dma

/-- A transfer has been asked for and has not begun. -/
structure Channel.Fresh (c : Channel) : Prop where
  busy : c.busy = true
  idle : c.transfer = none

namespace System

/-- One channel, and no other, is eligible. -/
def Alone (s : System) (i : ChannelIndex) : Prop := ∀ j, s.dma.eligible j = true ↔ j = i

instance (s : System) (i : ChannelIndex) : Decidable (s.Alone i) :=
  inferInstanceAs (Decidable (∀ _, _))

variable {s : System} {i : ChannelIndex} {moves : List Move}

/-! ## Whole schedules -/

/-- A schedule does not change the settings of a channel. -/
theorem settings_run (moves : List Move) (i : ChannelIndex) :
    ∀ s : System, ((s.run moves).channel i).settings = (s.channel i).settings := by
  induction moves with
  | nil => exact fun s => rfl
  | cons move moves ih =>
    intro s
    refine (ih (s.move move)).trans ?_
    cases move with
    | dma =>
      rw [channel_move_dma]
      split
      · exact Channel.settings_stepped _ _ _ _
      · rfl
    | gpu operation => rfl
    | dpcr value => rfl

/-- Priorities and enables stay as they are when nobody writes them. -/
theorem dpcr_run (moves : List Move) : ∀ {s : System},
    (∀ move ∈ moves, move.keepsDpcr = true) → (s.run moves).dma.dpcr = s.dma.dpcr := by
  induction moves with
  | nil => exact fun _ => rfl
  | cons move moves ih =>
    intro s hmoves
    rw [List.forall_mem_cons] at hmoves
    refine (ih hmoves.2).trans ?_
    cases move with
    | dma => exact s.dpcr_move_dma
    | gpu operation => rfl
    | dpcr value => cases hmoves.1

/-- No channel becomes eligible. -/
theorem eligible_of_run (moves : List Move) : ∀ {s : System},
    (∀ move ∈ moves, move.keepsDpcr = true) → (s.run moves).dma.eligible i = true →
      s.dma.eligible i = true := by
  induction moves with
  | nil => exact fun _ h => h
  | cons move moves ih =>
    intro s hmoves h
    rw [List.forall_mem_cons] at hmoves
    exact eligible_of_move hmoves.1 (ih hmoves.2 h)

/-- Where only one channel asks for the bus, the others do nothing. -/
theorem run_others (moves : List Move) : ∀ {s : System},
    (∀ j, s.dma.eligible j = true → j = i) → (∀ move ∈ moves, move.keepsDpcr = true) →
    (∀ e ∈ s.log moves, e.channel = i) ∧ ∀ j, j ≠ i → (s.run moves).channel j = s.channel j := by
  induction moves with
  | nil => exact fun _ _ => ⟨fun e he => absurd he List.not_mem_nil, fun j _ => rfl⟩
  | cons move moves ih =>
    intro s hothers hmoves
    rw [List.forall_mem_cons] at hmoves
    obtain ⟨hlog, hchannel⟩ := ih (s := s.move move)
      (fun j hj => hothers j (eligible_of_move hmoves.1 hj)) hmoves.2
    refine ⟨fun e he => ?_, fun j hj => (hchannel j hj).trans ?_⟩
    · rw [log_cons, List.mem_append] at he
      rcases he with hnow | hlater
      · exact hothers _ (eligible_of_select (of_cycle? (cycle?_of_mem hnow)).1)
      · exact hlog e hlater
    · cases hdma : move.isDma with
      | false => exact channel_move_of_not_dma hdma j
      | true =>
        obtain rfl : move = .dma := by
          cases move with
          | dma => rfl
          | _ => cases hdma
        rw [channel_move_dma, if_neg]
        exact fun hselect => hj (hothers j (eligible_of_select hselect))

/-- **A channel alone** has the bus as long as it is busy. -/
theorem select_run (halone : s.Alone i) (hmoves : ∀ move ∈ moves, move.keepsDpcr = true) :
    (s.run moves).dma.select = if ((s.run moves).channel i).busy then some i else none := by
  have hothers : ∀ j, (s.run moves).dma.eligible j = true → j = i :=
    fun j h => (halone j).1 (eligible_of_run moves hmoves h)
  have henabled : (s.run moves).dma.dpcr.enabled i = true := by
    rw [dpcr_run moves hmoves]
    exact (Bool.and_eq_true _ _ ▸ (halone i).2 rfl :
      s.dma.dpcr.enabled i = true ∧ (s.channel i).busy = true).1
  have heligible : (s.run moves).dma.eligible i = ((s.run moves).channel i).busy := by
    show (_ && _) = _
    rw [henabled, Bool.true_and]
    rfl
  cases hbusy : ((s.run moves).channel i).busy with
  | true => exact select_of_only (heligible.trans hbusy) hothers
  | false =>
    refine select_eq_none_iff.2 fun j => ?_
    cases hj : (s.run moves).dma.eligible j with
    | false => rfl
    | true =>
      rw [hothers j hj, heligible, hbusy] at hj
      cases hj

variable {as : List Access} {d : Channel}

/-- **A channel alone** does what is on its plan, from the front.  The plan stores or reads, but not
both, so that it does not disturb itself. -/
theorem plan_run (halone : s.Alone i) (hmoves : ∀ move ∈ moves, move.keepsDpcr = true)
    (hplan : Plan s.memory i (s.channel i) as d)
    (huniform : ∀ a ∈ as, ∀ b ∈ as, a.stores = b.stores) :
    (∃ rest, as = (s.log moves).map (·.access) ++ rest ∧
      Plan s.memory i ((s.run moves).channel i) rest d) ∧
    ∀ e ∈ s.log moves, e.channel = i ∧
      (e.access.stores = false → e.word = s.memory.ramWord e.access.address) := by
  let t : Timetable :=
    { memory := s.memory
      planned := (· = i)
      plan := fun _ => as
      final := fun _ => d
      apart := fun _ _ _ _ a ha b hb hstores hreads => by
        rw [huniform a ha b hb, hreads] at hstores
        cases hstores }
  have hstart : t.Kept s [] := Timetable.kept_start (fun j hj => by rw [hj]; exact hplan) rfl
  -- the other channels are not eligible, and nobody makes them so
  have hsilent : ∀ j, ¬t.planned j → s.Silent moves j := by
    intro j hj
    refine .inr ⟨?_, hmoves⟩
    cases h : s.dma.eligible j with
    | false => rfl
    | true => exact absurd ((halone j).1 h) hj
  have hkept := hstart.run moves hsilent
  rw [List.nil_append] at hkept
  have howner : ∀ e ∈ s.log moves, e.channel = i := fun e he => (hkept.words e he).1
  obtain ⟨rest, hsplit, hrest⟩ := hkept.plans i rfl
  have hall : accesses i (s.log moves) = (s.log moves).map (·.access) := by
    rw [accesses, List.filter_eq_self.2]
    exact fun e he => decide_eq_true (howner e he)
  rw [hall] at hsplit
  exact ⟨⟨rest, hsplit, hrest⟩, hkept.words⟩

/-! ## Single steps -/

/-- Where nobody asks for the bus, a step does nothing. -/
theorem cycle?_of_free (h : s.dma.select = none) : s.cycle? = none := by
  rw [cycle?, h]

/-- While there is something on its plan, a channel that has the bus waits, or does the next thing
on it. -/
theorem step_planned {m : Memory} {a : Access} {rest : List Access}
    (hselect : s.dma.select = some i) (hplan : Plan m i (s.channel i) (a :: rest) d) :
    if (s.channel i).waitsFor a s.gpu then
      s.cycle? = none ∧ started? (s.channel i) i = some ((s.move .dma).channel i)
    else s.cycle? = some ⟨i, a, a.word s.memory s.gpu⟩ := by
  have hbusy : (s.channel i).busy = true := hplan.busy_eq
  obtain ⟨c, a', rest', hstarted, haccess, heq, -⟩ := hplan.next hbusy
  obtain ⟨rfl, rfl⟩ := List.cons.inj heq
  have hwaits : c.waits s.gpu = (s.channel i).waitsFor a s.gpu := by
    rw [c.waits_of_access haccess]
    exact Channel.waitsFor_of_settings (Channel.settings_started hstarted) a s.gpu
  rw [← hwaits]
  rcases s.step_cases with ⟨hfree, -⟩ | ⟨j, hj, hstep⟩
  · rw [hselect] at hfree
    cases hfree
  · obtain rfl : i = j := Option.some.inj (hselect.symm.trans hj)
    rcases hstep with ⟨hrefused, -⟩ | ⟨c', hstarted', hstep⟩
    · rw [hstarted] at hrefused
      cases hrefused
    · obtain rfl : c = c' := Option.some.inj (hstarted.symm.trans hstarted')
      rw [haccess, Option.map_some] at hstep
      rcases hstep with ⟨hyes, hcycle, hchannel⟩ | ⟨hno, hcycle, -⟩
      · rw [if_pos hyes, hchannel]
        exact ⟨hcycle, hstarted⟩
      · rw [hno]
        exact hcycle

end System

/-! ## Where a schedule leads -/

/-- How far a channel alone, with the accesses `as` on its plan in `s`, has come in `u`, with a log
of what it did. -/
structure AloneRun (s u : System) (i : ChannelIndex) (as : List Access) (d : Channel)
    (log : List BusCycle) : Prop where
  /-- The first accesses of the plan are done, and no others. -/
  done : log.map (·.access) = as.take log.length
  bound : log.length ≤ as.length
  words : ∀ e ∈ log, e.channel = i ∧
    (e.access.stores = false → e.word = s.memory.ramWord e.access.address)
  settings : (u.channel i).settings = (s.channel i).settings
  busy : (u.channel i).busy = decide (log.length < as.length)
  /-- When all are done, nothing happens any more. -/
  finished : log.length = as.length → u.channel i = d ∧ u.dma.select = none
  /-- The next access has to wait. -/
  waiting : ∀ a, as[log.length]? = some a → (s.channel i).waitsFor a u.gpu = true →
    u.cycle? = none ∧ started? (u.channel i) i = some ((u.move .dma).channel i)
  /-- The next access is made. -/
  moving : ∀ a, as[log.length]? = some a → (s.channel i).waitsFor a u.gpu = false →
    u.cycle? = some ⟨i, a, a.word u.memory u.gpu⟩

/-- Every access that was made has its number on the plan. -/
theorem AloneRun.getElem?_of_mem {s u : System} {i : ChannelIndex} {as : List Access} {d : Channel}
    {log : List BusCycle} (h : AloneRun s u i as d log) {e : BusCycle} (he : e ∈ log) :
    ∃ k < log.length, as[k]? = some e.access := by
  obtain ⟨k, hk, rfl⟩ := List.mem_iff_getElem.1 he
  refine ⟨k, hk, ?_⟩
  rw [← List.getElem?_take_of_lt hk, ← h.done, List.getElem?_map, List.getElem?_eq_getElem hk]
  rfl

namespace System

section Schedule

variable {s : System} {i : ChannelIndex} {moves : List Move} {as : List Access} {d : Channel}
  (halone : s.Alone i) (hmoves : ∀ move ∈ moves, move.keepsDpcr = true)
  (hplan : Plan s.memory i (s.channel i) as d)
  (huniform : ∀ a ∈ as, ∀ b ∈ as, a.stores = b.stores)

include halone hmoves hplan huniform

/-- **A channel alone** makes the accesses on its plan, one with each step that need not wait. -/
theorem run_alone : AloneRun s (s.run moves) i as d (s.log moves) := by
  obtain ⟨⟨rest, hsplit, hrest⟩, hwords⟩ := plan_run halone hmoves hplan huniform
  have hselect := select_run halone hmoves
  have hsettings := settings_run moves i s
  generalize s.run moves = u at *
  generalize s.log moves = log at *
  have hlength : as.length = log.length + rest.length := by
    rw [hsplit, List.length_append, List.length_map]
  have hdrop : as[log.length]? = rest[0]? := by
    have hmap : log.length = (log.map (·.access)).length := (List.length_map _).symm
    rw [hsplit, hmap, List.getElem?_append_right (Nat.le_refl _), Nat.sub_self]
  -- the next access is the first of those that are left
  have hstep : ∀ a, as[log.length]? = some a →
      if (s.channel i).waitsFor a u.gpu then
        u.cycle? = none ∧ started? (u.channel i) i = some ((u.move .dma).channel i)
      else u.cycle? = some ⟨i, a, a.word u.memory u.gpu⟩ := by
    intro a ha
    rw [hdrop] at ha
    cases rest with
    | nil => cases ha
    | cons first more =>
      obtain rfl : first = a := Option.some.inj ha
      have hbusy : (u.channel i).busy = true := hrest.busy_eq
      rw [hbusy] at hselect
      rw [← Channel.waitsFor_of_settings hsettings]
      exact step_planned hselect hrest
  refine ⟨?_, by omega, hwords, hsettings, ?_, ?_, ?_, ?_⟩
  · rw [hsplit, List.take_left' (List.length_map _)]
  · rw [hrest.busy_eq, hlength, Bool.eq_iff_iff, decide_eq_true_iff, Bool.not_eq_true',
      List.isEmpty_eq_false_iff, ← List.length_pos_iff]
    omega
  · intro hover
    obtain rfl : rest = [] := List.eq_nil_of_length_eq_zero (by omega)
    have hbusy : (u.channel i).busy = false := hrest.busy_eq
    rw [hbusy] at hselect
    exact ⟨hrest.eq_of_nil, hselect⟩
  · intro a ha hyes
    have hnext := hstep a ha
    rwa [if_pos hyes] at hnext
  · intro a ha hno
    have hnext := hstep a ha
    rwa [hno] at hnext

/-- Where no access ever waits, every step of the controller makes one, until all are done. -/
theorem length_log (hready : ∀ before, before <+: moves →
      ∀ a ∈ as, (s.channel i).waitsFor a (s.run before).gpu = false) :
    (s.log moves).length = min (moves.countP Move.isDma) as.length := by
  -- from the back, as what the last move does is a matter of where those before it have led
  induction moves using List.reverseRecOn with
  | nil => exact (Nat.zero_min _).symm
  | append_singleton moves move ih =>
    have hbefore : moves <+: moves ++ [move] := List.prefix_append _ _
    have hmoves' : ∀ move ∈ moves, move.keepsDpcr = true :=
      fun m hm => hmoves m (List.mem_append_left _ hm)
    have hrun := run_alone halone hmoves' hplan huniform
    have hlength := ih hmoves' fun before h => hready before (h.trans hbefore)
    rw [log_append, List.length_append, List.countP_append, log_cons]
    show (s.log moves).length + (((s.run moves).cycleOf move).toList ++ []).length = _
    rw [List.append_nil, List.countP_singleton]
    cases hdma : move.isDma with
    | false =>
      rw [cycleOf, hdma]
      show (s.log moves).length + 0 = min (moves.countP Move.isDma + 0) as.length
      rw [Nat.add_zero, Nat.add_zero, hlength]
    | true =>
      rw [cycleOf, hdma, if_pos rfl, if_pos rfl]
      rcases Nat.lt_or_ge (s.log moves).length as.length with hlt | hge
      · have hnth := List.getElem?_eq_getElem hlt
        have hcycle := hrun.moving _ hnth (hready moves hbefore _ (List.mem_of_getElem? hnth))
        rw [hcycle, Option.toList_some, List.length_singleton]
        omega
      · have hcycle : (s.run moves).cycle? = none :=
          cycle?_of_free (hrun.finished (Nat.le_antisymm hrun.bound hge)).2
        rw [hcycle, Option.toList_none, List.length_nil]
        omega

end Schedule

end System

end PlayStation.Dma
