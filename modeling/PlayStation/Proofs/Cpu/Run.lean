/-
  RUNS of the processor beside a world that moves.

  Between two steps things happen outside: devices write memory, time passes on the bus, somebody
  drives the interrupt line.  An `Outside` says what, and a run is made of one for each step.  The
  trace of a run is the list of states at its step boundaries, up to the first host fault.

  `Stepper` holds what a run needs to know of a machine, so that another machine can be run beside
  the processor under the same script.  Two machines whose steps match keep matching
  (`Stepper.trace_simulation`); that is the one induction over runs.
-/
import Mathlib.Data.List.Forall2
import PlayStation.Proofs.Cpu.Course

namespace PlayStation

/-- What happens outside the processor in front of one of its steps. -/
structure Outside (β : Type) where
  /-- What becomes of the bus. -/
  change : β → β := id
  /-- The level that the interrupt line is driven to, if it is driven. -/
  line : Option Bool := none

/-- A machine that takes steps on a bus and has an interrupt line. -/
structure Stepper (σ β : Type) where
  step : σ → β → Outcome (σ × β)
  driveLine : σ → Bool → σ

namespace Stepper

variable {σ τ β : Type}

/-- The machine with its line driven as a script says. -/
def drive (M : Stepper σ β) (s : σ) : Option Bool → σ
  | none => s
  | some level => M.driveLine s level

/-- The states that a run reaches, one for each step that returns. -/
def trace (M : Stepper σ β) : List (Outside β) → σ → β → List σ
  | [], _, _ => []
  | o :: script, s, bus =>
    match M.step (M.drive s o.line) (o.change bus) with
    | ⟨(s, bus), none⟩ => s :: M.trace script s bus
    | ⟨_, some _⟩ => []

/-- Two steps come out alike: the same bus and fault, and related states if they return. -/
def Alike (R : σ → τ → Prop) (o : Outcome (σ × β)) (p : Outcome (τ × β)) : Prop :=
  o.state.2 = p.state.2 ∧ o.fault = p.fault ∧ (o.fault = none → R o.state.1 p.state.1)

/-- Machines that match step by step match over a whole run. -/
theorem trace_simulation {M : Stepper σ β} {N : Stepper τ β} {R : σ → τ → Prop}
    (hline : ∀ s t level, R s t → R (M.driveLine s level) (N.driveLine t level))
    (hstep : ∀ s t bus, R s t → Alike R (M.step s bus) (N.step t bus))
    (script : List (Outside β)) :
    ∀ s t bus, R s t → List.Forall₂ R (M.trace script s bus) (N.trace script t bus) := by
  induction script with
  | nil => exact fun _ _ _ _ => .nil
  | cons o script ih =>
    intro s t bus hR
    have hdriven : R (M.drive s o.line) (N.drive t o.line) := by
      cases o.line with
      | none => exact hR
      | some level => exact hline s t level hR
    have hboth := hstep _ _ (o.change bus) hdriven
    simp only [trace]
    rcases hM : M.step (M.drive s o.line) (o.change bus) with ⟨⟨s', bus'⟩, fault⟩
    rcases hN : N.step (N.drive t o.line) (o.change bus) with ⟨⟨t', bus''⟩, fault'⟩
    rw [hM, hN] at hboth
    obtain ⟨hbus, hfault, hnext⟩ := hboth
    cases hbus
    cases hfault
    cases fault with
    | none => exact .cons (hnext rfl) (ih s' t' bus' (hnext rfl))
    | some fault => exact .nil

/-- If one machine is a view of the other at every step, its run is the view of the other's. -/
theorem trace_view {M : Stepper σ β} {N : Stepper τ β} {view : σ → τ}
    (hline : ∀ s level, N.driveLine (view s) level = view (M.driveLine s level))
    (hstep : ∀ s bus, Alike (fun s t => t = view s) (M.step s bus) (N.step (view s) bus))
    (script : List (Outside β)) (s : σ) (bus : β) :
    N.trace script (view s) bus = (M.trace script s bus).map view := by
  have hpairs := trace_simulation (M := M) (N := N) (R := fun s t => t = view s)
    (fun s t level h => by rw [h, hline]) (fun s t bus h => h ▸ hstep s bus) script s (view s) bus
    rfl
  have hview : List.Forall₂ (· = ·) ((M.trace script s bus).map view)
      (N.trace script (view s) bus) :=
    List.forall₂_map_left_iff.2 (hpairs.imp fun _ _ h => h.symm)
  rw [List.forall₂_eq_eq_eq] at hview
  exact hview.symm

/-- What every step establishes holds at every boundary of a run. -/
theorem forall_mem_trace {M : Stepper σ β} {P : σ → Prop}
    (hstep : ∀ s bus s' bus', M.step s bus = .done (s', bus') → P s') (script : List (Outside β)) :
    ∀ s bus, ∀ s' ∈ M.trace script s bus, P s' := by
  induction script with
  | nil => intro s bus s' hmem; cases hmem
  | cons o script ih =>
    intro s bus s' hmem
    simp only [trace] at hmem
    rcases hM : M.step (M.drive s o.line) (o.change bus) with ⟨⟨s₁, bus₁⟩, _ | fault⟩
    · rw [hM] at hmem
      rcases List.mem_cons.1 hmem with heq | htail
      · rw [heq]
        exact hstep _ _ _ _ hM
      · exact ih s₁ bus₁ s' htail
    · rw [hM] at hmem
      cases hmem

end Stepper

/-- The processor, as a machine to be run. -/
def Cpu.stepper (β : Type) [Bus β] : Stepper Cpu β := ⟨Cpu.step, Cpu.driveLine⟩

end PlayStation
