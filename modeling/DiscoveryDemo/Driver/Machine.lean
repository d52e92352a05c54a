/-!
# Runs of a machine

A component that is used by one call after the other is a machine: `exec` takes a state and a call to
what the call returns and the next state. What every call preserves holds after every run, and a machine
that answers each call as a simpler one does answers every run as the simpler one does.
-/

namespace Driver

variable {State Abstract Call Result : Type}

/-- The calls one after the other: what each of them returns, and the state at the end. -/
def run (exec : State → Call → Result × State) : State → List Call → List Result × State
  | s, [] => ([], s)
  | s, call :: calls =>
    let rest := run exec (exec s call).2 calls
    ((exec s call).1 :: rest.1, rest.2)

/-- `s` is the state after some run from `s₀`. -/
def Reachable (exec : State → Call → Result × State) (s₀ s : State) : Prop :=
  ∃ calls, s = (run exec s₀ calls).2

/-- Related states give the same answer to every call and are related again. -/
def Simulates (exec : State → Call → Result × State) (abstract : Abstract → Call → Result × Abstract)
    (R : State → Abstract → Prop) : Prop :=
  ∀ s a call, R s a →
    (exec s call).1 = (abstract a call).1 ∧ R (exec s call).2 (abstract a call).2

variable {exec : State → Call → Result × State} {abstract : Abstract → Call → Result × Abstract}

theorem run_cons (s : State) (call : Call) (calls : List Call) :
    run exec s (call :: calls) =
      ((exec s call).1 :: (run exec (exec s call).2 calls).1, (run exec (exec s call).2 calls).2) := rfl

theorem run_append (s : State) (calls calls' : List Call) :
    (run exec s (calls ++ calls')).2 = (run exec (run exec s calls).2 calls').2 := by
  induction calls generalizing s with
  | nil => rfl
  | cons call calls ih => exact ih (exec s call).2

/-- **What every call preserves holds after every run.** -/
theorem run_invariant {Inv : State → Prop} {Allowed : Call → Prop}
    (hstep : ∀ s call, Allowed call → Inv s → Inv (exec s call).2) {s : State} (hs : Inv s)
    {calls : List Call} (hcalls : ∀ call ∈ calls, Allowed call) : Inv (run exec s calls).2 := by
  induction calls generalizing s with
  | nil => exact hs
  | cons call calls ih =>
    have hhead : Allowed call := hcalls call List.mem_cons_self
    exact ih (hstep s call hhead hs) fun c hc => hcalls c (List.mem_cons_of_mem call hc)

/-- What every call preserves holds in every reachable state. -/
theorem Reachable.invariant {Inv : State → Prop} (hstep : ∀ s call, Inv s → Inv (exec s call).2)
    {s₀ s : State} (h : Reachable exec s₀ s) (h₀ : Inv s₀) : Inv s := by
  obtain ⟨calls, rfl⟩ := h
  have hstep' : ∀ s call, True → Inv s → Inv (exec s call).2 := fun s call _ => hstep s call
  exact run_invariant hstep' h₀ fun _ _ => trivial

/-- **A simulation carries over to runs**, also one of some of the calls only: the answers are the same,
and the states are related at the end. -/
theorem run_simulates {Allowed : Call → Prop} {R : State → Abstract → Prop}
    (hstep : ∀ s a call, Allowed call → R s a →
      (exec s call).1 = (abstract a call).1 ∧ R (exec s call).2 (abstract a call).2)
    {s : State} {a : Abstract} (hR : R s a) {calls : List Call} (hcalls : ∀ call ∈ calls, Allowed call) :
    (run exec s calls).1 = (run abstract a calls).1 ∧
      R (run exec s calls).2 (run abstract a calls).2 := by
  induction calls generalizing s a with
  | nil => exact ⟨rfl, hR⟩
  | cons call calls ih =>
    obtain ⟨hret, hnext⟩ := hstep s a call (hcalls call List.mem_cons_self) hR
    obtain ⟨hrets, hend⟩ := ih hnext fun c hc => hcalls c (List.mem_cons_of_mem call hc)
    refine ⟨?_, hend⟩
    rw [run_cons, run_cons, hret, hrets]

theorem Simulates.run {R : State → Abstract → Prop} (h : Simulates exec abstract R) {s : State}
    {a : Abstract} (hR : R s a) (calls : List Call) :
    (run exec s calls).1 = (run abstract a calls).1 ∧
      R (run exec s calls).2 (run abstract a calls).2 := by
  have hstep : ∀ s a call, True → R s a →
      (exec s call).1 = (abstract a call).1 ∧ R (exec s call).2 (abstract a call).2 :=
    fun s a call _ => h s a call
  exact run_simulates hstep hR fun _ _ => trivial

end Driver
