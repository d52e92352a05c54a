/-!
# Traces of driver calls

A program that opens a device makes calls that open it, configure it or transfer data, and calls that
give it back. What the program owes its caller can be said of the parts that its calls play: a failure
reaches the exit status, and a device that was opened is closed once and freed once.
-/

namespace Driver

/-- The part that a call plays in the life of a device. -/
inductive Role where
  /-- It opens the device and returns `code`. -/
  | opens (code : Int)
  /-- It configures the device or transfers data, and returns `code`. -/
  | uses (code : Int)
  /-- It uses the device while cleaning up. -/
  | releases
  | closes
  | frees
  /-- It is not a call of the device. -/
  | other
  deriving DecidableEq

/-- An opening, configuring or transfer call that returns a negative code. -/
def Role.reportsError : Role → Bool
  | opens code | uses code => code < 0
  | _ => false

/-- Some opening, configuring or transfer call reports an error. -/
def Failed (trace : List Role) : Prop := ∃ r ∈ trace, r.reportsError = true

/-- The device is opened successfully. -/
def Opened (trace : List Role) : Prop := ∃ code, 0 ≤ code ∧ .opens code ∈ trace

/-- The device is closed once and freed once, and not used afterwards. -/
def ClosedOnce (trace : List Role) : Prop :=
  trace.count .closes = 1 ∧ trace.count .frees = 1 ∧
    ∃ pre post, trace = pre ++ .closes :: .frees :: post ∧ ∀ r ∈ post, r = .other

/-- What a run that ends with `status` owes its caller. -/
def Accounted (rejected : Prop) (status : Nat) (trace : List Role) : Prop :=
  (status ≠ 0 ↔ rejected ∨ Failed trace) ∧ (Opened trace → ClosedOnce trace)

/-- The device is neither closed nor freed. -/
def Kept (trace : List Role) : Prop := .closes ∉ trace ∧ .frees ∉ trace

/-! ## Lemmas -/

theorem failed_append (t u : List Role) : Failed (t ++ u) ↔ Failed t ∨ Failed u := by
  unfold Failed
  constructor
  · rintro ⟨r, hr, h⟩
    rcases List.mem_append.mp hr with hr | hr
    · exact Or.inl ⟨r, hr, h⟩
    · exact Or.inr ⟨r, hr, h⟩
  · rintro (⟨r, hr, h⟩ | ⟨r, hr, h⟩)
    · exact ⟨r, List.mem_append_left u hr, h⟩
    · exact ⟨r, List.mem_append_right t hr, h⟩

theorem failed_cons (r : Role) (t : List Role) :
    Failed (r :: t) ↔ r.reportsError = true ∨ Failed t := by
  simp [Failed]

@[simp] theorem not_failed_nil : ¬Failed [] := by
  simp [Failed]

theorem Kept.append {t u : List Role} (ht : Kept t) (hu : Kept u) : Kept (t ++ u) :=
  ⟨fun h => (List.mem_append.mp h).elim ht.1 hu.1, fun h => (List.mem_append.mp h).elim ht.2 hu.2⟩

theorem Kept.not_closedOnce {t : List Role} (h : Kept t) : ¬ClosedOnce t := by
  intro hc
  rw [ClosedOnce, List.count_eq_zero_of_not_mem h.1] at hc
  exact absurd hc.1 (by decide)

/-- A device is closed once by a final clean-up. -/
theorem Kept.closedOnce {t : List Role} (h : Kept t) : ClosedOnce (t ++ [.closes, .frees]) := by
  refine ⟨?_, ?_, t, [], rfl, fun r hr => absurd hr List.not_mem_nil⟩
  · rw [List.count_append, List.count_eq_zero_of_not_mem h.1]
    rfl
  · rw [List.count_append, List.count_eq_zero_of_not_mem h.2]
    rfl

theorem not_opened_nil : ¬Opened [] := by
  rintro ⟨code, -, h⟩
  exact absurd h List.not_mem_nil

theorem accounted_failure {rejected : Prop} {t : List Role} (h : rejected ∨ Failed t)
    (hc : Opened t → ClosedOnce t) : Accounted rejected 1 t :=
  ⟨⟨fun _ => h, fun _ => Nat.one_ne_zero⟩, hc⟩

theorem accounted_success {rejected : Prop} {t : List Role} (hc : ClosedOnce t) :
    Accounted rejected 0 t ↔ ¬(rejected ∨ Failed t) :=
  ⟨fun h hfail => h.1.mpr hfail rfl, fun h => ⟨⟨fun h0 => absurd rfl h0, fun hf => absurd hf h⟩,
    fun _ => hc⟩⟩

end Driver
