import DiscoveryDemo.Periphery.Proofs.GpioRunProofs

/-!
# Proofs: the value of an output

An output keeps the value that it has been given until it is given another, and asking for another
configuration gives it one.
-/

namespace DiscoveryDemo.Periphery.Gpio

open CLib Driver

/-! ## Values -/

section Values

variable {s : System} {a : Answers} {call : Call}

/-- A setter for what is remembered asks for something. -/
theorem Call.Remembered.asks {c : Settings} (h : call.Remembered c) : ∃ c', call.asks c = some c' := by
  cases call with
  | setDirection direction => exact ⟨_, rfl⟩
  | setEdge edge => exact ⟨_, rfl⟩
  | setBias bias => exact ⟨_, rfl⟩
  | setDrive drive => exact ⟨_, rfl⟩
  | setInverted inverted => exact ⟨_, rfl⟩
  | read => exact absurd h id
  | write value => exact absurd h id
  | readEvent => exact absurd h id
  | close => exact absurd h id

theorem read_quiet (s : System) (a : Answers) :
    ∃ e, (exec s (.read, a)).2 = { s with gpio := { s.gpio with error := e } } := by
  unfold exec gpioCdevRead
  dsimp only
  split
  · exact ⟨_, rfl⟩
  · exact ⟨_, rfl⟩
  · exact ⟨s.gpio.error, rfl⟩

theorem readEvent_quiet (s : System) (a : Answers) :
    ∃ e, (exec s (.readEvent, a)).2 = { s with gpio := { s.gpio with error := e } } := by
  unfold exec gpioCdevReadEvent
  dsimp only
  split
  · exact ⟨_, rfl⟩
  · split
    · exact ⟨_, rfl⟩
    · split
      · exact ⟨_, rfl⟩
      · exact ⟨_, rfl⟩
      · exact ⟨s.gpio.error, rfl⟩

/-- A quiet call changes nothing but the error of the handle. -/
theorem quiet_step (h : Coherent s) (hquiet : call.Quiet s.gpio.settings) (a : Answers) :
    ∃ e, (exec s (call, a)).2 = { s with gpio := { s.gpio with error := e } } := by
  rcases hquiet with hrem | rfl | rfl
  · obtain ⟨c, hask⟩ := hrem.asks
    rcases setter_cases h hask a with ⟨code, text, -, heq⟩ | ⟨-, heq⟩ | ⟨hno, -, -⟩
    · rw [heq]
      exact ⟨_, rfl⟩
    · rw [heq]
      exact ⟨s.gpio.error, rfl⟩
    · exact absurd hrem hno
  · exact read_quiet s a
  · exact readEvent_quiet s a

theorem quiet_run {calls : List (Call × Answers)} (h : Coherent s)
    (hquiet : ∀ c ∈ calls, c.1.Quiet s.gpio.settings) :
    ∃ e, (run exec s calls).2 = { s with gpio := { s.gpio with error := e } } := by
  induction calls generalizing s with
  | nil => exact ⟨s.gpio.error, rfl⟩
  | cons c calls ih =>
    obtain ⟨e, heq⟩ := quiet_step h (hquiet c List.mem_cons_self) c.2
    have heq' : (exec s c).2 = { s with gpio := { s.gpio with error := e } } := heq
    have hrest : ∀ d ∈ calls, d.1.Quiet (exec s c).2.gpio.settings := by
      intro d hd
      rw [heq']
      exact hquiet d (List.mem_cons_of_mem c hd)
    obtain ⟨e', heq''⟩ := ih (h.exec c) hrest
    refine ⟨e', ?_⟩
    rw [run_cons]
    dsimp only
    rw [heq'', heq']

/-- Requesting an output gives it the level of its direction. -/
theorem drives_withLine {c : Settings} (hc : c.Checked) (hd : c.direction ≠ .dirIn) (s : System)
    (fd : Nat) : Drives (s.withLine fd c) (decide (c.direction = .dirOutHigh) ^^ c.inverted) := by
  have hsettings := (accepted_output hc hd).2
  have hout : (configFlags c).has lineOutput = true := by
    by_contra hno
    have hdir : (settingsOf (configFlags c)).direction = .dirIn := if_neg hno
    rw [hsettings] at hdir
    cases hdir
  have hlow : (configFlags c).has activeLow = c.inverted :=
    congrArg Settings.inverted hsettings
  refine ⟨_, held_withLine s fd c, hout, ?_⟩
  show ((if c.direction = .dirIn then s.level else decide (c.direction = .dirOutHigh)) ^^
    (configFlags c).has activeLow) = _
  rw [if_neg hd, hlow]

/-- A successful write gives the output the value. -/
theorem drives_write {value : Bool} (hok : (exec s (.write value, a)).1.1 = 0) :
    Drives (exec s (.write value, a)).2 value := by
  have hinvalid : errorInvalidOperation ≠ 0 := by decide
  have hio : errorIo ≠ 0 := by decide
  replace hok : (gpioCdevWrite s a value).1 = 0 := hok
  show Drives (gpioCdevWrite s a value).2 value
  unfold gpioCdevWrite at hok ⊢
  by_cases hd : s.gpio.settings.direction ≠ .dirOut
  · rw [if_pos hd] at hok
    exact absurd hok hinvalid
  · rw [if_neg hd] at hok ⊢
    cases hheld : s.held with
    | none =>
      rw [hheld] at hok
      exact absurd hok hio
    | some r =>
      cases hio' : a.io with
      | some e =>
        rw [hheld, hio'] at hok
        exact absurd hok hio
      | none =>
        rw [hheld, hio'] at hok
        dsimp only at hok ⊢
        by_cases hout : r.flags.has lineOutput = true
        · rw [if_pos hout]
          refine ⟨r, hheld, hout, ?_⟩
          dsimp only
          rw [Bool.xor_assoc, Bool.xor_self, Bool.xor_false]
        · rw [if_neg hout] at hok
          exact absurd (show errorIo = 0 from hok) hio

/-- A call that sets the value of the output, if it succeeds. -/
theorem drives_call (h : Coherent s) {value : Bool} (hdrives : call.drives s.gpio.settings = some value)
    (hnew : ¬call.Remembered s.gpio.settings) (hok : (exec s (call, a)).1.1 = 0) :
    Drives (exec s (call, a)).2 value := by
  by_cases hwrite : ∃ v, call = .write v
  · obtain ⟨v, rfl⟩ := hwrite
    cases hdrives
    exact drives_write hok
  · obtain ⟨c, hask, hd, hvalue⟩ : ∃ c, call.asks s.gpio.settings = some c ∧ c.direction ≠ .dirIn ∧
        (decide (c.direction = .dirOutHigh) ^^ c.inverted) = value := by
      cases call with
      | write v => exact absurd ⟨v, rfl⟩ hwrite
      | read => cases hdrives
      | readEvent => cases hdrives
      | close => cases hdrives
      | _ =>
        refine ⟨_, rfl, ?_⟩
        simpa [Call.drives, Call.asks] using hdrives
    rw [← hvalue]
    rcases setter_cases h hask a with ⟨code, text, hcode, heq⟩ | ⟨hrem, -⟩ | ⟨-, hc, heq⟩
    · rw [heq] at hok
      rcases hcode with rfl | rfl
      · exact absurd (show errorArg = 0 from hok) (by decide)
      · exact absurd (show errorInvalidOperation = 0 from hok) (by decide)
    · exact absurd hrem hnew
    · rw [heq] at hok ⊢
      rcases reopen_cases h hc a with
        ⟨e, text, -, -, hre⟩ | ⟨e, text, -, hre⟩ | ⟨-, -, fd, -, hre⟩
      · rw [hre] at hok
        exact absurd (show errorClose = 0 from hok) (by decide)
      · rw [hre] at hok
        exact absurd (show errorOpen = 0 from hok) (by decide)
      · rw [hre]
        exact drives_withLine hc hd _ fd

/-- A read that finds the level that is driven reports the value. -/
theorem Drives.read {value : Bool} (h : Drives s value) (hio : a.io = none) (hpin : a.pin = s.level) :
    (exec s (.read, a)).1 = (0, .value value) := by
  obtain ⟨r, hheld, -, hlevel⟩ := h
  have hread : gpioCdevRead s a = ((0, some value), s) := by
    unfold gpioCdevRead
    rw [hheld, hio]
    dsimp only
    rw [hpin, hlevel]
  simp only [exec, hread]

end Values

/-- **An output keeps its value until it is given another**: after a call that sets the value of a line,
a write or a change of the configuration, and any quiet calls, the line is an output at that value, and
`gpio_read` reports it if the driver reads the level that it drives. A change of the configuration does
not keep what had been written. -/
theorem output_value {s : System} (h : Reached s) {call : Call} {value : Bool}
    (hdrives : call.drives s.gpio.settings = some value) (hnew : ¬call.Remembered s.gpio.settings)
    {a : Answers} (hok : (exec s (call, a)).1.1 = 0) {calls : List (Call × Answers)}
    (hquiet : ∀ c ∈ calls, c.1.Quiet (exec s (call, a)).2.gpio.settings) :
    let s' := (run exec (exec s (call, a)).2 calls).2
    Drives s' value ∧
      ∀ b : Answers, b.io = none → b.pin = s'.level → (exec s' (.read, b)).1 = (0, .value value) := by
  intro s'
  obtain ⟨r, hheld, hout, hlevel⟩ := drives_call h.coherent hdrives hnew hok
  obtain ⟨e, heq⟩ := quiet_run (h.coherent.exec (call, a)) hquiet
  have hend : Drives s' value := by
    rw [show s' = _ from heq]
    exact ⟨r, hheld, hout, hlevel⟩
  exact ⟨hend, fun b hio hpin => hend.read hio hpin⟩

/-- An inverted output that has been written false and is then pulled up is at true. -/
theorem output_value_reset :
    let s := (exec openDrainOutput (.write false, Answers.fine 6)).2
    let s' := (run exec (exec s (.setBias .pullUp, Answers.fine 7)).2
      [(.readEvent, Answers.fine 0), (.setDrive .openDrain, Answers.fine 8)]).2
    Drives s' true ∧
      ∀ b : Answers, b.io = none → b.pin = s'.level → (exec s' (.read, b)).1 = (0, .value true) :=
  output_value (reached_openDrainOutput.step _) rfl (by
    intro h
    cases (show Bias.default = .pullUp from h)) rfl (by
    intro c hc
    rcases List.mem_cons.mp hc with rfl | hc
    · exact Or.inr (Or.inr rfl)
    · rw [List.mem_singleton.mp hc]
      exact Or.inl rfl)

end DiscoveryDemo.Periphery.Gpio
