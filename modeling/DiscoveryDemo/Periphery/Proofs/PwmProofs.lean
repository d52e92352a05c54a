import DiscoveryDemo.Periphery.Proofs.SysfsProofs
import DiscoveryDemo.Periphery.Pwm

/-!
# Proofs: PWM channels

A call on a handle does to the channel what `respond` says: the texts that are shown and taken are those
of the configuration, as far as the two sides have room for the numbers. The period that the handle
remembers is the one of the channel, unless a file could not be closed after the period was written.
-/

namespace DiscoveryDemo.Periphery.Pwm

open CLib Driver

variable {check : Channel → Option Nat} {s : System} {a : Answers}

/-! ## Getters -/

theorem show_number_length (ns : UInt64) : (printUnsigned ns.toNat ++ [NL]).length < 32 := by
  have hlt : ns.toNat < 10 ^ 20 := Nat.lt_trans ns.toNat_lt (by decide)
  have hlen := printUnsigned_length (by decide) hlt
  rw [List.length_append, List.length_singleton]
  omega

theorem show_number_noNul (ns : UInt64) : NUL ∉ printUnsigned ns.toNat ++ [NL] := by
  intro h
  rcases List.mem_append.mp h with h | h
  · exact printUnsigned_noNul _ h
  · exact absurd (List.mem_singleton.mp h) (by decide)

/-- The attribute is shown as the number `ns`. -/
def ShowsNumber (c : Channel) (attr : Attribute) (ns : UInt64) : Prop :=
  c.show attr = printUnsigned ns.toNat ++ [NL]

/-- A number is shown if there is room for it. -/
theorem answer_readable (a : FileAnswers) (ns : UInt64) :
    answer a (readable ns) =
      if ¬a.Broken ∧ ns.toNat ≤ ulongMax then (0, .ns ns) else (errorQuery, .nothing) := by
  unfold answer readable
  by_cases hbroken : a.Broken
  · simp [hbroken]
  · by_cases hle : ns.toNat ≤ ulongMax <;> simp [hbroken, hle]

/-- Reading a number succeeds if there is room for it, and changes nothing but the error of the
handle. -/
theorem getNs_spec {attr : Attribute} {ns : UInt64} (hshow : ShowsNumber s.channel attr ns)
    (text : List Byte) :
    ((¬a.file.Broken ∧ ns.toNat ≤ ulongMax) ∧ getNs s a attr text = .ok (.ok ns, s)) ∨
      ∃ e, ¬(¬a.file.Broken ∧ ns.toNat ≤ ulongMax) ∧
        getNs s a attr text = .ok (.error errorQuery, { s with pwm := { s.pwm with error := e } }) := by
  have hcontent : s.channel.show attr = printUnsigned ns.toNat ++ [NL] := hshow
  unfold getNs pwmReadAttribute
  rw [hcontent]
  rcases readFile_cases a.file (a.stack 32) (show_number_length ns) (show_number_noNul ns) with
    ⟨hbroken, ⟨step, e⟩, hread⟩ | ⟨hfine, buf, hread, hholds⟩
  · refine Or.inr ⟨⟨e, attributeText step attr⟩, fun h => h.1 hbroken, ?_⟩
    rw [hread]
    rfl
  · have hstr : buf.str 0 = .ok (printUnsigned ns.toNat ++ [NL]) := hholds.str
    have hstrtoul := strtoul_printUnsigned ns.toNat noDigit_newline
    by_cases hle : ns.toNat ≤ ulongMax
    · refine Or.inl ⟨⟨hfine, hle⟩, ?_⟩
      rw [if_neg (by omega)] at hstrtoul
      simp [hread, hstr, hstrtoul, bind, Except.bind, pure, Except.pure]
    · refine Or.inr ⟨⟨erange, text⟩, fun h => hle h.2, ?_⟩
      rw [if_pos (by omega)] at hstrtoul
      simp only [hread, hstr, hstrtoul, bind, Except.bind, pure, Except.pure]
      rfl

/-- Reading the polarity. -/
theorem pwmGetPolarity_spec :
    ∃ e, pwmGetPolarity s a = .ok (if a.file.Broken
      then (.error errorQuery, { s with pwm := { s.pwm with error := e } })
      else (.ok (if s.channel.inversed then .inversed else .normal), s)) := by
  have hshow : (s.channel.show .polarity).length < 16 ∧ NUL ∉ s.channel.show .polarity := by
    have htext : s.channel.show .polarity =
        if s.channel.inversed then lit "inversed\n" else lit "normal\n" := rfl
    rw [htext]
    cases s.channel.inversed <;> decide
  unfold pwmGetPolarity pwmReadAttribute
  rcases readFile_cases a.file (a.stack 16) hshow.1 hshow.2 with
    ⟨hbroken, ⟨step, e⟩, hread⟩ | ⟨hfine, buf, hread, hholds⟩
  · refine ⟨⟨e, attributeText step .polarity⟩, ?_⟩
    rw [if_pos hbroken, hread]
    rfl
  · refine ⟨Error.none, ?_⟩
    have hstr : buf.str 0 = .ok (s.channel.show .polarity) := hholds.str
    rw [if_neg hfine]
    cases hinv : s.channel.inversed with
    | true =>
      have htext : s.channel.show .polarity = lit "inversed\n" := by
        rw [Channel.show, hinv, if_pos rfl]
      have hne : lit "inversed\n" ≠ lit "normal\n" := by decide
      rw [htext] at hread hstr
      simp [hread, hstr, htext, hne, bind, Except.bind, pure, Except.pure]
    | false =>
      have htext : s.channel.show .polarity = lit "normal\n" := by
        rw [Channel.show, hinv, if_neg Bool.false_ne_true]
      rw [htext] at hread hstr
      simp [hread, hstr, htext, bind, Except.bind, pure, Except.pure]

/-! ## Setters -/

/-- The kernel takes the text of an attribute for the configuration `next`, or for none. -/
def Takes (check : Channel → Option Nat) (c : Channel) (attr : Attribute) (text : List Byte)
    (next : Option Channel) : Prop :=
  (next = none → ∃ e, c.store check attr text = .error e) ∧
    ∀ c', next = some c' → c.store check attr text = c'.apply check

/-- Writing an attribute does what `change` says. -/
theorem pwmWriteAttribute_spec {attr : Attribute} {text : List Byte} {next : Option Channel}
    (h : Takes check s.channel attr text next) :
    ∃ e, pwmWriteAttribute check s a attr text =
      ((change check a.file s.channel next).1.1,
        { s with
          channel := (change check a.file s.channel next).2
          pwm := { s.pwm with error := e } }) ∧
      (change check a.file s.channel next).1.2 = .nothing := by
  unfold pwmWriteAttribute writeFile change
  cases hopened : a.file.opened with
  | some e => exact ⟨_, rfl, rfl⟩
  | none =>
    cases hio : a.file.io with
    | some e => exact ⟨_, rfl, rfl⟩
    | none =>
      cases hnext : next with
      | none =>
        obtain ⟨e, hstore⟩ := h.1 hnext
        rw [hstore]
        exact ⟨_, rfl, rfl⟩
      | some c' =>
        have hstore := h.2 c' hnext
        rw [hstore]
        unfold Channel.apply
        dsimp only
        cases hcheck : check c' with
        | some e => exact ⟨_, rfl, rfl⟩
        | none =>
          cases hclosed : a.file.closed with
          | some e => exact ⟨_, rfl, rfl⟩
          | none => exact ⟨s.pwm.error, rfl, rfl⟩

/-- A number is taken if it is not printed as a negative one. -/
theorem takes_number (c : Channel) {attr : Attribute} (ns : UInt64) (put : UInt64 → Channel)
    (hstore : ∀ text, c.store check attr text =
      match kstrtoul (2 ^ 64 - 1) text with
      | .error e => .error e
      | .ok value => (put (UInt64.ofNat value)).apply check) :
    Takes check c attr (printSigned (signed ns) ++ [NL])
      (if ns.toNat < 2 ^ 63 then some (put ns) else none) := by
  have hlt := ns.toNat_lt
  by_cases hpos : ns.toNat < 2 ^ 63
  · have hsigned : printSigned (signed ns) = printUnsigned ns.toNat := by
      rw [signed, if_pos hpos, printSigned_of_nonneg (Int.natCast_nonneg _), Int.natAbs_natCast]
    rw [if_pos hpos, hsigned]
    refine ⟨fun h => absurd h (Option.some_ne_none _), fun c' hc' => ?_⟩
    cases hc'
    rw [hstore, kstrtoul_printUnsigned, if_neg (by omega)]
    dsimp only
    rw [UInt64.ofNat_toNat]
  · have hneg : signed ns < 0 := by
      rw [signed, if_neg hpos]
      omega
    rw [if_neg hpos]
    refine ⟨fun _ => ⟨einval, ?_⟩, fun c' hc' => by cases hc'⟩
    rw [hstore, kstrtoul_printSigned_neg _ hneg]

theorem takes_polarity (c : Channel) (inversed : Bool) :
    Takes check c .polarity (if inversed then lit "inversed\n" else lit "normal\n")
      (some { c with inversed := inversed }) := by
  refine ⟨fun h => absurd h (Option.some_ne_none _), fun c' hc' => ?_⟩
  cases hc'
  cases inversed with
  | true =>
    have hne : lit "inversed\n" ≠ lit "normal\n" := by decide
    show (if lit "inversed\n" = lit "normal\n" then ({ c with inversed := false } : Channel).apply check
      else ({ c with inversed := true } : Channel).apply check) = _
    rw [if_neg hne]
  | false => rfl

theorem takes_enabled (c : Channel) (enabled : Bool) :
    Takes check c .enable (if enabled then lit "1\n" else lit "0\n")
      (some { c with enabled := enabled }) := by
  refine ⟨fun h => absurd h (Option.some_ne_none _), fun c' hc' => ?_⟩
  cases hc'
  cases enabled with
  | true => rfl
  | false => rfl

/-! ## Calls -/

/-- What `change` comes to: nothing, or the new configuration and perhaps an error. -/
theorem change_cases (check : Channel → Option Nat) (a : FileAnswers) (c : Channel)
    (next : Option Channel) :
    change check a c next = ((errorConfigure, .nothing), c) ∨
      (∃ c', next = some c' ∧ a.closed ≠ none ∧
        change check a c next = ((errorConfigure, .nothing), c')) ∨
      ∃ c', next = some c' ∧ change check a c next = ((0, .nothing), c') := by
  unfold change
  split
  · exact Or.inl rfl
  · cases next with
    | none => exact Or.inl rfl
    | some c' =>
      dsimp only
      split
      · exact Or.inl rfl
      · split
        case isTrue hclosed => exact Or.inr (Or.inl ⟨c', rfl, hclosed, rfl⟩)
        case isFalse => exact Or.inr (Or.inr ⟨c', rfl, rfl⟩)

/-- A setter does what `change` says, and changes nothing else but the error of the handle. -/
theorem setter_spec {attr : Attribute} {text : List Byte} {next : Option Channel}
    (h : Takes check s.channel attr text next) :
    (pwmWriteAttribute check s a attr text).1 = (change check a.file s.channel next).1.1 ∧
      (change check a.file s.channel next).1.2 = .nothing ∧
      (pwmWriteAttribute check s a attr text).2.channel = (change check a.file s.channel next).2 ∧
      (pwmWriteAttribute check s a attr text).2.pwm.periodNs = s.pwm.periodNs := by
  obtain ⟨e, heq, hvalue⟩ := pwmWriteAttribute_spec (a := a) h
  rw [heq]
  exact ⟨rfl, hvalue, rfl, rfl⟩

theorem takes_period (c : Channel) (ns : UInt64) :
    Takes check c .period (printSigned (signed ns) ++ [NL])
      (if ns.toNat < 2 ^ 63 then some { c with period := ns } else none) :=
  takes_number c ns (fun value => { c with period := value }) fun _ => rfl

theorem takes_dutyCycle (c : Channel) (ns : UInt64) :
    Takes check c .dutyCycle (printSigned (signed ns) ++ [NL])
      (if ns.toNat < 2 ^ 63 then some { c with dutyCycle := ns } else none) :=
  takes_number c ns (fun value => { c with dutyCycle := value }) fun _ => rfl

/-- `pwm_set_period_ns` remembers the period if it has been written. -/
theorem pwmSetPeriodNs_spec (check : Channel → Option Nat) (s : System) (a : Answers) (ns : UInt64) :
    let next := change check a.file s.channel
      (if ns.toNat < 2 ^ 63 then some { s.channel with period := ns } else none)
    (pwmSetPeriodNs check s a ns).1 = next.1.1 ∧ next.1.2 = .nothing ∧
      (pwmSetPeriodNs check s a ns).2.channel = next.2 ∧
      (pwmSetPeriodNs check s a ns).2.pwm.periodNs = if next.1.1 < 0 then s.pwm.periodNs else ns := by
  intro next
  obtain ⟨hcode, hvalue, hchannel, hperiod⟩ :=
    setter_spec (a := a) (@takes_period check s.channel ns)
  replace hcode : _ = next.1.1 := hcode
  have hneg : errorConfigure < 0 := by decide
  have hsign : next.1.1 = 0 ∨ next.1.1 < 0 := by
    rcases change_cases check a.file s.channel
        (if ns.toNat < 2 ^ 63 then some { s.channel with period := ns } else none) with
      heq | ⟨c', -, -, heq⟩ | ⟨c', -, heq⟩
    · exact Or.inr (lt_of_eq_of_lt (congrArg (·.1.1) heq) hneg)
    · exact Or.inr (lt_of_eq_of_lt (congrArg (·.1.1) heq) hneg)
    · exact Or.inl (congrArg (·.1.1) heq)
  unfold pwmSetPeriodNs
  dsimp only
  rw [hcode]
  rcases hsign with hzero | hlt
  · rw [if_neg (by omega), if_neg (by omega)]
    exact ⟨hzero.symm, hvalue, hchannel, rfl⟩
  · rw [if_pos hlt, if_pos hlt]
    exact ⟨rfl, hvalue, hchannel, hperiod⟩

/-- A call does to the channel what `respond` says. -/
theorem exec_respond (check : Channel → Option Nat) (s : System) (c : Call × Answers) :
    (exec check s c).1 = (respond check s.channel c).1 ∧
      (exec check s c).2.channel = (respond check s.channel c).2 := by
  obtain ⟨call, a⟩ := c
  cases call with
  | getPeriodNs =>
    unfold exec respond pwmGetPeriodNs
    rcases @getNs_spec s a .period s.channel.period rfl
      (lit "Unknown PWM 'period' value") with ⟨hroom, hget⟩ | ⟨e, hroom, hget⟩
    · simp only [hget, answer_readable, if_pos hroom]
      exact ⟨rfl, rfl⟩
    · simp only [hget, answer_readable, if_neg hroom]
      exact ⟨rfl, rfl⟩
  | getDutyCycleNs =>
    unfold exec respond pwmGetDutyCycleNs
    rcases @getNs_spec s a .dutyCycle s.channel.dutyCycle rfl
      (lit "Unknown PWM 'duty_cycle' value") with ⟨hroom, hget⟩ | ⟨e, hroom, hget⟩
    · simp only [hget, answer_readable, if_pos hroom]
      exact ⟨rfl, rfl⟩
    · simp only [hget, answer_readable, if_neg hroom]
      exact ⟨rfl, rfl⟩
  | getPolarity =>
    obtain ⟨e, hget⟩ := pwmGetPolarity_spec (s := s) (a := a)
    unfold exec respond answer
    by_cases hbroken : a.file.Broken
    · simp only [hget, if_pos hbroken]
      exact ⟨rfl, rfl⟩
    · simp only [hget, if_neg hbroken]
      exact ⟨rfl, rfl⟩
  | setPeriodNs ns =>
    obtain ⟨hcode, hvalue, hchannel, -⟩ := pwmSetPeriodNs_spec check s a ns
    exact ⟨congrArg Except.ok (Prod.ext hcode hvalue.symm), hchannel⟩
  | setDutyCycleNs ns =>
    obtain ⟨hcode, hvalue, hchannel, -⟩ :=
      setter_spec (a := a) (@takes_dutyCycle check s.channel ns)
    exact ⟨congrArg Except.ok (Prod.ext hcode hvalue.symm), hchannel⟩
  | setPolarity polarity =>
    cases polarity with
    | normal =>
      obtain ⟨hcode, hvalue, hchannel, -⟩ :=
        setter_spec (a := a) (@takes_polarity check s.channel false)
      exact ⟨congrArg Except.ok (Prod.ext hcode hvalue.symm), hchannel⟩
    | inversed =>
      obtain ⟨hcode, hvalue, hchannel, -⟩ :=
        setter_spec (a := a) (@takes_polarity check s.channel true)
      exact ⟨congrArg Except.ok (Prod.ext hcode hvalue.symm), hchannel⟩
    | other value => exact ⟨rfl, rfl⟩
  | setEnabled enabled =>
    obtain ⟨hcode, hvalue, hchannel, -⟩ :=
      setter_spec (a := a) (@takes_enabled check s.channel enabled)
    exact ⟨congrArg Except.ok (Prod.ext hcode hvalue.symm), hchannel⟩

/-- `pwm_get_enabled` overruns its array whenever it can read the attribute: what the kernel shows has
two characters, and so has the array. -/
theorem get_enabled_overruns {s : System} {a : Answers} (hread : ¬a.file.Broken) :
    pwmGetEnabled s a = .error (.outOfBounds 2) := by
  have hshow : 2 ≤ (s.channel.show .enable).length := by
    have htext : s.channel.show .enable = if s.channel.enabled then lit "1\n" else lit "0\n" := rfl
    rw [htext]
    cases s.channel.enabled <;> decide
  have hfault := readFile_overrun hread (a.stack 2) hshow
  unfold pwmGetEnabled pwmReadAttribute
  rw [hfault]
  rfl

/-- **A handle does to its channel what is asked of it**: in every run, whatever the driver accepts and
whichever system calls fail, the calls return what `respond` says, no array is overrun, and the channel is
configured as `respond` says. A time is read back if it is below `2 ^ 32`, and not written at all from
`2 ^ 63` on. `pwm_get_enabled` is no such call: after every run it overruns its array if it can read. -/
theorem pwm_refines_channel (check : Channel → Option Nat) (s : System) (calls : List (Call × Answers)) :
    (run (exec check) s calls).1 = (run (respond check) s.channel calls).1 ∧
      (run (exec check) s calls).2.channel = (run (respond check) s.channel calls).2 ∧
      ∀ a, ¬a.file.Broken → pwmGetEnabled (run (exec check) s calls).2 a = .error (.outOfBounds 2) := by
  have hsim : Simulates (exec check) (respond check) fun s c => s.channel = c := by
    intro s c call hchannel
    subst hchannel
    exact exec_respond check s call
  obtain ⟨hrets, hchannel⟩ := hsim.run rfl calls
  exact ⟨hrets, hchannel, fun a hread => get_enabled_overruns hread⟩

/-! ## The period that is remembered -/

/-- The handle remembers the period of the channel. -/
def Remembers (s : System) : Prop := s.pwm.periodNs = s.channel.period

/-- A call that does not fail to close the file of the period after it has written to it. -/
def Closes (c : Call × Answers) : Prop := ∀ ns, c.1 = .setPeriodNs ns → c.2.file.closed = none

theorem change_period (check : Channel → Option Nat) (a : FileAnswers) (c : Channel)
    {next : Option Channel} (h : ∀ c', next = some c' → c'.period = c.period) :
    (change check a c next).2.period = c.period := by
  rcases change_cases check a c next with heq | ⟨c', hnext, -, heq⟩ | ⟨c', hnext, heq⟩
  · rw [heq]
  · rw [heq]
    exact h c' hnext
  · rw [heq]
    exact h c' hnext

/-- A setter of something else keeps both. -/
theorem Remembers.setter (h : Remembers s) {attr : Attribute} {text : List Byte} {next : Option Channel}
    (htakes : Takes check s.channel attr text next)
    (hperiod : ∀ c', next = some c' → c'.period = s.channel.period) :
    Remembers (pwmWriteAttribute check s a attr text).2 := by
  obtain ⟨-, -, hchannel, hkept⟩ := setter_spec (a := a) htakes
  have hsame := change_period check a.file s.channel hperiod
  unfold Remembers
  rw [hkept, hchannel, hsame]
  exact h

/-- A successful read of the period remembers it, any other leaves both as they are. -/
theorem Remembers.getPeriodNs (h : Remembers s) :
    Remembers (got .ns s (pwmGetPeriodNs s a)).2 := by
  unfold pwmGetPeriodNs
  rcases @getNs_spec s a .period s.channel.period rfl (lit "Unknown PWM 'period' value") with
    ⟨-, hget⟩ | ⟨e, -, hget⟩
  · rw [hget]
    exact rfl
  · rw [hget]
    exact h

theorem Remembers.exec (h : Remembers s) {c : Call × Answers} (hcloses : Closes c) :
    Remembers (Pwm.exec check s c).2 := by
  obtain ⟨call, a⟩ := c
  cases call with
  | getPeriodNs => exact h.getPeriodNs
  | getDutyCycleNs =>
    unfold Pwm.exec pwmGetDutyCycleNs
    rcases @getNs_spec s a .dutyCycle s.channel.dutyCycle rfl (lit "Unknown PWM 'duty_cycle' value") with
      ⟨-, hget⟩ | ⟨e, -, hget⟩
    · simp only [hget]
      exact h
    · simp only [hget]
      exact h
  | getPolarity =>
    obtain ⟨e, hget⟩ := pwmGetPolarity_spec (s := s) (a := a)
    unfold Pwm.exec
    by_cases hbroken : a.file.Broken
    · simp only [hget, if_pos hbroken]
      exact h
    · simp only [hget, if_neg hbroken]
      exact h
  | setPeriodNs ns =>
    obtain ⟨-, -, hchannel, hkept⟩ := pwmSetPeriodNs_spec check s a ns
    have hclosed : a.file.closed = none := hcloses ns rfl
    show Remembers (pwmSetPeriodNs check s a ns).2
    unfold Remembers
    rw [hchannel, hkept]
    rcases change_cases check a.file s.channel
        (if ns.toNat < 2 ^ 63 then some { s.channel with period := ns } else none) with
      heq | ⟨c', -, hne, -⟩ | ⟨c', hnext, heq⟩
    · rw [heq]
      exact h
    · exact absurd hclosed hne
    · rw [heq]
      split at hnext
      · cases hnext
        rfl
      · cases hnext
  | setDutyCycleNs ns =>
    refine h.setter (takes_dutyCycle s.channel ns) fun c' hc' => ?_
    split at hc'
    · cases hc'
      rfl
    · cases hc'
  | setPolarity polarity =>
    cases polarity with
    | normal =>
      refine h.setter (takes_polarity s.channel false) fun c' hc' => ?_
      cases hc'
      rfl
    | inversed =>
      refine h.setter (takes_polarity s.channel true) fun c' hc' => ?_
      cases hc'
      rfl
    | other value => exact h
  | setEnabled enabled =>
    refine h.setter (takes_enabled s.channel enabled) fun c' hc' => ?_
    cases hc'
    rfl

end DiscoveryDemo.Periphery.Pwm
