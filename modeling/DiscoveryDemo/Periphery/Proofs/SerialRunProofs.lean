import DiscoveryDemo.Periphery.Proofs.SerialProofs

/-!
# Proofs: runs of a serial port

What holds of a port that has been opened, after any calls of the setters and getters with any failures
of their system calls, if the driver puts in force what it is asked for.
-/

namespace DiscoveryDemo.Periphery.Serial

open CLib Driver

/-! ## Opening -/

section Open

variable {p : Port} {path : List Byte} {rate : Word} {n stop : Nat} {parity : Parity} {xon rts : Bool}
  {opened : Except Nat Nat} {a : Answers}

/-- All that `serial_open_advanced` does when it succeeds. -/
theorem serialOpenAdvanced_ok
    (h : (serialOpenAdvanced p path rate n parity stop xon rts opened a).1 = 0) :
    isDatabits n = true ∧ isParity parity = true ∧ isStopbits stop = true ∧
      ∃ fd : Nat, (serialOpenAdvanced p path rate n parity stop xon rts opened a).2 =
        ⟨⟨fd, false, Error.none⟩, a.inForce (openSettings rate n parity stop xon rts)⟩ := by
  unfold serialOpenAdvanced at h ⊢
  cases hn : isDatabits n with
  | false =>
    rw [hn] at h
    exact absurd (show errorArg = 0 from h) (by decide)
  | true =>
    cases hp : isParity parity with
    | false =>
      rw [hn, hp] at h
      exact absurd (show errorArg = 0 from h) (by decide)
    | true =>
      cases hs : isStopbits stop with
      | false =>
        rw [hn, hp, hs] at h
        exact absurd (show errorArg = 0 from h) (by decide)
      | true =>
        rw [hn, hp, hs] at h
        cases opened with
        | error e => exact absurd (show errorOpen = 0 from h) (by decide)
        | ok fd =>
          cases hs : a.tcsetattr with
          | some e =>
            simp only [hs] at h
            exact absurd (show errorConfigure = 0 from h) (by decide)
          | none => exact ⟨rfl, rfl, rfl, fd, rfl⟩

/-- A port that has been opened represents the settings it has been opened with. -/
theorem represents_opened
    (h : (serialOpenAdvanced p path rate n parity stop xon rts opened a).1 = 0) (ha : a.AsAsked) :
    ∃ s : Settings, s.OpenedWith rate n parity stop xon rts ∧
      Represents (serialOpenAdvanced p path rate n parity stop xon rts opened a).2 s := by
  obtain ⟨hn, hp, hs, fd, heq⟩ := serialOpenAdvanced_ok h
  obtain ⟨s, hs₀, hshow⟩ := shows_openSettings rate hn hp hs xon rts
  refine ⟨s, hs₀, ?_⟩
  rw [heq, ha]
  refine ⟨Int.natCast_nonneg fd, hshow, ?_⟩
  rw [hs₀.vmin]
  rfl

/-- **A serial port behaves as a record of settings**: whatever the setters and getters are called with
after the port has been opened, and whichever of their system calls fail, they return what the record
returns, as long as the driver puts in force what it is asked for. -/
theorem serial_refines_settings
    (h : (serialOpenAdvanced p path rate n parity stop xon rts opened a).1 = 0) (ha : a.AsAsked) :
    ∃ s : Settings, s.OpenedWith rate n parity stop xon rts ∧
      ∀ calls : List (Call × Answers), (∀ c ∈ calls, c.2.AsAsked) →
        (run exec (serialOpenAdvanced p path rate n parity stop xon rts opened a).2 calls).1 =
            (run respond s calls).1 ∧
          Represents (run exec (serialOpenAdvanced p path rate n parity stop xon rts opened a).2 calls).2
            (run respond s calls).2 := by
  obtain ⟨s, hs, hrep⟩ := represents_opened h ha
  exact ⟨s, hs, fun calls hcalls => runs_agree hrep hcalls⟩

end Open

/-- A port opened as ioexample7 opens it. -/
theorem serial_refines_settings_115200 :
    ∃ s : Settings, s.OpenedWith 115200 8 .none 1 false false ∧
      ∀ calls : List (Call × Answers), (∀ c ∈ calls, c.2.AsAsked) →
        (run exec (serialOpenAdvanced ⟨serialNew, Termios.zero⟩ [] 115200 8 .none 1 false
            false (.ok 3) Answers.fine).2 calls).1 = (run respond s calls).1 ∧
          Represents (run exec (serialOpenAdvanced ⟨serialNew, Termios.zero⟩ [] 115200 8
            .none 1 false false (.ok 3) Answers.fine).2 calls).2 (run respond s calls).2 :=
  serial_refines_settings rfl asAsked_fine

/-! ## The attributes -/

/-- The port has been opened, and after that its setters and getters have been called. The driver has put
in force what it was asked for. -/
def Reached (q : Port) : Prop :=
  ∃ p path rate n parity stop xon rts opened a calls,
    a.AsAsked ∧ (∀ c ∈ calls, c.2.AsAsked) ∧
      (serialOpenAdvanced p path rate n parity stop xon rts opened a).1 = 0 ∧
      q = (run exec (serialOpenAdvanced p path rate n parity stop xon rts opened a).2 calls).2

theorem Reached.represents {q : Port} (h : Reached q) : ∃ s, Represents q s := by
  obtain ⟨p, path, rate, n, parity, stop, xon, rts, opened, a, calls, ha, hcalls, hopen, rfl⟩ := h
  obtain ⟨s, -, hrep⟩ := represents_opened hopen ha
  exact ⟨_, (runs_agree hrep hcalls).2⟩

/-- The calls of the getters, with system calls that succeed. -/
def getters : List (Call × Answers) :=
  [.getBaudrate, .getDatabits, .getParity, .getStopbits, .getXonxoff, .getRtscts, .getVmin,
    .getVtime].map (·, Answers.fine)

/-- Settings that the getters give and that strip the same are shown by the same attributes. -/
theorem Shows.unique {t t' : Termios} {s : Settings} (h : Shows t s) (h' : Shows t' s) : t = t' := by
  have hc : t.cflag = t'.cflag := by
    apply eq_of_agreeOn
      (show union [cbaud, csize, parenb ||| parodd, cstopb, crtscts, ~~~cflagMask] = BitVec.allOnes 32 by
        decide)
    intro m hm
    simp only [List.mem_cons, List.not_mem_nil, or_false] at hm
    rcases hm with rfl | rfl | rfl | rfl | rfl | rfl
    · exact h.speed.trans h'.speed.symm
    · exact h.size.trans h'.size.symm
    · exact h.parity.trans h'.parity.symm
    · exact h.stop.trans h'.stop.symm
    · exact h.rtscts.trans h'.rtscts.symm
    · exact h.control.trans h'.control.symm
  have hi : t.iflag = t'.iflag := by
    apply eq_of_agreeOn
      (show union [inpck, istrip, ixon ||| ixoff ||| ixany, ~~~iflagMask] = BitVec.allOnes 32 by decide)
    intro m hm
    simp only [List.mem_cons, List.not_mem_nil, or_false] at hm
    rcases hm with rfl | rfl | rfl | rfl
    · exact h.check.trans h'.check.symm
    · exact h.strip.trans h'.strip.symm
    · exact h.xonxoff.trans h'.xonxoff.symm
    · exact h.input.trans h'.input.symm
  have ho : t.oflag = t'.oflag := h.output.trans h'.output.symm
  have hl : t.lflag = t'.lflag := h.line.trans h'.line.symm
  have hm : t.vmin = t'.vmin := h.vmin.trans h'.vmin.symm
  have ht : t.vtime = t'.vtime := h.vtime.trans h'.vtime.symm
  cases t
  cases t'
  simp only at hc hi ho hl hm ht
  simp only [hc, hi, ho, hl, hm, ht]

/-- What a getter answers on a port that represents the settings. -/
theorem Represents.answer {p : Port} {s : Settings} (h : Represents p s) {c : Call}
    (hput : s.put c = some s) : (exec p (c, Answers.fine)).1 = (0, s.get c) := by
  have hsim := (@exec_agrees p s h (c, Answers.fine) asAsked_fine).1
  rw [hsim]
  simp [respond, hput, Answers.fine]

/-- **The attributes of a port are a function of its settings**: two ports that have been opened and
set in whatever ways, with drivers that put in force what they are asked for, have the same attributes,
and end their reads in the same way, once their getters give the same and both or none of them strip the
8th bit. -/
theorem attributes_determined {q q' : Port} (h : Reached q) (h' : Reached q')
    (hget : ∀ c ∈ getters, (exec q c).1 = (exec q' c).1)
    (hstrip : q.tty.iflag &&& istrip = q'.tty.iflag &&& istrip) :
    q.tty = q'.tty ∧ q.handle.useTermiosTimeout = q'.handle.useTermiosTimeout := by
  obtain ⟨s, hs⟩ := h.represents
  obtain ⟨s', hs'⟩ := h'.represents
  have hsame : ∀ c : Call, (c, Answers.fine) ∈ getters → s.put c = some s → s'.put c = some s' →
      s.get c = s'.get c := by
    intro c hc hput hput'
    have heq := hget _ hc
    rw [hs.answer hput, hs'.answer hput'] at heq
    exact (Prod.mk.inj heq).2
  have hbaud := hsame .getBaudrate (by simp [getters]) rfl rfl
  have hdata := hsame .getDatabits (by simp [getters]) rfl rfl
  have hparity := hsame .getParity (by simp [getters]) rfl rfl
  have hstop := hsame .getStopbits (by simp [getters]) rfl rfl
  have hxon := hsame .getXonxoff (by simp [getters]) rfl rfl
  have hrts := hsame .getRtscts (by simp [getters]) rfl rfl
  have hvmin := hsame .getVmin (by simp [getters]) rfl rfl
  have hvtime := hsame .getVtime (by simp [getters]) rfl rfl
  have hstrips : s.strip = s'.strip := by
    rw [hs.shows_settings.strip, hs'.shows_settings.strip] at hstrip
    cases hb : s.strip <;> cases hb' : s'.strip <;> rw [hb, hb'] at hstrip
    · exact absurd hstrip (by decide)
    · exact absurd hstrip (by decide)
  simp only [Settings.get, Option.some.injEq, Value.baudrate.injEq, Value.count.injEq,
    Value.parity.injEq] at hbaud hdata hparity hstop
  simp only [Settings.get, Option.some.injEq, Value.switch.injEq, Value.byte.injEq] at hxon hrts hvmin hvtime
  have hsettings : s = s' := by
    cases s
    cases s'
    simp only at hbaud hdata hparity hstop hxon hrts hvmin hvtime hstrips
    simp only [hbaud, hdata, hparity, hstop, hxon, hrts, hvmin, hvtime, hstrips]
  subst hsettings
  exact ⟨hs.shows_settings.unique hs'.shows_settings, hs.timeout.trans hs'.timeout.symm⟩

/-- A port that has been set to even parity and back to none is as it was. -/
theorem attributes_determined_undone :
    let q := (serialOpenAdvanced ⟨serialNew, Termios.zero⟩ [] 9600 7 .none 1 false false
      (.ok 3) Answers.fine).2
    let q' := (run exec q [(.setParity .even, Answers.fine), (.setParity .none, Answers.fine)]).2
    q.tty = q'.tty ∧ q.handle.useTermiosTimeout = q'.handle.useTermiosTimeout :=
  attributes_determined
    ⟨⟨serialNew, Termios.zero⟩, [], 9600, 7, .none, 1, false, false, .ok 3, Answers.fine, [],
      asAsked_fine, fun c hc => absurd hc List.not_mem_nil, rfl, rfl⟩
    ⟨⟨serialNew, Termios.zero⟩, [], 9600, 7, .none, 1, false, false, .ok 3, Answers.fine,
      [(.setParity .even, Answers.fine), (.setParity .none, Answers.fine)], asAsked_fine, by
        intro c hc
        simp only [List.mem_cons, List.not_mem_nil, or_false] at hc
        rcases hc with rfl | rfl
        · exact asAsked_fine
        · exact asAsked_fine, rfl, rfl⟩
    (by decide) (by decide)

/-! ## The 8th bit -/

/-- In the record the 8th bit is stripped just if there is a parity. -/
def StripsParity (s : Settings) : Prop := s.strip = decide (s.parity ≠ .none)

theorem StripsParity.put {s s' : Settings} (h : StripsParity s) {c : Call} (hput : s.put c = some s') :
    StripsParity s' := by
  cases c with
  | setBaudrate b =>
    simp only [Settings.put] at hput
    split at hput
    · cases hput
      exact h
    · cases hput
      exact h
  | setDatabits n =>
    simp only [Settings.put] at hput
    split at hput
    · cases hput
      exact h
    · cases hput
  | setParity parity =>
    simp only [Settings.put] at hput
    split at hput
    · cases hput
      rfl
    · cases hput
  | setStopbits n =>
    simp only [Settings.put] at hput
    split at hput
    · cases hput
      exact h
    · cases hput
  | setVmin vmin =>
    simp only [Settings.put] at hput
    split at hput
    · cases hput
      exact h
    · cases hput
  | setVtime tenths =>
    cases tenths with
    | none => cases hput
    | some tenths =>
      cases hput
      exact h
  | _ =>
    cases hput
    exact h

theorem StripsParity.respond {s : Settings} (h : StripsParity s) (c : Call × Answers) :
    StripsParity (respond s c).2 := by
  unfold Serial.respond
  cases hput : s.put c.1 with
  | none => exact h
  | some s' =>
    dsimp only
    split
    · exact h
    · split
      · exact h
      · exact h.put hput

/-- **The 8th bit is stripped whenever a parity is set**, whatever the number of data bits, although
opening a port with 8 data bits takes care that it is not. The driver puts in force what it is asked for. -/
theorem strips_iff_parity {p : Port} {path : List Byte} {rate : Word} {n stop : Nat} {parity : Parity}
    {xon rts : Bool} {opened : Except Nat Nat} {a : Answers}
    (h : (serialOpenAdvanced p path rate n parity stop xon rts opened a).1 = 0)
    (ha : a.AsAsked) (hparity : parity = .none ∨ n ≠ 8) {calls : List (Call × Answers)}
    (hcalls : ∀ c ∈ calls, c.2.AsAsked) :
    let q := (run exec (serialOpenAdvanced p path rate n parity stop xon rts opened a).2 calls).2
    q.tty.iflag &&& istrip ≠ 0 ↔
      ∃ par, par ≠ .none ∧ (serialGetParity q Answers.fine).1 = (0, some par) := by
  intro q
  obtain ⟨s, hs, hrep⟩ := represents_opened h ha
  have hstart : StripsParity s := by
    rw [StripsParity, hs.strip, hs.parity]
    rcases hparity with hp | hn
    · simp [hp]
    · simp [hn]
  have hreach : Reachable respond s (run respond s calls).2 := ⟨calls, rfl⟩
  have hend : StripsParity (run respond s calls).2 :=
    hreach.invariant (fun s c hinv => hinv.respond c) hstart
  have hq : Represents q (run respond s calls).2 := (runs_agree hrep hcalls).2
  have hget : (serialGetParity q Answers.fine).1 = (0, some (run respond s calls).2.parity) := by
    unfold serialGetParity query
    rw [hq.tcgetattr_ok rfl]
    exact Prod.ext rfl hq.shows_settings.getParity
  have hflag := hq.shows_settings.strip
  rw [hget, hflag, show _ = _ from hend]
  constructor
  · intro hne
    refine ⟨(run respond s calls).2.parity, ?_, rfl⟩
    intro hnone
    rw [hnone] at hne
    exact hne rfl
  · rintro ⟨par, hpar, heq⟩
    have hp : (run respond s calls).2.parity = par := by simpa using heq
    rw [hp]
    simp only [ne_eq, hpar, not_false_eq_true, decide_true, if_true]
    decide

/-- A port opened as ioexample7 opens it and then set to even parity. -/
theorem strips_iff_parity_even :
    let q := (run exec (serialOpenAdvanced ⟨serialNew, Termios.zero⟩ [] 115200 8 .none 1
      false false (.ok 3) Answers.fine).2 [(.setParity .even, Answers.fine)]).2
    q.tty.iflag &&& istrip ≠ 0 ↔
      ∃ par, par ≠ .none ∧ (serialGetParity q Answers.fine).1 = (0, some par) :=
  strips_iff_parity rfl asAsked_fine (Or.inl rfl) (by
    intro c hc
    rw [List.mem_singleton.mp hc]
    exact asAsked_fine)

end DiscoveryDemo.Periphery.Serial
