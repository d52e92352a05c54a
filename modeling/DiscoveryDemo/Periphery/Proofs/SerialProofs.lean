import DiscoveryDemo.Periphery.SerialSettings
import DiscoveryDemo.CLib.Proofs.FlagsProofs

/-!
# Proofs: the settings of a serial port

Every flag of the attributes belongs to one setting or is always the same, and a setter changes the
flags of its own setting only. So the port answers the setters and getters as a record of settings
does, and the attributes do not depend on how the settings have come about.
-/

namespace DiscoveryDemo.Periphery.Serial

open CLib Driver

/-! ## Baud rates -/

theorem rates_ok {r : Word × Word} (hr : r ∈ rates) :
    isSpeed r.2 = true ∧ Within r.2 cbaud ∧ r.1 ≠ 0 ∧ serialBaudrateToBits r.1 = r.2 ∧
      serialBitsToBaudrate r.2 = r.1 := by
  have hall : rates.all (fun r => decide (isSpeed r.2 = true ∧ Within r.2 cbaud ∧ r.1 ≠ 0 ∧
      serialBaudrateToBits r.1 = r.2 ∧ serialBitsToBaudrate r.2 = r.1)) = true := by decide
  exact of_decide_eq_true (List.all_eq_true.mp hall r hr)

/-- A known baud rate has bits, and is found again by them. -/
theorem Known.bits {b : Word} (h : Known b) :
    isSpeed (serialBaudrateToBits b) = true ∧ Within (serialBaudrateToBits b) cbaud ∧
      rateBits b = serialBaudrateToBits b ∧ serialBitsToBaudrate (serialBaudrateToBits b) = b := by
  obtain ⟨r, hr, rfl⟩ := h
  obtain ⟨hspeed, hwithin, hne, hbits, hback⟩ := rates_ok hr
  rw [hbits]
  refine ⟨hspeed, hwithin, ?_, hback⟩
  rw [rateBits, if_neg hne, hbits]

/-- The bits for an unknown baud rate are no speed. -/
theorem not_isSpeed_of_unknown {b : Word} (h : ¬Known b) : isSpeed (serialBaudrateToBits b) = false := by
  have hnone : rates.find? (fun r => decide (r.1 = b)) = none := by
    rw [List.find?_eq_none]
    intro r hr hb
    exact h ⟨r, hr, of_decide_eq_true hb⟩
  rw [serialBaudrateToBits, hnone]
  decide

theorem rateBits_within {b : Word} (h : b = 0 ∨ Known b) : Within (rateBits b) cbaud := by
  rcases h with rfl | h
  · decide
  · rw [h.bits.2.2.1]
    exact h.bits.2.1

/-- The getter gives the baud rate that the attributes show. -/
theorem bitsToBaudrate_rateBits {b : Word} (h : b = 0 ∨ Known b) :
    serialBitsToBaudrate (rateBits b) = b := by
  rcases h with rfl | h
  · decide
  · rw [h.bits.2.2.1]
    exact h.bits.2.2.2

/-- Setting the speed of a known baud rate, twice over. -/
theorem cfsetspeed_known {b : Word} (h : Known b) (t : Termios) :
    cfsetspeed (cfsetspeed t (serialBaudrateToBits b)) (serialBaudrateToBits b) =
      { t with cflag := assign t.cflag cbaud (rateBits b) } := by
  obtain ⟨hspeed, hwithin, hrate, -⟩ := h.bits
  simp only [cfsetspeed, hspeed, if_true, assign_assign hwithin hwithin, hrate]

theorem cfsetspeed_unknown {b : Word} (h : ¬Known b) (t : Termios) :
    cfsetspeed (cfsetspeed t (serialBaudrateToBits b)) (serialBaudrateToBits b) = t := by
  have hspeed := not_isSpeed_of_unknown h
  simp [cfsetspeed, hspeed]

/-! ## Flags -/

theorem databitsFlag_within (n : Nat) : Within (databitsFlag n) csize := by
  unfold databitsFlag
  split_ifs <;> decide

theorem parityFlag_within (parity : Parity) : Within (parityFlag parity) (parenb ||| parodd) := by
  unfold parityFlag
  split_ifs <;> decide

theorem stopbitsFlag_within (n : Nat) : Within (stopbitsFlag n) cstopb := by
  unfold stopbitsFlag
  split_ifs <;> decide

theorem rtsctsFlag_within (enabled : Bool) : Within (rtsctsFlag enabled) crtscts := by
  cases enabled <;> decide

theorem xonxoffFlag_within (enabled : Bool) :
    Within (xonxoffFlag enabled) (ixon ||| ixoff ||| ixany) := by
  cases enabled <;> decide

theorem isDatabits_cases {n : Nat} (h : isDatabits n = true) : n = 5 ∨ n = 6 ∨ n = 7 ∨ n = 8 := by
  simp only [isDatabits, ne_eq, Bool.not_and, Bool.or_eq_true, Bool.not_eq_true',
    decide_eq_false_iff_not, not_not] at h
  omega

theorem isParity_cases {parity : Parity} (h : isParity parity = true) :
    parity = .none ∨ parity = .odd ∨ parity = .even := by
  cases parity with
  | none => exact Or.inl rfl
  | odd => exact Or.inr (Or.inl rfl)
  | even => exact Or.inr (Or.inr rfl)
  | other n => simp [isParity] at h

theorem isStopbits_cases {n : Nat} (h : isStopbits n = true) : n = 1 ∨ n = 2 := by
  simp only [isStopbits, ne_eq, Bool.not_and, Bool.or_eq_true, Bool.not_eq_true',
    decide_eq_false_iff_not, not_not] at h
  exact h

/-! ## What the setters do to the attributes -/

section Shows

variable {t : Termios} {s : Settings}

theorem Shows.setBaudrate (h : Shows t s) {b : Word} (hb : Known b) :
    Shows { t with cflag := assign t.cflag cbaud (rateBits b) }
      { s with baudrate := b, known := Or.inr hb } := by
  have hv : Within (rateBits b) cbaud := rateBits_within (Or.inr hb)
  exact
    { h with
      speed := assign_and_self hv
      size := (assign_and_apart hv (by decide)).trans h.size
      parity := (assign_and_apart hv (by decide)).trans h.parity
      stop := (assign_and_apart hv (by decide)).trans h.stop
      rtscts := (assign_and_apart hv (by decide)).trans h.rtscts
      control := (assign_and_apart hv (by decide)).trans h.control }

theorem Shows.setDatabits (h : Shows t s) {n : Nat} (hn : Serial.isDatabits n = true) :
    Shows { t with cflag := assign t.cflag csize (databitsFlag n) }
      { s with databits := n, isDatabits := hn } := by
  have hv := databitsFlag_within n
  exact
    { h with
      speed := (assign_and_apart hv (by decide)).trans h.speed
      size := assign_and_self hv
      parity := (assign_and_apart hv (by decide)).trans h.parity
      stop := (assign_and_apart hv (by decide)).trans h.stop
      rtscts := (assign_and_apart hv (by decide)).trans h.rtscts
      control := (assign_and_apart hv (by decide)).trans h.control }

theorem Shows.setStopbits (h : Shows t s) {n : Nat} (hn : Serial.isStopbits n = true) :
    Shows { t with cflag := assign t.cflag cstopb (stopbitsFlag n) }
      { s with stopbits := n, isStopbits := hn } := by
  have hv := stopbitsFlag_within n
  exact
    { h with
      speed := (assign_and_apart hv (by decide)).trans h.speed
      size := (assign_and_apart hv (by decide)).trans h.size
      parity := (assign_and_apart hv (by decide)).trans h.parity
      stop := assign_and_self hv
      rtscts := (assign_and_apart hv (by decide)).trans h.rtscts
      control := (assign_and_apart hv (by decide)).trans h.control }

theorem Shows.setRtscts (h : Shows t s) (enabled : Bool) :
    Shows { t with cflag := assign t.cflag crtscts (rtsctsFlag enabled) }
      { s with rtscts := enabled } := by
  have hv := rtsctsFlag_within enabled
  exact
    { h with
      speed := (assign_and_apart hv (by decide)).trans h.speed
      size := (assign_and_apart hv (by decide)).trans h.size
      parity := (assign_and_apart hv (by decide)).trans h.parity
      stop := (assign_and_apart hv (by decide)).trans h.stop
      rtscts := assign_and_self hv
      control := (assign_and_apart hv (by decide)).trans h.control }

theorem Shows.setXonxoff (h : Shows t s) (enabled : Bool) :
    Shows { t with iflag := assign t.iflag (ixon ||| ixoff ||| ixany) (xonxoffFlag enabled) }
      { s with xonxoff := enabled } := by
  have hv := xonxoffFlag_within enabled
  exact
    { h with
      check := (assign_and_apart hv (by decide)).trans h.check
      strip := (assign_and_apart hv (by decide)).trans h.strip
      xonxoff := assign_and_self hv
      input := (assign_and_apart hv (by decide)).trans h.input }

/-- `serial_set_parity` sets `ISTRIP` together with `INPCK`, whatever the number of data bits. -/
theorem Shows.setParity (h : Shows t s) {parity : Parity} (hp : Serial.isParity parity = true) :
    Shows
      { t with
        iflag := assign t.iflag (inpck ||| istrip) (if parity ≠ .none then inpck ||| istrip else 0)
        cflag := assign t.cflag (parenb ||| parodd) (parityFlag parity) }
      { s with parity := parity, strip := decide (parity ≠ .none), isParity := hp } := by
  have hv := parityFlag_within parity
  have hw : Within (if parity ≠ .none then inpck ||| istrip else 0) (inpck ||| istrip) := by
    split_ifs <;> decide
  have hself := @assign_and_self _ t.iflag _ _ hw
  exact
    { h with
      speed := (assign_and_apart hv (by decide)).trans h.speed
      size := (assign_and_apart hv (by decide)).trans h.size
      parity := assign_and_self hv
      stop := (assign_and_apart hv (by decide)).trans h.stop
      rtscts := (assign_and_apart hv (by decide)).trans h.rtscts
      control := (assign_and_apart hv (by decide)).trans h.control
      check := by
        rw [and_of_within (by decide) hself]
        dsimp only
        split_ifs <;> decide
      strip := by
        rw [and_of_within (by decide) hself]
        simp only [decide_eq_true_eq]
        split_ifs <;> decide
      xonxoff := (assign_and_apart hw (by decide)).trans h.xonxoff
      input := (assign_and_apart hw (by decide)).trans h.input }

/-! ## What the getters make of the attributes -/

theorem Shows.getBaudrate (h : Shows t s) : serialBitsToBaudrate (cfgetospeed t) = s.baudrate := by
  rw [cfgetospeed, h.speed]
  exact bitsToBaudrate_rateBits s.known

theorem Shows.getDatabits (h : Shows t s) :
    (let size := t.cflag &&& csize
     if size = cs5 then some 5
     else if size = cs6 then some 6
     else if size = cs7 then some 7
     else if size = cs8 then some 8
     else none) = some s.databits := by
  rw [h.size]
  rcases isDatabits_cases s.isDatabits with hn | hn | hn | hn <;> rw [hn] <;> decide

theorem Shows.getParity (h : Shows t s) :
    (if t.cflag &&& parenb = 0 then some Parity.none
     else if t.cflag &&& parodd = 0 then some Parity.even
     else some Parity.odd) = some s.parity := by
  have henb : t.cflag &&& parenb = parityFlag s.parity &&& parenb :=
    and_of_within (by decide) h.parity
  have hodd : t.cflag &&& parodd = parityFlag s.parity &&& parodd :=
    and_of_within (by decide) h.parity
  rw [henb, hodd]
  rcases isParity_cases s.isParity with hp | hp | hp <;> rw [hp] <;> decide

theorem Shows.getStopbits (h : Shows t s) :
    (if t.cflag &&& cstopb ≠ 0 then some 2 else some 1) = some s.stopbits := by
  rw [h.stop]
  rcases isStopbits_cases s.isStopbits with hn | hn <;> rw [hn] <;> decide

theorem Shows.getXonxoff (h : Shows t s) :
    (if t.iflag &&& (ixon ||| ixoff) ≠ 0 then some true else some false) = some s.xonxoff := by
  have hx : t.iflag &&& (ixon ||| ixoff) = xonxoffFlag s.xonxoff &&& (ixon ||| ixoff) :=
    and_of_within (by decide) h.xonxoff
  rw [hx]
  cases s.xonxoff <;> decide

theorem Shows.getRtscts (h : Shows t s) :
    (if t.cflag &&& crtscts ≠ 0 then some true else some false) = some s.rtscts := by
  rw [h.rtscts]
  cases s.rtscts <;> decide

end Shows

/-! ## The port and the record -/

section Simulation

variable {p : Port} {s : Settings}

/-- The answer of the port is the one of the record, and the port still represents the record. -/
def Agrees (r : Reply × Port) (r' : Reply × Settings) : Prop := r.1 = r'.1 ∧ Represents r.2 r'.2

/-- An error changes nothing but the error of the handle. -/
theorem Represents.error (h : Represents p s) (e : Error) :
    Represents { p with handle := { p.handle with error := e } } s :=
  ⟨h.opened, h.shows_settings, h.timeout⟩

theorem Represents.tcgetattr_fails (h : Represents p s) {a : Answers} {e : Nat}
    (ha : a.tcgetattr = some e) : tcgetattr p a = .error e := by
  rw [tcgetattr, if_neg (Int.not_lt.mpr h.opened), ha]

theorem Represents.tcgetattr_ok (h : Represents p s) {a : Answers} (ha : a.tcgetattr = none) :
    tcgetattr p a = .ok p.tty := by
  rw [tcgetattr, if_neg (Int.not_lt.mpr h.opened), ha]

theorem agrees_invalid (h : Represents p s) {c : Call} (hput : s.put c = none) (a : Answers)
    (text : List Byte) : Agrees (setter (Serial.fail p errorArg 0 text)) (respond s (c, a)) := by
  have hrespond : respond s (c, a) = ((errorArg, none), s) := by simp [respond, hput]
  rw [hrespond]
  exact ⟨rfl, h.error _⟩

theorem agrees_configure (h : Represents p s) {c : Call} {s' : Settings} {change : Termios → Termios}
    (hput : s.put c = some s') (hget : s.get c = none) (hshow : Shows (change p.tty) s')
    (hvmin : s'.vmin = s.vmin) {a : Answers} (ha : a.AsAsked) :
    Agrees (setter (configure p a change)) (respond s (c, a)) := by
  cases hg : a.tcgetattr with
  | some e =>
    simp only [configure, h.tcgetattr_fails hg, respond, hput, hg, ne_eq, reduceCtorEq,
      not_false_eq_true, if_true]
    exact ⟨rfl, h.error _⟩
  | none =>
    cases hs : a.tcsetattr with
    | some e =>
      simp only [configure, h.tcgetattr_ok hg, hg, tcsetattr, hs, respond, hput, hget, ne_eq, reduceCtorEq,
        not_false_eq_true, not_true, if_true, if_false, and_self]
      exact ⟨rfl, h.error _⟩
    | none =>
      simp only [configure, h.tcgetattr_ok hg, hg, tcsetattr, hs, ha (change p.tty), respond, hput, hget,
        ne_eq, not_true, if_false, and_false]
      exact ⟨rfl, h.opened, hshow, by rw [hvmin]; exact h.timeout⟩

/-- A setter that checks its argument. -/
theorem agrees_checked {c : Call} {change : Termios → Termios} {valid : Bool} {text : List Byte}
    (h : Represents p s) (hinvalid : valid = false → s.put c = none)
    (hvalid : valid = true → ∃ s', s.put c = some s' ∧ Shows (change p.tty) s' ∧ s'.vmin = s.vmin)
    (hget : s.get c = none) {a : Answers} (ha : a.AsAsked) :
    Agrees (setter (if !valid then Serial.fail p errorArg 0 text else configure p a change))
      (respond s (c, a)) := by
  cases valid with
  | false => exact agrees_invalid h (hinvalid rfl) a text
  | true =>
    obtain ⟨s', hput, hshow, hvmin⟩ := hvalid rfl
    exact agrees_configure h hput hget hshow hvmin ha

theorem agrees_query {α : Type} {f : α → Value} {value : Termios → Option α} (h : Represents p s)
    {c : Call} {x : α} (hput : s.put c = some s) (hget : s.get c = some (f x))
    (hvalue : value p.tty = some x) (a : Answers) :
    Agrees (getter f (query p a value)) (respond s (c, a)) := by
  cases hg : a.tcgetattr with
  | some e =>
    simp only [query, h.tcgetattr_fails hg, respond, hput, hg, ne_eq, reduceCtorEq,
      not_false_eq_true, if_true]
    exact ⟨rfl, h.error _⟩
  | none =>
    simp only [query, h.tcgetattr_ok hg, hg, respond, hput, hget, hvalue, ne_eq, reduceCtorEq, not_true,
      if_false, false_and]
    exact ⟨rfl, h⟩

/-- `serial_set_vmin` also decides how a read ends. -/
theorem agrees_setVmin (h : Represents p s) {vmin : Nat} (hmax : vmin ≤ 255) {a : Answers}
    (ha : a.AsAsked) :
    Agrees (setter (serialSetVmin p a vmin)) (respond s (.setVmin vmin, a)) := by
  have hput : s.put (.setVmin vmin) = some { s with vmin := UInt8.ofNat vmin } := by
    simp [Settings.put, hmax]
  have hget : s.get (.setVmin vmin) = none := rfl
  have hquery : errorQuery < 0 := by decide
  have hconfigure : errorConfigure < 0 := by decide
  unfold serialSetVmin
  rw [if_neg (Nat.not_lt.mpr hmax)]
  cases hg : a.tcgetattr with
  | some e =>
    simp only [configure, h.tcgetattr_fails hg, Serial.fail, hquery, respond, hput, hg, ne_eq,
      reduceCtorEq, not_false_eq_true, if_true]
    exact ⟨rfl, h.error _⟩
  | none =>
    cases hs : a.tcsetattr with
    | some e =>
      simp only [configure, h.tcgetattr_ok hg, hg, tcsetattr, hs, Serial.fail, hconfigure, respond, hput,
        hget, ne_eq, reduceCtorEq, not_false_eq_true, not_true, if_true, if_false, and_self]
      exact ⟨rfl, h.error _⟩
    | none =>
      simp only [configure, h.tcgetattr_ok hg, hg, tcsetattr, hs, ha { p.tty with vmin := _ }, respond,
        hput, hget, ne_eq, not_true, if_false, and_false]
      refine ⟨rfl, h.opened, { h.shows_settings with vmin := rfl }, ?_⟩
      have hval : (UInt8.ofNat vmin).toNat = vmin := by
        rw [UInt8.toNat_ofNat']
        omega
      simp [setter, hval]

/-- **The port answers as the record does**, if the driver does as it is asked. -/
theorem exec_agrees (h : Represents p s) {c : Call × Answers} (ha : c.2.AsAsked) :
    Agrees (exec p c) (respond s c) := by
  obtain ⟨call, a⟩ := c
  have hshow := h.shows_settings
  cases call with
  | setBaudrate b =>
    by_cases hb : Known b
    · have hput : s.put (.setBaudrate b) = some { s with baudrate := b, known := Or.inr hb } := by
        simp [Settings.put, hb]
      refine agrees_configure h hput rfl ?_ rfl ha
      rw [cfsetspeed_known hb]
      exact hshow.setBaudrate hb
    · have hput : s.put (.setBaudrate b) = some s := by simp [Settings.put, hb]
      refine agrees_configure h hput rfl ?_ rfl ha
      rw [cfsetspeed_unknown hb]
      exact hshow
  | setDatabits n =>
    exact agrees_checked h (fun hn => by simp [Settings.put, hn])
      (fun hn => ⟨{ s with databits := n, isDatabits := hn }, by simp [Settings.put, hn],
        hshow.setDatabits hn, rfl⟩) rfl ha
  | setParity parity =>
    exact agrees_checked h (fun hp => by simp [Settings.put, hp])
      (fun hp => ⟨{ s with parity := parity, strip := decide (parity ≠ .none), isParity := hp },
        by simp [Settings.put, hp], hshow.setParity hp, rfl⟩) rfl ha
  | setStopbits n =>
    exact agrees_checked h (fun hn => by simp [Settings.put, hn])
      (fun hn => ⟨{ s with stopbits := n, isStopbits := hn }, by simp [Settings.put, hn],
        hshow.setStopbits hn, rfl⟩) rfl ha
  | setXonxoff enabled =>
    have hput : s.put (.setXonxoff enabled) = some { s with xonxoff := enabled } := rfl
    exact agrees_configure h hput rfl (hshow.setXonxoff enabled) rfl ha
  | setRtscts enabled =>
    have hput : s.put (.setRtscts enabled) = some { s with rtscts := enabled } := rfl
    exact agrees_configure h hput rfl (hshow.setRtscts enabled) rfl ha
  | setVmin vmin =>
    by_cases hmax : vmin ≤ 255
    · exact agrees_setVmin h hmax ha
    · have hput : s.put (.setVmin vmin) = none := by simp [Settings.put, hmax]
      have hagrees := agrees_invalid h hput a (lit "Invalid vmin (can be 0-255)")
      simpa [exec, serialSetVmin, Nat.lt_of_not_le hmax] using hagrees
  | setVtime tenths =>
    cases tenths with
    | none => exact agrees_invalid h rfl a _
    | some tenths =>
      have hput : s.put (.setVtime (some tenths)) = some { s with vtime := tenths } := rfl
      exact agrees_configure h hput rfl { hshow with vtime := rfl } rfl ha
  | getBaudrate =>
    have hvalue : some (serialBitsToBaudrate (cfgetospeed p.tty)) = some s.baudrate := by
      rw [hshow.getBaudrate]
    exact agrees_query h rfl rfl hvalue a
  | getDatabits => exact agrees_query h rfl rfl hshow.getDatabits a
  | getParity => exact agrees_query h rfl rfl hshow.getParity a
  | getStopbits => exact agrees_query h rfl rfl hshow.getStopbits a
  | getXonxoff => exact agrees_query h rfl rfl hshow.getXonxoff a
  | getRtscts => exact agrees_query h rfl rfl hshow.getRtscts a
  | getVmin =>
    have hvalue : some p.tty.vmin = some s.vmin := by rw [hshow.vmin]
    exact agrees_query h rfl rfl hvalue a
  | getVtime =>
    have hvalue : some p.tty.vtime = some s.vtime := by rw [hshow.vtime]
    exact agrees_query h rfl rfl hvalue a

/-- A run is answered as the record answers it. -/
theorem runs_agree (h : Represents p s) {calls : List (Call × Answers)}
    (hcalls : ∀ c ∈ calls, c.2.AsAsked) :
    (run exec p calls).1 = (run respond s calls).1 ∧
      Represents (run exec p calls).2 (run respond s calls).2 := by
  have hstep : ∀ p s (c : Call × Answers), c.2.AsAsked → Represents p s →
      (exec p c).1 = (respond s c).1 ∧ Represents (exec p c).2 (respond s c).2 :=
    fun p s c ha h => exec_agrees h ha
  exact run_simulates hstep h hcalls

end Simulation

/-! ## Opening -/

/-- `c_cflag` in `serial_open_advanced`, before the baud rate. -/
theorem openSettings_cflag {n : Nat} {parity : Parity} {stop : Nat} (hn : isDatabits n = true)
    (hp : isParity parity = true) (hs : isStopbits stop = true) (rts : Bool) {x : Word}
    (hx : x = cread ||| clocal ||| databitsFlag n ||| parityFlag parity ||| stopbitsFlag stop |||
      rtsctsFlag rts) :
    x &&& cbaud = b0 ∧ x &&& csize = databitsFlag n ∧
      x &&& (parenb ||| parodd) = parityFlag parity ∧ x &&& cstopb = stopbitsFlag stop ∧
      x &&& crtscts = rtsctsFlag rts ∧ x &&& ~~~cflagMask = cread ||| clocal := by
  subst hx
  rcases isDatabits_cases hn with rfl | rfl | rfl | rfl <;>
    rcases isParity_cases hp with rfl | rfl | rfl <;>
    rcases isStopbits_cases hs with rfl | rfl <;>
    cases rts <;> decide

/-- `c_iflag` in `serial_open_advanced`. -/
theorem openSettings_iflag (par strip xon : Bool) {x : Word}
    (hx : x = (if strip then (if par then ignbrk ||| inpck else ignbrk) ||| istrip
      else if par then ignbrk ||| inpck else ignbrk) ||| xonxoffFlag xon) :
    x &&& inpck = (if par then inpck else 0) ∧ x &&& istrip = (if strip then istrip else 0) ∧
      x &&& (ixon ||| ixoff ||| ixany) = xonxoffFlag xon ∧ x &&& ~~~iflagMask = ignbrk := by
  subst hx
  cases par <;> cases strip <;> cases xon <;> decide

/-- `termios_settings` in `serial_open_advanced`, before the baud rate. -/
def unratedSettings (n : Nat) (parity : Parity) (stop : Nat) (xon rts : Bool) : Termios :=
  { Termios.zero with
    iflag := (if parity ≠ .none ∧ n ≠ 8 then (if parity ≠ .none then ignbrk ||| inpck else ignbrk) ||| istrip
      else if parity ≠ .none then ignbrk ||| inpck else ignbrk) ||| xonxoffFlag xon
    cflag := cread ||| clocal ||| databitsFlag n ||| parityFlag parity ||| stopbitsFlag stop |||
      rtsctsFlag rts }

theorem openSettings_eq (rate : Word) (n : Nat) (parity : Parity) (stop : Nat) (xon rts : Bool) :
    openSettings rate n parity stop xon rts =
      cfsetspeed (cfsetspeed (unratedSettings n parity stop xon rts) (serialBaudrateToBits rate))
        (serialBaudrateToBits rate) := rfl

/-- The attributes that `serial_open_advanced` sets show the settings it is asked for. -/
theorem shows_openSettings (rate : Word) {n : Nat} {parity : Parity} {stop : Nat}
    (hn : isDatabits n = true) (hp : isParity parity = true) (hs : isStopbits stop = true)
    (xon rts : Bool) :
    ∃ s : Settings, s.OpenedWith rate n parity stop xon rts ∧
      Shows (openSettings rate n parity stop xon rts) s := by
  obtain ⟨hspeed, hsize, hparity, hstop, hrts, hcontrol⟩ := openSettings_cflag hn hp hs rts rfl
  obtain ⟨hcheck, hstrip, hxon, hinput⟩ := openSettings_iflag (decide (parity ≠ .none))
    (decide (parity ≠ .none ∧ n ≠ 8)) xon rfl
  simp only [decide_eq_true_eq] at hcheck hstrip hxon hinput
  -- without a baud rate the attributes show the rate 0
  let s₀ : Settings := ⟨0, n, parity, stop, xon, rts, 0, 0, decide (parity ≠ .none ∧ n ≠ 8),
    Or.inl rfl, hn, hp, hs⟩
  have hshow : Shows (unratedSettings n parity stop xon rts) s₀ :=
    { speed := hspeed
      size := hsize
      parity := hparity
      stop := hstop
      rtscts := hrts
      control := hcontrol
      check := hcheck
      strip := by
        simp only [s₀, decide_eq_true_eq]
        exact hstrip
      xonxoff := hxon
      input := hinput
      output := rfl
      line := rfl
      vmin := rfl
      vtime := rfl }
  rw [openSettings_eq]
  by_cases h : Known rate
  · rw [cfsetspeed_known h]
    exact ⟨{ s₀ with baudrate := rate, known := Or.inr h },
      ⟨(if_pos h).symm, rfl, rfl, rfl, rfl, rfl, rfl, rfl, rfl⟩, hshow.setBaudrate h⟩
  · rw [cfsetspeed_unknown h]
    exact ⟨s₀, ⟨(if_neg h).symm, rfl, rfl, rfl, rfl, rfl, rfl, rfl, rfl⟩, hshow⟩

end DiscoveryDemo.Periphery.Serial
