import DiscoveryDemo.Periphery.Proofs.SpiProofs

/-!
# Proofs: runs of SPI devices

What holds of a device from `spi_open` on: its settings are changed one by one, except that the flags
beyond a byte get lost.
-/

namespace DiscoveryDemo.Periphery.Spi

open CLib Driver

variable {setup : Setup} {s : System}

/-! ## Opening -/

/-- What `spi_open` asks for. -/
structure Wanted where
  mode : BitVec 32
  maxSpeed : UInt32
  bitOrder : BitOrder
  bitsPerWord : UInt8
  extraFlags : BitVec 32

/-- `spi_open_advanced2` -/
def Wanted.open (w : Wanted) (setup : Setup) (s : System) (a : OpenAnswers) (path : List Byte) :
    Int × System :=
  spiOpenAdvanced2 setup s a path w.mode w.maxSpeed w.bitOrder w.bitsPerWord w.extraFlags

/-- The mode, the bit order and the flags are set together. -/
def Wanted.start (w : Wanted) (s : Settings) : Settings :=
  { s with mode := w.mode, lsbFirst := decide (w.bitOrder = BitOrder.lsbFirst) }.withFlags w.extraFlags

/-- What a controller makes of settings. -/
def settle (setup : Setup) (s : Settings) : Except Nat Settings :=
  match setup s.config with
  | .error e => .error e
  | .ok c => .ok c.settings

/-- The settings that a device has been opened with: the controller is asked three times. -/
inductive Opened (setup : Setup) (w : Wanted) (s₀ : Settings) : Settings → Prop where
  | intro (s₁ s₂ s₃ : Settings) (hmode : settle setup (w.start s₀) = .ok s₁)
      (hspeed : settle setup { s₁ with maxSpeed := w.maxSpeed } = .ok s₂)
      (hbits : settle setup { s₂ with bitsPerWord := w.bitsPerWord } = .ok s₃) : Opened setup w s₀ s₃

/-- Both ways to write the word are the same. -/
theorem modeWord_config {w : Wanted} (hmode : w.mode &&& ~~~modeMask = 0) (c : Config) :
    { c with mode := modeWord w.mode w.bitOrder w.extraFlags } = (w.start c.settings).config := by
  have hword : modeWord w.mode w.bitOrder w.extraFlags =
      (w.mode ||| (w.extraFlags &&& modeMask)) |||
        (if decide (w.bitOrder = .lsbFirst) || w.extraFlags.getLsbD 3 then lsbFirstFlag else 0) |||
        (w.extraFlags &&& ~~~keepMask) := by
    have horder : (if w.bitOrder = .lsbFirst then lsbFirstFlag else 0) =
        if decide (w.bitOrder = .lsbFirst) then lsbFirstFlag else 0 := by
      by_cases hlsb : w.bitOrder = .lsbFirst <;> simp [hlsb]
    unfold modeWord
    rw [horder]
    apply BitVec.eq_of_getLsbD_eq
    intro i hi
    have hm := mode_bit hmode hi
    simp only [BitVec.getLsbD_or, BitVec.getLsbD_and, BitVec.getLsbD_not, modeMask_bit hi,
      order_bit _ hi, keepMask_bit hi, hi, decide_true, Bool.true_and]
    grind
  rw [hword]
  rfl

theorem modeWord_byte {w : Wanted} (hmode : w.mode &&& ~~~modeMask = 0)
    (hflags : ¬w.extraFlags.toNat > 0xff) :
    (((modeWord w.mode w.bitOrder w.extraFlags).setWidth 8).setWidth 32 : BitVec 32) =
      modeWord w.mode w.bitOrder w.extraFlags := by
  refine byte_word fun i hi => ?_
  by_cases hlt : i < 32
  · have hm : w.mode.getLsbD i = false := by
      cases hbit : w.mode.getLsbD i with
      | false => rfl
      | true => exact absurd (mode_bit hmode hlt hbit) (by omega)
    have hf : w.extraFlags.getLsbD i = false := by
      have hpow : 2 ^ 8 ≤ 2 ^ i := Nat.pow_le_pow_right (by decide) hi
      exact Nat.testBit_lt_two_pow (by omega)
    have ho : (if w.bitOrder = .lsbFirst then lsbFirstFlag else 0).getLsbD i = false := by
      by_cases hlsb : w.bitOrder = .lsbFirst
      · rw [if_pos hlsb, lsbFirstFlag_bit hlt]
        exact decide_eq_false (by omega)
      · rw [if_neg hlsb]
        exact BitVec.getLsbD_zero
    unfold modeWord
    rw [BitVec.getLsbD_or, BitVec.getLsbD_or, hm, hf, ho]
    rfl
  · exact BitVec.getLsbD_of_ge _ _ (by omega)

/-- The controller is asked for a configuration through an open handle. -/
theorem configure_settle (h : Open s) {a : Option Nat} {next : Config} {wanted : Settings} {s' : System}
    (hnext : next = wanted.config) (hok : configure setup s a next = .ok s') :
    settle setup wanted = .ok s'.config.settings ∧ Kept s s' := by
  unfold configure at hok
  rw [h.ioctl, hnext] at hok
  unfold settle
  cases a with
  | some e => cases hok
  | none =>
    cases hsetup : setup wanted.config with
    | error e =>
      rw [hsetup] at hok
      cases hok
    | ok c =>
      rw [hsetup] at hok
      cases hok
      exact ⟨rfl, rfl, rfl⟩

/-- **A device that has been opened has the settings asked for**, as far as the controller takes them. -/
theorem open_ok {w : Wanted} {s₀ : System} {a : OpenAnswers} {path : List Byte}
    (h : w.open setup s₀ a path = (0, s)) :
    Open s ∧ Opened setup w s₀.config.settings s.config.settings := by
  have harg : errorArg ≠ 0 := by decide
  have hopen : errorOpen ≠ 0 := by decide
  have hconf : errorConfigure ≠ 0 := by decide
  unfold Wanted.open spiOpenAdvanced2 at h
  by_cases hmode : w.mode &&& ~~~modeMask = 0
  · rw [if_neg (not_not.mpr hmode)] at h
    by_cases horder : w.bitOrder ≠ .msbFirst ∧ w.bitOrder ≠ .lsbFirst
    · rw [if_pos horder] at h
      exact absurd (congrArg Prod.fst h) harg
    · rw [if_neg horder] at h
      cases hopened : a.opened with
      | error e =>
        rw [hopened] at h
        exact absurd (congrArg Prod.fst h) hopen
      | ok fd =>
        rw [hopened] at h
        dsimp only at h
        generalize hs₁ : ({ s₀ with spi := ⟨fd, Error.none⟩, fds := fd :: s₀.fds } : System) = s₁ at h
        have hfile : Open s₁ := by
          subst hs₁
          exact List.mem_cons_self
        have hconfig : s₁.config = s₀.config := by
          subst hs₁
          rfl
        -- the word is written as a whole or as a byte
        have hwritten : (if w.extraFlags.toNat > 0xff
            then wrMode32 setup s₁ a.mode (modeWord w.mode w.bitOrder w.extraFlags)
            else wrMode setup s₁ a.mode ((modeWord w.mode w.bitOrder w.extraFlags).setWidth 8)) =
            configure setup s₁ a.mode (w.start s₀.config.settings).config := by
          rw [← modeWord_config hmode, ← hconfig]
          split
          case isTrue => rfl
          case isFalse hbyte =>
            unfold wrMode
            rw [modeWord_byte hmode hbyte]
        rw [hwritten] at h
        cases hone : configure setup s₁ a.mode (w.start s₀.config.settings).config with
        | error e =>
          rw [hone] at h
          exact absurd (congrArg Prod.fst h) hconf
        | ok s₂ =>
          obtain ⟨hsettle, hkept⟩ := configure_settle hfile rfl hone
          rw [hone] at h
          dsimp only at h
          cases htwo : wrMaxSpeed setup s₂ a.maxSpeed w.maxSpeed with
          | error e =>
            rw [htwo] at h
            exact absurd (congrArg Prod.fst h) hconf
          | ok s₃ =>
            obtain ⟨hsettle', hkept'⟩ :=
              configure_settle (hkept.open hfile) (config_maxSpeed s₂.config w.maxSpeed) htwo
            rw [htwo] at h
            dsimp only at h
            cases hthree : wrBitsPerWord setup s₃ a.bitsPerWord w.bitsPerWord with
            | error e =>
              rw [hthree] at h
              exact absurd (congrArg Prod.fst h) hconf
            | ok s₄ =>
              obtain ⟨hsettle'', hkept''⟩ := configure_settle (hkept'.open (hkept.open hfile))
                (config_bitsPerWord s₃.config w.bitsPerWord) hthree
              rw [hthree] at h
              obtain ⟨-, rfl⟩ := Prod.mk.inj h
              exact ⟨hkept''.open (hkept'.open (hkept.open hfile)), _, _, _, hsettle, hsettle', hsettle''⟩
  · rw [if_pos hmode] at h
    exact absurd (congrArg Prod.fst h) harg

/-! ## Runs -/

/-- A handle of a device does what is done to its settings. -/
theorem simulates (setup : Setup) :
    Simulates (exec setup) (respond setup) fun s t => Open s ∧ s.config.settings = t := by
  rintro s t c ⟨hs, rfl⟩
  have hdoes : Does s (exec setup s c) (respond setup s.config.settings c) := exec_respond hs c
  exact ⟨hdoes.returns, hdoes.kept.open hs, hdoes.settings⟩

/-- **A device is its settings**: once it has been opened, the calls of every run return what `respond`
says and do to the settings what it says, whatever the controller makes of them and whichever system calls
fail. -/
theorem spi_refines_settings {w : Wanted} {s₀ : System} {a : OpenAnswers} {path : List Byte}
    (h : w.open setup s₀ a path = (0, s)) (calls : List (Call × Answers)) :
    ∃ t, Opened setup w s₀.config.settings t ∧
      (run (exec setup) s calls).1 = (run (respond setup) t calls).1 ∧
      (run (exec setup) s calls).2.config.settings = (run (respond setup) t calls).2 := by
  obtain ⟨hfile, hopened⟩ := open_ok h
  obtain ⟨hrets, -, hend⟩ := (simulates setup).run ⟨hfile, rfl⟩ calls
  exact ⟨s.config.settings, hopened, hrets, hend⟩

/-- Nothing fails, and the descriptor is 3. -/
def OpenAnswers.fine : OpenAnswers := ⟨.ok 3, none, none, none⟩

/-- A device that has not been opened yet. -/
def System.fresh : System := ⟨spiNew, ⟨0, 500000, 8⟩, []⟩

/-- A controller that takes all it is asked for but the highest speeds. -/
def slow : Setup := fun c => .ok { c with maxSpeed := if c.maxSpeed > 1000000 then 1000000 else c.maxSpeed }

theorem spi_refines_settings_slow :
    let w : Wanted := ⟨3, 5000000, .lsbFirst, 8, 0x200⟩
    let s := (w.open slow System.fresh OpenAnswers.fine (lit "/dev/spidev0.1")).2
    let calls : List (Call × Answers) := [(.getMaxSpeed, ⟨none, none⟩), (.setMode 1, ⟨none, some 5⟩),
      (.setExtraFlags 0x41, ⟨none, none⟩), (.getExtraFlags32, ⟨none, none⟩)]
    ∃ t, Opened slow w System.fresh.config.settings t ∧
      (run (exec slow) s calls).1 = (run (respond slow) t calls).1 ∧
      (run (exec slow) s calls).2.config.settings = (run (respond slow) t calls).2 :=
  spi_refines_settings (Prod.ext rfl rfl) _

/-! ## Flags beyond a byte -/

/-- The flags that do not fit into a byte. -/
def Config.wide (c : Config) : BitVec 32 := c.mode &&& ~~~0xff

/-- A controller that takes a configuration as it is, if it takes it. -/
def Faithful (setup : Setup) : Prop := ∀ c c', setup c = .ok c' → c' = c

/-- A call that writes the word as a byte. -/
def Call.Narrow : Call → Prop
  | setMode _ | setExtraFlags _ => True
  | _ => False

/-- A call that may set any flag. -/
def Call.Wide : Call → Prop
  | setExtraFlags32 _ => True
  | _ => False

theorem conclude_cases (hfaithful : Faithful setup) (s : System) (a : Option Nat) (next : Config)
    (text : List Byte) :
    (∃ e, conclude s (configure setup s a next) text =
        (errorConfigure, { s with spi := { s.spi with error := e } })) ∨
      conclude s (configure setup s a next) text = (0, { s with config := next }) := by
  unfold configure conclude
  cases s.ioctl a with
  | some e => exact Or.inl ⟨_, rfl⟩
  | none =>
    cases hsetup : setup next with
    | error e => exact Or.inl ⟨_, rfl⟩
    | ok c =>
      rw [hfaithful next c hsetup]
      exact Or.inr rfl

/-- A byte is a word without the other flags. -/
theorem wide_byte (b : BitVec 8) : (b.setWidth 32 : BitVec 32) &&& ~~~0xff = 0 := by
  apply BitVec.eq_of_getLsbD_eq
  intro i hi
  simp only [BitVec.getLsbD_and, BitVec.getLsbD_not, BitVec.getLsbD_setWidth, byte_bit hi, hi,
    decide_true, Bool.true_and]
  have hhigh : 8 ≤ i → b.getLsbD i = false := BitVec.getLsbD_of_ge b i
  grind

theorem wide_order (w : BitVec 32) (b : Bool) :
    (if b then w ||| lsbFirstFlag else w &&& ~~~lsbFirstFlag) &&& ~~~0xff = w &&& ~~~0xff := by
  apply BitVec.eq_of_getLsbD_eq
  intro i hi
  cases b with
  | true =>
    simp only [if_true, BitVec.getLsbD_or, BitVec.getLsbD_and, BitVec.getLsbD_not, lsbFirstFlag_bit hi,
      byte_bit hi, hi, decide_true, Bool.true_and]
    grind
  | false =>
    simp only [Bool.false_eq_true, if_false, BitVec.getLsbD_and, BitVec.getLsbD_not, lsbFirstFlag_bit hi,
      byte_bit hi, hi, decide_true, Bool.true_and]
    grind

/-- A call clears the flags beyond a byte, or it leaves them alone. -/
theorem wide_step (hfaithful : Faithful setup) (s : System) (c : Call × Answers) (hc : ¬c.1.Wide) :
    ((c.1.Narrow ∧ (exec setup s c).1.1 = 0) ∧ (exec setup s c).2.config.wide = 0) ∨
      (¬(c.1.Narrow ∧ (exec setup s c).1.1 = 0) ∧ (exec setup s c).2.config.wide = s.config.wide) := by
  have hconf : errorConfigure ≠ 0 := by decide
  have hquery : errorQuery ≠ 0 := by decide
  have harg : errorArg ≠ 0 := by decide
  obtain ⟨call, a⟩ := c
  -- the calls that do not write the word as a byte
  have hother : ∀ {next : Config} {text : List Byte}, ¬call.Narrow →
      exec setup s (call, a) = (((conclude s (configure setup s a.first next) text).1, .nothing),
        (conclude s (configure setup s a.first next) text).2) → next.wide = s.config.wide →
      ¬(call.Narrow ∧ (exec setup s (call, a)).1.1 = 0) ∧
        (exec setup s (call, a)).2.config.wide = s.config.wide := by
    intro next text hnarrow hexec hwide
    refine ⟨fun h => hnarrow h.1, ?_⟩
    rw [hexec]
    rcases conclude_cases hfaithful s a.first next text with ⟨e, heq⟩ | heq
    · rw [heq]
    · rw [heq]
      exact hwide
  have hget : ∀ {α : Type} {text : List Byte} {x : α} {value : α → Value}, ¬call.Narrow →
      exec setup s (call, a) = got value (query s a text x) →
      ¬(call.Narrow ∧ (exec setup s (call, a)).1.1 = 0) ∧
        (exec setup s (call, a)).2.config.wide = s.config.wide := by
    intro α text x value hnarrow hexec
    refine ⟨fun h => hnarrow h.1, ?_⟩
    rw [hexec]
    unfold query
    cases s.ioctl a.first with
    | some e => rfl
    | none => rfl
  -- the calls that do
  have hbyte : ∀ {data8 : BitVec 8} {text text' : List Byte}, call.Narrow →
      (∀ e, s.ioctl a.first = some e →
        exec setup s (call, a) = ((errorQuery, .nothing), (fail s errorQuery e text).2)) →
      (s.ioctl a.first = none → exec setup s (call, a) =
        (((conclude s (wrMode setup s a.second data8) text').1, .nothing),
          (conclude s (wrMode setup s a.second data8) text').2)) →
      ((call.Narrow ∧ (exec setup s (call, a)).1.1 = 0) ∧ (exec setup s (call, a)).2.config.wide = 0) ∨
        (¬(call.Narrow ∧ (exec setup s (call, a)).1.1 = 0) ∧
          (exec setup s (call, a)).2.config.wide = s.config.wide) := by
    intro data8 text text' hnarrow hfails hworks
    cases hfirst : s.ioctl a.first with
    | some e =>
      rw [hfails e hfirst]
      exact Or.inr ⟨fun h => hquery h.2, rfl⟩
    | none =>
      rw [hworks hfirst]
      unfold wrMode
      rcases conclude_cases hfaithful s a.second { s.config with mode := data8.setWidth 32 } text' with
        ⟨e, heq⟩ | heq
      · rw [heq]
        exact Or.inr ⟨fun h => hconf h.2, rfl⟩
      · rw [heq]
        exact Or.inl ⟨⟨hnarrow, rfl⟩, wide_byte data8⟩
  cases call with
  | getMode => exact Or.inr (hget id rfl)
  | getMaxSpeed => exact Or.inr (hget id rfl)
  | getBitOrder => exact Or.inr (hget id rfl)
  | getBitsPerWord => exact Or.inr (hget id rfl)
  | getExtraFlags => exact Or.inr (hget id rfl)
  | getExtraFlags32 => exact Or.inr (hget id rfl)
  | setMode mode =>
    by_cases hmode : mode &&& ~~~modeMask = 0
    · refine @hbyte ((s.rdMode &&& ~~~modeMask.setWidth 8) ||| mode.setWidth 8) (lit "Getting SPI mode")
        (lit "Setting SPI mode") trivial (fun e hfirst => ?_) fun hfirst => ?_
      · unfold exec spiSetMode
        dsimp only
        rw [if_neg (not_not.mpr hmode), hfirst]
        rfl
      · unfold exec spiSetMode
        dsimp only
        rw [if_neg (not_not.mpr hmode), hfirst]
    · have hrefused : spiSetMode setup s a mode =
          fail s errorArg 0 (lit "Invalid mode (can be 0,1,2,3)") := if_pos hmode
      unfold exec
      dsimp only
      rw [hrefused]
      exact Or.inr ⟨fun h => harg h.2, rfl⟩
  | setBitOrder bitOrder =>
    cases bitOrder with
    | msbFirst => exact Or.inr (hother id rfl (wide_order s.config.mode false))
    | lsbFirst => exact Or.inr (hother id rfl (wide_order s.config.mode true))
    | other value => exact Or.inr ⟨fun h => h.1, rfl⟩
  | setExtraFlags extraFlags =>
    refine @hbyte ((s.rdMode &&& keepMask.setWidth 8) ||| extraFlags) (lit "Getting SPI mode flags")
      (lit "Setting SPI mode flags") trivial (fun e hfirst => ?_) fun hfirst => ?_
    · unfold exec spiSetExtraFlags
      dsimp only
      rw [hfirst]
      rfl
    · unfold exec spiSetExtraFlags
      dsimp only
      rw [hfirst]
  | setExtraFlags32 extraFlags => exact absurd trivial hc
  | setMaxSpeed maxSpeed => exact Or.inr (hother id rfl rfl)
  | setBitsPerWord bitsPerWord => exact Or.inr (hother id rfl rfl)

/-- A call that has written the word as a byte, with what it has returned. -/
def Clears (p : (Call × Answers) × (Int × Value)) : Prop := p.1.1.Narrow ∧ p.2.1 = 0

theorem wide_run (hfaithful : Faithful setup) (s : System) {calls : List (Call × Answers)}
    (hcalls : ∀ c ∈ calls, ¬c.1.Wide) :
    let r := run (exec setup) s calls
    ((∃ p ∈ calls.zip r.1, Clears p) ∧ r.2.config.wide = 0) ∨
      ((∀ p ∈ calls.zip r.1, ¬Clears p) ∧ r.2.config.wide = s.config.wide) := by
  induction calls generalizing s with
  | nil => exact Or.inr ⟨fun p hp => absurd hp List.not_mem_nil, rfl⟩
  | cons c calls ih =>
    intro r
    have hrest := ih (exec setup s c).2 fun d hd => hcalls d (List.mem_cons_of_mem c hd)
    rcases hrest with ⟨⟨p, hp, hclears⟩, hwide⟩ | ⟨hnone, hwide⟩
    · exact Or.inl ⟨⟨p, List.mem_cons_of_mem _ hp, hclears⟩, hwide⟩
    · rcases wide_step hfaithful s c (hcalls c List.mem_cons_self) with ⟨hclears, hzero⟩ | ⟨hno, hsame⟩
      · exact Or.inl ⟨⟨(c, (exec setup s c).1), List.mem_cons_self, hclears⟩, hwide.trans hzero⟩
      · refine Or.inr ⟨fun p hp => ?_, hwide.trans hsame⟩
        rcases List.mem_cons.mp hp with rfl | hp
        · exact hno
        · exact hnone p hp

/-- **Flags beyond a byte get lost** as soon as the mode or the flags of one byte are set, and not before:
in every run that does not set them anew they are kept just if there are none of them, or if each of these
calls fails. -/
theorem wide_flags_kept_iff (hfaithful : Faithful setup) (s : System) {calls : List (Call × Answers)}
    (hcalls : ∀ c ∈ calls, ¬c.1.Wide) :
    let r := run (exec setup) s calls
    r.2.config.wide = s.config.wide ↔ s.config.wide = 0 ∨ ∀ p ∈ calls.zip r.1, ¬Clears p := by
  intro r
  rcases wide_run hfaithful s hcalls with ⟨⟨p, hp, hclears⟩, hzero⟩ | ⟨hnone, hsame⟩
  · constructor
    · intro hkept
      exact Or.inl (hkept.symm.trans hzero)
    · rintro (hempty | hnone)
      · exact hzero.trans hempty.symm
      · exact absurd hclears (hnone p hp)
  · exact ⟨fun _ => Or.inr hnone, fun _ => hsame⟩

/-- `SPI_TX_QUAD` is set, then the mode. -/
theorem wide_flags_kept_iff_quad :
    let s := (Wanted.open ⟨0, 500000, .msbFirst, 8, 0x200⟩ Except.ok System.fresh OpenAnswers.fine
      (lit "/dev/spidev0.1")).2
    let calls : List (Call × Answers) := [(.setBitOrder .lsbFirst, ⟨none, none⟩), (.setMode 3, ⟨none, none⟩)]
    let r := run (exec Except.ok) s calls
    r.2.config.wide = s.config.wide ↔ s.config.wide = 0 ∨ ∀ p ∈ calls.zip r.1, ¬Clears p :=
  wide_flags_kept_iff (fun c c' h => (Except.ok.inj h).symm) _ (by
    intro c hc
    simp only [List.mem_cons, List.not_mem_nil, or_false] at hc
    rcases hc with rfl | rfl
    · exact id
    · exact id)

end DiscoveryDemo.Periphery.Spi
