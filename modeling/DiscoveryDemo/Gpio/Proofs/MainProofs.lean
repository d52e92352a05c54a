import DiscoveryDemo.Gpio.Main
import DiscoveryDemo.Gpio.Proofs.PinNameProofs
import DiscoveryDemo.Periphery.Proofs.GpioBooksProofs
import DiscoveryDemo.Sensor.Proofs.TerminalProofs

/-!
# Proofs: `main` of ioexample2

The two handles stay as they have been opened, an input and an output that are not inverted. A round
therefore copies the level of the button to the LED, and the loop is the one of `shown`.
-/

namespace DiscoveryDemo.Ioexample2

open CLib Driver Periphery.Gpio

/-! ## Pins -/

theorem pin_eq {other : List Byte → Int} {s : CStr} {c : Byte} {tail path : List Byte} {line : Int}
    (h : s.chars = c :: tail) (hc : IsCapital c) (htail : tail ≠ [])
    (hpath : (chipPath (c.toNat - (ch 'A').toNat)).take 31 = path) (hatoi : atoi other tail = line)
    (buf : Buf 32) : pin other s buf = .ok (path, line) := by
  obtain ⟨buf', hchip, hstr⟩ := gpioChip_capital (by decide) h hc buf
  rw [hpath] at hstr
  have hline := gpioLine_eq h other
  rw [if_neg htail, hatoi] at hline
  simp only [pin, hchip, hstr, hline, bind, Except.bind, pure, Except.pure]

theorem pin_button (other : List Byte → Int) (buf : Buf 32) :
    pin other buttonGpio buf = .ok (lit "/dev/gpiochip0", 0) :=
  @pin_eq other buttonGpio (ch 'A') (lit "0") _ 0 rfl ⟨by decide, by decide⟩ (by decide) (by decide) rfl
    buf

theorem pin_redLed (other : List Byte → Int) (buf : Buf 32) :
    pin other redLedGpio buf = .ok (lit "/dev/gpiochip6", 14) :=
  @pin_eq other redLedGpio (ch 'G') (lit "14") _ 14 rfl ⟨by decide, by decide⟩ (by decide) (by decide) rfl
    buf

theorem ok_bind {α β : Type} (x : α) (f : α → Except Fault β) : (Except.ok x >>= f) = f x := rfl

/-! ## Rounds -/

/-- Settings that are not changed after opening. -/
def plain (direction : Direction) : Settings := ⟨direction, .none, .default, .default, false⟩

/-- The handles are as they have been opened. -/
structure Ready (b : Board) : Prop where
  button : Coherent b.button
  led : Coherent b.led
  input : b.button.gpio.settings = plain .dirIn
  output : b.led.gpio.settings = plain .dirOut
  button_held : ∃ q, b.button.held = some q ∧ q.offset = 0
  led_held : ∃ q, b.led.held = some q ∧ q.offset = 14
  button_books : Books b.button []
  led_books : Books b.led []

section Rounds

variable {settable : BitVec 32} {b : Board}

theorem read_button {s : System} (hs : Coherent s) (hinput : s.gpio.settings = plain .dirIn)
    {line : Nat} (hheld : ∃ q, s.held = some q ∧ q.offset = line) (a : Answers) :
    (∃ e, a.io = some e ∧ gpioCdevRead s a = ((errorIo, none), (fail s errorIo e (lit "Getting line value")).2)) ∨
      (a.io = none ∧ gpioCdevRead s a = ((0, some a.pin), s)) := by
  obtain ⟨q, hq, -⟩ := hheld
  have hflags := (hs.held_flags hq).2
  rw [hinput] at hflags
  unfold gpioCdevRead
  rw [hq]
  cases hio : a.io with
  | some e => exact Or.inl ⟨e, rfl, rfl⟩
  | none =>
    refine Or.inr ⟨rfl, ?_⟩
    have hlow : q.flags.has activeLow = false := by
      rw [hflags]
      decide
    simp [hlow]

theorem write_led {s : System} (hs : Coherent s) (houtput : s.gpio.settings = plain .dirOut)
    {line : Nat} (hheld : ∃ q, s.held = some q ∧ q.offset = line) (a : Answers) (value : Bool) :
    (∃ e, a.io = some e ∧
        gpioCdevWrite s a value = fail s errorIo e (lit "Setting line value")) ∨
      (a.io = none ∧ gpioCdevWrite s a value = (0, { s with level := value })) := by
  obtain ⟨q, hq, -⟩ := hheld
  have hflags := (hs.held_flags hq).2
  rw [houtput] at hflags
  have hdir : ¬s.gpio.settings.direction ≠ .dirOut := by
    rw [houtput]
    exact fun h => h rfl
  unfold gpioCdevWrite
  rw [if_neg hdir, hq]
  cases hio : a.io with
  | some e => exact Or.inl ⟨e, rfl, rfl⟩
  | none =>
    refine Or.inr ⟨rfl, ?_⟩
    have hout : q.flags.has lineOutput = true := by
      rw [hflags]
      decide
    have hlow : q.flags.has activeLow = false := by
      rw [hflags]
      decide
    simp [hout, hlow]

/-- `kbhit` tells whether there is a character and leaves the terminal as it is. -/
theorem kbhit_eq (key : Option Byte) (t : Sensor.Terminal) :
    Sensor.kbhit settable key t = (if key ≠ none then 1 else 0, t) := by
  have hexec := Sensor.exec_kbhit settable t key
  have hterminal : (Sensor.kbhit settable key t).2 = t := hexec
  exact Prod.ext rfl hterminal

/-- What the loop leaves of a board: its handles are ready and its terminal is the same. -/
def Keeps (b b' : Board) : Prop := Ready b' ∧ b'.terminal = b.terminal

/-- One round shows the button on the LED, unless a line cannot be read or written. -/
theorem round_shows (h : Ready b) (r : Round) :
    Keeps b (round settable b r).2 ∧
      if r.read.io ≠ none ∨ r.write.io ≠ none then
        (round settable b r).1 = false ∧ (round settable b r).2.led.level = b.led.level
      else
        (round settable b r).1 = decide (r.key = none) ∧
          (round settable b r).2.led.level = r.read.pin := by
  have hio : errorIo < 0 := by decide
  rcases read_button h.button h.input h.button_held r.read with ⟨e, he, hread⟩ | ⟨hnone, hread⟩
  · have hround : round settable b r = (false, { b with
        button := (fail b.button errorIo e (lit "Getting line value")).2 }) := by
      simp only [round, hread, if_pos hio, Option.getD_none]
    rw [hround, if_pos (Or.inl (by rw [he]; exact Option.some_ne_none e))]
    refine ⟨⟨⟨h.button.error _, h.led, h.input, h.output, h.button_held, h.led_held,
      h.button_books, h.led_books⟩, rfl⟩, rfl, rfl⟩
  · rcases write_led h.led h.output h.led_held r.write r.read.pin with ⟨e, he, hwrite⟩ | ⟨hnone', hwrite⟩
    · have hround : round settable b r = (false, { b with
          led := (fail b.led errorIo e (lit "Setting line value")).2
          buttonValue := r.read.pin }) := by
        simp only [round, hread, Option.getD_some, hwrite, fail, if_pos hio]
        rfl
      rw [hround, if_pos (Or.inr (by rw [he]; exact Option.some_ne_none e))]
      refine ⟨⟨⟨h.button, h.led.error _, h.input, h.output, h.button_held, h.led_held,
      h.button_books, h.led_books⟩, rfl⟩, rfl, rfl⟩
    · have hround : round settable b r = (decide (r.key = none), { b with
          led := { b.led with level := r.read.pin }
          buttonValue := r.read.pin }) := by
        cases hkey : r.key with
        | none => simp [round, hread, hwrite, kbhit_eq, hkey]
        | some c => simp [round, hread, hwrite, kbhit_eq, hkey]
      rw [hround, if_neg (by rw [hnone, hnone']; simp)]
      refine ⟨⟨⟨h.button, h.led.level _, h.input, h.output, h.button_held, h.led_held,
      h.button_books, h.led_books⟩, rfl⟩, rfl, rfl⟩

/-- **The loop shows the button on the LED.** -/
theorem loop_shows (h : Ready b) (rounds : List Round) :
    Keeps b (loop settable rounds b).2 ∧
      ((loop settable rounds b).1, (loop settable rounds b).2.led.level) = shown b.led.level rounds := by
  induction rounds generalizing b with
  | nil => exact ⟨⟨h, rfl⟩, rfl⟩
  | cons r rounds ih =>
    obtain ⟨hkeeps, hround⟩ := @round_shows settable b h r
    rw [loop, shown]
    revert hkeeps hround
    generalize round settable b r = result
    obtain ⟨goes, b'⟩ := result
    intro hkeeps hround
    by_cases hfail : r.read.io ≠ none ∨ r.write.io ≠ none
    · rw [if_pos hfail] at hround ⊢
      obtain ⟨rfl, hlevel⟩ := hround
      exact ⟨hkeeps, by rw [hlevel]⟩
    · rw [if_neg hfail] at hround ⊢
      obtain ⟨rfl, hlevel⟩ := hround
      cases hkey : r.key with
      | some c => exact ⟨hkeeps, by rw [if_pos (Option.some_ne_none c)]; exact congrArg (false, ·) hlevel⟩
      | none =>
        obtain ⟨⟨hready, hterminal⟩, hrest⟩ := ih hkeeps.1
        have hlevel' : b'.led.level = r.read.pin := hlevel
        rw [hlevel'] at hrest
        exact ⟨⟨hready, hterminal.trans hkeeps.2⟩, by rw [if_neg (by simp)]; exact hrest⟩

end Rounds

/-! ## Opening and closing -/

theorem held_eq_none {s : System} (h : s.request = none) : s.held = none := by
  rw [System.held, h]

/-- A line that has been opened without anything special. -/
theorem gpioOpen_ok {a : Answers} {opened : Except Nat Nat} {line : Nat} {direction : Direction}
    (hd : direction = .dirIn ∨ direction = .dirOut)
    (h : (gpioOpen System.new a opened line direction).1 = 0) :
    let s := (gpioOpen System.new a opened line direction).2
    Coherent s ∧ s.gpio.settings = plain direction ∧ (∃ q, s.held = some q ∧ q.offset = line) ∧
      Books s [] ∧ s.level = false := by
  intro s
  have hs : Coherent s := coherent_opened fresh_new h
  have hbooks : Books s [] := books_opened unused_new h
  obtain ⟨-, chip, fd, -, hok⟩ := gpioOpenAdvanced_ok fresh_new h
  have heq : s = ((System.new.withChip line chip none).withoutLine.withLine fd (plain direction)) := hok
  refine ⟨hs, ?_, ?_, hbooks, ?_⟩
  · rw [heq]
    rcases hd with rfl | rfl <;> rfl
  · rw [heq]
    exact ⟨_, held_withLine _ fd _, rfl⟩
  · rw [heq]
    rcases hd with rfl | rfl <;> rfl

theorem plain_checked {direction : Direction} (hd : direction = .dirIn ∨ direction = .dirOut) :
    (plain direction).Checked ∧ accepted (configFlags (plain direction)) = true := by
  rcases hd with rfl | rfl
  · exact ⟨⟨rfl, rfl, rfl, rfl, fun hne => absurd rfl hne⟩, by decide⟩
  · exact ⟨⟨rfl, rfl, rfl, rfl, fun hne => absurd rfl hne⟩, by decide⟩

/-- `gpio_open` succeeds just if the chip can be opened and the kernel gives the line; otherwise it
returns the code of an error, and nothing is left open. -/
theorem gpioOpen_cases {direction : Direction} (hd : direction = .dirIn ∨ direction = .dirOut)
    (a : Answers) (opened : Except Nat Nat) (line : Nat) :
    let r := gpioOpen System.new a opened line direction
    ((∃ chip fd, opened = .ok chip ∧ a.request = .ok fd) ∧ r.1 = 0) ∨
      (¬(∃ chip fd, opened = .ok chip ∧ a.request = .ok fd) ∧ r.1 < 0 ∧ Unused r.2) := by
  intro r
  have hopen : errorOpen < 0 := by decide
  obtain ⟨hchecked, haccepted⟩ := plain_checked hd
  cases opened with
  | error e =>
    have hr : ∃ text, r = fail System.new errorOpen e text := by
      rcases hd with rfl | rfl
      · exact ⟨_, rfl⟩
      · exact ⟨_, rfl⟩
    obtain ⟨text, hr⟩ := hr
    rw [hr]
    refine Or.inr ⟨?_, hopen, unused_new.fresh, unused_new.books⟩
    rintro ⟨chip, fd, hchip, -⟩
    cases hchip
  | ok chip =>
    have hr : r = afterReopen chip
        (gpioCdevReopen (System.new.withChip line chip none) a (plain direction)) := by
      rcases hd with rfl | rfl
      · rfl
      · rfl
    rcases opening_cases fresh_new hchecked a line chip none with ⟨e, text, hwhy, hre⟩ | ⟨-, fd, hreq, hre⟩
    · refine Or.inr ⟨?_, ?_⟩
      · rintro ⟨-, fd, -, hfd⟩
        rw [hwhy haccepted] at hfd
        cases hfd
      · have hneg : r.1 < 0 := by
          rw [hr, hre]
          exact hopen
        exact ⟨hneg, gpioOpenAdvanced_failed unused_new (Int.ne_of_lt hneg)⟩
    · refine Or.inl ⟨⟨chip, fd, rfl, hreq⟩, ?_⟩
      rw [hr, hre]
      rfl

/-- `gpio_close` leaves no line, whatever fails. -/
theorem gpioCdevClose_held {s : System} (hs : Coherent s) (a : Answers) :
    (gpioCdevClose s a).2.held = none := by
  refine (hs.close a).held_eq_none.mpr ?_
  rcases close_cases hs a with ⟨e, text, -, -, heq⟩ | ⟨e, text, -, -, heq⟩ | heq
  · rw [heq]
    rfl
  · rw [heq]
    rfl
  · rw [heq]
    rfl

/-- The first close of a handle gives all descriptors back, unless it fails to close the line. -/
theorem gpioCdevClose_givesBack {s : System} (hs : Coherent s) (hb : Books s []) {a : Answers}
    (hline : a.closeLine = none) : GivenBack (gpioCdevClose s a).2 := by
  rcases close_cases hs a with ⟨e, text, he, -⟩ | ⟨e, text, -, hchip, heq⟩ | heq
  · rw [hline] at he
    cases he
  · have hheld : Overdrawn s.withoutLine.ledger [s.gpio.chipFd.toNat] [] := by
      have hbooks : Books s.withoutLine [] := hb.withoutLine
      unfold Books at hbooks
      rw [@Handle.descriptors_noLine s.withoutLine.gpio rfl,
        if_pos (show 0 ≤ s.withoutLine.gpio.chipFd from hchip)] at hbooks
      exact hbooks
    rw [heq]
    exact hheld.leave.all_closed_iff.mpr rfl
  · rw [heq]
    exact ((hb.withoutLine.withoutChip rfl).closed rfl rfl).all_closed_iff.mpr rfl

theorem gpioCdevClose_level {s : System} (hs : Coherent s) (a : Answers) :
    (gpioCdevClose s a).2.level = s.level := by
  rcases close_cases hs a with ⟨e, text, -, -, heq⟩ | ⟨e, text, -, -, heq⟩ | heq
  · rw [heq]
    rfl
  · rw [heq]
    rfl
  · rw [heq]
    rfl

/-! ## The program -/

/-- **The LED shows the button**: once the lines could be opened, after any number of rounds with any
failures, the LED has last been driven at the level that the button had in the last round that did not
fail; the program fails just if they could not be opened. The terminal is as it was, and once the program
has ended it holds no line and has given back all its descriptors, unless a line could not be closed. -/
theorem led_shows_button (env : Env) :
    ∃ outcome, main env = .ok outcome ∧ outcome.Shows env ∧
      outcome.board.terminal = env.terminal ∧
      ∀ status b, outcome = .exited status b → env.Closes → GivenBack b.button ∧ GivenBack b.led := by
  have hnone : GivenBack System.new := unused_new.givenBack
  unfold main
  rw [pin_button, ok_bind]
  dsimp only
  rw [pin_redLed, ok_bind]
  dsimp only
  cases hcreated : env.created with
  | false =>
    refine ⟨_, rfl, ⟨Or.inr ⟨?_, rfl⟩, rfl, rfl⟩, rfl, ?_⟩
    · intro hopens
      rw [hopens.created] at hcreated
      cases hcreated
    · intro status b hb _
      cases hb
      exact ⟨hnone, hnone⟩
  | true =>
    simp only [Bool.not_true, Bool.false_eq_true, if_false]
    rcases gpioOpen_cases (Or.inl rfl) env.openButton (env.chips (lit "/dev/gpiochip0"))
      (UInt32.ofInt 0).toNat with ⟨hbuttonOpens, hbutton⟩ | ⟨hbuttonFails, hbutton, hunused⟩
    · obtain ⟨hb, hinput, hbheld, hbbooks, -⟩ := gpioOpen_ok (Or.inl rfl) hbutton
      rw [if_neg (by omega)]
      rcases gpioOpen_cases (Or.inr rfl) env.openLed (env.chips (lit "/dev/gpiochip6"))
        (UInt32.ofInt 14).toNat with ⟨hledOpens, hled⟩ | ⟨hledFails, hled, hunused⟩
      · -- both lines are open
        have hopens : env.Opens := ⟨hcreated, hbuttonOpens, hledOpens⟩
        obtain ⟨hl, houtput, hlheld, hlbooks, hlow⟩ := gpioOpen_ok (Or.inr rfl) hled
        rw [if_neg (by omega)]
        have hstart : Ready ⟨_, _, env.buttonValue, env.terminal⟩ :=
          ⟨hb, hl, hinput, houtput, hbheld, hlheld, hbbooks, hlbooks⟩
        obtain ⟨⟨hready, hterminal⟩, hshown⟩ := @loop_shows env.settable _ hstart env.rounds
        dsimp only at hshown
        rw [hlow] at hshown
        revert hready hterminal hshown
        generalize loop env.settable env.rounds _ = result
        obtain ⟨goes, b⟩ := result
        intro hshown hready hterminal
        cases goes with
        | true =>
          refine ⟨_, rfl, ⟨hopens, hshown, hready.button_held, hready.led_held⟩, hterminal, ?_⟩
          intro status b' hb'
          cases hb'
        | false =>
          refine ⟨_, rfl, ⟨Or.inl ⟨hopens, rfl, ?_⟩, gpioCdevClose_held hready.button _,
            gpioCdevClose_held hready.led _⟩, hterminal, ?_⟩
          · dsimp only
            rw [gpioCdevClose_level hready.led]
            exact hshown
          · intro status b' hb' hcloses
            cases hb'
            exact ⟨gpioCdevClose_givesBack hready.button hready.button_books hcloses.1,
              gpioCdevClose_givesBack hready.led hready.led_books hcloses.2⟩
      · -- the button is closed again
        rw [if_pos hled]
        refine ⟨_, rfl, ⟨Or.inr ⟨fun hopens => hledFails hopens.led, rfl⟩, gpioCdevClose_held hb _,
          held_eq_none hunused.fresh⟩, rfl, ?_⟩
        intro status b hb' hcloses
        cases hb'
        exact ⟨gpioCdevClose_givesBack hb hbbooks hcloses.1, hunused.givenBack⟩
    · rw [if_pos hbutton]
      refine ⟨_, rfl, ⟨Or.inr ⟨fun hopens => hbuttonFails hopens.button, rfl⟩,
        held_eq_none hunused.fresh, rfl⟩, rfl, ?_⟩
      intro status b hb hcloses
      cases hb
      exact ⟨hunused.givenBack, hnone⟩

end DiscoveryDemo.Ioexample2
