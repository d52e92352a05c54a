import DiscoveryDemo.Periphery.Led
import DiscoveryDemo.Periphery.Proofs.SysfsProofs

/-!
# Proofs: LEDs

A handle that has been opened does to the LED what `respond` says. An LED that has been switched off is
dark, whatever trigger it had, until it is switched on again.
-/

namespace DiscoveryDemo.Periphery.Led

open CLib Driver

variable {s : System} {a : Answers}

/-! ## Files -/

theorem attribute_name_length (attr : Attribute) : attr.name.length ≤ 14 := by
  cases attr <;> decide

/-- A handle for the LED opens its files. -/
theorem Named.answer (h : Named s) (file : FileAnswers) (attr : Attribute) :
    s.answer file (ledPath s.led.name attr) attr = file := by
  have hattr := attribute_name_length attr
  have hshort := h.short
  have hprefix : (lit "/sys/class/leds/").length = 16 := by decide
  have hslash : (lit "/").length = 1 := by decide
  have hhas : s.Has (ledPath s.led.name attr) attr := by
    unfold System.Has ledPath
    rw [h.name]
    refine List.take_of_length_le ?_
    simp only [List.length_append, hprefix, hslash]
    omega
  unfold System.answer
  rw [if_pos hhas]

theorem tick_max (l : Light) (glow : UInt32) : (l.tick glow).max = l.max := by
  unfold Light.tick Light.dim
  split <;> rfl

theorem Knows.tick (h : Knows s) (glow : UInt32) : Knows { s with light := s.light.tick glow } :=
   ⟨⟨h.name, h.short⟩, h.max.trans (tick_max s.light glow).symm⟩

/-! ## Getters -/

theorem show_level_fits (level : UInt32) :
    (printUnsigned level.toNat ++ [NL]).length < 16 ∧ NUL ∉ printUnsigned level.toNat ++ [NL] := by
  have hlt : level.toNat < 10 ^ 10 := Nat.lt_trans level.toNat_lt (by decide)
  have hlen := printUnsigned_length (by decide) hlt
  constructor
  · rw [List.length_append, List.length_singleton]
    omega
  · intro h
    rcases List.mem_append.mp h with h | h
    · exact printUnsigned_noNul _ h
    · exact absurd (List.mem_singleton.mp h) (by decide)

/-- Reading an attribute changes nothing but the error of the handle. -/
theorem getAttribute_spec (h : Named s) (a : Answers) {attr : Attribute} {level : UInt32}
    (hshow : s.light.show attr = printUnsigned level.toNat ++ [NL]) (code : Int) :
    ∃ e, getAttribute s a attr code = .ok (if a.file.Broken
      then (.error code, { s with led := { s.led with error := e } }) else (.ok level, s)) := by
  have hfits := show_level_fits level
  unfold getAttribute
  rw [h.answer, hshow]
  rcases readFile_cases a.file a.stack hfits.1 hfits.2 with
    ⟨hbroken, ⟨step, e⟩, hread⟩ | ⟨hfine, buf, hread, hholds⟩
  · refine ⟨⟨e, attributeText step attr⟩, ?_⟩
    rw [if_pos hbroken, hread]
    rfl
  · refine ⟨Error.none, ?_⟩
    have hstr : buf.str 0 = .ok (printUnsigned level.toNat ++ [NL]) := hholds.str
    have hle : ¬level.toNat > ulongMax := by
      have hlt := level.toNat_lt
      show ¬level.toNat > 2 ^ 32 - 1
      omega
    have hstrtoul := strtoul_printUnsigned level.toNat noDigit_newline
    rw [if_neg hle] at hstrtoul
    rw [if_neg hfine]
    simp [hread, hstr, hstrtoul, bind, Except.bind, pure, Except.pure]

/-! ## Setters -/

theorem Light.store_printUnsigned (l : Light) {level : UInt32} (hle : level ≤ l.max) :
    l.store (printUnsigned level.toNat ++ [NL]) = .ok (l.put level) := by
  have hlt := level.toNat_lt
  have hroom : ¬level.toNat > 2 ^ 32 - 1 := by omega
  have hzero : level.toNat = 0 ↔ level = 0 := by
    rw [← UInt32.toNat_inj]
    rfl
  have hmax : ¬level > l.max := by
    rw [gt_iff_lt, UInt32.not_lt]
    exact hle
  unfold Light.store
  rw [kstrtoul_printUnsigned, if_neg hroom]
  dsimp only
  unfold Light.dim Light.put
  rw [UInt32.ofNat_toNat, if_neg hmax]
  simp only [hzero]

/-- `led_set_brightness` does what `change` says. -/
theorem ledSetBrightness_spec (h : Knows s) (a : Answers) (level : UInt32) :
    ∃ e, ledSetBrightness s a level = ((change a.file s.light level).1,
      { s with light := (change a.file s.light level).2, led := { s.led with error := e } }) := by
  unfold ledSetBrightness change
  rw [h.max]
  by_cases hlarge : level > s.light.max
  · rw [if_pos hlarge, if_pos hlarge]
    exact ⟨_, rfl⟩
  · have hstore := s.light.store_printUnsigned (UInt32.not_lt.mp hlarge)
    rw [if_neg hlarge, if_neg hlarge, h.answer]
    unfold writeFile
    dsimp only
    rw [hstore]
    cases hopened : a.file.opened with
    | some e => exact ⟨_, rfl⟩
    | none =>
      cases hio : a.file.io with
      | some e => exact ⟨_, rfl⟩
      | none =>
        cases hclosed : a.file.closed with
        | some e => exact ⟨_, rfl⟩
        | none => exact ⟨s.led.error, rfl⟩

/-! ## Calls -/

theorem change_max (a : FileAnswers) (l : Light) (level : UInt32) : (change a l level).2.max = l.max := by
  unfold change
  split_ifs <;> rfl

theorem Knows.error (h : Knows s) (e : Error) : Knows { s with led := { s.led with error := e } } :=
  ⟨⟨h.name, h.short⟩, h.max⟩

/-- A call does to the LED what `respond` says. -/
theorem exec_respond (h : Knows s) (c : Call × Answers) :
    (exec s c).1 = (respond s.light c).1 ∧ (exec s c).2.light = (respond s.light c).2 ∧
      Knows (exec s c).2 := by
  obtain ⟨call, a⟩ := c
  have ht := h.tick a.glow
  have hsetter : ∀ level, ∃ e,
      ledSetBrightness { s with light := s.light.tick a.glow } a level =
        ((change a.file (s.light.tick a.glow) level).1,
          { s with
            light := (change a.file (s.light.tick a.glow) level).2
            led := { s.led with error := e } }) :=
    fun level => ledSetBrightness_spec ht a level
  have hset : ∀ level, Knows { s with
      light := (change a.file (s.light.tick a.glow) level).2 } := by
    intro level
    exact ⟨⟨h.name, h.short⟩, ht.max.trans (change_max _ _ _).symm⟩
  cases call with
  | getBrightness =>
    obtain ⟨e, hget⟩ := @getAttribute_spec _ ht.toNamed a .brightness _ rfl errorIo
    unfold exec respond ledGetBrightness reply
    by_cases hbroken : a.file.Broken
    · simp only [hget, if_pos hbroken]
      exact ⟨rfl, rfl, ht.error e⟩
    · simp only [hget, if_neg hbroken]
      exact ⟨rfl, rfl, ht⟩
  | getMaxBrightness =>
    obtain ⟨e, hget⟩ := @getAttribute_spec _ ht.toNamed a .maxBrightness _ rfl errorQuery
    unfold exec respond ledGetMaxBrightness reply
    by_cases hbroken : a.file.Broken
    · simp only [hget, if_pos hbroken]
      exact ⟨rfl, rfl, ht.error e⟩
    · simp only [hget, if_neg hbroken]
      exact ⟨rfl, rfl, ⟨h.name, h.short⟩, rfl⟩
  | read =>
    obtain ⟨e, hget⟩ := @getAttribute_spec _ ht.toNamed a .brightness _ rfl errorIo
    unfold exec respond ledRead ledGetBrightness reply
    by_cases hbroken : a.file.Broken
    · simp only [hget, if_pos hbroken]
      exact ⟨rfl, rfl, ht.error e⟩
    · simp only [hget, if_neg hbroken]
      exact ⟨rfl, rfl, ht⟩
  | setBrightness level =>
    obtain ⟨e, heq⟩ := hsetter level
    have hexec : exec s (.setBrightness level, a) =
        (.ok ((ledSetBrightness { s with light := s.light.tick a.glow } a level).1, .nothing),
          (ledSetBrightness { s with light := s.light.tick a.glow } a level).2) := rfl
    rw [hexec, heq]
    exact ⟨rfl, rfl, (hset level).error e⟩
  | write value =>
    obtain ⟨e, heq⟩ := hsetter (if value then (s.light.tick a.glow).max else 0)
    have hexec : exec s (.write value, a) =
        (.ok ((ledSetBrightness { s with light := s.light.tick a.glow } a
            (if value then s.led.maxBrightness else 0)).1, .nothing),
          (ledSetBrightness { s with light := s.light.tick a.glow } a
            (if value then s.led.maxBrightness else 0)).2) := rfl
    replace hexec := hexec.trans (by rw [show s.led.maxBrightness = (s.light.tick a.glow).max from ht.max])
    rw [hexec, heq]
    exact ⟨rfl, rfl, (hset (if value then (s.light.tick a.glow).max else 0)).error e⟩

/-! ## Opening -/

/-- Only the LED has the path of its attributes. -/
theorem has_ledPath {name : List Byte} (hshort : s.device.length ≤ 63)
    (h : s.Has (ledPath name .brightness) .brightness) : name = s.device := by
  have hprefix : (lit "/sys/class/leds/").length = 16 := by decide
  have hslash : (lit "/").length = 1 := by decide
  have hattr := attribute_name_length .brightness
  unfold System.Has ledPath at h
  have hlen := congrArg List.length h
  rw [List.length_take] at hlen
  simp only [List.length_append, hprefix, hslash] at hlen
  rw [List.take_of_length_le (by simp only [List.length_append, hprefix, hslash]; omega)] at h
  exact List.append_cancel_left (List.append_cancel_right (List.append_cancel_right h))

/-- `led_open` succeeds for no name but that of the LED, and the handle knows it then. -/
theorem knows_opened {opened : Option Nat} {name : List Byte} {s' : System}
    (hshort : s.device.length ≤ 63) (h : ledOpen s opened a name = .ok (0, s')) :
    name = s.device ∧ Knows s' ∧ s'.light = s.light := by
  have hne : errorOpen ≠ 0 := by decide
  have hne' : errorQuery ≠ 0 := by decide
  unfold ledOpen at h
  by_cases hhas : s.Has (ledPath name .brightness) .brightness
  · have hname := has_ledPath hshort hhas
    unfold System.answer at h
    rw [if_pos hhas] at h
    cases hopened : opened with
    | some e =>
      rw [hopened] at h
      exact absurd (congrArg Prod.fst (Except.ok.inj h)) hne
    | none =>
      rw [hopened] at h
      have htake : name.take 63 = s.device := by
        rw [hname, List.take_of_length_le hshort]
      have hnamed : Named { s with led := { s.led with name := name.take 63 } } := ⟨htake, hshort⟩
      obtain ⟨e, hget⟩ := @getAttribute_spec _ hnamed a .maxBrightness _ rfl errorQuery
      unfold ledGetMaxBrightness at h
      by_cases hbroken : a.file.Broken
      · rw [if_pos hbroken] at hget
        simp only [hget, bind, Except.bind, pure, Except.pure] at h
        exact absurd (congrArg Prod.fst (Except.ok.inj h)) hne'
      · rw [if_neg hbroken] at hget
        simp only [hget, bind, Except.bind, pure, Except.pure] at h
        obtain ⟨-, rfl⟩ := Prod.mk.inj (Except.ok.inj h)
        exact ⟨hname, ⟨⟨htake, hshort⟩, rfl⟩, rfl⟩
  · unfold System.answer at h
    rw [if_neg hhas] at h
    exact absurd (congrArg Prod.fst (Except.ok.inj h)) hne

/-! ## Runs -/

/-- A handle that knows the LED does what the LED does. -/
theorem simulates : Simulates exec respond fun s l => Knows s ∧ s.light = l := by
  rintro s l c ⟨hs, rfl⟩
  obtain ⟨hret, hnext, hs'⟩ := exec_respond hs c
  exact ⟨hret, hs', hnext⟩

/-- **A handle that has been opened is the LED itself**: in every run, whatever a trigger does in between
and whichever system calls fail, the calls return what `respond` says and do to the LED what it says, and
no array is overrun. -/
theorem led_refines_light {s₀ s : System} {opened : Option Nat} {a : Answers} {name : List Byte}
    (hshort : s₀.device.length ≤ 63) (h : ledOpen s₀ opened a name = .ok (0, s))
    (calls : List (Call × Answers)) :
    (run exec s calls).1 = (run respond s₀.light calls).1 ∧
      (run exec s calls).2.light = (run respond s₀.light calls).2 := by
  obtain ⟨-, hknows, hlight⟩ := knows_opened hshort h
  obtain ⟨hrets, -, hend⟩ := simulates.run ⟨hknows, hlight⟩ calls
  exact ⟨hrets, hend⟩

/-- An array with zeros in it. -/
def zeros : Buf 16 := ⟨List.replicate 16 NUL, by decide⟩

/-- A system that has not been opened yet. -/
def System.fresh (device : List Byte) (light : Light) : System := ⟨ledNew, device, light⟩

theorem led_refines_light_blinking :
    let light : Light := ⟨0, 255, true⟩
    let s : System := ⟨⟨lit "led-green", 255, Error.none⟩, lit "led-green", light⟩
    let calls : List (Call × Answers) :=
      [(.read, ⟨FileAnswers.fine, zeros, 80⟩), (.setBrightness 256, ⟨FileAnswers.fine, zeros, 3⟩),
        (.write false, ⟨FileAnswers.fine, zeros, 255⟩), (.read, ⟨FileAnswers.fine, zeros, 80⟩)]
    (run exec s calls).1 = (run respond light calls).1 ∧
      (run exec s calls).2.light = (run respond light calls).2 :=
  @led_refines_light (System.fresh (lit "led-green") ⟨0, 255, true⟩) _ none
    ⟨FileAnswers.fine, zeros, 0⟩ (lit "led-green") (by decide) rfl _

/-! ## Levels that last -/

/-- A call that sets no level but `level`. -/
def Call.Keeps (max level : UInt32) : Call → Prop
  | getBrightness | getMaxBrightness | read => True
  | setBrightness brightness => brightness = level
  | write value => (if value then max else 0) = level

/-- The LED has a level that no trigger changes. -/
structure Holds (l : Light) (max level : UInt32) : Prop where
  brightness : l.brightness = level
  max : l.max = max
  steady : l.triggered = false

variable {max level : UInt32} {l : Light}

theorem Holds.tick (h : Holds l max level) (glow : UInt32) : l.tick glow = l := by
  unfold Light.tick
  rw [h.steady, if_neg Bool.false_ne_true]

/-- A change to the level that the LED has. -/
theorem Holds.change (h : Holds l max level) (a : FileAnswers) :
    Holds (change a l level).2 max level := by
  have hput : Holds (l.put level) max level := by
    refine ⟨rfl, h.max, ?_⟩
    unfold Light.put
    rw [h.steady]
    exact ite_self false
  unfold Led.change
  split_ifs
  · exact h
  · exact h
  · exact hput
  · exact hput

theorem Holds.respond (h : Holds l max level) {c : Call × Answers} (hc : c.1.Keeps max level) :
    Holds (respond l c).2 max level := by
  obtain ⟨call, a⟩ := c
  unfold Led.respond
  rw [h.tick]
  cases call with
  | getBrightness => exact h
  | getMaxBrightness => exact h
  | read => exact h
  | setBrightness brightness =>
    have heq : brightness = level := hc
    subst heq
    exact h.change a.file
  | write value =>
    have heq : (if value then l.max else 0) = level := by
      rw [h.max]
      exact hc
    dsimp only
    rw [heq]
    exact h.change a.file

/-- A level that has been set without an error, if no trigger is active then. -/
theorem holds_set {a : Answers} (hset : (respond l (.setBrightness level, a)).1 = .ok (0, .nothing))
    (hsteady : l.triggered = false ∨ level = 0) :
    Holds (respond l (.setBrightness level, a)).2 l.max level := by
  have hmax := tick_max l a.glow
  have hput : Holds ((l.tick a.glow).put level) l.max level := by
    refine ⟨rfl, hmax, ?_⟩
    unfold Light.put
    rcases hsteady with hoff | hzero
    · have htick : l.tick a.glow = l := by
        unfold Light.tick
        rw [hoff, if_neg Bool.false_ne_true]
      rw [htick, hoff]
      exact ite_self false
    · exact if_pos hzero
  have hcode : (change a.file (l.tick a.glow) level).1 = 0 := congrArg Prod.fst (Except.ok.inj hset)
  show Holds (change a.file (l.tick a.glow) level).2 l.max level
  unfold change at hcode ⊢
  split_ifs at hcode ⊢
  · exact absurd (show errorArg = 0 from hcode) (by decide)
  · exact absurd (show errorIo = 0 from hcode) (by decide)
  · exact absurd (show errorIo = 0 from hcode) (by decide)
  · exact hput

theorem respond_max (l : Light) (c : Call × Answers) : (respond l c).2.max = l.max := by
  obtain ⟨call, a⟩ := c
  have htick : (l.tick a.glow).max = l.max := tick_max l a.glow
  cases call with
  | getBrightness => exact htick
  | getMaxBrightness => exact htick
  | read => exact htick
  | setBrightness brightness => exact (change_max _ _ _).trans htick
  | write value => exact (change_max _ _ _).trans htick

theorem run_respond_max (l : Light) (calls : List (Call × Answers)) :
    (run respond l calls).2.max = l.max := by
  have hstep : ∀ l' c, True → l'.max = l.max → (respond l' c).2.max = l.max :=
    fun l' c _ h => (respond_max l' c).trans h
  exact run_invariant hstep rfl fun _ _ => trivial

/-- **A level that has been set lasts**: once it has been set without an error while no trigger was
active, or has been set to zero, the LED keeps it and shows it, through every run of calls that ask for no
other level, whether they succeed or not, and whatever a trigger had been up to before. -/
theorem level_held {s₀ s : System} {opened : Option Nat} {a b : Answers} {name : List Byte}
    (hshort : s₀.device.length ≤ 63) (h : ledOpen s₀ opened a name = .ok (0, s))
    (before : List (Call × Answers)) {level : UInt32}
    (hset : (exec (run exec s before).2 (.setBrightness level, b)).1 = .ok (0, .nothing))
    (hsteady : (run exec s before).2.light.triggered = false ∨ level = 0)
    {calls : List (Call × Answers)} (hcalls : ∀ c ∈ calls, c.1.Keeps s₀.light.max level) :
    let s' := (run exec (exec (run exec s before).2 (.setBrightness level, b)).2 calls).2
    s'.light.brightness = level ∧ s'.light.triggered = false ∧
      ∀ c, (exec s' (.getBrightness, c)).1 = .ok (reply c.file errorIo (.level level)) := by
  intro s'
  obtain ⟨-, hopen, hlight⟩ := knows_opened hshort h
  obtain ⟨-, hbefore, hlit⟩ := simulates.run ⟨hopen, hlight⟩ before
  obtain ⟨hret, hnext, hafter⟩ := exec_respond hbefore (.setBrightness level, b)
  have hmax : (run exec s before).2.light.max = s₀.light.max := by
    rw [hlit, run_respond_max]
  -- what holds of the LED right after it has been set, and then at the end
  have hset' : Holds (exec (run exec s before).2 (.setBrightness level, b)).2.light s₀.light.max level := by
    rw [hnext, ← hmax]
    rw [hret] at hset
    exact holds_set hset hsteady
  obtain ⟨-, hknows, hend⟩ := simulates.run ⟨hafter, rfl⟩ calls
  have hholds : Holds s'.light s₀.light.max level := by
    rw [hend]
    exact @run_invariant _ _ _ respond (fun l => Holds l s₀.light.max level)
      (fun c => c.1.Keeps s₀.light.max level) (fun _ _ hc hl => hl.respond hc) _ hset' calls hcalls
  refine ⟨hholds.brightness, hholds.steady, fun c => ?_⟩
  obtain ⟨hread, -, -⟩ := exec_respond hknows (.getBrightness, c)
  rw [hread]
  unfold respond
  rw [hholds.tick]
  dsimp only
  rw [hholds.brightness]

/-- The blinking LED is switched off. -/
theorem level_held_off :
    let s : System := ⟨⟨lit "led-green", 255, Error.none⟩, lit "led-green", ⟨0, 255, true⟩⟩
    let before : List (Call × Answers) := [(.read, ⟨FileAnswers.fine, zeros, 80⟩)]
    let calls : List (Call × Answers) := [(.read, ⟨FileAnswers.fine, zeros, 80⟩),
      (.write false, ⟨⟨none, some 5, none⟩, zeros, 0⟩), (.getMaxBrightness, ⟨FileAnswers.fine, zeros, 7⟩)]
    let s' := (run exec (exec (run exec s before).2
      (.setBrightness 0, ⟨FileAnswers.fine, zeros, 9⟩)).2 calls).2
    s'.light.brightness = 0 ∧ s'.light.triggered = false ∧
      ∀ c, (exec s' (.getBrightness, c)).1 = .ok (reply c.file errorIo (.level 0)) :=
  @level_held (System.fresh (lit "led-green") ⟨0, 255, true⟩) _ none
    ⟨FileAnswers.fine, zeros, 0⟩ _ (lit "led-green") (by decide) rfl _ 0 rfl (Or.inr rfl) _ (by
      intro c hc
      simp only [List.mem_cons, List.not_mem_nil, or_false] at hc
      rcases hc with rfl | rfl | rfl
      · exact trivial
      · exact rfl
      · exact trivial)

end DiscoveryDemo.Periphery.Led
