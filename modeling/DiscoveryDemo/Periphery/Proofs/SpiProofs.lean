import Mathlib.Data.Bool.Basic
import Mathlib.Tactic.Common
import DiscoveryDemo.CLib.Proofs.FlagsProofs
import DiscoveryDemo.Periphery.Spi

/-!
# Proofs: SPI devices

The word that holds the mode, the bit order and the flags is taken apart into these settings; what the
calls write to the word is what `respond` does to the settings.
-/

namespace DiscoveryDemo.Periphery.Spi

open CLib Driver

variable {setup : Setup} {s : System}

/-! ## Words -/

section Words

variable {i : Nat} {w m f : BitVec 32}

theorem modeMask_bit (hi : i < 32) : modeMask.getLsbD i = decide (i < 2) := by
  revert i
  decide

theorem keepMask_bit (hi : i < 32) : keepMask.getLsbD i = (decide (i < 2) || decide (i = 3)) := by
  revert i
  decide

theorem byte_bit (hi : i < 32) : (0xff : BitVec 32).getLsbD i = decide (i < 8) := by
  revert i
  decide

theorem lsbFirstFlag_bit (hi : i < 32) : lsbFirstFlag.getLsbD i = decide (i = 3) := by
  revert i
  decide

theorem order_bit (b : Bool) (hi : i < 32) :
    (if b then lsbFirstFlag else 0).getLsbD i = (b && decide (i = 3)) := by
  cases b with
  | true => simpa using lsbFirstFlag_bit hi
  | false => simp

theorem mode_bit (h : m &&& ~~~modeMask = 0) (hi : i < 32) (hm : m.getLsbD i = true) : i < 2 := by
  have hwithin : Within m modeMask := h
  have hbit := hwithin.bit hm
  rw [modeMask_bit hi] at hbit
  exact of_decide_eq_true hbit

/-- The settings are the word. -/
theorem config_settings (c : Config) : c.settings.config = c := by
  have hword : (c.mode &&& modeMask) ||| (if c.mode.getLsbD 3 then lsbFirstFlag else 0) |||
      (c.mode &&& ~~~keepMask) = c.mode := by
    apply BitVec.eq_of_getLsbD_eq
    intro i hi
    simp only [BitVec.getLsbD_or, BitVec.getLsbD_and, BitVec.getLsbD_not, modeMask_bit hi,
      order_bit _ hi, keepMask_bit hi, hi, decide_true, Bool.true_and]
    grind
  unfold Settings.config Config.settings
  rw [hword]

theorem config_maxSpeed (c : Config) (maxSpeed : UInt32) :
    { c with maxSpeed := maxSpeed } = ({ c.settings with maxSpeed := maxSpeed } : Settings).config :=
  congrArg (fun c : Config => { c with maxSpeed := maxSpeed }) (config_settings c).symm

theorem config_bitsPerWord (c : Config) (bitsPerWord : UInt8) :
    { c with bitsPerWord := bitsPerWord } =
      ({ c.settings with bitsPerWord := bitsPerWord } : Settings).config :=
  congrArg (fun c : Config => { c with bitsPerWord := bitsPerWord }) (config_settings c).symm

theorem setMode_word (h : m &&& ~~~modeMask = 0) :
    (((w.setWidth 8 &&& ~~~modeMask.setWidth 8) ||| m.setWidth 8).setWidth 32 : BitVec 32) =
      m ||| (if w.getLsbD 3 then lsbFirstFlag else 0) ||| ((w &&& ~~~keepMask) &&& 0xff) := by
  apply BitVec.eq_of_getLsbD_eq
  intro i hi
  have hm := mode_bit h hi
  simp only [BitVec.getLsbD_or, BitVec.getLsbD_and, BitVec.getLsbD_not, BitVec.getLsbD_setWidth,
    modeMask_bit hi, order_bit _ hi, keepMask_bit hi, byte_bit hi, hi, decide_true, Bool.true_and]
  grind

theorem setFlags_word : (w &&& keepMask) ||| f =
    (w &&& modeMask ||| (f &&& modeMask)) |||
      (if w.getLsbD 3 || f.getLsbD 3 then lsbFirstFlag else 0) ||| (f &&& ~~~keepMask) := by
  apply BitVec.eq_of_getLsbD_eq
  intro i hi
  simp only [BitVec.getLsbD_or, BitVec.getLsbD_and, BitVec.getLsbD_not, modeMask_bit hi,
    order_bit _ hi, keepMask_bit hi, hi, decide_true, Bool.true_and]
  grind

/-- The flags of one byte are set as the ones of a word. -/
theorem setFlags_byte {g : BitVec 8} :
    (((w.setWidth 8 &&& keepMask.setWidth 8) ||| g).setWidth 32 : BitVec 32) =
      (w &&& keepMask) ||| g.setWidth 32 := by
  apply BitVec.eq_of_getLsbD_eq
  intro i hi
  simp only [BitVec.getLsbD_or, BitVec.getLsbD_and, BitVec.getLsbD_setWidth, keepMask_bit hi, hi,
    decide_true, Bool.true_and]
  grind

theorem setOrder_word (b : Bool) :
    (if b then w ||| lsbFirstFlag else w &&& ~~~lsbFirstFlag) =
      (w &&& modeMask) ||| (if b then lsbFirstFlag else 0) ||| (w &&& ~~~keepMask) := by
  apply BitVec.eq_of_getLsbD_eq
  intro i hi
  cases b with
  | true =>
    simp only [if_true, BitVec.getLsbD_or, BitVec.getLsbD_and, BitVec.getLsbD_not, modeMask_bit hi,
      lsbFirstFlag_bit hi, keepMask_bit hi, hi, decide_true, Bool.true_and]
    grind
  | false =>
    simp only [Bool.false_eq_true, if_false, BitVec.getLsbD_or, BitVec.getLsbD_and, BitVec.getLsbD_not,
      modeMask_bit hi, lsbFirstFlag_bit hi, keepMask_bit hi, hi, decide_true, Bool.true_and]
    grind

/-- A word without bits beyond a byte is the same as a byte. -/
theorem byte_word (h : ∀ i, 8 ≤ i → w.getLsbD i = false) : ((w.setWidth 8).setWidth 32 : BitVec 32) = w := by
  apply BitVec.eq_of_getLsbD_eq
  intro i hi
  have hhigh := h i
  simp only [BitVec.getLsbD_setWidth, hi, decide_true, Bool.true_and]
  grind

theorem lsb_and (w : BitVec 32) : (w &&& lsbFirstFlag ≠ 0) ↔ w.getLsbD 3 = true := by
  have htwo : lsbFirstFlag = BitVec.twoPow 32 3 := by decide
  have hne : BitVec.twoPow 32 3 ≠ 0 := by decide
  rw [htwo, BitVec.and_twoPow]
  cases w.getLsbD 3 with
  | true => exact ⟨fun _ => rfl, fun _ => hne⟩
  | false => exact ⟨fun h => absurd rfl h, fun h => absurd h Bool.false_ne_true⟩

theorem getMode_word : ((w.setWidth 8).setWidth 32 : BitVec 32) &&& modeMask = w &&& modeMask := by
  apply BitVec.eq_of_getLsbD_eq
  intro i hi
  simp only [BitVec.getLsbD_and, BitVec.getLsbD_setWidth, modeMask_bit hi, hi, decide_true, Bool.true_and]
  grind

theorem getFlags_word : w.setWidth 8 &&& ~~~keepMask.setWidth 8 = ((w &&& ~~~keepMask).setWidth 8 : BitVec 8) := by
  rw [BitVec.setWidth_and, BitVec.setWidth_not]
  decide

end Words

/-! ## Calls -/

/-- The handle is a descriptor of the device. -/
def Open (s : System) : Prop := s.spi.fd ∈ s.fds

/-- A call keeps the descriptors. -/
structure Kept (s s' : System) : Prop where
  fd : s'.spi.fd = s.spi.fd
  fds : s'.fds = s.fds

theorem Kept.open {s' : System} (h : Kept s s') (hs : Open s) : Open s' := by
  unfold Open
  rw [h.fd, h.fds]
  exact hs

theorem Open.ioctl (h : Open s) (a : Option Nat) : s.ioctl a = a := if_pos h

/-- A call does to the settings what `r` says. -/
structure Does (s : System) (x : (Int × Value) × System) (r : (Int × Value) × Settings) : Prop where
  returns : x.1 = r.1
  settings : x.2.config.settings = r.2
  kept : Kept s x.2

/-- A getter. -/
theorem does_query {α : Type} (h : Open s) (a : Answers) (text : List Byte) (x : α) (value : α → Value) :
    Does s (got value (query s a text x))
      ((if a.first ≠ none then (errorQuery, .nothing) else (0, value x)), s.config.settings) := by
  unfold query
  rw [h.ioctl]
  cases hfirst : a.first with
  | some e => exact ⟨rfl, rfl, rfl, rfl⟩
  | none => exact ⟨rfl, rfl, rfl, rfl⟩

/-- A setter asks the controller for the settings that its configuration stands for. -/
theorem does_configure (h : Open s) (a : Option Nat) {next : Config} {wanted : Settings}
    (hnext : next = wanted.config) (text : List Byte) :
    Does s (((conclude s (configure setup s a next) text).1, .nothing),
        (conclude s (configure setup s a next) text).2)
      (request setup s.config.settings a wanted) := by
  unfold configure conclude request
  rw [h.ioctl, hnext]
  cases a with
  | some e => exact ⟨rfl, rfl, rfl, rfl⟩
  | none =>
    cases hsetup : setup wanted.config with
    | error e => exact ⟨rfl, rfl, rfl, rfl⟩
    | ok c => exact ⟨rfl, rfl, rfl, rfl⟩

/-- A call that is refused before anything is asked of the kernel. -/
theorem does_refuse (s : System) (text : List Byte) :
    Does s (((fail s errorArg 0 text).1, .nothing), (fail s errorArg 0 text).2)
      ((errorArg, .nothing), s.config.settings) := ⟨rfl, rfl, rfl, rfl⟩

/-- A setter that reads the word first. -/
theorem does_reader (h : Open s) (a : Answers) {next : Config} {wanted : Settings}
    (hnext : next = wanted.config) (text text' : List Byte) {x : Int × System}
    (hx : x = match s.ioctl a.first with
      | some e => fail s errorQuery e text
      | none => conclude s (configure setup s a.second next) text') :
    Does s ((x.1, .nothing), x.2)
      (if a.first ≠ none then ((errorQuery, .nothing), s.config.settings)
        else request setup s.config.settings a.second wanted) := by
  subst hx
  rw [h.ioctl]
  cases hfirst : a.first with
  | some e => exact ⟨rfl, rfl, rfl, rfl⟩
  | none =>
    rw [if_neg (not_not.mpr rfl)]
    exact does_configure h a.second hnext text'

/-- `spi_set_mode` -/
theorem does_setMode (h : Open s) (a : Answers) (mode : BitVec 32) :
    Does s (exec setup s (.setMode mode, a)) (respond setup s.config.settings (.setMode mode, a)) := by
  unfold exec respond spiSetMode
  dsimp only
  by_cases hmode : mode &&& ~~~modeMask = 0
  · rw [if_neg (not_not.mpr hmode), if_neg (not_not.mpr hmode)]
    refine does_reader h a ?_ _ _ rfl
    unfold System.rdMode
    rw [setMode_word hmode]
    rfl
  · rw [if_pos hmode, if_pos hmode]
    exact does_refuse s _

/-- `spi_set_bit_order` -/
theorem does_setBitOrder (h : Open s) (a : Answers) (bitOrder : BitOrder) :
    Does s (exec setup s (.setBitOrder bitOrder, a))
      (respond setup s.config.settings (.setBitOrder bitOrder, a)) := by
  have hword : ∀ b : Bool, ({ s.config with
      mode := if b then s.config.mode ||| lsbFirstFlag else s.config.mode &&& ~~~lsbFirstFlag } : Config) =
      ({ s.config.settings with lsbFirst := b } : Settings).config := by
    intro b
    rw [setOrder_word]
    rfl
  cases bitOrder with
  | msbFirst => exact does_configure h a.first (hword false) _
  | lsbFirst => exact does_configure h a.first (hword true) _
  | other value => exact does_refuse s _

/-- A call does what `respond` says. -/
theorem exec_respond (h : Open s) (c : Call × Answers) :
    Does s (exec setup s c) (respond setup s.config.settings c) := by
  obtain ⟨call, a⟩ := c
  cases call with
  | getMode =>
    unfold exec respond spiGetMode System.rdMode
    rw [getMode_word]
    exact does_query h a _ _ _
  | getMaxSpeed => exact does_query h a _ _ _
  | getBitOrder =>
    have horder : (if (if s.config.mode &&& lsbFirstFlag ≠ 0 then (1 : BitVec 8) else 0) ≠ 0
        then BitOrder.lsbFirst else .msbFirst) =
        if s.config.settings.lsbFirst then .lsbFirst else .msbFirst := by
      have hbit := lsb_and s.config.mode
      show _ = if s.config.mode.getLsbD 3 then BitOrder.lsbFirst else .msbFirst
      by_cases hlsb : s.config.mode &&& lsbFirstFlag ≠ 0
      · rw [if_pos hlsb, if_pos (hbit.mp hlsb)]
        exact if_pos (by decide)
      · rw [if_neg hlsb, if_neg (mt hbit.mpr hlsb)]
        exact if_neg (by decide)
    unfold exec respond spiGetBitOrder
    dsimp only
    rw [horder]
    exact does_query h a _ _ _
  | getBitsPerWord => exact does_query h a _ _ _
  | getExtraFlags =>
    unfold exec respond spiGetExtraFlags System.rdMode
    rw [getFlags_word]
    exact does_query h a _ _ _
  | getExtraFlags32 => exact does_query h a _ _ _
  | setMode mode => exact does_setMode h a mode
  | setBitOrder bitOrder => exact does_setBitOrder h a bitOrder
  | setExtraFlags extraFlags =>
    refine does_reader h a ?_ _ _ rfl
    unfold System.rdMode
    rw [setFlags_byte, setFlags_word]
    rfl
  | setExtraFlags32 extraFlags =>
    refine does_reader h a ?_ _ _ rfl
    rw [setFlags_word]
    rfl
  | setMaxSpeed maxSpeed => exact does_configure h a.first (config_maxSpeed s.config maxSpeed) _
  | setBitsPerWord bitsPerWord =>
    exact does_configure h a.first (config_bitsPerWord s.config bitsPerWord) _

end DiscoveryDemo.Periphery.Spi
