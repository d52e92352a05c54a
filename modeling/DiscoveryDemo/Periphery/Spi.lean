import DiscoveryDemo.CLib.Flags
import DiscoveryDemo.Driver.Machine
import DiscoveryDemo.Periphery.Error

/-!
# SPI devices

`spi.c`: a handle is a file descriptor; the settings are kept by the kernel. The mode (0 to 3), the bit
order and the other flags share one word, which the kernel shows and takes as a byte or as a whole. A word
that is taken as a byte has no bits beyond it.

What a controller makes of a configuration is `setup`: it refuses it, or takes it as it can. The headers
define `SPI_IOC_WR_MODE32` and `SPI_IOC_RD_MODE32`. Transfers are left out.
-/

namespace DiscoveryDemo.Periphery.Spi

open CLib Driver

/-- `spi_bit_order_t` -/
inductive BitOrder where
  | msbFirst
  | lsbFirst
  | other (value : Nat)
  deriving DecidableEq

/-- `spi_t` -/
structure Handle where
  fd : Int
  error : Error

/-- `spi_new` -/
def spiNew : Handle := ⟨-1, Error.none⟩

def errorArg : Int := -1
def errorOpen : Int := -2
def errorQuery : Int := -3
def errorConfigure : Int := -4
def errorClose : Int := -6

/-- `EBADF` -/
def ebadf : Nat := 9

/-- `SPI_CPHA | SPI_CPOL` -/
def modeMask : BitVec 32 := 0x3

/-- `SPI_LSB_FIRST` -/
def lsbFirstFlag : BitVec 32 := 0x8

/-- `SPI_CPOL | SPI_CPHA | SPI_LSB_FIRST` -/
def keepMask : BitVec 32 := 0xB

/-! ## The kernel -/

/-- The configuration of a device. -/
structure Config where
  mode : BitVec 32
  maxSpeed : UInt32
  bitsPerWord : UInt8
  deriving DecidableEq

/-- What a controller makes of a configuration: an `errno`, or the one that it works with. -/
abbrev Setup := Config → Except Nat Config

/-- A handle, the device, and the descriptors that are open for the device. -/
structure System where
  spi : Handle
  config : Config
  fds : List Int

/-- The `errno` of an `ioctl`, if it fails for reasons of its own or because there is no such file. -/
def System.ioctl (s : System) (a : Option Nat) : Option Nat :=
  if s.spi.fd ∈ s.fds then a else some ebadf

/-- `SPI_IOC_RD_MODE` -/
def System.rdMode (s : System) : BitVec 8 := s.config.mode.setWidth 8

/-- The controller is set up for another configuration. -/
def configure (setup : Setup) (s : System) (a : Option Nat) (next : Config) : Except Nat System :=
  match s.ioctl a with
  | some e => .error e
  | none =>
    match setup next with
    | .error e => .error e
    | .ok c => .ok { s with config := c }

section Ioctls

variable (setup : Setup) (s : System) (a : Option Nat)

/-- `SPI_IOC_WR_MODE` -/
def wrMode (data8 : BitVec 8) : Except Nat System :=
  configure setup s a { s.config with mode := data8.setWidth 32 }

/-- `SPI_IOC_WR_MODE32` -/
def wrMode32 (data32 : BitVec 32) : Except Nat System :=
  configure setup s a { s.config with mode := data32 }

/-- `SPI_IOC_WR_LSB_FIRST` -/
def wrLsbFirst (data8 : BitVec 8) : Except Nat System :=
  configure setup s a { s.config with
    mode := if data8 ≠ 0 then s.config.mode ||| lsbFirstFlag else s.config.mode &&& ~~~lsbFirstFlag }

/-- `SPI_IOC_WR_MAX_SPEED_HZ` -/
def wrMaxSpeed (maxSpeed : UInt32) : Except Nat System :=
  configure setup s a { s.config with maxSpeed := maxSpeed }

/-- `SPI_IOC_WR_BITS_PER_WORD` -/
def wrBitsPerWord (bitsPerWord : UInt8) : Except Nat System :=
  configure setup s a { s.config with bitsPerWord := bitsPerWord }

end Ioctls

/-- `return _spi_error(..)` -/
def fail (s : System) (code : Int) (c_errno : Nat) (text : List Byte) : Int × System :=
  (code, { s with spi := { s.spi with error := ⟨c_errno, text⟩ } })

/-! ## Opening and closing -/

/-- What is answered to `spi_open`: a descriptor, and the `errno`s of three `ioctl`s. -/
structure OpenAnswers where
  opened : Except Nat Int
  mode : Option Nat
  maxSpeed : Option Nat
  bitsPerWord : Option Nat

/-- `close(spi->fd)` and `spi->fd = -1` -/
def System.drop (s : System) : System :=
  { s with fds := s.fds.erase s.spi.fd, spi := { s.spi with fd := -1 } }

/-- `mode | ((bit_order == LSB_FIRST) ? SPI_LSB_FIRST : 0) | extra_flags` -/
def modeWord (mode : BitVec 32) (bitOrder : BitOrder) (extraFlags : BitVec 32) : BitVec 32 :=
  mode ||| (if bitOrder = .lsbFirst then lsbFirstFlag else 0) ||| extraFlags

/-- `spi_open_advanced2` -/
def spiOpenAdvanced2 (setup : Setup) (s : System) (a : OpenAnswers) (path : List Byte) (mode : BitVec 32)
    (maxSpeed : UInt32) (bitOrder : BitOrder) (bitsPerWord : UInt8) (extraFlags : BitVec 32) :
    Int × System :=
  if mode &&& ~~~modeMask ≠ 0 then fail s errorArg 0 (lit "Invalid mode (can be 0,1,2,3)")
  else if bitOrder ≠ .msbFirst ∧ bitOrder ≠ .lsbFirst then
    fail s errorArg 0 (lit "Invalid bit order (can be MSB_FIRST,LSB_FIRST)")
  else
    match a.opened with
    | .error e =>
      fail { s with spi := ⟨-1, Error.none⟩ } errorOpen e (lit "Opening SPI device \"" ++ path ++ lit "\"")
    | .ok fd =>
      let s := { s with spi := ⟨fd, Error.none⟩, fds := fd :: s.fds }
      let word := modeWord mode bitOrder extraFlags
      let written :=
        if extraFlags.toNat > 0xff then wrMode32 setup s a.mode word
        else wrMode setup s a.mode (word.setWidth 8)
      match written with
      | .error e => fail s.drop errorConfigure e (lit "Setting SPI mode")
      | .ok s =>
        match wrMaxSpeed setup s a.maxSpeed maxSpeed with
        | .error e => fail s.drop errorConfigure e (lit "Setting SPI max speed")
        | .ok s =>
          match wrBitsPerWord setup s a.bitsPerWord bitsPerWord with
          | .error e => fail s.drop errorConfigure e (lit "Setting SPI bits per word")
          | .ok s => (0, s)

/-- `spi_open_advanced` -/
def spiOpenAdvanced (setup : Setup) (s : System) (a : OpenAnswers) (path : List Byte) (mode : BitVec 32)
    (maxSpeed : UInt32) (bitOrder : BitOrder) (bitsPerWord : UInt8) (extraFlags : BitVec 8) :
    Int × System :=
  spiOpenAdvanced2 setup s a path mode maxSpeed bitOrder bitsPerWord (extraFlags.setWidth 32)

/-- `spi_open` -/
def spiOpen (setup : Setup) (s : System) (a : OpenAnswers) (path : List Byte) (mode : BitVec 32)
    (maxSpeed : UInt32) : Int × System :=
  spiOpenAdvanced setup s a path mode maxSpeed .msbFirst 8 0

/-- `spi_close`; the descriptor is gone even if `close` fails. -/
def spiClose (s : System) (closed : Option Nat) : Int × System :=
  if s.spi.fd < 0 then (0, s)
  else
    match closed with
    | some e => fail { s with fds := s.fds.erase s.spi.fd } errorClose e (lit "Closing SPI device")
    | none => (0, s.drop)

/-! ## Getters -/

/-- What is answered to the `ioctl`s of a call, of which there are two at most. -/
structure Answers where
  first : Option Nat
  second : Option Nat

/-- The end of a getter that has made one `ioctl`. -/
def query {α : Type} (s : System) (a : Answers) (text : List Byte) (value : α) :
    Except Int α × System :=
  match s.ioctl a.first with
  | some e =>
    let (code, s) := fail s errorQuery e text
    (.error code, s)
  | none => (.ok value, s)

/-- `spi_get_mode` -/
def spiGetMode (s : System) (a : Answers) : Except Int (BitVec 32) × System :=
  query s a (lit "Getting SPI mode") (s.rdMode.setWidth 32 &&& modeMask)

/-- `spi_get_max_speed` -/
def spiGetMaxSpeed (s : System) (a : Answers) : Except Int UInt32 × System :=
  query s a (lit "Getting SPI max speed") s.config.maxSpeed

/-- `spi_get_bit_order` -/
def spiGetBitOrder (s : System) (a : Answers) : Except Int BitOrder × System :=
  let data8 : BitVec 8 := if s.config.mode &&& lsbFirstFlag ≠ 0 then 1 else 0
  query s a (lit "Getting SPI bit order") (if data8 ≠ 0 then .lsbFirst else .msbFirst)

/-- `spi_get_bits_per_word` -/
def spiGetBitsPerWord (s : System) (a : Answers) : Except Int UInt8 × System :=
  query s a (lit "Getting SPI bits per word") s.config.bitsPerWord

/-- `spi_get_extra_flags` -/
def spiGetExtraFlags (s : System) (a : Answers) : Except Int (BitVec 8) × System :=
  query s a (lit "Getting SPI mode flags") (s.rdMode &&& ~~~keepMask.setWidth 8)

/-- `spi_get_extra_flags32` -/
def spiGetExtraFlags32 (s : System) (a : Answers) : Except Int (BitVec 32) × System :=
  query s a (lit "Getting 32-bit SPI mode flags") (s.config.mode &&& ~~~keepMask)

/-! ## Setters -/

/-- The end of a setter. -/
def conclude (s : System) (r : Except Nat System) (text : List Byte) : Int × System :=
  match r with
  | .error e => fail s errorConfigure e text
  | .ok s => (0, s)

section Setters

variable (setup : Setup)

/-- `spi_set_mode` -/
def spiSetMode (s : System) (a : Answers) (mode : BitVec 32) : Int × System :=
  if mode &&& ~~~modeMask ≠ 0 then fail s errorArg 0 (lit "Invalid mode (can be 0,1,2,3)")
  else
    match s.ioctl a.first with
    | some e => fail s errorQuery e (lit "Getting SPI mode")
    | none =>
      let data8 := s.rdMode
      let data8 := data8 &&& ~~~modeMask.setWidth 8
      let data8 := data8 ||| mode.setWidth 8
      conclude s (wrMode setup s a.second data8) (lit "Setting SPI mode")

/-- `spi_set_bit_order` -/
def spiSetBitOrder (s : System) (a : Answers) (bitOrder : BitOrder) : Int × System :=
  if bitOrder ≠ .msbFirst ∧ bitOrder ≠ .lsbFirst then
    fail s errorArg 0 (lit "Invalid bit order (can be MSB_FIRST,LSB_FIRST)")
  else
    let data8 : BitVec 8 := if bitOrder = .lsbFirst then 1 else 0
    conclude s (wrLsbFirst setup s a.first data8) (lit "Setting SPI bit order")

/-- `spi_set_extra_flags` -/
def spiSetExtraFlags (s : System) (a : Answers) (extraFlags : BitVec 8) : Int × System :=
  match s.ioctl a.first with
  | some e => fail s errorQuery e (lit "Getting SPI mode flags")
  | none =>
    let data8 := s.rdMode
    let data8 := data8 &&& keepMask.setWidth 8
    let data8 := data8 ||| extraFlags
    conclude s (wrMode setup s a.second data8) (lit "Setting SPI mode flags")

/-- `spi_set_extra_flags32` -/
def spiSetExtraFlags32 (s : System) (a : Answers) (extraFlags : BitVec 32) : Int × System :=
  match s.ioctl a.first with
  | some e => fail s errorQuery e (lit "Getting 32-bit SPI mode flags")
  | none =>
    let mode32 := s.config.mode
    let mode32 := mode32 &&& keepMask
    let mode32 := mode32 ||| extraFlags
    conclude s (wrMode32 setup s a.second mode32) (lit "Setting 32-bit SPI mode flags")

/-- `spi_set_max_speed` -/
def spiSetMaxSpeed (s : System) (a : Answers) (maxSpeed : UInt32) : Int × System :=
  conclude s (wrMaxSpeed setup s a.first maxSpeed) (lit "Setting SPI max speed")

/-- `spi_set_bits_per_word` -/
def spiSetBitsPerWord (s : System) (a : Answers) (bitsPerWord : UInt8) : Int × System :=
  conclude s (wrBitsPerWord setup s a.first bitsPerWord) (lit "Setting SPI bits per word")

end Setters

/-! ## Calls -/

inductive Call where
  | getMode
  | getMaxSpeed
  | getBitOrder
  | getBitsPerWord
  | getExtraFlags
  | getExtraFlags32
  | setMode (mode : BitVec 32)
  | setBitOrder (bitOrder : BitOrder)
  | setExtraFlags (extraFlags : BitVec 8)
  | setExtraFlags32 (extraFlags : BitVec 32)
  | setMaxSpeed (maxSpeed : UInt32)
  | setBitsPerWord (bitsPerWord : UInt8)

/-- What a getter stores. -/
inductive Value where
  | nothing
  | mode (mode : BitVec 32)
  | maxSpeed (maxSpeed : UInt32)
  | bitOrder (bitOrder : BitOrder)
  | bitsPerWord (bitsPerWord : UInt8)
  | extraFlags (extraFlags : BitVec 8)
  | extraFlags32 (extraFlags : BitVec 32)
  deriving DecidableEq

/-- What a getter returns and stores. -/
def got {α : Type} (value : α → Value) (r : Except Int α × System) : (Int × Value) × System :=
  match r with
  | (.error code, s) => ((code, .nothing), s)
  | (.ok x, s) => ((0, value x), s)

/-- A call with what is answered to it. -/
def exec (setup : Setup) (s : System) (c : Call × Answers) : (Int × Value) × System :=
  let code (r : Int × System) : (Int × Value) × System := ((r.1, .nothing), r.2)
  match c.1 with
  | .getMode => got .mode (spiGetMode s c.2)
  | .getMaxSpeed => got .maxSpeed (spiGetMaxSpeed s c.2)
  | .getBitOrder => got .bitOrder (spiGetBitOrder s c.2)
  | .getBitsPerWord => got .bitsPerWord (spiGetBitsPerWord s c.2)
  | .getExtraFlags => got .extraFlags (spiGetExtraFlags s c.2)
  | .getExtraFlags32 => got .extraFlags32 (spiGetExtraFlags32 s c.2)
  | .setMode mode => code (spiSetMode setup s c.2 mode)
  | .setBitOrder bitOrder => code (spiSetBitOrder setup s c.2 bitOrder)
  | .setExtraFlags extraFlags => code (spiSetExtraFlags setup s c.2 extraFlags)
  | .setExtraFlags32 extraFlags => code (spiSetExtraFlags32 setup s c.2 extraFlags)
  | .setMaxSpeed maxSpeed => code (spiSetMaxSpeed setup s c.2 maxSpeed)
  | .setBitsPerWord bitsPerWord => code (spiSetBitsPerWord setup s c.2 bitsPerWord)

/-! ## What it is for -/

/-- The settings of a device, each on its own. -/
structure Settings where
  mode : BitVec 32
  lsbFirst : Bool
  extraFlags : BitVec 32
  maxSpeed : UInt32
  bitsPerWord : UInt8
  deriving DecidableEq

/-- The settings that a configuration stands for. -/
def Config.settings (c : Config) : Settings where
  mode := c.mode &&& modeMask
  lsbFirst := c.mode.getLsbD 3
  extraFlags := c.mode &&& ~~~keepMask
  maxSpeed := c.maxSpeed
  bitsPerWord := c.bitsPerWord

/-- The configuration for settings. -/
def Settings.config (s : Settings) : Config where
  mode := s.mode ||| (if s.lsbFirst then lsbFirstFlag else 0) ||| s.extraFlags
  maxSpeed := s.maxSpeed
  bitsPerWord := s.bitsPerWord

/-- The extra flags are replaced. Flags that belong to the mode or to the bit order end up there. -/
def Settings.withFlags (s : Settings) (flags : BitVec 32) : Settings :=
  { s with
    mode := s.mode ||| (flags &&& modeMask)
    lsbFirst := s.lsbFirst || flags.getLsbD 3
    extraFlags := flags &&& ~~~keepMask }

/-- The controller is asked for other settings. -/
def request (setup : Setup) (s : Settings) (a : Option Nat) (next : Settings) :
    (Int × Value) × Settings :=
  match a, setup next.config with
  | some _, _ => ((errorConfigure, .nothing), s)
  | none, .error _ => ((errorConfigure, .nothing), s)
  | none, .ok c => ((0, .nothing), c.settings)

/-- The settings themselves. To set the mode or the flags of one byte is to lose the flags beyond it. -/
def respond (setup : Setup) (s : Settings) (c : Call × Answers) : (Int × Value) × Settings :=
  let getter (value : Value) : (Int × Value) × Settings :=
    (if c.2.first ≠ none then (errorQuery, .nothing) else (0, value), s)
  let reader (next : Settings) : (Int × Value) × Settings :=
    if c.2.first ≠ none then ((errorQuery, .nothing), s) else request setup s c.2.second next
  match c.1 with
  | .getMode => getter (.mode s.mode)
  | .getMaxSpeed => getter (.maxSpeed s.maxSpeed)
  | .getBitOrder => getter (.bitOrder (if s.lsbFirst then .lsbFirst else .msbFirst))
  | .getBitsPerWord => getter (.bitsPerWord s.bitsPerWord)
  | .getExtraFlags => getter (.extraFlags (s.extraFlags.setWidth 8))
  | .getExtraFlags32 => getter (.extraFlags32 s.extraFlags)
  | .setMode mode =>
    if mode &&& ~~~modeMask ≠ 0 then ((errorArg, .nothing), s)
    else reader { s with mode := mode, extraFlags := s.extraFlags &&& 0xff }
  | .setBitOrder (.other _) => ((errorArg, .nothing), s)
  | .setBitOrder .msbFirst => request setup s c.2.first { s with lsbFirst := false }
  | .setBitOrder .lsbFirst => request setup s c.2.first { s with lsbFirst := true }
  | .setExtraFlags extraFlags => reader (s.withFlags (extraFlags.setWidth 32))
  | .setExtraFlags32 extraFlags => reader (s.withFlags extraFlags)
  | .setMaxSpeed maxSpeed => request setup s c.2.first { s with maxSpeed := maxSpeed }
  | .setBitsPerWord bitsPerWord => request setup s c.2.first { s with bitsPerWord := bitsPerWord }

end DiscoveryDemo.Periphery.Spi
