import DiscoveryDemo.Driver.Machine
import DiscoveryDemo.Periphery.Error
import DiscoveryDemo.Periphery.Sysfs

/-!
# LEDs

`led.c`: a handle has a name, at most 63 characters of it, and remembers the maximal brightness; the
brightness itself is kept by the kernel and goes through attributes in sysfs.

As long as a trigger is active the kernel changes the brightness on its own; to write zero ends the
trigger. No brightness is above the maximal one.
-/

namespace DiscoveryDemo.Periphery.Led

open CLib Driver

/-- `led_t` -/
structure Handle where
  name : List Byte
  maxBrightness : UInt32
  error : Error

/-- `led_new` -/
def ledNew : Handle := ⟨[], 0, Error.none⟩

def errorArg : Int := -1
def errorOpen : Int := -2
def errorQuery : Int := -3
def errorIo : Int := -4

/-! ## The kernel -/

/-- An LED. -/
structure Light where
  brightness : UInt32
  max : UInt32
  /-- A trigger is active. -/
  triggered : Bool
  deriving DecidableEq

inductive Attribute where
  | brightness
  | maxBrightness

/-- The name of the file of an attribute. -/
def Attribute.name : Attribute → List Byte
  | brightness => lit "brightness"
  | maxBrightness => lit "max_brightness"

/-- The brightness is set, as far as it goes. -/
def Light.dim (l : Light) (level : UInt32) : Light :=
  { l with brightness := if level > l.max then l.max else level }

/-- The trigger, if there is one, has got to the brightness `glow`. -/
def Light.tick (l : Light) (glow : UInt32) : Light := if l.triggered then l.dim glow else l

/-- What the kernel shows. -/
def Light.show (l : Light) : Attribute → List Byte
  | .brightness => printUnsigned l.brightness.toNat ++ [NL]
  | .maxBrightness => printUnsigned l.max.toNat ++ [NL]

/-- What the kernel makes of a text for the brightness. -/
def Light.store (l : Light) (text : List Byte) : Except Nat Light :=
  match kstrtoul (2 ^ 32 - 1) text with
  | .error e => .error e
  | .ok value =>
    .ok { l.dim (UInt32.ofNat value) with triggered := if value = 0 then false else l.triggered }

/-- A handle, and the only LED that there is, with its name. -/
structure System where
  led : Handle
  device : List Byte
  light : Light

/-- What is answered to a library call, what is on the stack where it has its array, and how bright a
trigger has made the LED by then. -/
structure Answers where
  file : FileAnswers
  stack : Buf 16
  glow : UInt32

/-- `return _led_error(..)` -/
def fail (s : System) (code : Int) (c_errno : Nat) (text : List Byte) : Int × System :=
  (code, { s with led := { s.led with error := ⟨c_errno, text⟩ } })

/-! ## Attributes -/

/-- `snprintf(led_path, sizeof(led_path), "/sys/class/leds/%s/..", name)` -/
def ledPath (name : List Byte) (attr : Attribute) : List Byte :=
  (lit "/sys/class/leds/" ++ name ++ lit "/" ++ attr.name).take 255

/-- `path` is the path of an attribute of the LED. -/
def System.Has (s : System) (path : List Byte) (attr : Attribute) : Prop :=
  path = lit "/sys/class/leds/" ++ s.device ++ lit "/" ++ attr.name

instance (s : System) (path : List Byte) (attr : Attribute) : Decidable (s.Has path attr) :=
  inferInstanceAs (Decidable (_ = _))

/-- What is answered for the file at `path`. -/
def System.answer (s : System) (a : FileAnswers) (path : List Byte) (attr : Attribute) : FileAnswers :=
  if s.Has path attr then a else { a with opened := some enoent }

/-- The text of an error. -/
def attributeText (step : Step) (attr : Attribute) : List Byte :=
  (match step with
    | .opening => lit "Opening LED '"
    | .reading => lit "Reading LED '"
    | .writing => lit "Writing LED '"
    | .closing => lit "Closing LED '") ++ attr.name ++ lit "'"

/-- The body of `led_get_brightness` and of `led_get_max_brightness`: the code it returns if it fails, or
the number it has read. -/
def getAttribute (s : System) (a : Answers) (attr : Attribute) (code : Int) :
    Except Fault (Except Int UInt32 × System) := do
  match ← readFile (s.answer a.file (ledPath s.led.name attr) attr) (s.light.show attr) a.stack with
  | .error (step, e) =>
    let (code, s) := fail s code e (attributeText step attr)
    return (.error code, s)
  | .ok buf => return (.ok (UInt32.ofNat (strtoul (← buf.str 0)).value), s)

/-- `led_get_brightness` -/
def ledGetBrightness (s : System) (a : Answers) : Except Fault (Except Int UInt32 × System) :=
  getAttribute s a .brightness errorIo

/-- `led_get_max_brightness` -/
def ledGetMaxBrightness (s : System) (a : Answers) : Except Fault (Except Int UInt32 × System) := do
  match ← getAttribute s a .maxBrightness errorQuery with
  | (.error code, s) => return (.error code, s)
  | (.ok value, s) => return (.ok value, { s with led := { s.led with maxBrightness := value } })

/-- `led_set_brightness` -/
def ledSetBrightness (s : System) (a : Answers) (brightness : UInt32) : Int × System :=
  if brightness > s.led.maxBrightness then
    fail s errorArg 0 (lit "Brightness out of bounds (max is " ++
      printUnsigned s.led.maxBrightness.toNat ++ lit ")")
  else
    let file := s.answer a.file (ledPath s.led.name .brightness) .brightness
    match writeFile file s.light.store s.light (printUnsigned brightness.toNat ++ [NL]) with
    | (.error (step, e), light) =>
      fail { s with light := light } errorIo e (attributeText step .brightness)
    | (.ok (), light) => (0, { s with light := light })

/-- `led_read` -/
def ledRead (s : System) (a : Answers) : Except Fault (Except Int Bool × System) := do
  match ← ledGetBrightness s a with
  | (.error code, s) => return (.error code, s)
  | (.ok brightness, s) => return (.ok (brightness ≠ 0), s)

/-- `led_write` -/
def ledWrite (s : System) (a : Answers) (value : Bool) : Int × System :=
  ledSetBrightness s a (if value then s.led.maxBrightness else 0)

/-- `led_open`; `opened` is `errno` of its own `open`. -/
def ledOpen (s : System) (opened : Option Nat) (a : Answers) (name : List Byte) :
    Except Fault (Int × System) := do
  match (s.answer ⟨opened, none, none⟩ (ledPath name .brightness) .brightness).opened with
  | some e => return fail s errorOpen e (lit "Opening LED: opening 'brightness'")
  | none =>
    let s := { s with led := { s.led with name := name.take 63 } }
    match ← ledGetMaxBrightness s a with
    | (.error code, s) => return (code, s)
    | (.ok _, s) => return (0, s)

/-! ## Calls -/

inductive Call where
  | getBrightness
  | getMaxBrightness
  | read
  | setBrightness (brightness : UInt32)
  | write (value : Bool)

/-- What a call stores. -/
inductive Value where
  | nothing
  | level (level : UInt32)
  | on (on : Bool)
  deriving DecidableEq

/-- What a getter returns and stores; after a fault nothing is known, and the state is left as it is. -/
def got {α : Type} (value : α → Value) (s : System) (r : Except Fault (Except Int α × System)) :
    Except Fault (Int × Value) × System :=
  match r with
  | .error fault => (.error fault, s)
  | .ok (.error code, s) => (.ok (code, .nothing), s)
  | .ok (.ok x, s) => (.ok (0, value x), s)

/-- A call with what is answered to it. -/
def exec (s : System) (c : Call × Answers) : Except Fault (Int × Value) × System :=
  let s := { s with light := s.light.tick c.2.glow }
  let code (r : Int × System) : Except Fault (Int × Value) × System := (.ok (r.1, .nothing), r.2)
  match c.1 with
  | .getBrightness => got .level s (ledGetBrightness s c.2)
  | .getMaxBrightness => got .level s (ledGetMaxBrightness s c.2)
  | .read => got .on s (ledRead s c.2)
  | .setBrightness brightness => code (ledSetBrightness s c.2 brightness)
  | .write value => code (ledWrite s c.2 value)

/-! ## What it is for -/

/-- What an LED shows. -/
def reply (a : FileAnswers) (code : Int) (value : Value) : Int × Value :=
  if a.Broken then (code, .nothing) else (0, value)

/-- The LED with the brightness `level`; zero ends a trigger. -/
def Light.put (l : Light) (level : UInt32) : Light :=
  { l with brightness := level, triggered := if level = 0 then false else l.triggered }

/-- A change of the brightness. -/
def change (a : FileAnswers) (l : Light) (level : UInt32) : Int × Light :=
  if level > l.max then (errorArg, l)
  else if a.opened ≠ none ∨ a.io ≠ none then (errorIo, l)
  else if a.closed ≠ none then (errorIo, l.put level)
  else (0, l.put level)

/-- The LED itself, without texts, names and a maximum that is remembered. -/
def respond (l : Light) (c : Call × Answers) : Except Fault (Int × Value) × Light :=
  let l := l.tick c.2.glow
  let a := c.2.file
  let setter (level : UInt32) : Except Fault (Int × Value) × Light :=
    (.ok ((change a l level).1, .nothing), (change a l level).2)
  match c.1 with
  | .getBrightness => (.ok (reply a errorIo (.level l.brightness)), l)
  | .getMaxBrightness => (.ok (reply a errorQuery (.level l.max)), l)
  | .read => (.ok (reply a errorIo (.on (l.brightness ≠ 0))), l)
  | .setBrightness brightness => setter brightness
  | .write value => setter (if value then l.max else 0)

/-- The handle is for the LED. -/
structure Named (s : System) : Prop where
  name : s.led.name = s.device
  short : s.device.length ≤ 63

/-- The handle is for the LED and knows its maximal brightness. -/
structure Knows (s : System) : Prop extends Named s where
  max : s.led.maxBrightness = s.light.max

end DiscoveryDemo.Periphery.Led
