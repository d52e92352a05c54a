import DiscoveryDemo.CLib.Memory
import DiscoveryDemo.Driver.Machine
import DiscoveryDemo.Periphery.Error

/-!
# Memory-mapped registers

`mmio.c` maps a part of the physical memory, from the page on in which it begins, and reads and writes
in it. Addresses and sizes are unsigned and have 32 bits, and all their arithmetic wraps around; the check
of an access is made on what has been wrapped.

The kernel maps `aligned_size` bytes. An access to an address that is not mapped is a fault; an access to
an address that is not aligned is not. Reading changes nothing.
-/

namespace DiscoveryDemo.Periphery.Mmio

open CLib Driver

/-- `mmio_t` -/
structure Handle where
  base : UInt32
  alignedBase : UInt32
  size : UInt32
  alignedSize : UInt32
  ptr : UInt32
  error : Error

/-- `mmio_new` -/
def mmioNew : Handle := ⟨0, 0, 0, 0, 0, Error.none⟩

def errorArg : Int := -1
def errorOpen : Int := -2
def errorClose : Int := -3

/-- `MAP_FAILED` -/
def mapFailed : UInt32 := -1

/-- What the kernel has mapped, and where. -/
structure Mapping where
  ptr : UInt32
  physical : UInt32
  length : UInt32

/-- A handle, what the kernel has mapped for it, and the physical memory. -/
structure System where
  mmio : Handle
  mapping : Option Mapping
  memory : Memory

/-- What is answered to `mmio_open` and `mmio_close`: an `errno`, or where the memory is mapped. -/
structure Answers where
  opened : Option Nat
  mapped : Except Nat UInt32
  closed : Option Nat
  unmapped : Option Nat

/-- `return _mmio_error(..)` -/
def fail (s : System) (code : Int) (c_errno : Nat) (text : List Byte) : Int × System :=
  (code, { s with mmio := { s.mmio with error := ⟨c_errno, text⟩ } })

/-! ## Opening and closing -/

/-- `mmio_open_advanced` -/
def mmioOpenAdvanced (s : System) (a : Answers) (pageSize base size : UInt32) (path : List Byte) :
    Int × System :=
  let alignedBase := base - base % pageSize
  let s := { s with mmio := ⟨base, alignedBase, size, size + (base - alignedBase), 0, Error.none⟩ }
  match a.opened with
  | some e => fail s errorOpen e (lit "Opening " ++ path)
  | none =>
    match a.mapped with
    | .error e =>
      fail { s with mmio := { s.mmio with ptr := mapFailed } } errorOpen e (lit "Mapping memory")
    | .ok ptr =>
      match a.closed with
      | some e => fail s errorOpen e (lit "Closing " ++ path)
      | none =>
        (0, { s with
          mmio := { s.mmio with ptr := ptr }
          mapping := some ⟨ptr, alignedBase, s.mmio.alignedSize⟩ })

/-- `mmio_open` -/
def mmioOpen (s : System) (a : Answers) (pageSize base size : UInt32) : Int × System :=
  mmioOpenAdvanced s a pageSize base size (lit "/dev/mem")

/-- `mmio_close` -/
def mmioClose (s : System) (a : Answers) : Int × System :=
  if s.mmio.ptr = 0 then (0, s)
  else
    match a.unmapped with
    | some e => fail s errorClose e (lit "Unmapping memory")
    | none => (0, { s with mmio := { s.mmio with ptr := 0 }, mapping := none })

/-- `mmio->base - mmio->aligned_base` -/
def System.shift (s : System) : UInt32 := s.mmio.base - s.mmio.alignedBase

/-- `mmio_ptr` -/
def mmioPtr (s : System) : UInt32 := s.mmio.ptr + s.shift

/-! ## Accesses -/

/-- The physical address behind `len` bytes at `addr`. -/
def access (s : System) (addr : UInt32) (len : Nat) : Except Fault Nat :=
  if len = 0 then .ok 0
  else
    match s.mapping with
    | none => .error (.outOfBounds addr.toNat)
    | some m =>
      let i := (addr - m.ptr).toNat
      if i + len ≤ m.length.toNat then .ok (m.physical.toNat + i) else .error (.outOfBounds addr.toNat)

/-- `offset += (mmio->base - mmio->aligned_base)`, if `len` bytes from there on pass the check. -/
def checked (s : System) (offset len : UInt32) : Option UInt32 :=
  let offset := offset + s.shift
  if offset + len > s.mmio.alignedSize then none else some offset

/-- `return _mmio_error(mmio, MMIO_ERROR_ARG, 0, "Offset out of bounds");` -/
def refuse (s : System) : Int × System := fail s errorArg 0 (lit "Offset out of bounds")

/-- `mmio_read`: the bytes it stores, if it succeeds. -/
def mmioRead (s : System) (offset len : UInt32) : Except Fault (Option (List Byte) × System) :=
  match checked s offset len with
  | none => .ok (none, (refuse s).2)
  | some offset => do
    let p ← access s (s.mmio.ptr + offset) len.toNat
    return (some (s.memory.load p len.toNat), s)

/-- `mmio_read32`, `mmio_read16` and `mmio_read8` for a word of `n` bytes. -/
def readWord (n : UInt32) (s : System) (offset : UInt32) : Except Fault (Option Nat × System) := do
  let (bytes, s) ← mmioRead s offset n
  return (bytes.map wordOf, s)

/-- `mmio_read32` -/
def mmioRead32 := readWord 4

/-- `mmio_read16` -/
def mmioRead16 := readWord 2

/-- `mmio_read8` -/
def mmioRead8 := readWord 1

/-- `mmio_write` with `bytes.length` for `len`: whether it succeeds. -/
def mmioWrite (s : System) (offset : UInt32) (bytes : List Byte) : Except Fault (Bool × System) :=
  match checked s offset (UInt32.ofNat bytes.length) with
  | none => .ok (false, (refuse s).2)
  | some offset => do
    let p ← access s (s.mmio.ptr + offset) bytes.length
    return (true, { s with memory := s.memory.store p bytes })

/-- `mmio_write32`, `mmio_write16` and `mmio_write8` for a word of `n` bytes. -/
def writeWord (n : Nat) (s : System) (offset : UInt32) (value : Nat) : Except Fault (Bool × System) :=
  mmioWrite s offset (wordBytes n value)

/-- `mmio_write32` -/
def mmioWrite32 (s : System) (offset value : UInt32) := writeWord 4 s offset value.toNat

/-- `mmio_write16` -/
def mmioWrite16 (s : System) (offset : UInt32) (value : UInt16) := writeWord 2 s offset value.toNat

/-- `mmio_write8` -/
def mmioWrite8 (s : System) (offset : UInt32) (value : UInt8) := writeWord 1 s offset value.toNat

/-! ## Calls -/

inductive Call where
  | read (offset len : UInt32)
  | read32 (offset : UInt32)
  | read16 (offset : UInt32)
  | read8 (offset : UInt32)
  | write (offset : UInt32) (bytes : List Byte)
  | write32 (offset value : UInt32)
  | write16 (offset : UInt32) (value : UInt16)
  | write8 (offset : UInt32) (value : UInt8)

/-- What a call stores. -/
inductive Value where
  | nothing
  | bytes (bytes : List Byte)
  | word (word : Nat)
  deriving DecidableEq

/-- What a read returns and stores; after a fault nothing is known, and the state is left as it is. -/
def got {α : Type} (value : α → Value) (s : System) (r : Except Fault (Option α × System)) :
    Except Fault (Int × Value) × System :=
  match r with
  | .error fault => (.error fault, s)
  | .ok (none, s) => (.ok (errorArg, .nothing), s)
  | .ok (some x, s) => (.ok (0, value x), s)

/-- What a write returns. -/
def put (s : System) (r : Except Fault (Bool × System)) : Except Fault (Int × Value) × System :=
  match r with
  | .error fault => (.error fault, s)
  | .ok (false, s) => (.ok (errorArg, .nothing), s)
  | .ok (true, s) => (.ok (0, .nothing), s)

def exec (s : System) (call : Call) : Except Fault (Int × Value) × System :=
  match call with
  | .read offset len => got .bytes s (mmioRead s offset len)
  | .read32 offset => got .word s (mmioRead32 s offset)
  | .read16 offset => got .word s (mmioRead16 s offset)
  | .read8 offset => got .word s (mmioRead8 s offset)
  | .write offset bytes => put s (mmioWrite s offset bytes)
  | .write32 offset value => put s (mmioWrite32 s offset value)
  | .write16 offset value => put s (mmioWrite16 s offset value)
  | .write8 offset value => put s (mmioWrite8 s offset value)

def Call.offset : Call → Nat
  | read offset _ | read32 offset | read16 offset | read8 offset | write offset _ | write32 offset _
  | write16 offset _ | write8 offset _ => offset.toNat

/-- The number of bytes that are read or written. -/
def Call.len : Call → Nat
  | read _ len => len.toNat
  | write _ bytes => bytes.length
  | read32 _ | write32 _ _ => 4
  | read16 _ | write16 _ _ => 2
  | read8 _ | write8 _ _ => 1

/-! ## What it is for -/

/-- What a call does at the physical address `p`. -/
def Call.perform (m : Memory) (p : Nat) : Call → (Int × Value) × Memory
  | read _ len => ((0, .bytes (m.load p len.toNat)), m)
  | read32 _ => ((0, .word (wordOf (m.load p 4))), m)
  | read16 _ => ((0, .word (wordOf (m.load p 2))), m)
  | read8 _ => ((0, .word (wordOf (m.load p 1))), m)
  | write _ bytes => ((0, .nothing), m.store p bytes)
  | write32 _ value => ((0, .nothing), m.store p (wordBytes 4 value.toNat))
  | write16 _ value => ((0, .nothing), m.store p (wordBytes 2 value.toNat))
  | write8 _ value => ((0, .nothing), m.store p (wordBytes 1 value.toNat))

/-- A window of `size` bytes at `base` of the memory. -/
def respond (base size : Nat) (m : Memory) (call : Call) : Except Fault (Int × Value) × Memory :=
  if call.offset + call.len ≤ size then
    (.ok (call.perform m (base + call.offset)).1, (call.perform m (base + call.offset)).2)
  else (.ok (errorArg, .nothing), m)

/-- The handle is for the `size` bytes at `base`, and they are mapped. -/
structure Mapped (s : System) (base size : Nat) : Prop where
  aligned : s.mmio.alignedBase.toNat + s.shift.toNat = base
  covers : s.mmio.alignedSize.toNat = size + s.shift.toNat
  mapping : s.mapping = some ⟨s.mmio.ptr, s.mmio.alignedBase, s.mmio.alignedSize⟩

/-- The arithmetic of the check does not wrap around. -/
def Call.Fits (shift : Nat) (call : Call) : Prop := call.offset + shift + call.len < 2 ^ 32

instance (shift : Nat) (call : Call) : Decidable (call.Fits shift) := inferInstanceAs (Decidable (_ < _))

/-- Where in the mapping an access begins. -/
def Call.first (s : System) (call : Call) : Nat := (call.offset + s.shift.toNat) % 2 ^ 32

/-- The end of an access wraps around, to a place that passes the check. -/
def Call.Slips (s : System) (call : Call) : Prop :=
  2 ^ 32 ≤ call.first s + call.len ∧ call.first s + call.len - 2 ^ 32 ≤ s.mmio.alignedSize.toNat

/-- An access is inside the mapping. -/
def Call.Inside (s : System) (call : Call) : Prop :=
  call.first s + call.len ≤ s.mmio.alignedSize.toNat

end DiscoveryDemo.Periphery.Mmio
