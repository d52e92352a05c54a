import DiscoveryDemo.Scan.Main

/-!
# Proofs: the scan of the bus

The loop asks the addresses from 0x03 to 0x77, each of them once.
-/

namespace DiscoveryDemo.Ioexample3

open CLib Driver Periphery Periphery.I2c

/-- The addresses from `first` on, as far as the loop goes. -/
def addressesFrom (first : Nat) : List UInt8 := (List.range' first (0x78 - first)).map UInt8.ofNat

/-- The addresses that the program asks. -/
def addresses : List UInt8 := addressesFrom 3

/-- The line for an address, if it answers. -/
def lineOf (env : Env) (addr : UInt8) : List Byte :=
  if env.transfer addr = none then printFound addr else []

theorem addressesFrom_lt {addr : UInt8} (h : addr.toNat < 0x78) :
    (addr + 1).toNat = addr.toNat + 1 ∧
      addressesFrom addr.toNat = addr :: addressesFrom (addr + 1).toNat := by
  have hsucc : (addr + 1).toNat = addr.toNat + 1 := by
    rw [UInt8.toNat_add]
    exact Nat.mod_eq_of_lt (by show addr.toNat + 1 < 256; omega)
  refine ⟨hsucc, ?_⟩
  obtain ⟨n, hn⟩ : ∃ n, 0x78 - addr.toNat = n + 1 := ⟨0x77 - addr.toNat, by omega⟩
  have hrest : 0x78 - (addr.toNat + 1) = n := by omega
  unfold addressesFrom
  rw [hsucc, hn, hrest, List.range'_succ, List.map_cons, UInt8.ofNat_toNat]

theorem addressesFrom_ge {n : Nat} (h : 0x78 ≤ n) : addressesFrom n = [] := by
  unfold addressesFrom
  rw [Nat.sub_eq_zero_of_le h]
  rfl

/-- What a transfer leaves behind. -/
theorem i2cTransfer_cases (s : System) (a : Option Nat) (msgs : List Msg) :
    ∃ e, i2cTransfer s a msgs = (if a = none then 0 else errorTransfer,
      { s with transfers := s.transfers ++ [msgs], i2c := { s.i2c with error := e } }) := by
  unfold i2cTransfer
  cases a with
  | some e => exact ⟨_, rfl⟩
  | none => exact ⟨s.i2c.error, rfl⟩

/-- The loop, from an address on. -/
theorem scan_spec (env : Env) (addr : UInt8) (s : System) :
    ∃ e, scan env addr s = ((addressesFrom addr.toNat).flatMap (lineOf env),
      { s with
        transfers := s.transfers ++ (addressesFrom addr.toNat).map fun a => [message a]
        i2c := { s.i2c with error := e } }) := by
  have herror : errorTransfer ≠ 0 := by decide
  induction hn : 0x78 - addr.toNat generalizing addr s with
  | zero =>
    have hge : 0x78 ≤ addr.toNat := by omega
    have hdone : ¬addr < 0x78 := by
      rw [UInt8.lt_iff_toNat_lt]
      exact Nat.not_lt.mpr hge
    rw [scan, if_neg hdone, addressesFrom_ge hge]
    exact ⟨s.i2c.error, by rw [List.map_nil, List.append_nil]; rfl⟩
  | succ n ih =>
    have hlt : addr.toNat < 0x78 := by omega
    have hgoes : addr < 0x78 := UInt8.lt_iff_toNat_lt.mpr hlt
    obtain ⟨hsucc, hcons⟩ := addressesFrom_lt hlt
    obtain ⟨e, htransfer⟩ := i2cTransfer_cases s (env.transfer addr) [message addr]
    rw [scan, if_pos hgoes, htransfer, hcons]
    dsimp only
    obtain ⟨e', hrest⟩ := ih (addr + 1)
      { s with transfers := s.transfers ++ [[message addr]], i2c := { s.i2c with error := e } }
      (by omega)
    rw [hrest]
    refine ⟨e', Prod.ext ?_ ?_⟩
    · show (if (if env.transfer addr = none then 0 else errorTransfer) = 0 then printFound addr else []) ++
        _ = _
      rw [List.flatMap_cons, lineOf]
      by_cases hanswers : env.transfer addr = none
      · rw [if_pos hanswers, if_pos rfl, if_pos hanswers]
      · rw [if_neg hanswers, if_neg herror, if_neg hanswers]
    · show ({ s with transfers := (s.transfers ++ [[message addr]]) ++ _, i2c := _ } : System) = _
      rw [List.map_cons, List.append_assoc]
      rfl

/-! ## The program -/

/-- The bus can be opened, and it takes messages. -/
def Env.Opens (env : Env) : Prop :=
  ∃ fd funcs, env.opening = ⟨.ok fd, .ok funcs⟩ ∧ funcs &&& funcI2c ≠ 0

/-- What `i2c_open` comes to. -/
theorem i2cOpen_cases (env : Env) (path : List Byte) :
    (env.Opens ∧ ∃ fd : Nat, i2cOpen System.new env.opening path =
        (0, ⟨⟨fd, Error.none⟩, ⟨[fd], []⟩, []⟩)) ∨
      (¬env.Opens ∧ ∃ code s, i2cOpen System.new env.opening path = (code, s) ∧ code < 0 ∧
        s.transfers = [] ∧ s.ledger.opened.Perm s.ledger.closed) := by
  have hopen : errorOpen < 0 := by decide
  have hquery : errorQuery < 0 := by decide
  have hsupported : errorNotSupported < 0 := by decide
  obtain ⟨⟨opened, funcs⟩, transfer, closing⟩ := env
  unfold i2cOpen Env.Opens
  dsimp only
  cases opened with
  | error e =>
    refine Or.inr ⟨?_, _, _, rfl, hopen, rfl, List.Perm.refl _⟩
    rintro ⟨fd, funcs', h, -⟩
    cases h
  | ok fd =>
    cases funcs with
    | error e =>
      refine Or.inr ⟨?_, _, _, rfl, hquery, rfl, List.Perm.refl _⟩
      rintro ⟨fd', funcs', h, -⟩
      cases h
    | ok supportedFuncs =>
      dsimp only
      by_cases hfunc : supportedFuncs &&& funcI2c = 0
      · rw [if_pos hfunc]
        refine Or.inr ⟨?_, _, _, rfl, hsupported, rfl, List.Perm.refl _⟩
        rintro ⟨fd', funcs', h, hne⟩
        cases h
        exact hne hfunc
      · rw [if_neg hfunc]
        exact Or.inl ⟨⟨fd, supportedFuncs, rfl, hfunc⟩, fd, rfl⟩

/-- **The scan asks every address once and prints those that answer**: if the bus can be opened then the
addresses from 0x03 to 0x77 are asked in this order, each for a message without data, and the output has a
line for each of them that answers; if it cannot be opened then nothing is asked and nothing is printed.
Either way the descriptor is given back. -/
theorem bus_scanned (env : Env) :
    (env.Opens → (main env).1 = 0 ∧
      (main env).2.1 = lit "Scanning I2C bus /dev/i2c-0...\n" ++
        (addresses.filter fun a => env.transfer a = none).flatMap printFound ∧
      (main env).2.2.transfers = addresses.map fun a => [message a]) ∧
    (¬env.Opens → (main env).1 = 1 ∧ (main env).2.1 = [] ∧ (main env).2.2.transfers = []) ∧
    (main env).2.2.ledger.opened.Perm (main env).2.2.ledger.closed := by
  have hlines : addresses.flatMap (lineOf env) =
      (addresses.filter fun a => env.transfer a = none).flatMap printFound := by
    generalize addresses = as
    induction as with
    | nil => rfl
    | cons a as ih =>
      rw [List.flatMap_cons, ih, lineOf]
      by_cases hanswers : env.transfer a = none <;> simp [hanswers]
  have hheader : lit "Scanning I2C bus " ++ i2cPath ++ lit "...\n" =
      lit "Scanning I2C bus /dev/i2c-0...\n" := by decide
  unfold main
  rcases i2cOpen_cases env i2cPath with ⟨hopens, fd, hopen⟩ | ⟨hfails, code, s, hopen, hneg, hnone, hgiven⟩
  · obtain ⟨e, hscan⟩ := scan_spec env 3 ⟨⟨fd, Error.none⟩, ⟨[fd], []⟩, []⟩
    have hthree : (3 : UInt8).toNat = 3 := rfl
    rw [hthree] at hscan
    have hfd : ¬(fd : Int) < 0 := by omega
    rw [hopen]
    dsimp only
    rw [if_neg (by decide), hscan]
    dsimp only
    unfold i2cClose
    dsimp only
    rw [if_neg hfd, hheader]
    refine ⟨fun _ => ⟨rfl, ?_, ?_⟩, fun h => absurd hopens h, ?_⟩
    · rw [← hlines]
      rfl
    · cases env.closing <;> rfl
    · cases env.closing <;> exact List.Perm.refl _
  · rw [hopen]
    dsimp only
    rw [if_pos hneg]
    exact ⟨fun h => absurd h hfails, fun _ => ⟨rfl, rfl, hnone⟩, hgiven⟩

end DiscoveryDemo.Ioexample3
