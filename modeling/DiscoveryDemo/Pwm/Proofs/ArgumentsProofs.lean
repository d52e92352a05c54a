import DiscoveryDemo.CLib.Proofs.StrtolProofs
import DiscoveryDemo.Pwm.Arguments
import DiscoveryDemo.Pwm.Proofs.MainProofs

/-!
# Proofs: which arguments ioexample6 accepts

`strtol` without a digit leaves its end pointer at the beginning of the string, which is not tested:
so the empty string passes for the number 0. Every other argument is accepted exactly if it is a
number.
-/

namespace DiscoveryDemo.Ioexample6

open CLib Driver

variable {chip channel arg : CStr} {env : Env}

/-! ## One argument -/

theorem number_eq_some_iff (n : Int) :
    number arg = some n ↔
      (arg.chars = [] ∧ n = 0) ∨ (Denotes arg.chars n ∧ 0 ≤ n ∧ n ≤ longMax) := by
  have hmin : longMin ≤ 0 := by decide
  rw [number, checked_eq_some_iff arg.chars (· < 0) n]
  constructor
  · rintro ⟨hempty | ⟨hn, -, hmax⟩, hpos⟩
    · exact Or.inl hempty
    · exact Or.inr ⟨hn, Int.not_lt.mp hpos, hmax⟩
  · rintro (⟨hempty, rfl⟩ | ⟨hn, hpos, hmax⟩)
    · exact ⟨Or.inl ⟨hempty, rfl⟩, Int.lt_irrefl 0⟩
    · exact ⟨Or.inr ⟨hn, by omega, hmax⟩, Int.not_lt.mpr hpos⟩

/-- An argument that is not empty is accepted exactly if it is a number. -/
theorem number_iff_isNumber (hne : arg.chars ≠ []) (n : Nat) :
    number arg = some (n : Int) ↔ IsNumber arg n := by
  have hmax : longMax = 2 ^ 31 - 1 := rfl
  rw [number_eq_some_iff]
  constructor
  · rintro (⟨hempty, -⟩ | ⟨hn, -, hle⟩)
    · exact absurd hempty hne
    · exact ⟨hn, by omega⟩
  · rintro ⟨hn, hlt⟩
    exact Or.inr ⟨hn, by omega, by omega⟩

/-- What is accepted is not negative. -/
theorem number_eq_natCast {v : Int} (h : number arg = some v) : ∃ n : Nat, v = n ∧ n < 2 ^ 31 := by
  have hmax : longMax = 2 ^ 31 - 1 := rfl
  rcases (number_eq_some_iff v).mp h with ⟨-, rfl⟩ | ⟨-, hpos, hle⟩
  · exact ⟨0, rfl, by decide⟩
  · exact ⟨v.toNat, by omega, by omega⟩

theorem number_empty (h : arg.chars = []) : number arg = some 0 :=
  (number_eq_some_iff 0).mpr (Or.inl ⟨h, rfl⟩)

theorem not_denotes_nil (n : Int) : ¬Denotes [] n := by
  rintro ⟨m, htext, -⟩
  obtain ⟨d, ds, hds, -⟩ := m.digits_cons
  rw [Numeral.text, hds, List.append_eq_nil_iff, List.append_eq_nil_iff] at htext
  cases htext.2.2

theorem IsNumber.ne_nil {n : Nat} (h : IsNumber arg n) : arg.chars ≠ [] := by
  intro hempty
  rw [IsNumber, hempty] at h
  exact not_denotes_nil n h.1

theorem IsNumber.accepted {n : Nat} (h : IsNumber arg n) : number arg = some (n : Int) :=
  (number_iff_isNumber h.ne_nil n).mpr h

/-! ## The program -/

theorem chipAndChannel_pair (chip channel : CStr) :
    chipAndChannel [chip, channel] =
      (number chip).bind fun c => (number channel).map fun h => (c, h) := by
  show (do
    let c ← number chip
    let h ← number channel
    return (c, h)) = _
  cases number chip with
  | none => rfl
  | some c => cases number channel <;> rfl

/-- Only an opening call has a target. -/
theorem target_eq_none {calls : List Call} (h : ∀ call ∈ calls, ∀ code, call.role ≠ .opens code) :
    calls.filterMap Call.target = [] := by
  rw [List.filterMap_eq_nil_iff]
  intro call hcall
  cases call with
  | pwmOpen chip channel code => exact absurd rfl (h _ hcall code)
  | _ => rfl

/-- A rejected argument ends the program. -/
theorem main_rejected (h : chipAndChannel env.args = none) : main env = (1, []) := by
  simp only [main, h]

/-- With accepted arguments a PWM is allocated, and then exactly these are opened. -/
theorem main_accepted {c n : Nat} (h : chipAndChannel env.args = some ((c : Int), (n : Int)))
    (hc : c < 2 ^ 31) (hn : n < 2 ^ 31) :
    .pwmNew ∈ (main env).2 ∧ (env.created = false → main env = (1, [.pwmNew])) ∧
      (env.created = true → (main env).2.filterMap Call.target = [(c, n)]) := by
  have hsteps : (runSteps (steps env)).filterMap Call.target = [] := by
    apply target_eq_none
    intro call hcall code hopens
    rcases steps_role hcall with ⟨code', hrole⟩ | hrole
    · rw [hrole] at hopens
      cases hopens
    · rw [hrole] at hopens
      cases hopens
  have hopen : Call.target (.pwmOpen (UInt32.ofInt c) (UInt32.ofInt n) env.opened) =
      some (c, n) := by
    have hmax : longMax = 2 ^ 31 - 1 := rfl
    have hnat : ∀ v : Nat, v < 2 ^ 31 → (UInt32.ofInt v).toNat = v := by
      intro v hv
      exact Int.natCast_inj.mp (toNat_ofInt_long (by omega) (by omega))
    rw [Call.target, hnat c hc, hnat n hn]
  simp only [main, h]
  cases env.created with
  | false => exact ⟨List.mem_cons_self, fun _ => rfl, fun hcreated => absurd hcreated (by decide)⟩
  | true =>
    rw [if_neg (by decide)]
    refine ⟨?_, fun hcreated => absurd hcreated (by decide), fun _ => ?_⟩
    · split
      · exact List.mem_cons_self
      · exact List.mem_cons_self
    · split
      · simp only [List.cons_append, List.filterMap_cons, hopen]
        rfl
      · simp only [List.cons_append, List.filterMap_cons, List.filterMap_append, hopen, hsteps]
        rfl

/-- A program that exits before it touches a PWM opens none. -/
theorem Refuses.target (h : Refuses env) : (main env).2.filterMap Call.target = [] := by
  apply target_eq_none
  intro call hcall code hopens
  rw [h.2 call hcall] at hopens
  cases hopens

/-- An argument that is accepted is a number, if an empty one would not be. -/
theorem accepted_isNumber {other : CStr} (h : EmptyRefused arg other) {v w : Int}
    (harg : number arg = some v) (hother : number other = some w) :
    ∃ c : Nat, v = c ∧ IsNumber arg c := by
  obtain ⟨c, rfl, -⟩ := number_eq_natCast harg
  refine ⟨c, rfl, (number_iff_isNumber ?_ c).mp harg⟩
  intro hempty
  obtain ⟨hne, hnone⟩ := h hempty
  obtain ⟨n, rfl, -⟩ := number_eq_natCast hother
  exact hnone n ((number_iff_isNumber hne n).mp hother)

theorem acceptsNumbers_of_emptyRefused (hchip : EmptyRefused chip channel)
    (hchannel : EmptyRefused channel chip) : AcceptsNumbers chip channel := by
  intro env hargs
  have hpair : chipAndChannel env.args = _ := (congrArg _ hargs).trans (chipAndChannel_pair _ _)
  have hrejected : chipAndChannel env.args = none → Refuses env := by
    intro h
    rw [Refuses, main_rejected h]
    exact ⟨rfl, fun call hcall => absurd hcall List.not_mem_nil⟩
  constructor
  · cases hc : number chip with
    | none =>
      rw [hc] at hpair
      exact Or.inl (hrejected hpair)
    | some v =>
      cases hh : number channel with
      | none =>
        rw [hc, hh] at hpair
        exact Or.inl (hrejected hpair)
      | some w =>
        rw [hc, hh] at hpair
        obtain ⟨c, rfl, hnumc⟩ := accepted_isNumber hchip hc hh
        obtain ⟨n, rfl, hnumn⟩ := accepted_isNumber hchannel hh hc
        obtain ⟨-, hnone, hopens⟩ := main_accepted hpair hnumc.2 hnumn.2
        cases hcreated : env.created with
        | false =>
          left
          rw [Refuses, hnone hcreated]
          refine ⟨rfl, fun call hcall => ?_⟩
          rw [List.mem_singleton.mp hcall]
          rfl
        | true => exact Or.inr ⟨c, n, hnumc, hnumn, hopens hcreated⟩
  · rintro ⟨c, n, hc, hn⟩
    rw [hc.accepted, hn.accepted] at hpair
    exact (main_accepted hpair hc.2 hn.2).1

/-- A run in which nothing fails. -/
def fine (args : List CStr) : Env := ⟨args, true, 0, 0, 0, 0, 0, 0, 0⟩

/-- Two arguments that `strtol` lets pass are opened, so they have to be numbers. -/
theorem AcceptsNumbers.isNumber (h : AcceptsNumbers chip channel) {v w : Int}
    (hchip : number chip = some v) (hchannel : number channel = some w) :
    (∃ c, IsNumber chip c) ∧ ∃ n, IsNumber channel n := by
  obtain ⟨c, rfl, hc⟩ := number_eq_natCast hchip
  obtain ⟨n, rfl, hn⟩ := number_eq_natCast hchannel
  have hpair : chipAndChannel (fine [chip, channel]).args = some ((c : Int), (n : Int)) := by
    show chipAndChannel [chip, channel] = _
    rw [chipAndChannel_pair, hchip, hchannel]
    rfl
  obtain ⟨-, -, hopens⟩ := main_accepted hpair hc hn
  rcases (h (fine [chip, channel]) rfl).1 with hrefuses | ⟨c', n', hc', hn', -⟩
  · have hnone := hrefuses.target
    rw [hopens rfl] at hnone
    cases hnone
  · exact ⟨⟨c', hc'⟩, ⟨n', hn'⟩⟩

/-- If both arguments are accepted only as numbers, then an empty one is rejected with the other. -/
theorem emptyRefused_of {other : CStr}
    (h : ∀ v w, number arg = some v → number other = some w → ∃ n, IsNumber arg n) :
    EmptyRefused arg other := by
  intro hempty
  have harg := number_empty hempty
  constructor
  · intro hother
    obtain ⟨n, hn⟩ := h 0 0 harg (number_empty hother)
    exact hn.ne_nil hempty
  · intro m hm
    obtain ⟨n, hn⟩ := h 0 m harg hm.accepted
    exact hn.ne_nil hempty

/-- **Which arguments ioexample6 accepts.** Two arguments are accepted exactly if they are numbers
from 0 to `INT_MAX`, and these are opened; unless one of them is empty and the other is empty or a
number. -/
theorem acceptsNumbers_iff :
    AcceptsNumbers chip channel ↔ EmptyRefused chip channel ∧ EmptyRefused channel chip := by
  constructor
  · intro h
    constructor
    · apply emptyRefused_of
      intro v w hchip hchannel
      exact (h.isNumber hchip hchannel).1
    · apply emptyRefused_of
      intro v w hchannel hchip
      exact (h.isNumber hchip hchannel).2
  · rintro ⟨hchip, hchannel⟩
    exact acceptsNumbers_of_emptyRefused hchip hchannel

/-- The empty chip passes for chip 0. -/
theorem empty_chip_opened :
    (main (fine [⟨[], by decide⟩, ⟨lit "3", by decide⟩])).2.filterMap Call.target = [(0, 3)] ∧
      ¬AcceptsNumbers ⟨[], by decide⟩ ⟨lit "3", by decide⟩ := by
  have hopens : (main (fine [⟨[], by decide⟩, ⟨lit "3", by decide⟩])).2.filterMap Call.target =
      [(0, 3)] := by decide +kernel
  refine ⟨hopens, fun h => ?_⟩
  rcases (h (fine _) rfl).1 with hrefuses | ⟨c, n, hc, -⟩
  · have hnone := hrefuses.target
    rw [hopens] at hnone
    cases hnone
  · exact hc.ne_nil rfl

end DiscoveryDemo.Ioexample6
