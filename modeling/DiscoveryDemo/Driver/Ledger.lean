import Mathlib.Data.List.Perm.Subperm

/-!
# Ledgers of descriptors

Which descriptors the kernel has handed out and which have been given back to it. Someone who keeps the
number of a descriptor that is gone may give it back once more, and the ledger is overdrawn.
-/

namespace Driver

structure Ledger where
  opened : List Nat
  closed : List Nat

/-- Nothing has been handed out yet. -/
def Ledger.empty : Ledger := ⟨[], []⟩

def Ledger.enter (l : Ledger) (fd : Nat) : Ledger := { l with opened := fd :: l.opened }

def Ledger.leave (l : Ledger) (fd : Nat) : Ledger := { l with closed := fd :: l.closed }

/-- Every descriptor has been given back or is held, and those in `extra` have been given back and are
held all the same, or have been given back once more. -/
def Overdrawn (l : Ledger) (held extra : List Nat) : Prop :=
  (l.opened ++ extra).Perm (l.closed ++ held)

theorem overdrawn_empty : Overdrawn Ledger.empty [] [] := List.Perm.nil

section Overdrawn

variable {l : Ledger} {held extra : List Nat} {fd : Nat}

theorem Overdrawn.enter (h : Overdrawn l held extra) (fd : Nat) :
    Overdrawn (l.enter fd) (fd :: held) extra := by
  unfold Overdrawn Ledger.enter
  dsimp only
  rw [List.cons_append]
  exact (List.Perm.cons fd h).trans List.perm_middle.symm

theorem Overdrawn.leave (h : Overdrawn l (fd :: held) extra) : Overdrawn (l.leave fd) held extra := by
  unfold Overdrawn Ledger.leave
  dsimp only
  rw [List.cons_append]
  exact h.trans List.perm_middle

/-- A descriptor is given back and its number is kept. -/
theorem Overdrawn.again (h : Overdrawn l held extra) (fd : Nat) :
    Overdrawn (l.leave fd) held (fd :: extra) := by
  unfold Overdrawn Ledger.leave
  dsimp only
  rw [List.cons_append]
  exact List.perm_middle.trans (List.Perm.cons fd h)

/-- Once nothing is held, everything has been given back. -/
theorem Overdrawn.subperm (h : Overdrawn l [] extra) : l.opened.Subperm l.closed := by
  unfold Overdrawn at h
  rw [List.append_nil] at h
  exact (List.sublist_append_left l.opened extra).subperm.trans h.subperm

/-- Once nothing is held, everything has been given back once just if nothing is overdrawn. -/
theorem Overdrawn.all_closed_iff (h : Overdrawn l [] extra) : l.opened.Perm l.closed ↔ extra = [] := by
  unfold Overdrawn at h
  rw [List.append_nil] at h
  constructor
  · intro hperm
    have hlength := h.length_eq
    rw [List.length_append, hperm.length_eq] at hlength
    exact List.length_eq_zero_iff.mp (by omega)
  · rintro rfl
    rw [List.append_nil] at h
    exact h

end Overdrawn

end Driver
