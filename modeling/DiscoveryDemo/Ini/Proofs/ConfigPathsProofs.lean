import DiscoveryDemo.Ini.ConfigPaths
import DiscoveryDemo.CLib.Proofs.BufferProofs

/-!
# Proofs: the search order of `findConfigFile`

One call is described by what the path buffer holds before it; the calls of a process by induction,
with what the earlier calls left in the buffer.
-/

namespace DiscoveryDemo.Ini

open CLib

variable (names : ConfigNames)

theorem userPath_noNul (home : CStr) : NUL ∉ userPath names home := by
  have h1 := home.noNul
  have h2 := names.user.noNul
  have h3 : NUL ≠ ch '/' := by decide
  simp [userPath, h1, h2, h3]

/-- One call: the path is searched for with what the buffer holds after the call. -/
theorem findConfigFile_eq {b : PathBuf} {held : List Byte} (hb : b.Holds held) (c : Call) :
    ∃ b', findConfigFile names b c = .ok
        (firstOpen c.fs [some names.current, some (heldAfter names held c), some names.system], b') ∧
      b'.Holds (heldAfter names held c) := by
  unfold findConfigFile heldAfter
  cases c.home with
  | none =>
    refine ⟨b, ?_, hb⟩
    simp only [hb.str, bind, Except.bind, pure, Except.pure]
  | some homeDir =>
    have hh := Buf.snprintf_holds b (by decide) (userPath_noNul names homeDir)
    refine ⟨b.snprintf (userPath names homeDir), ?_, hh⟩
    simp only [hh.str, bind, Except.bind, pure, Except.pure]

/-- **One call follows the search order exactly if `InOrder` holds** of it and of what it finds in
the buffer. -/
theorem inOrder_iff (held : List Byte) (c : Call) :
    firstOpen c.fs [some names.current, some (heldAfter names held c), some names.system] =
      expected names c ↔ InOrder names held c := by
  obtain ⟨home, fs⟩ := c
  have hshort := names.system_short
  unfold InOrder expected heldAfter
  generalize userConfigPathLength - 1 = m at hshort ⊢
  by_cases hcur : fs.opens names.current = true
  · simp [firstOpen, hcur]
  · cases home with
    | none =>
      by_cases hheld : fs.opens held = true
      · by_cases hsys : held = names.system
        · subst hsys
          simp [firstOpen, hcur, hheld]
        · by_cases hs : fs.opens names.system = true <;> simp [firstOpen, hcur, hheld, hsys, hs]
      · simp [firstOpen, hcur, hheld]
    | some homeDir =>
      simp only [Option.map_some]
      generalize userPath names homeDir = path
      by_cases hfit : path.length ≤ m
      · simp [firstOpen, List.take_of_length_le hfit, hfit]
      · have hlen : (path.take m).length = m := List.length_take_of_le (by omega)
        -- neither the path nor what fits of it is the system-wide path
        have h1 : path ≠ names.system := by
          rintro rfl
          omega
        have h2 : path.take m ≠ names.system := by
          intro h
          rw [h] at hlen
          omega
        have h3 : path.take m ≠ path := by
          intro h
          rw [h] at hlen
          omega
        by_cases ht : fs.opens (path.take m) = true <;> by_cases hp : fs.opens path = true <;>
          by_cases hs : fs.opens names.system = true <;>
          simp [firstOpen, hcur, hfit, ht, hp, hs, h2, h3, Ne.symm h1]

/-- **All the calls of a process.** None of them faults, and all of them follow the search order
exactly if each of them is in order with what the earlier ones left in the buffer. -/
theorem findAll_iff {b : PathBuf} {held : List Byte} (hb : b.Holds held) (calls : List Call) :
    ∃ paths, findAll names b calls = .ok paths ∧
      (paths = calls.map (expected names) ↔ ∀ before c after, calls = before ++ c :: after →
        InOrder names (before.foldl (heldAfter names) held) c) := by
  induction calls generalizing b held with
  | nil => exact ⟨[], rfl, by simp⟩
  | cons c calls ih =>
    obtain ⟨b', hfind, hb'⟩ := findConfigFile_eq names hb c
    obtain ⟨paths, hall, hiff⟩ := ih hb'
    refine ⟨firstOpen c.fs [some names.current, some (heldAfter names held c), some names.system] ::
      paths, by simp only [findAll, hfind, hall, bind, Except.bind, pure, Except.pure], ?_⟩
    rw [List.map_cons, List.cons.injEq, inOrder_iff, hiff]
    constructor
    · rintro ⟨hc, hrest⟩ before d after hsplit
      cases before with
      | nil =>
        obtain ⟨rfl, -⟩ := List.cons.inj hsplit
        exact hc
      | cons e before =>
        obtain ⟨rfl, htail⟩ := List.cons.inj hsplit
        exact hrest before d after htail
    · intro h
      refine ⟨h [] c calls rfl, fun before d after hsplit => ?_⟩
      exact h (c :: before) d after (by rw [hsplit]; rfl)

/-- **The search order over whole runs**, for both programs: every call of a process returns the
first of the three candidates that opens if and only if every call is in order with what the earlier
calls left in the path buffer. -/
theorem findConfigFile_order (calls : List Call) :
    (∃ paths, findAll Hellomk.names (Buf.zeroed _) calls = .ok paths ∧
      (paths = calls.map (expected Hellomk.names) ↔
        ∀ before c after, calls = before ++ c :: after →
          InOrder Hellomk.names (before.foldl (heldAfter Hellomk.names) []) c)) ∧
    (∃ paths, findAll Hellomkcpp.names (Buf.zeroed _) calls = .ok paths ∧
      (paths = calls.map (expected Hellomkcpp.names) ↔
        ∀ before c after, calls = before ++ c :: after →
          InOrder Hellomkcpp.names (before.foldl (heldAfter Hellomkcpp.names) []) c)) :=
  ⟨findAll_iff Hellomk.names (Buf.holds_zeroed (by decide)) calls,
    findAll_iff Hellomkcpp.names (Buf.holds_zeroed (by decide)) calls⟩

/-- Two calls of one process with the user's file in place: the first with `HOME=/root`, the second
without `HOME`. -/
def homeUnset (names : ConfigNames) : List Call :=
  let home : CStr := ⟨lit "/root", by decide⟩
  let fs : FileSystem := ⟨fun p => decide (p ≠ [] ∧ p = userPath names home)⟩
  [⟨some home, fs⟩, ⟨none, fs⟩]

/-- The second call still returns the path of the first one's `HOME`. -/
theorem findConfigFile_stale :
    findAll Hellomk.names (Buf.zeroed _) (homeUnset Hellomk.names) =
        .ok [some (lit "/root/.hellomk.ini"), some (lit "/root/.hellomk.ini")] ∧
      (homeUnset Hellomk.names).map (expected Hellomk.names) =
        [some (lit "/root/.hellomk.ini"), none] ∧
    findAll Hellomkcpp.names (Buf.zeroed _) (homeUnset Hellomkcpp.names) =
        .ok [some (lit "/root/hellomkcpp.ini"), some (lit "/root/hellomkcpp.ini")] ∧
      (homeUnset Hellomkcpp.names).map (expected Hellomkcpp.names) =
        [some (lit "/root/hellomkcpp.ini"), none] := by
  refine ⟨?_, ?_, ?_, ?_⟩ <;> decide

end DiscoveryDemo.Ini
