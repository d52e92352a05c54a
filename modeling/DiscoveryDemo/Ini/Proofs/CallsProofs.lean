import Mathlib.Data.List.ReduceOption
import DiscoveryDemo.Ini.Calls
import DiscoveryDemo.Ini.Proofs.SafetyProofs
import DiscoveryDemo.Ini.Reference

/-!
# Proofs: one lookup after the other

A call of either program is described by what its file means, whatever the static buffers hold. So
the two programs agree, and the results of a sequence of calls are those of fresh processes; what
`returnValue` holds after a call is all that one call hands to the next.
-/

namespace DiscoveryDemo

open CLib Ini

/-! ## The two programs -/

/-- **The two readers agree**: on every file, section and key, and whatever the static buffers hold,
hellomkcpp returns a null pointer exactly if hellomk does, and otherwise the first 99 characters of
the string that hellomk returns. -/
theorem Ini.getConfigValue_agree (line : LineBuf) (st : Hellomkcpp.Statics)
    (file : Option (List Byte)) (sec key : CStr) :
    Agree (Hellomk.getConfigValue line file sec key)
      (Hellomkcpp.getConfigValue st file sec key) := by
  have h := scanFile_reads sec key line file
  show Agree (scanFile line file sec key) _
  generalize scanFile line file sec key = r at h
  generalize hm : meaning file sec.chars key.chars = m at h
  rcases Hellomkcpp.getConfigValue_cases file sec key st with
    ⟨g, hcall, hmean⟩ | ⟨line', hcall, hmean⟩ | ⟨st', v, hcall, hmean, hholds⟩
  · rw [hm] at hmean
    rw [hcall]
    cases h with
    | fault f =>
      cases hmean
      exact .fault _
    | missing => cases hmean
    | value => cases hmean
  · rw [hm] at hmean
    rw [hcall]
    cases h with
    | fault f => cases hmean
    | missing => exact .null _ _
    | value => cases hmean
  · rw [hm] at hmean
    rw [hcall]
    cases h with
    | fault f => cases hmean
    | missing => cases hmean
    | value hv =>
      cases hmean
      exact .value hv hholds.str

/-! ## Sequences of calls -/

section Sequence

variable {file : Option (List Byte)} {sec key : CStr} {w : List Byte}

/-- A file without a chunk that begins with `=` is safe to read. -/
theorem Ini.Keyed.meaning_ok (h : Keyed file) (s k : List Byte) :
    ∃ r, meaning file s k = .ok r := by
  have hsafe : SafeFor file s k := by
    intro content hfile A c B hchunks hhead
    exact absurd hhead (h content hfile c (by simp [hchunks]))
  have hno := (meaning_safe_iff file s k).mpr hsafe
  cases hm : meaning file s k with
  | error f => exact absurd hm (hno f)
  | ok r => exact ⟨r, rfl⟩

/-- The first call of a sequence: the caller gets what a fresh process would give, and `returnValue`
changes only if a value is found. -/
theorem Hellomkcpp.callAll_cons {st : Statics} {c : Lookup} (calls : List Lookup)
    (hkeyed : Keyed c.file) (hst : st.returnValue.Holds w) :
    ∃ r st', Hellomkcpp.lookup Statics.init c.file c.sec c.key = .ok r ∧
      st'.returnValue.Holds (r.getD w) ∧ (∀ v, r = some v → v.length ≤ maxValueLength - 1) ∧
      callAll st (c :: calls) = (callAll st' calls).map fun after => (r, st') :: after := by
  obtain ⟨m, hm⟩ := hkeyed.meaning_ok c.sec.chars c.key.chars
  have hfresh := Hellomkcpp.lookup_eq c.file c.sec c.key Statics.init
  rcases Hellomkcpp.getConfigValue_cases c.file c.sec c.key st with
    ⟨f, -, hf⟩ | ⟨line, hcall, hnone⟩ | ⟨st', v, hcall, hsome, hholds⟩
  · rw [hm] at hf
    cases hf
  · rw [hnone] at hfresh
    refine ⟨none, { st with line := line }, hfresh, hst, by simp, ?_⟩
    simp only [callAll, hcall, bind, Except.bind, pure, Except.pure]
    cases callAll { st with line := line } calls <;> rfl
  · rw [hsome] at hfresh
    refine ⟨some (v.take (maxValueLength - 1)), st', hfresh, hholds, ?_, ?_⟩
    · rintro u ⟨⟩
      exact List.length_take_le _ _
    · simp only [callAll, hcall, hholds.str, bind, Except.bind, pure, Except.pure, if_true]
      cases callAll st' calls <;> rfl

theorem Ini.lastFound_cons (r : Option (List Byte)) (found : List (Option (List Byte))) (w : List Byte) :
    (r :: found).reduceOption.getLast?.getD w = found.reduceOption.getLast?.getD (r.getD w) := by
  cases r with
  | none => rfl
  | some v =>
    rw [List.reduceOption_cons_of_some, List.getLast?_cons]
    rfl

/-- The run: from any static buffers in which `returnValue` holds `w`. -/
theorem Hellomkcpp.callAll_run (calls : List Lookup) (hkeyed : ∀ c ∈ calls, Keyed c.file)
    (st : Statics) (w : List Byte) (hst : st.returnValue.Holds w)
    (hw : w.length ≤ maxValueLength - 1) :
    ∃ after, callAll st calls = .ok after ∧ after.length = calls.length ∧
      ∀ i c r st', calls[i]? = some c → after[i]? = some (r, st') →
        Hellomkcpp.lookup Statics.init c.file c.sec c.key = .ok r ∧
        ∃ u, u = ((after.take (i + 1)).map Prod.fst).reduceOption.getLast?.getD w ∧
          u.length ≤ maxValueLength - 1 ∧ st'.returnValue.Holds u := by
  induction calls generalizing st w with
  | nil => exact ⟨[], rfl, rfl, by simp⟩
  | cons c calls ih =>
    obtain ⟨r, st1, hfresh, hholds, hlen, hcall⟩ :=
      callAll_cons calls (hkeyed c List.mem_cons_self) hst
    have hw1 : (r.getD w).length ≤ maxValueLength - 1 := by
      cases r with
      | none => exact hw
      | some v => exact hlen v rfl
    obtain ⟨after, hrun, hlength, hafter⟩ :=
      ih (fun d hd => hkeyed d (List.mem_cons_of_mem c hd)) st1 _ hholds hw1
    refine ⟨(r, st1) :: after, by rw [hcall, hrun]; rfl, by simp [hlength], ?_⟩
    intro i d s st' hd hs
    rw [List.take_succ_cons, List.map_cons, lastFound_cons]
    cases i with
    | zero =>
      obtain rfl : c = d := by simpa using hd
      obtain ⟨rfl, rfl⟩ : r = s ∧ st1 = st' := by simpa using hs
      exact ⟨hfresh, _, rfl, hw1, hholds⟩
    | succ i =>
      rw [List.getElem?_cons_succ] at hd hs
      exact hafter i d s st' hd hs

end Sequence

/-- **The lookups of hellomkcpp do not depend on each other**: in every sequence of calls on files
without a chunk that begins with `=`, each result is the one of a fresh process, and after each call
`returnValue` holds the value that was found last. -/
theorem Hellomkcpp.callAll_fresh (calls : List Lookup) (hkeyed : ∀ c ∈ calls, Keyed c.file) :
    ∃ after, callAll Statics.init calls = .ok after ∧ after.length = calls.length ∧
      ∀ i c r st, calls[i]? = some c → after[i]? = some (r, st) →
        Hellomkcpp.lookup Statics.init c.file c.sec c.key = .ok r ∧
        (lastFound ((after.take (i + 1)).map Prod.fst)).length ≤ maxValueLength - 1 ∧
        st.returnValue.Holds (lastFound ((after.take (i + 1)).map Prod.fst)) := by
  obtain ⟨after, hrun, hlength, hafter⟩ := callAll_run calls hkeyed Statics.init []
    (Buf.holds_zeroed (by decide)) (Nat.zero_le _)
  refine ⟨after, hrun, hlength, fun i c r st hc hr => ?_⟩
  obtain ⟨hfresh, u, rfl, hlen, hholds⟩ := hafter i c r st hc hr
  exact ⟨hfresh, hlen, hholds⟩

theorem Hellomkcpp.callAll_fresh_delivered :
    ∃ a b st st', callAll Statics.init
        [⟨some deliveredIni, ⟨lit "database", by decide⟩, ⟨lit "host", by decide⟩⟩,
          ⟨none, ⟨lit "server", by decide⟩, ⟨lit "port", by decide⟩⟩] = .ok [(a, st), (b, st')] ∧
      a = some (lit "localhost") ∧ b = none ∧ st'.returnValue.Holds (lit "localhost") := by
  have hkeyed : Keyed (some deliveredIni) := by
    rintro content ⟨⟩
    decide +kernel
  obtain ⟨after, hrun, hlength, hafter⟩ := Hellomkcpp.callAll_fresh
    [⟨some deliveredIni, ⟨lit "database", by decide⟩, ⟨lit "host", by decide⟩⟩,
      ⟨none, ⟨lit "server", by decide⟩, ⟨lit "port", by decide⟩⟩]
    (by
      intro c hc
      rcases List.mem_pair.mp hc with rfl | rfl
      · exact hkeyed
      · intro content h
        cases h)
  obtain ⟨⟨a, st⟩, ⟨b, st'⟩, rfl⟩ := List.length_eq_two.mp hlength
  obtain ⟨hfirst, -⟩ := hafter 0 _ a st rfl rfl
  obtain ⟨hsecond, -, hholds⟩ := hafter 1 _ b st' rfl rfl
  rw [Hellomkcpp.lookup_eq] at hfirst hsecond
  obtain rfl : a = some (lit "localhost") := by
    have hmean : meaning (some deliveredIni) (lit "database") (lit "host") =
      .ok (some (lit "localhost")) := by decide +kernel
    rw [hmean] at hfirst
    cases hfirst
    rfl
  cases hsecond
  exact ⟨_, _, st, st', hrun, rfl, rfl, hholds⟩

end DiscoveryDemo
