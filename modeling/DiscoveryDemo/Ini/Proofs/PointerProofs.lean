import DiscoveryDemo.Ini.Calls
import DiscoveryDemo.Ini.HellomkcppMain
import DiscoveryDemo.Ini.Reference
import DiscoveryDemo.Ini.Proofs.SafetyProofs

/-!
# Proofs: how long the pointers that hellomk returns are good for

hellomk returns a pointer into its line buffer. A later call writes over the buffer from its beginning
on, up to the terminator of the longest chunk that it reads, so the value is safe from calls that
read only chunks that end before it.
-/

namespace DiscoveryDemo.Ini

open CLib

variable {sec key : CStr} {p : Nat}

/-- **What the read loop leaves alone**: everything from `p` on, if all chunks that it reads are
shorter than `p`. A chunk is read if the scan gets past the ones before it. -/
theorem readLoop_frame (file : List Byte) (line : LineBuf) (cur : SectionBuf) {σ : List Byte}
    (hs : cur.Holds σ)
    (hshort : ∀ A chunk B, fileChunks file = A ++ chunk :: B →
      scan sec.chars key.chars σ (A.map fun c => classify (text c)) = .ok none → chunk.length < p)
    {found : Option Nat} {line2 : LineBuf}
    (hloop : readLoop sec key file line cur = .ok (found, line2)) : Buf.AgreeFrom p line line2 := by
  induction hlen : file.length using Nat.strong_induction_on generalizing file line cur σ with
  | _ m ih =>
    by_cases hne : file = []
    · subst hne
      rw [readLoop_nil] at hloop
      cases hloop
      rfl
    · have hlt : (takeLine NL (lineBufferLength - 1) file).2.length < file.length :=
        takeLine_rest_length_lt (by decide) hne
      obtain ⟨chunk, rest, htake⟩ :
        ∃ chunk rest, takeLine NL (lineBufferLength - 1) file = (chunk, rest) := ⟨_, _, rfl⟩
      rw [htake] at hlt
      have hchunks : fileChunks file = chunk :: fileChunks rest := by
        unfold fileChunks
        rw [chunks_eq_takeLine (by decide) hne, htake]
      have hfirst : chunk.length + 1 ≤ p := hshort [] chunk (fileChunks rest) hchunks rfl
      rcases readLoop_step sec key line cur hs hne htake with
        ⟨f, hstep, -⟩ | ⟨line', q, v, hstep, -, hframe, -⟩ | ⟨line', cur', σ', hstep, hs', hframe, hscan⟩
      · rw [hstep] at hloop
        cases hloop
      · rw [hstep] at hloop
        cases hloop
        exact hframe.mono hfirst
      · rw [hstep] at hloop
        refine (hframe.mono hfirst).trans (ih _ (hlen ▸ hlt) rest line' cur' hs' ?_ hloop rfl)
        intro A c B hA hpast
        refine hshort (chunk :: A) c B (by rw [hchunks, hA]; rfl) ?_
        rw [List.map_cons, hscan, hpast]

end DiscoveryDemo.Ini

namespace DiscoveryDemo.Hellomk

open CLib Ini

variable {p : Nat} {line line' : LineBuf}

/-- A call leaves alone what it spares. -/
theorem getConfigValue_frame {c : Lookup} {found : Option Nat} (hspare : c.Spares p)
    (hcall : getConfigValue line c.file c.sec c.key = .ok (found, line')) :
    Buf.AgreeFrom p line line' := by
  obtain ⟨file, sec, key⟩ := c
  cases file with
  | none =>
    cases hcall
    rfl
  | some content =>
    refine readLoop_frame content line _ (Buf.holds_zeroed (by decide)) ?_ hcall
    intro A chunk B hchunks hpast
    exact hspare content rfl A chunk B hchunks (scan_passes_iff.mp hpast).2

theorem callAll_frame {calls : List Lookup} (hspare : ∀ c ∈ calls, c.Spares p)
    (hrun : callAll line calls = .ok line') : Buf.AgreeFrom p line line' := by
  induction calls generalizing line with
  | nil =>
    cases hrun
    rfl
  | cons c calls ih =>
    cases hcall : getConfigValue line c.file c.sec c.key with
    | error f => simp [callAll, hcall, bind, Except.bind] at hrun
    | ok r =>
      obtain ⟨found, line1⟩ := r
      simp only [callAll, hcall, bind, Except.bind] at hrun
      have hfirst := getConfigValue_frame (hspare c List.mem_cons_self) hcall
      exact hfirst.trans (ih (fun d hd => hspare d (List.mem_cons_of_mem c hd)) hrun)

/-- **A value stays readable** through the pointer `p` that was returned for it, as long as no call
reads a chunk with `p` characters or more. -/
theorem value_stays (c : Lookup) {v : List Byte}
    (hcall : getConfigValue line c.file c.sec c.key = .ok (some p, line'))
    (hfound : lookup line c.file c.sec c.key = .ok (some v)) (later : List Lookup)
    (hspare : ∀ d ∈ later, d.Spares p) {line2 : LineBuf}
    (hlater : callAll line' later = .ok line2) : line2.str p = .ok v := by
  have hvalue : line'.str p = .ok v := by
    simp only [lookup, hcall, bind, Except.bind, pure, Except.pure] at hfound
    cases hstr : line'.str p with
    | error f => simp [hstr] at hfound
    | ok u => simpa [hstr] using hfound
  rw [(callAll_frame hspare hlater).str, hvalue]

/-- The lookup of the host in the delivered file, which both programs make; the value stands at index
7 of its line. -/
def hostLookup : Lookup :=
  { file := some deliveredIni, sec := Hellomkcpp.dbHost.sec, key := Hellomkcpp.dbHost.key }

/-- The lookup of the port; its value stands at the same index. -/
def portLookup : Lookup :=
  { file := some deliveredIni, sec := Hellomkcpp.serverPort.sec, key := Hellomkcpp.serverPort.key }

/-- The result of a call that passes a test. -/
theorem exists_ok {α : Type} {x : Except Fault α} {q : α → Bool} (h : x.toOption.any q = true) :
    ∃ a, x = .ok a ∧ q a = true := by
  cases x with
  | error f => cases h
  | ok a => exact ⟨a, rfl, h⟩

theorem hostLookup_found :
    lookup (Buf.zeroed _) hostLookup.file hostLookup.sec hostLookup.key =
      .ok (some (lit "localhost")) := by
  rw [lookup_eq]
  decide +kernel

/-- A lookup in a file with short lines, and one in a file that cannot be opened. -/
def sparingLookups : List Lookup :=
  [{ hostLookup with file := some (lit "[x]\na=1\n") }, { hostLookup with file := none }]

theorem value_stays_host :
    ∃ line' line2, getConfigValue (Buf.zeroed _) hostLookup.file hostLookup.sec hostLookup.key =
        .ok (some 7, line') ∧
      callAll line' sparingLookups = .ok line2 ∧ line2.str 7 = .ok (lit "localhost") := by
  obtain ⟨⟨found, line'⟩, hcall, htest⟩ := exists_ok
    (x := getConfigValue (Buf.zeroed _) hostLookup.file hostLookup.sec hostLookup.key)
    (q := fun r => r.1 = some 7 ∧ (callAll r.2 sparingLookups).toOption.any fun _ => true)
    (by decide +kernel)
  obtain ⟨rfl, hrun⟩ := of_decide_eq_true htest
  obtain ⟨line2, hlater, -⟩ := exists_ok hrun
  refine ⟨line', line2, hcall, hlater, value_stays hostLookup hcall hostLookup_found _ ?_ hlater⟩
  intro d hd content hfile A chunk B hchunks _
  rcases List.mem_pair.mp hd with rfl | rfl
  · cases hfile
    have hall : ∀ x ∈ fileChunks (lit "[x]\na=1\n"), x.length < 7 := by decide
    exact hall chunk (by simp [hchunks])
  · cases hfile

/-- The value of the host is gone after the next lookup in the same file. -/
theorem value_overwritten :
    ∃ line' line2, getConfigValue (Buf.zeroed _) hostLookup.file hostLookup.sec hostLookup.key =
        .ok (some 7, line') ∧
      lookup (Buf.zeroed _) hostLookup.file hostLookup.sec hostLookup.key =
        .ok (some (lit "localhost")) ∧
      callAll line' [portLookup] = .ok line2 ∧ line2.str 7 = .ok (lit "8080") := by
  obtain ⟨⟨found, line'⟩, hcall, htest⟩ := exists_ok
    (x := getConfigValue (Buf.zeroed _) hostLookup.file hostLookup.sec hostLookup.key)
    (q := fun r => r.1 = some 7 ∧ (callAll r.2 [portLookup]).toOption.any
      fun line => line.str 7 = .ok (lit "8080")) (by decide +kernel)
  obtain ⟨rfl, hrun⟩ := of_decide_eq_true htest
  obtain ⟨line2, hlater, hvalue⟩ := exists_ok hrun
  exact ⟨line', line2, hcall, hostLookup_found, hlater, of_decide_eq_true hvalue⟩

end DiscoveryDemo.Hellomk
