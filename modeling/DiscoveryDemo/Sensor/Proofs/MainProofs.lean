import DiscoveryDemo.Sensor.Main
import DiscoveryDemo.Sensor.Proofs.AccessorProofs
import DiscoveryDemo.Sensor.Proofs.TerminalProofs

/-!
# Proofs: what `main` of ioexample4 reports

A round of the sampling loop adds its transfers to the trace, and one that fails ends the loop as a
key press does. By induction over the rounds the loop is steady exactly if the trace has no failure;
`main` leaves it with the status 0 in any case.
-/

namespace DiscoveryDemo.Ioexample4

open CLib Sensor Driver

/-! ## The parts of a round -/

theorem transferCode_nonneg {t : Transfer} : 0 ≤ transferCode t ↔ ∃ idle, t = .done idle := by
  cases t with
  | done idle => exact ⟨fun _ => ⟨idle, rfl⟩, fun _ => Int.le_refl 0⟩
  | failed code neg =>
    constructor
    · intro h
      exact absurd h (Int.not_le.mpr neg)
    · rintro ⟨idle, h⟩
      cases h

theorem axis_ok (buf : Buf 6) {i : Nat} (hi : i + 1 < 6) : ∃ v, axis buf i = .ok v := by
  have hlen : i + 1 < buf.bytes.length := by rw [buf.length_eq]; exact hi
  have hhi := Buf.read_natCast (List.getElem?_eq_getElem hlen)
  have hlo := Buf.read_natCast (List.getElem?_eq_getElem (Nat.lt_of_succ_lt hlen))
  refine ⟨Int16.ofNat (buf.bytes[i + 1].toNat <<< 8 ||| buf.bytes[i].toNat), ?_⟩
  simp only [axis, hhi, hlo, bind, Except.bind, pure, Except.pure]

theorem kbhit_none (settable : BitVec 32) (t : Terminal) :
    ∃ t', kbhit settable none t = (0, t') := ⟨_, rfl⟩

theorem kbhit_some (settable : BitVec 32) (c : Byte) (t : Terminal) :
    ∃ t', kbhit settable (some c) t = (1, t') := ⟨_, rfl⟩

section Wait

variable {answer : Selected} (settable : BitVec 32) (us : UInt32) (t : Terminal) (calls : List Call)

/-- The wait of a round in which no key is pressed. -/
theorem delayOrKeypressIn_quiet (h : ¬(answer.retval > 0 ∧ answer.ready)) :
    ∃ t', delayOrKeypressIn settable us (fun tv calls => (answer, calls ++ [.select tv])) t calls =
      (0, t', calls ++ [.select (timeout us)]) := by
  rw [delayOrKeypressIn_eq, if_neg h]
  exact ⟨_, rfl⟩

theorem delayOrKeypressIn_pressed (h : answer.retval > 0 ∧ answer.ready) :
    ∃ t', delayOrKeypressIn settable us (fun tv calls => (answer, calls ++ [.select tv])) t calls =
      (1, t', calls ++ [.select (timeout us)]) := by
  rw [delayOrKeypressIn_eq, if_pos h]
  exact ⟨_, rfl⟩

end Wait

/-- All waits among the calls take the time `tv`. -/
def Wait (tv : Timeval) (calls : List Call) : Prop := ∀ tv' ∈ timeouts calls, tv' = tv

theorem Wait.append {tv : Timeval} {calls calls' : List Call} (h : Wait tv calls)
    (h' : Wait tv calls') : Wait tv (calls ++ calls') := by
  intro tv' htv
  rw [timeouts, List.filterMap_append] at htv
  rcases List.mem_append.mp htv with htv | htv
  · exact h tv' htv
  · exact h' tv' htv

theorem wait_nil (tv : Timeval) : Wait tv [] := fun _ h => absurd h List.not_mem_nil

/-- The sleep after the set-up ends as its first answer other than an interruption says. -/
theorem delayLoop_cases (tv : Timeval) (answers : List Slept) :
    finalAnswer answers = some .elapsed ∧ delayLoop tv answers = .returned ∨
      finalAnswer answers = some .failed ∧ delayLoop tv answers = .exited ∨
      finalAnswer answers = none ∧ ∃ tv', delayLoop tv answers = .waiting tv' := by
  induction answers generalizing tv with
  | nil => exact Or.inr (Or.inr ⟨rfl, tv, rfl⟩)
  | cons a answers ih =>
    cases a with
    | elapsed => exact Or.inl ⟨rfl, rfl⟩
    | failed => exact Or.inr (Or.inl ⟨rfl, rfl⟩)
    | interrupted left => exact ih left

/-! ## The sampling loop -/

section Loop

variable (settable : BitVec 32) (delayMs : UInt32) (whoami : Byte)

/-- A round whose transfers succeed reads the sensor, prints a reading and waits. -/
theorem sampleRound_reads (s : State) {r : Round} (hkey : r.key = none) (hr : ¬r.Fails) :
    ∃ s' new, s'.calls = s.calls ++ new ∧ Kept (new.map Call.role) ∧ ¬Failed (new.map Call.role) ∧
      Wait (timeout (delayMs * 1000)) new ∧
      (r.Quiet ∧ sampleRound settable delayMs whoami s r = .ok (.goesOn s') ∨
        ¬r.Quiet ∧ sampleRound settable delayMs whoami s r = .ok (.stopped s')) := by
  obtain ⟨key, tempRaw, temp, buf, tx, rx, multi, select⟩ := r
  cases hkey
  cases temp with
  | failed code neg => exact absurd (Or.inl neg) hr
  | done idle =>
    cases multi with
    | failed code neg => exact absurd (Or.inr neg) hr
    | done idle' =>
      obtain ⟨t, ht⟩ := kbhit_none settable s.term
      have htemp := spiReadRegister_done s.regs idle regTemp tempRaw
      obtain ⟨buf', hmulti, -⟩ := spiReadMulti_done s.regs idle' regOutXL buf tx rx
      obtain ⟨x, hx⟩ := axis_ok buf' (i := 0) (by decide)
      obtain ⟨y, hy⟩ := axis_ok buf' (i := 2) (by decide)
      obtain ⟨z, hz⟩ := axis_ok buf' (i := 4) (by decide)
      set asked : List Call := [.spiTransfer regTemp 0, .spiTransfer regOutXL 0,
        .reading whoami (25 + (s.regs (register regTemp.toNat)).toInt8.toInt) x y z] with hasked
      set new : List Call := asked ++ [.select (timeout (delayMs * 1000))] with hnew
      have hkept : Kept (new.map Call.role) := by simp [hnew, hasked, Kept, Call.role]
      have hfine : ¬Failed (new.map Call.role) := by
        simp [hnew, hasked, Failed, Call.role, Role.reportsError]
      have hwait : Wait (timeout (delayMs * 1000)) new := by simp [hnew, hasked, Wait, timeouts]
      by_cases hq : select.retval > 0 ∧ select.ready
      · obtain ⟨t', ht'⟩ := delayOrKeypressIn_pressed settable (delayMs * 1000) t (s.calls ++ asked) hq
        refine ⟨⟨s.regs, t', s.calls ++ new⟩, new, rfl, hkept, hfine, hwait,
          Or.inr ⟨fun h => h.2 hq, ?_⟩⟩
        simp only [hasked, List.append_assoc, List.cons_append, List.nil_append] at ht'
        simp [sampleRound, ht, htemp, hmulti, hx, hy, hz, ht', hnew, hasked, transferCode, bind,
          Except.bind, pure, Except.pure]
      · obtain ⟨t', ht'⟩ := delayOrKeypressIn_quiet settable (delayMs * 1000) t (s.calls ++ asked) hq
        refine ⟨⟨s.regs, t', s.calls ++ new⟩, new, rfl, hkept, hfine, hwait,
          Or.inl ⟨⟨rfl, hq⟩, ?_⟩⟩
        simp only [hasked, List.append_assoc, List.cons_append, List.nil_append] at ht'
        simp [sampleRound, ht, htemp, hmulti, hx, hy, hz, ht', hnew, hasked, transferCode, bind,
          Except.bind, pure, Except.pure]

/-- A round with a transfer that fails ends the loop, and the failure is in the trace. -/
theorem sampleRound_fails (s : State) {r : Round} (hkey : r.key = none) (hr : r.Fails) :
    ∃ s' new, s'.calls = s.calls ++ new ∧ Kept (new.map Call.role) ∧ Failed (new.map Call.role) ∧
      timeouts new = [] ∧ sampleRound settable delayMs whoami s r = .ok (.stopped s') := by
  obtain ⟨key, tempRaw, temp, buf, tx, rx, multi, select⟩ := r
  cases hkey
  obtain ⟨t, ht⟩ := kbhit_none settable s.term
  cases temp with
  | failed code neg =>
    refine ⟨⟨s.regs, t, s.calls ++ [.spiTransfer regTemp code]⟩, [.spiTransfer regTemp code], rfl,
      by simp [Kept, Call.role], ?_, rfl, ?_⟩
    · simp [Failed, Call.role, Role.reportsError, neg]
    · simp only [sampleRound, ht, spiReadRegister_failed, bind, Except.bind]
      rfl
  | done idle =>
    cases multi with
    | done idle' => exact absurd hr (by simp [Round.Fails, transferCode])
    | failed code neg =>
      have htemp := spiReadRegister_done s.regs idle regTemp tempRaw
      refine ⟨⟨s.regs, t, s.calls ++ [.spiTransfer regTemp 0, .spiTransfer regOutXL code]⟩,
        [.spiTransfer regTemp 0, .spiTransfer regOutXL code], rfl, by simp [Kept, Call.role], ?_, rfl,
        ?_⟩
      · simp [Failed, Call.role, Role.reportsError, neg]
      · simp only [sampleRound, ht, htemp, spiReadMulti_failed, bind, Except.bind]
        simp [transferCode, pure, Except.pure]

/-- A key that is already pressed ends the loop at once. -/
theorem sampleRound_key (s : State) {r : Round} (hkey : r.key ≠ none) :
    ∃ s', s'.calls = s.calls ∧ sampleRound settable delayMs whoami s r = .ok (.stopped s') := by
  obtain ⟨c, hc⟩ := Option.ne_none_iff_exists'.mp hkey
  obtain ⟨t, ht⟩ := kbhit_some settable c s.term
  refine ⟨{ s with term := t }, rfl, ?_⟩
  simp only [sampleRound, hc, ht]
  rfl

theorem steady_cons (r : Round) (rounds : List Round) :
    Steady (r :: rounds) ↔ (r.key = none → ¬r.Fails) ∧ (r.Quiet → Steady rounds) := by
  constructor
  · intro h
    refine ⟨h [] r rounds rfl (fun q hq => absurd hq List.not_mem_nil), ?_⟩
    intro hr pre q post hsplit hpre
    exact h (r :: pre) q post (by rw [hsplit]; rfl) (List.forall_mem_cons.mpr ⟨hr, hpre⟩)
  · rintro ⟨hr, hrest⟩ pre q post hsplit hpre
    cases pre with
    | nil =>
      obtain ⟨rfl, -⟩ := List.cons.inj hsplit
      exact hr
    | cons p pre =>
      obtain ⟨rfl, htail⟩ := List.cons.inj hsplit
      obtain ⟨hq, hpre⟩ := List.forall_mem_cons.mp hpre
      exact hrest hq pre q post htail hpre

/-- What the loop adds to the trace: no failure if the rounds are steady; otherwise one, and the loop
has stopped. All its waits take the delay. -/
theorem sample_spec (s : State) (rounds : List Round) :
    ∃ e new, sample settable delayMs whoami s rounds = .ok e ∧ e.state.calls = s.calls ++ new ∧
      Kept (new.map Call.role) ∧ Wait (timeout (delayMs * 1000)) new ∧
      (Steady rounds → ¬Failed (new.map Call.role)) ∧
      (¬Steady rounds → Failed (new.map Call.role) ∧ e = .stopped e.state) := by
  induction rounds generalizing s with
  | nil =>
    refine ⟨.goesOn s, [], rfl, (List.append_nil _).symm, by simp [Kept], wait_nil _,
      fun _ => not_failed_nil, ?_⟩
    intro h
    exact absurd (fun pre r post hsplit => absurd hsplit (by simp)) h
  | cons r rounds ih =>
    by_cases hkey : r.key = none
    · by_cases hr : r.Fails
      · obtain ⟨s', new, hcalls, hkept, hfail, hwait, hround⟩ :=
          sampleRound_fails settable delayMs whoami s hkey hr
        refine ⟨.stopped s', new, ?_, hcalls, hkept, ?_, fun h => ?_, fun _ => ⟨hfail, rfl⟩⟩
        · simp only [sample, hround, bind, Except.bind, pure, Except.pure]
        · rw [Wait, hwait]
          exact fun _ h => absurd h List.not_mem_nil
        · exact absurd hr (((steady_cons r rounds).mp h).1 hkey)
      · obtain ⟨s', new, hcalls, hkept, hfine, hwait, hround⟩ :=
          sampleRound_reads settable delayMs whoami s hkey hr
        rcases hround with ⟨hq, hround⟩ | ⟨hq, hround⟩
        · obtain ⟨e, new', hrest, hcalls', hkept', hwait', hsteady, hnot⟩ := ih s'
          have hiff : Steady (r :: rounds) ↔ Steady rounds := by
            rw [steady_cons]
            exact ⟨fun h => h.2 hq, fun h => ⟨fun _ => hr, fun _ => h⟩⟩
          refine ⟨e, new ++ new', ?_, ?_, ?_, hwait.append hwait', ?_, ?_⟩
          · simp only [sample, hround, bind, Except.bind]
            exact hrest
          · rw [hcalls', hcalls, List.append_assoc]
          · rw [List.map_append]
            exact hkept.append hkept'
          · intro h
            rw [List.map_append, failed_append]
            exact not_or.mpr ⟨hfine, hsteady (hiff.mp h)⟩
          · intro h
            obtain ⟨hfail, hstop⟩ := hnot (fun h' => h (hiff.mpr h'))
            rw [List.map_append, failed_append]
            exact ⟨Or.inr hfail, hstop⟩
        · refine ⟨.stopped s', new, ?_, hcalls, hkept, hwait, fun _ => hfine, fun h => ?_⟩
          · simp only [sample, hround, bind, Except.bind, pure, Except.pure]
          · exact absurd ((steady_cons r rounds).mpr ⟨fun _ => hr, fun h' => absurd h' hq⟩) h
    · obtain ⟨s', hcalls, hround⟩ := sampleRound_key settable delayMs whoami s hkey
      refine ⟨.stopped s', [], ?_, ?_, by simp [Kept], wait_nil _, fun _ => not_failed_nil,
        fun h => ?_⟩
      · simp only [sample, hround, bind, Except.bind, pure, Except.pure]
      · rw [List.append_nil]
        exact hcalls
      · exact absurd ((steady_cons r rounds).mpr
          ⟨fun h' => absurd h' hkey, fun h' => absurd h'.1 hkey⟩) h

end Loop

/-! ## The whole program -/

/-- The calls of a set-up that succeeds. -/
def setUpCalls (env : Env) : List Call :=
  [.spiNew, .spiOpen spiDevice spiMode spiSpeedHz env.opened,
    .spiTransfer regWhoami (transferCode env.whoami), .spiTransfer regCtrl1 (transferCode env.ctrl1)]

/-- An argument that is accepted, and a set-up that fails. -/
theorem main_setUp_fails {env : Env} {d : UInt32} (hd : delayMs env.args = some d)
    (h : ¬env.SetsUp) :
    ∃ calls, main env = .ok (.exited 1 (calls ++ cleanup)) ∧ Kept (calls.map Call.role) ∧
      Failed (calls.map Call.role) ∧ timeouts (calls ++ cleanup) = [] := by
  by_cases hopen : env.opened < 0
  · refine ⟨[.spiNew, .spiOpen spiDevice spiMode spiSpeedHz env.opened], ?_,
      by simp [Kept, Call.role], by simp [Failed, Call.role, Role.reportsError, hopen], rfl⟩
    simp [main, hd, hopen, pure, Except.pure]
  · cases hw : env.whoami with
    | failed code neg =>
      refine ⟨[.spiNew, .spiOpen spiDevice spiMode spiSpeedHz env.opened,
        .spiTransfer regWhoami code], ?_, by simp [Kept, Call.role],
        by simp [Failed, Call.role, Role.reportsError, neg], rfl⟩
      simp [main, hd, hopen, hw, spiReadRegister_failed, transferCode, bind, Except.bind, pure,
        Except.pure]
    | done idle =>
      cases hc : env.ctrl1 with
      | done idle' =>
        refine absurd ⟨?_, Int.not_lt.mp hopen, transferCode_nonneg.mpr ⟨idle, hw⟩,
          transferCode_nonneg.mpr ⟨idle', hc⟩⟩ h
        rw [hd]
        exact Option.some_ne_none d
      | failed code neg =>
        refine ⟨[.spiNew, .spiOpen spiDevice spiMode spiSpeedHz env.opened,
          .spiTransfer regWhoami 0, .spiTransfer regCtrl1 code], ?_, by simp [Kept, Call.role],
          by simp [Failed, Call.role, Role.reportsError, neg], rfl⟩
        simp [main, hd, hopen, hw, hc, spiReadRegister_done, spiWriteRegister, spiTransfer, neg,
          transferCode, bind, Except.bind, pure, Except.pure]

/-- After the set-up come the sleep and the sampling loop. -/
theorem main_setsUp {env : Env} {d : UInt32} (hd : delayMs env.args = some d) (h : env.SetsUp) :
    ∃ whoami regs, main env =
      match delayUs 100000 env.delays with
      | .waiting _ => .ok (.running (setUpCalls env))
      | .exited => .ok (.exited 1 (setUpCalls env))
      | .returned =>
        match sample env.settable d whoami ⟨regs, env.term, setUpCalls env⟩ env.rounds with
        | .error f => .error f
        | .ok (.goesOn s) => .ok (.running s.calls)
        | .ok (.stopped s) => .ok (.exited 0 (s.calls ++ cleanup)) := by
  obtain ⟨-, hopen, hwhoami, hctrl⟩ := h
  obtain ⟨idle, hw⟩ := transferCode_nonneg.mp hwhoami
  obtain ⟨idle', hc⟩ := transferCode_nonneg.mp hctrl
  refine ⟨env.regs (register regWhoami.toNat),
    Function.update env.regs (register regCtrl1.toNat) 0x0F, ?_⟩
  have hcalls : setUpCalls env = [.spiNew, .spiOpen spiDevice spiMode spiSpeedHz env.opened,
      .spiTransfer regWhoami 0, .spiTransfer regCtrl1 0] := by
    rw [setUpCalls, hw, hc]
    rfl
  simp only [main, hd, hw, hc, spiReadRegister_done, spiWriteRegister_done, transferCode,
    if_neg (Int.not_lt.mpr hopen), if_neg (Int.lt_irrefl 0), hcalls, bind, Except.bind, pure,
    Except.pure]
  cases delayUs 100000 env.delays with
  | waiting tv => rfl
  | exited => rfl
  | returned =>
    simp only [List.cons_append, List.nil_append]
    cases sample env.settable d _ _ env.rounds with
    | error f => rfl
    | ok e => cases e <;> rfl

theorem setUpCalls_roles {env : Env} (h : env.SetsUp) :
    Kept ((setUpCalls env).map Call.role) ∧ ¬Failed ((setUpCalls env).map Call.role) ∧
      Opened ((setUpCalls env).map Call.role) := by
  obtain ⟨-, hopen, hwhoami, hctrl⟩ := h
  refine ⟨by simp [setUpCalls, Kept, Call.role], ?_, env.opened, hopen, by simp [setUpCalls, Call.role]⟩
  simp [setUpCalls, Failed, Call.role, Role.reportsError, hopen, hwhoami, hctrl]

/-- An argument that is rejected, or a set-up that fails, is accounted for. -/
theorem accounts_of_not_setsUp {env : Env} (h : ¬env.SetsUp) : Accounts env := by
  intro status calls hrun
  cases hd : delayMs env.args with
  | none =>
    simp only [main, hd] at hrun
    cases hrun
    exact accounted_failure (Or.inl rfl) fun h => absurd h not_opened_nil
  | some d =>
    obtain ⟨calls', hmain, hkept, hfail, -⟩ := main_setUp_fails hd h
    rw [hmain] at hrun
    cases hrun
    rw [List.map_append]
    exact accounted_failure (Or.inr ((failed_append _ _).mpr (Or.inl hfail)))
      fun _ => hkept.closedOnce

/-- The sampling loop is left with the status 0 and a final clean-up, whatever has ended it. -/
theorem accounts_iff_steady {env : Env} {d : UInt32} {whoami : Byte} {s : State}
    (haccepted : delayMs env.args ≠ none) (hkept : Kept (s.calls.map Call.role))
    (hfine : ¬Failed (s.calls.map Call.role))
    (hmain : main env = match sample env.settable d whoami s env.rounds with
      | .error f => .error f
      | .ok (.goesOn s) => .ok (.running s.calls)
      | .ok (.stopped s) => .ok (.exited 0 (s.calls ++ cleanup))) :
    Accounts env ↔ Steady env.rounds := by
  obtain ⟨e, new, hsample, hcalls, hkept', -, hsteady, hnot⟩ :=
    sample_spec env.settable d whoami s env.rounds
  rw [hsample] at hmain
  constructor
  · intro hacc
    by_contra hfails
    obtain ⟨hfail, hstop⟩ := hnot hfails
    rw [hstop] at hmain
    have hreported : Failed ((e.state.calls ++ cleanup).map Call.role) := by
      rw [List.map_append, failed_append, hcalls, List.map_append, failed_append]
      exact Or.inl (Or.inr hfail)
    exact (hacc 0 _ hmain).1.mpr (Or.inr hreported) rfl
  · intro hrounds status calls hrun
    rw [hmain] at hrun
    cases e with
    | goesOn s' => cases hrun
    | stopped s' =>
      cases hrun
      have hroles : (s'.calls ++ cleanup).map Call.role =
          (s.calls.map Call.role ++ new.map Call.role) ++ [.closes, .frees] := by
        rw [List.map_append, show s'.calls = s.calls ++ new from hcalls, List.map_append]
        rfl
      rw [hroles, accounted_success (hkept.append hkept').closedOnce]
      rintro (hrejected | hfail)
      · exact absurd hrejected haccepted
      · rw [failed_append, failed_append] at hfail
        rcases hfail with (hfail | hfail) | hfail
        · exact absurd hfail hfine
        · exact absurd hfail (hsteady hrounds)
        · exact absurd hfail (by simp [Failed, Role.reportsError])

/-- After the set-up everything depends on how `delay_us` and the transfers of the loop end. -/
theorem accounts_iff_of_setsUp {env : Env} (h : env.SetsUp) : Accounts env ↔ env.RunsWell := by
  obtain ⟨d, hd⟩ := Option.ne_none_iff_exists'.mp h.1
  obtain ⟨hkept, hfine, hopened⟩ := setUpCalls_roles h
  obtain ⟨whoami, regs, hmain⟩ := main_setsUp hd h
  unfold Env.RunsWell
  rcases delayLoop_cases ⟨(100000 : UInt32).toNat / 1000000, (100000 : UInt32).toNat % 1000000⟩
    env.delays with ⟨hfinal, hdelay⟩ | ⟨hfinal, hdelay⟩ | ⟨hfinal, tv, hdelay⟩
  · rw [delayUs, hdelay] at hmain
    rw [hfinal]
    exact accounts_iff_steady h.1 hkept hfine hmain
  · rw [delayUs, hdelay] at hmain
    rw [hfinal]
    -- the program ends in `delay_us`, without a clean-up
    refine iff_of_false (fun hacc => ?_) id
    exact hkept.not_closedOnce ((hacc 1 _ hmain).2 hopened)
  · rw [delayUs, hdelay] at hmain
    rw [hfinal]
    refine iff_of_true (fun status calls hrun => ?_) trivial
    rw [hmain] at hrun
    cases hrun

/-- **What ioexample4 reports.** Its exit status and its clean-up account for every run in which,
after a successful set-up, `select` does not fail in `delay_us` and no transfer of the sampling loop
fails; and for no other. -/
theorem accounts_iff (env : Env) : Accounts env ↔ (env.SetsUp → env.RunsWell) := by
  by_cases h : env.SetsUp
  · rw [accounts_iff_of_setsUp h]
    exact ⟨fun hwell _ => hwell, fun hwell => hwell h⟩
  · exact iff_of_true (accounts_of_not_setsUp h) fun h' => absurd h' h

end DiscoveryDemo.Ioexample4
