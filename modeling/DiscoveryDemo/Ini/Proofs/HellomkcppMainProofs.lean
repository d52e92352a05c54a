import DiscoveryDemo.Ini.HellomkcppMain
import DiscoveryDemo.Ini.Reference
import DiscoveryDemo.Ini.Proofs.SafetyProofs
import DiscoveryDemo.Ini.Proofs.ConfigPathsProofs

/-!
# Proofs: when hellomkcpp reports all its keys

The program reaches its end exactly if each of its lookups finds an entry: the null pointer for a
key that is missing is turned into a string before anything looks at it.
-/

namespace DiscoveryDemo.Hellomkcpp

open CLib Ini

/-- The lookup of `x` finds an entry. -/
def Found (x : Query × Option (List Byte)) : Prop := Present x.2 x.1.sec.chars x.1.key.chars

/-- The lookup of `x` results in `value`, whatever the static buffers hold. -/
def Yields (x : Query × Option (List Byte)) (value : Option (List Byte)) : Prop :=
  ∀ st, lookup st x.2 x.1.sec x.1.key = .ok value

/-- What the lookup of `x` results in, if it does not fault. -/
def result (x : Query × Option (List Byte)) : Option (List Byte) :=
  match meaning x.2 x.1.sec.chars x.1.key.chars with
  | .ok value => value.map (List.take (maxValueLength - 1))
  | .error _ => none

/-! ## One lookup -/

/-- **One lookup** is reported if it finds an entry. Otherwise the run ends, with a string made from
the null pointer or with a fault. -/
theorem report_cases (x : Query × Option (List Byte)) (st : Statics) :
    (Found x ∧ Yields x (result x) ∧ ∃ st', report x.1 x.2 st = .ok (answer x.1 (result x), st')) ∨
    (¬Found x ∧ meaning x.2 x.1.sec.chars x.1.key.chars = .ok none ∧
      report x.1 x.2 st = .error .nullString) ∨
    (¬Found x ∧ ∃ f, meaning x.2 x.1.sec.chars x.1.key.chars = .error f ∧
      report x.1 x.2 st = .error (.fault f)) := by
  have hfound : Found x ↔ ∃ v, meaning x.2 x.1.sec.chars x.1.key.chars = .ok (some v) :=
    (meaning_present_iff _ _ _).symm
  rcases getConfigValue_cases x.2 x.1.sec x.1.key st with
    ⟨f, hget, hm⟩ | ⟨line, hget, hm⟩ | ⟨st', v, hget, hm, hv⟩
  · refine Or.inr (Or.inr ⟨by simp [hfound, hm], f, hm, ?_⟩)
    simp only [report, hget]
  · refine Or.inr (Or.inl ⟨by simp [hfound, hm], hm, ?_⟩)
    simp only [report, hget]
  · have hres : result x = some (v.take (maxValueLength - 1)) := by
      simp only [result, hm, Option.map_some]
    refine Or.inl ⟨hfound.mpr ⟨v, hm⟩, fun st0 => ?_, st', ?_⟩
    · rw [lookup_eq, hm, hres]
      rfl
    · rw [hres]
      simp only [report, hget, hv.str]
      cases v.take (maxValueLength - 1) with
      | nil => rfl
      | cons c u => rfl

theorem report_found {x : Query × Option (List Byte)} (h : Found x) (st : Statics) :
    Yields x (result x) ∧ ∃ st', report x.1 x.2 st = .ok (answer x.1 (result x), st') := by
  rcases report_cases x st with ⟨-, hrep⟩ | ⟨hno, -⟩ | ⟨hno, -⟩
  · exact hrep
  · exact absurd h hno
  · exact absurd h hno

/-! ## All of them -/

theorem reports_found {l : List (Query × Option (List Byte))} (h : ∀ x ∈ l, Found x)
    (st : Statics) :
    reports l st = (l.map (fun x => answer x.1 (result x)) ++ [finished], .exit 0) := by
  induction l generalizing st with
  | nil => rfl
  | cons x l ih =>
    obtain ⟨-, st', hrep⟩ := report_found (h x (by simp)) st
    have hrest := ih (fun y hy => h y (List.mem_cons_of_mem x hy)) st'
    simp only [reports, hrep, hrest, List.map_cons, List.cons_append]

/-- The run ends at the first lookup without an entry. -/
theorem reports_missing {l rest : List (Query × Option (List Byte))}
    {x : Query × Option (List Byte)} (h : ∀ y ∈ l, Found y)
    (hx : meaning x.2 x.1.sec.chars x.1.key.chars = .ok none) (st : Statics) :
    reports (l ++ x :: rest) st = (l.map fun y => answer y.1 (result y), .nullString) := by
  induction l generalizing st with
  | nil =>
    rcases report_cases x st with ⟨hf, -⟩ | ⟨-, -, hrep⟩ | ⟨-, f, hm, -⟩
    · obtain ⟨v, hv⟩ := (meaning_present_iff _ _ _).mpr hf
      exact absurd (hx.symm.trans hv) (by simp)
    · simp only [List.nil_append, reports, hrep, List.map_nil]
    · exact absurd (hx.symm.trans hm) (by simp)
  | cons y l ih =>
    obtain ⟨-, st', hrep⟩ := report_found (h y (by simp)) st
    have hrest := ih (fun z hz => h z (List.mem_cons_of_mem y hz)) st'
    simp only [List.cons_append, reports, hrep, hrest, List.map_cons]

theorem found_of_reports {l : List (Query × Option (List Byte))} {st : Statics}
    (h : (reports l st).2 = .exit 0) : ∀ x ∈ l, Found x := by
  induction l generalizing st with
  | nil => simp
  | cons x l ih =>
    rcases report_cases x st with ⟨hx, -, st', hrep⟩ | ⟨-, -, hrep⟩ | ⟨-, f, -, hrep⟩
    · simp only [reports, hrep] at h
      intro y hy
      rcases List.mem_cons.mp hy with rfl | hy
      · exact hx
      · exact ih h y hy
    · simp [reports, hrep] at h
    · simp [reports, hrep] at h

/-- **The program reports its four keys and succeeds** exactly if each of its lookups finds an entry
in the configuration file as it is then. -/
theorem main_reports_iff (time : List Byte) (env : Call) (path path' : PathBuf) (st : Statics)
    (files : Fin 4 → Option (List Byte)) (configFile : List Byte)
    (hfind : findConfigFile names path env = .ok (some configFile, path')) :
    (∃ values : Fin 4 → Option (List Byte),
      (∀ i st', lookup st' (files i) (queries i).sec (queries i).key = .ok (values i)) ∧
      main time env path st files = reportedRun time configFile values) ↔
    ∀ i, Present (files i) (queries i).sec.chars (queries i).key.chars := by
  unfold main
  rw [hfind]
  constructor
  · rintro ⟨values, -, hrun⟩ i
    have hend : (reports (List.ofFn fun i => (queries i, files i)) st).2 = .exit 0 :=
      congrArg Prod.snd hrun
    exact found_of_reports hend _ (List.mem_ofFn.mpr ⟨i, rfl⟩)
  · intro h
    have hall : ∀ x ∈ List.ofFn fun i => (queries i, files i), Found x := by
      intro x hx
      obtain ⟨i, rfl⟩ := List.mem_ofFn.mp hx
      exact h i
    refine ⟨fun i => result (queries i, files i), fun i => ?_, ?_⟩
    · exact (report_found (hall _ (List.mem_ofFn.mpr ⟨i, rfl⟩)) st).1
    · simp only [reports_found hall, List.map_ofFn, reportedRun]
      rfl

/-- An environment without `HOME` in which only the file in the current directory opens. -/
def startDirectory : Call := ⟨none, ⟨fun p => decide (p = names.current)⟩⟩

theorem findConfigFile_startDirectory :
    findConfigFile names (Buf.zeroed _) startDirectory =
      .ok (some (lit "hellomkcpp.ini"), Buf.zeroed _) := rfl

theorem main_reports_delivered :
    findConfigFile names (Buf.zeroed _) startDirectory =
      .ok (some (lit "hellomkcpp.ini"), Buf.zeroed _) ∧
    ∃ values : Fin 4 → Option (List Byte),
      (∀ i st', lookup st' (some deliveredIni) (queries i).sec (queries i).key = .ok (values i)) ∧
      main [] startDirectory (Buf.zeroed _) ⟨Buf.zeroed _, Buf.zeroed _⟩ (fun _ => some deliveredIni) =
        reportedRun [] (lit "hellomkcpp.ini") values := by
  refine ⟨findConfigFile_startDirectory, ?_⟩
  refine (main_reports_iff [] startDirectory (Buf.zeroed _) (Buf.zeroed _) _
    (fun _ => some deliveredIni) _ findConfigFile_startDirectory).mpr fun i => ?_
  rw [← meaning_present_iff]
  match i with
  | 0 => exact ⟨lit "localhost", by decide⟩
  | 1 => exact ⟨lit "8080", by decide⟩
  | 2 => exact ⟨lit "root", by decide⟩
  | 3 => exact ⟨lit "true", by decide⟩

/-- A configuration file that says nothing about logging. -/
def quietIni : List Byte := lit "[database]\nhost = localhost\nuser = root\n\n[server]\nport = 8080\n"

/-- With that file the program constructs a string from a null pointer at its last lookup. -/
theorem main_missing_key :
    findConfigFile names (Buf.zeroed _) startDirectory =
      .ok (some (lit "hellomkcpp.ini"), Buf.zeroed _) ∧
    main [] startDirectory (Buf.zeroed _) ⟨Buf.zeroed _, Buf.zeroed _⟩ (fun _ => some quietIni) =
      (preamble [] ++ [configLine (lit "hellomkcpp.ini"), .out (lit "Database Host: localhost"),
        .out (lit "Server Port: 8080"), .out (lit "Database User: root")], .nullString) := by
  refine ⟨findConfigFile_startDirectory, ?_⟩
  have hfound : ∀ y ∈ [(dbHost, some quietIni), (serverPort, some quietIni), (dbUser, some quietIni)],
      Found y := by
    intro y hy
    simp only [List.mem_cons, List.not_mem_nil, or_false] at hy
    unfold Found
    rw [← meaning_present_iff]
    rcases hy with rfl | rfl | rfl
    · exact ⟨lit "localhost", by decide⟩
    · exact ⟨lit "8080", by decide⟩
    · exact ⟨lit "root", by decide⟩
  have hrun : reports (List.ofFn fun i => (queries i, some quietIni))
      ⟨Buf.zeroed _, Buf.zeroed _⟩ = _ :=
    reports_missing (x := (enableLogging, some quietIni)) hfound (by decide) _
  unfold main
  rw [findConfigFile_startDirectory]
  simp only [hrun]
  decide

end DiscoveryDemo.Hellomkcpp
