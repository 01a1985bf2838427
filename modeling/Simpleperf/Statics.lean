/-
  The static members of `Dso` over the calls that set them and the lifetime
  of the Dsos (`dso.cpp`: `SetDemangle`, `SetSymFsDir`, `SetVmlinux`,
  `SetBuildIds`, `SetVdsoFile`, `Dso::Dso` and `~Dso`).

  * `DsoStatics.step` is one call: a setter, or a call of `Dsos.step` whose
    `~Dso` also resets, with the last Dso, `demangle_` and the members
    loading reads; `step_life` says once what a lifetime call does to them,
    and that its Dsos are those of `Dsos.step`;
  * `sinceLastRelease`: the calls made since the last deletion after which
    no Dso object is left, in the lifetime model;
  * `settings_since_last_release`: over every run, the static members are
    what the setters called since then make of the defaults, or, when no
    Dso was released, of the members before the run;
  * `nameRun`: `SetDemangle` and `DemangledName` calls on one symbol;
    `demangledName_first_flag`: however `SetDemangle` calls come between,
    every call returns the name `Demangle` gave under the flag of the first.
-/
import Simpleperf.Lifecycle

namespace Simpleperf

/-! ## The model -/

/-- The static members the setters write: `demangle_`, and those loading
    reads. -/
structure DsoSettings where
  demangle : Bool
  config : DsoConfig

/-- The settings at program start, and as the last `~Dso` leaves them. -/
def DsoSettings.initial : DsoSettings := ⟨true, DsoConfig.initial⟩

/-- The static setters of `Dso`. -/
inductive DsoSetter where
  | setDemangle (demangle : Bool)
  | setSymFsDir (symfsDir : String)
  | setVmlinux (vmlinux : String)
  | setKallsyms (kallsyms : String)
  | setBuildIds (buildIds : List (String × BuildId))
  | setVdsoFile (vdsoFile : String) (is64bit : Bool)

/-- What a setter makes of the settings.  The `setKallsyms` case is modelled
    from the spec: `Dso::SetKallsyms` is declared in `dso.h`, not among the
    sources, and is taken to assign `kallsyms_`, as
    `ReportLib::SetKallsymsFile` relies on. -/
def DsoSetter.apply (fs : FileSystem) : DsoSetter → DsoSettings → DsoSettings
  | .setDemangle demangle, s => { s with demangle := demangle }
  | .setSymFsDir symfsDir, s =>
    { s with config := { s.config with
                         debugElfFileFinder := (s.config.debugElfFileFinder.setSymFsDir fs symfsDir).1 } }
  | .setVmlinux vmlinux, s => { s with config := { s.config with vmlinux := vmlinux } }
  | .setKallsyms kallsyms, s => { s with config := { s.config with kallsyms := kallsyms } }
  | .setBuildIds buildIds, s =>
    { s with config := { s.config with buildIdMap := Simpleperf.setBuildIds buildIds } }
  | .setVdsoFile vdsoFile is64bit, s =>
    { s with config := { s.config with
                         debugElfFileFinder := s.config.debugElfFileFinder.setVdsoFile vdsoFile is64bit } }

/-- The static members of `Dso`: the settings, and `dso_count_` and
    `g_dump_id_` with the live Dsos. -/
structure DsoStatics where
  settings : DsoSettings
  dsos : Dsos

/-- A call on the static members: a setter, or a call on the lifetime of the
    Dsos. -/
inductive DsoStaticsOp where
  | set (setter : DsoSetter)
  | life (op : DsoLifeOp)

namespace DsoStatics

/-- `~Dso` (`Dsos.destroy`): the last one also resets `demangle_`,
    `vmlinux_`, `kallsyms_`, `read_kernel_symbols_from_proc_`,
    `build_id_map_` and the finder. -/
def destroy (st : DsoStatics) : DsoStatics :=
  ⟨if st.dsos.dsoCount - 1 = 0 then DsoSettings.initial else st.settings, st.dsos.destroy⟩

/-- `delete` of the live Dso `d`: its nested `DexFileDso` goes first. -/
def deleteObjects (st : DsoStatics) (d : LiveDso) : DsoStatics :=
  if d.nested then destroy (destroy st) else destroy st

/-- One call; `none` where `Dsos.step` fails. -/
def step (fs : FileSystem) (st : DsoStatics) : DsoStaticsOp → Option DsoStatics
  | .set setter => some { st with settings := setter.apply fs st.settings }
  | .life (.deleteDso key) =>
    (st.dsos.find key).map fun d =>
      let st' := st.deleteObjects d
      { st' with dsos := { st'.dsos with live := st.dsos.live.filter (·.key ≠ key) } }
  | .life op => (st.dsos.step op).map fun r => { st with dsos := r.1 }

/-- A run of calls. -/
def run (fs : FileSystem) (st : DsoStatics) : List DsoStaticsOp → Option DsoStatics
  | [] => some st
  | op :: ops => (step fs st op).bind fun st' => run fs st' ops

/-! ## What a call does -/

theorem destroy_settings (st : DsoStatics) :
    (destroy st).settings = if st.dsos.destroy.dsoCount = 0 then DsoSettings.initial else st.settings := by
  simp only [destroy, Dsos.destroy_dsoCount]

theorem deleteObjects_settings (st : DsoStatics) (d : LiveDso) :
    (st.deleteObjects d).settings =
      if (st.dsos.deleteObjects d).dsoCount = 0 then DsoSettings.initial else st.settings := by
  unfold deleteObjects Dsos.deleteObjects
  split
  · rw [destroy_settings, destroy_settings]
    simp only [destroy, Dsos.destroy_dsoCount]
    split_ifs <;> first | rfl | omega
  · exact destroy_settings st

theorem deleteObjects_dsos (st : DsoStatics) (d : LiveDso) :
    (st.deleteObjects d).dsos = st.dsos.deleteObjects d := by
  unfold deleteObjects Dsos.deleteObjects; split <;> rfl

/-- **A lifetime call.**  Its Dsos are those of `Dsos.step`, and the settings
    are reset exactly when a deletion leaves no Dso object. -/
theorem step_life (fs : FileSystem) (st : DsoStatics) (op : DsoLifeOp) :
    step fs st (.life op) = (st.dsos.step op).map fun r =>
      ⟨if op.isDeleteDso ∧ r.1.dsoCount = 0 then DsoSettings.initial else st.settings, r.1⟩ := by
  cases op with
  | deleteDso key =>
    simp only [step, Dsos.step, Option.map_map]
    congr 1; funext d
    simp [deleteObjects_settings, deleteObjects_dsos, DsoLifeOp.isDeleteDso]
  | _ => simp [step, DsoLifeOp.isDeleteDso]

end DsoStatics

/-! ## The settings over a run -/

/-- What the setters among `ops` make of the settings `s`. -/
def applySetters (fs : FileSystem) (ops : List DsoStaticsOp) (s : DsoSettings) : DsoSettings :=
  ops.foldl (fun s op => match op with
    | .set setter => setter.apply fs s
    | .life _ => s) s

/-- The calls made since the last deletion after which no Dso object is left
    (`dso_count_` is `0` in the lifetime model), when there was one. -/
def sinceLastRelease : Dsos → List DsoStaticsOp → Option (List DsoStaticsOp)
  | _, [] => none
  | s, .set _ :: ops => sinceLastRelease s ops
  | s, .life op :: ops =>
    match s.step op with
    | none => none
    | some (s', _) =>
      (sinceLastRelease s' ops).or (if op.isDeleteDso ∧ s'.dsoCount = 0 then some ops else none)

/-- **The static members last as long as some Dso lives.**  Over every run,
    the settings (`demangle_`, `vmlinux_`, `kallsyms_`,
    `read_kernel_symbols_from_proc_`, `build_id_map_` and the finder) are what
    the setters called since the last deletion that left no Dso make of the
    defaults; when no deletion did, they are what the setters of the run make
    of the settings before it.  So a setting made while no Dso lives is lost
    as soon as a Dso is created and released. -/
theorem settings_since_last_release (fs : FileSystem) (st st' : DsoStatics) (ops : List DsoStaticsOp)
    (h : DsoStatics.run fs st ops = some st') :
    st'.settings = match sinceLastRelease st.dsos ops with
      | some since => applySetters fs since DsoSettings.initial
      | none => applySetters fs ops st.settings := by
  induction ops generalizing st with
  | nil => cases h; rfl
  | cons op ops ih =>
    obtain ⟨st₁, h₁, h⟩ := Option.bind_eq_some.1 h
    have ih := ih st₁ h
    cases op with
    | set setter =>
      cases h₁
      exact ih
    | life op =>
      rw [DsoStatics.step_life] at h₁
      obtain ⟨⟨s', out⟩, hs, rfl⟩ := Option.map_eq_some'.1 h₁
      simp only [sinceLastRelease, hs, applySetters, List.foldl_cons] at ih ⊢
      cases hr : sinceLastRelease s' ops with
      | some since => simpa [hr] using ih
      | none =>
        rw [hr] at ih
        split_ifs at ih ⊢ <;> simpa [applySetters] using ih

/-- A kernel path set while no Dso lives, then a Dso created and released,
    then demangling turned off: only the last setting is left. -/
theorem settings_since_last_release_lost :
    let ops : List DsoStaticsOp := [.set (.setVmlinux "vmlinux"), .life (.createDso .kernel),
      .life (.deleteDso 0), .set (.setDemangle false)]
    ∃ st', DsoStatics.run FileSystem.dirsOnly ⟨DsoSettings.initial, Dsos.empty⟩ ops = some st' ∧
      st'.settings = { DsoSettings.initial with demangle := false } := by
  intro ops
  exact ⟨_, rfl, settings_since_last_release FileSystem.dirsOnly ⟨DsoSettings.initial, Dsos.empty⟩ _ ops rfl⟩

/-! ## Demangled names -/

/-- The calls that reach one symbol's name: `SetDemangle`, and
    `DemangledName` on the symbol. -/
inductive NameCall where
  | setDemangle (demangle : Bool)
  | demangledName

section
variable (cxaDemangle : String → Option String) (linkerPrefix : String) (name : String)

/-- A run of calls from `demangle_` and `demangled_name_`: the names the
    `DemangledName` calls return. -/
def nameRun : Bool → Option String → List NameCall → List String
  | _, _, [] => []
  | _, d?, .setDemangle b :: calls => nameRun b d? calls
  | flag, d?, .demangledName :: calls =>
    let r := demangledName cxaDemangle linkerPrefix flag d? name
    r.2 :: nameRun flag r.1 calls

/-- The flag `demangle_` holds at the first `DemangledName` of the run. -/
def flagAtFirstCall : Bool → List NameCall → Bool
  | flag, [] => flag
  | _, .setDemangle b :: calls => flagAtFirstCall b calls
  | flag, .demangledName :: _ => flag

theorem nameRun_cached (d : String) :
    ∀ (flag : Bool) (calls : List NameCall), ∀ r ∈ nameRun cxaDemangle linkerPrefix name flag (some d) calls, r = d
  | _, [] => by simp [nameRun]
  | _, .setDemangle b :: calls => nameRun_cached d b calls
  | flag, .demangledName :: calls => by
    simpa [nameRun, demangledName] using nameRun_cached d flag calls

/-- **A symbol keeps its first demangled name.**  In every run of
    `SetDemangle` and `DemangledName` calls on a symbol not yet asked for its
    name, each `DemangledName` returns `Demangle` of the name under the flag
    `demangle_` held at the first of them: a later `SetDemangle` no longer
    changes the symbol's name. -/
theorem demangledName_first_flag (flag : Bool) (calls : List NameCall) :
    ∀ r ∈ nameRun cxaDemangle linkerPrefix name flag none calls,
      r = demangle cxaDemangle linkerPrefix (flagAtFirstCall flag calls) name := by
  induction calls generalizing flag with
  | nil => simp [nameRun]
  | cons call calls ih =>
    cases call with
    | setDemangle b => exact ih b
    | demangledName =>
      simpa [nameRun, demangledName, flagAtFirstCall] using
        nameRun_cached cxaDemangle linkerPrefix name _ flag calls

end

/-- Demangling turned off after the first call: the linker symbol keeps the
    name demangled then. -/
theorem demangledName_first_flag_linker :
    (nameRun (fun s => if s = "_Z3foov" then some "foo()" else none) "__dl_" "__dl__Z3foov" true none
      [.demangledName, .setDemangle false, .demangledName]).all (· = "[linker]foo()") = true :=
  List.all_eq_true.2 fun r hr => decide_eq_true ((demangledName_first_flag _ _ _ true _ r hr).trans (by decide))

end Simpleperf
