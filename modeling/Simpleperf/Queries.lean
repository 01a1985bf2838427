/-
  The queries of `ReportLib` (`report_lib_interface.cpp`): `GetBuildIdForPath`
  and `GetFeatureSection` open the record file through
  `OpenRecordFileIfNecessary`, as `GetNextSample` does, and change nothing
  else.  The open fixes what the thread tree gets from the file under the
  name, static members and tree of that moment, so a query made before a
  call that changes them (`ReportCall.changesOpen`) can change what later
  samples show.

  * `openRecordFileIfNecessary_idem`: once the meta info section reads, a
    second open changes nothing, so `GetNextSample` after an open is
    `GetNextSample` (`getNextSample_openRecordFileIfNecessary`);
  * `step_upToOpen`: `GetNextSample` and `ShowArtFrames` return the same on
    a library and on that library after the open, and keep the two so;
  * `run_without_queries`: after the calls that set the library up, taking
    the queries out of a run takes out their answers and changes nothing
    the other calls return.
-/
import Simpleperf.SampleStream

namespace Simpleperf

/-- The calls that only ask about the record file. -/
def ReportCall.isQuery : ReportCall → Bool
  | .getBuildIdForPath _ | .getFeatureSection _ => true
  | _ => false

/-- What they return. -/
def ReportResult.isAnswer : ReportResult → Bool
  | .buildId _ | .featureSection _ => true
  | _ => false

/-- The calls that change what the open reads: the record file's name, the
    static members of `Dso` the file's Dsos are created and loaded under, and
    the thread tree they go into. -/
def ReportCall.changesOpen : ReportCall → Bool
  | .setRecordFile _ | .setSymfs _ | .setKallsymsFile _ | .showIpForUnknownSymbol => true
  | _ => false

namespace ReportLib

variable {T R : Type} (env : ReportEnv T R)

/-- The record file `CreateInstance` opens at `name`, if any, has no meta
    info section or one `ReadMetaInfoFeature` reads: the open does not fail
    after creating the reader. -/
def metaInfoReadable (name : String) : Bool :=
  match env.createInstance name with
  | some file => !file.hasMetaInfo || file.metaInfo.isSome
  | none => true

/-! ## The open -/

/-- The open leaves the library as it is, or creates a reader; it never
    changes the record file name. -/
theorem openRecordFileIfNecessary_fst_cases (rl : ReportLib T R) :
    (openRecordFileIfNecessary env rl).1 = rl ∨
      (openRecordFileIfNecessary env rl).1.recordFilename = rl.recordFilename ∧
        ∃ x, (openRecordFileIfNecessary env rl).1.recordFileReader = some x := by
  unfold openRecordFileIfNecessary
  split
  · exact .inl rfl
  · split
    · exact .inl rfl
    · rename_i file _
      exact .inr ⟨by dsimp only; split <;> rfl, (file, file.records), by dsimp only; split <;> rfl⟩

@[simp] theorem openRecordFileIfNecessary_recordFilename (rl : ReportLib T R) :
    (openRecordFileIfNecessary env rl).1.recordFilename = rl.recordFilename := by
  rcases openRecordFileIfNecessary_fst_cases env rl with h | ⟨h, -⟩
  · rw [h]
  · exact h

theorem openRecordFileIfNecessary_fst_idem (rl : ReportLib T R) :
    (openRecordFileIfNecessary env (openRecordFileIfNecessary env rl).1).1 =
      (openRecordFileIfNecessary env rl).1 := by
  rcases openRecordFileIfNecessary_fst_cases env rl with h | ⟨-, x, h⟩
  · rw [h, h]
  · rw [openRecordFileIfNecessary_of_reader env h]

/-- Where the meta info reads, the open succeeds exactly when it leaves a reader. -/
theorem openRecordFileIfNecessary_snd {rl : ReportLib T R} (h : metaInfoReadable env rl.recordFilename) :
    (openRecordFileIfNecessary env rl).2 = (openRecordFileIfNecessary env rl).1.recordFileReader.isSome := by
  rcases hr : rl.recordFileReader with _ | x
  · rcases hc : env.createInstance rl.recordFilename with _ | file
    · simp only [openRecordFileIfNecessary, hr, hc, Option.isSome_none]
    · obtain ⟨m, hm⟩ : ∃ m, (if file.hasMetaInfo then file.metaInfo else some fun _ => none) = some m := by
        have hread : (!file.hasMetaInfo || file.metaInfo.isSome) = true := by
          simpa only [metaInfoReadable, hc] using h
        split
        · rename_i hmi
          simp only [hmi, Bool.not_true, Bool.false_or] at hread
          exact Option.isSome_iff_exists.1 hread
        · exact ⟨_, rfl⟩
      simp only [openRecordFileIfNecessary, hr, hc, hm, Option.isSome_some]
  · simp only [openRecordFileIfNecessary, hr, Option.isSome_some]

/-- Where the meta info reads, a second open changes nothing. -/
theorem openRecordFileIfNecessary_idem {rl : ReportLib T R} (h : metaInfoReadable env rl.recordFilename) :
    openRecordFileIfNecessary env (openRecordFileIfNecessary env rl).1 = openRecordFileIfNecessary env rl := by
  have h' : metaInfoReadable env (openRecordFileIfNecessary env rl).1.recordFilename := by
    rwa [openRecordFileIfNecessary_recordFilename]
  rw [Prod.ext_iff, openRecordFileIfNecessary_snd env h', openRecordFileIfNecessary_snd env h,
    openRecordFileIfNecessary_fst_idem]
  exact ⟨rfl, rfl⟩

theorem getNextSample_openRecordFileIfNecessary {rl : ReportLib T R} (h : metaInfoReadable env rl.recordFilename) :
    getNextSample env (openRecordFileIfNecessary env rl).1 = getNextSample env rl := by
  unfold getNextSample
  rw [openRecordFileIfNecessary_idem env h]

theorem openRecordFileIfNecessary_showArtFrames (rl : ReportLib T R) (b : Bool) :
    openRecordFileIfNecessary env { rl with showArtFrames := b } =
      ({ (openRecordFileIfNecessary env rl).1 with showArtFrames := b }, (openRecordFileIfNecessary env rl).2) := by
  rcases hr : rl.recordFileReader with _ | x
  · rcases hc : env.createInstance rl.recordFilename with _ | file
    · simp only [openRecordFileIfNecessary, hr, hc]
    · rcases hm : (if file.hasMetaInfo then file.metaInfo else some fun _ => none) with _ | m <;>
        simp only [openRecordFileIfNecessary, hr, hc, hm]
  · simp only [openRecordFileIfNecessary, hr]

/-! ## One call -/

theorem step_isAnswer (rl : ReportLib T R) (call : ReportCall) :
    (step env rl call).2.isAnswer = call.isQuery := by
  cases call <;> try rfl
  simp only [step]; split <;> rfl

theorem step_query {call : ReportCall} (hq : call.isQuery = true) (rl : ReportLib T R) :
    (step env rl call).1 = (openRecordFileIfNecessary env rl).1 := by
  cases call with
  | getBuildIdForPath path => exact getBuildIdForPath_fst env rl path
  | getFeatureSection featureName => exact getFeatureSection_fst env rl featureName
  | _ => cases hq

theorem getNextSample_recordFilename (rl : ReportLib T R) :
    (getNextSample env rl).1.recordFilename = rl.recordFilename := by
  rw [← openRecordFileIfNecessary_recordFilename env rl]
  unfold getNextSample
  rcases openRecordFileIfNecessary env rl with ⟨rl', _ | _⟩
  · rfl
  · dsimp only
    rcases rl'.recordFileReader with _ | ⟨file, records⟩
    · rfl
    · dsimp only; split <;> rfl

theorem step_recordFilename (rl : ReportLib T R) {call : ReportCall} (h : call.changesOpen = false) :
    (step env rl call).1.recordFilename = rl.recordFilename := by
  cases call with
  | getNextSample => exact getNextSample_recordFilename env rl
  | getBuildIdForPath _ => simp only [step, getBuildIdForPath_fst, openRecordFileIfNecessary_recordFilename]
  | getFeatureSection _ => simp only [step, getFeatureSection_fst, openRecordFileIfNecessary_recordFilename]
  | showArtFrames _ => rfl
  | setRecordFile _ | setSymfs _ | setKallsymsFile _ | showIpForUnknownSymbol => cases h

/-- `GetNextSample` and `ShowArtFrames` return the same on a library and on
    the library after the open, and leave the two so. -/
theorem step_upToOpen {a b : ReportLib T R} {call : ReportCall} (hcall : call.isQuery = false)
    (hopen : call.changesOpen = false) (hmeta : metaInfoReadable env b.recordFilename)
    (hab : a = b ∨ a = (openRecordFileIfNecessary env b).1) :
    (step env a call).2 = (step env b call).2 ∧
      ((step env a call).1 = (step env b call).1 ∨
        (step env a call).1 = (openRecordFileIfNecessary env (step env b call).1).1) := by
  rcases hab with rfl | rfl
  · exact ⟨rfl, .inl rfl⟩
  cases call with
  | getNextSample => simp only [step, getNextSample_openRecordFileIfNecessary env hmeta, true_or, and_self]
  | showArtFrames x => exact ⟨rfl, .inr (congrArg Prod.fst (openRecordFileIfNecessary_showArtFrames env b x)).symm⟩
  | getBuildIdForPath _ | getFeatureSection _ => cases hcall
  | setRecordFile _ | setSymfs _ | setKallsymsFile _ | showIpForUnknownSymbol => cases hopen

/-! ## Runs with and without the queries -/

theorem run_append (rl : ReportLib T R) (calls calls' : List ReportCall) :
    run env rl (calls ++ calls') =
      ((run env (run env rl calls).1 calls').1, (run env rl calls).2 ++ (run env (run env rl calls).1 calls').2) := by
  induction calls generalizing rl with
  | nil => rfl
  | cons call calls ih => rw [List.cons_append, run, ih, run]; rfl

/-- Calls with no query return no answer. -/
theorem run_filter_isAnswer (rl : ReportLib T R) {calls : List ReportCall} (h : ∀ c ∈ calls, c.isQuery = false) :
    (run env rl calls).2.filter (fun r => !r.isAnswer) = (run env rl calls).2 :=
  List.filter_eq_self.2 fun r hr => by
    induction calls generalizing rl with
    | nil => cases hr
    | cons call calls ih =>
      rcases List.mem_cons.1 hr with rfl | hr
      · simp [step_isAnswer, h call (List.mem_cons_self _ _)]
      · exact ih _ (fun c hc => h c (List.mem_cons_of_mem _ hc)) hr

theorem run_upToOpen {a b : ReportLib T R} (calls : List ReportCall)
    (hopen : ∀ c ∈ calls, c.changesOpen = false) (hmeta : metaInfoReadable env b.recordFilename)
    (hab : a = b ∨ a = (openRecordFileIfNecessary env b).1) :
    (run env a calls).2.filter (fun r => !r.isAnswer) = (run env b (calls.filter fun c => !c.isQuery)).2 ∧
      ((run env a calls).1 = (run env b (calls.filter fun c => !c.isQuery)).1 ∨
        (run env a calls).1 = (openRecordFileIfNecessary env (run env b (calls.filter fun c => !c.isQuery)).1).1) := by
  induction calls generalizing a b with
  | nil => exact ⟨rfl, hab⟩
  | cons call calls ih =>
    have hc := hopen call (List.mem_cons_self _ _)
    have hopen' : ∀ c ∈ calls, c.changesOpen = false := fun c h => hopen c (List.mem_cons_of_mem _ h)
    cases hq : call.isQuery with
    | false =>
      obtain ⟨hr, hab'⟩ := step_upToOpen env hq hc hmeta hab
      obtain ⟨ih₁, ih₂⟩ := ih hopen' (by rwa [step_recordFilename env b hc]) hab'
      simp only [run, List.filter_cons, hq, step_isAnswer, hr, Bool.not_false, if_true, ih₁, true_and]
      exact ih₂
    | true =>
      have hab' : (step env a call).1 = b ∨ (step env a call).1 = (openRecordFileIfNecessary env b).1 := by
        rw [step_query env hq]
        rcases hab with rfl | rfl
        · exact .inr rfl
        · exact .inr (openRecordFileIfNecessary_fst_idem env b)
      obtain ⟨ih₁, ih₂⟩ := ih hopen' hmeta hab'
      simp only [run, List.filter_cons, hq, step_isAnswer, Bool.not_true]
      exact ⟨ih₁, ih₂⟩

/-- **The queries disturb nothing once the library is set up.**  Take a run
    of setup calls with no query, then any calls other than those that
    change the open (`SetRecordFile`, `SetSymfs`, `SetKallsymsFile`,
    `ShowIpForUnknownSymbol`), on a record file whose meta info reads.
    Taking out its `GetBuildIdForPath` and `GetFeatureSection` calls takes
    out their answers and changes nothing the other calls return: the same
    samples, from the same records, symbolized on the same thread tree.  The
    two runs end in one state, or in states one open makes equal.  A query
    opens the file under the name, static members and thread tree of its
    moment, so before the setup is done it could change later samples; it
    also takes the failure of an unreadable meta info section, which the
    next `GetNextSample` would otherwise report. -/
theorem run_without_queries (rl : ReportLib T R) (pre post : List ReportCall)
    (hpre : ∀ c ∈ pre, c.isQuery = false) (hpost : ∀ c ∈ post, c.changesOpen = false)
    (hmeta : metaInfoReadable env (run env rl pre).1.recordFilename) :
    let rest := (pre ++ post).filter fun c => !c.isQuery
    (run env rl (pre ++ post)).2.filter (fun r => !r.isAnswer) = (run env rl rest).2 ∧
      ((run env rl (pre ++ post)).1 = (run env rl rest).1 ∨
        (run env rl (pre ++ post)).1 = (openRecordFileIfNecessary env (run env rl rest).1).1) := by
  have hfilter : (pre ++ post).filter (fun c => !c.isQuery) = pre ++ post.filter fun c => !c.isQuery := by
    rw [List.filter_append, List.filter_eq_self.2 fun c hc => by rw [hpre c hc]; rfl]
  obtain ⟨h₁, h₂⟩ := run_upToOpen env post hpost hmeta (.inl rfl)
  dsimp only
  rw [hfilter, run_append, run_append, List.filter_append, run_filter_isAnswer env rl hpre]
  exact ⟨congrArg _ h₁, h₂⟩

end ReportLib

/-- A `GetBuildIdForPath` before the first `GetNextSample` on `commFile`,
    after a `ShowArtFrames` that sets the library up. -/
theorem run_without_queries_comm :
    (ReportLib.run commEnv (ReportLib.create (fun _ => "app") DsoConfig.initial)
        [.showArtFrames true, .getBuildIdForPath "/system/lib64/libc.so", .getNextSample]).2.filter
        (fun r => !r.isAnswer) =
      (ReportLib.run commEnv (ReportLib.create (fun _ => "app") DsoConfig.initial)
        [.showArtFrames true, .getNextSample]).2 :=
  (ReportLib.run_without_queries commEnv _ [.showArtFrames true]
    [.getBuildIdForPath "/system/lib64/libc.so", .getNextSample] (by simp [ReportCall.isQuery])
    (by simp [ReportCall.changesOpen]) rfl).1

end Simpleperf
