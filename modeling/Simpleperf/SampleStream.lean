/-
  The samples `ReportLib` returns over a whole record file.

  * `getNextSamples` calls `GetNextSample` until it returns null;
    `reportRecords` reads the records left in one pass, reporting a sample
    where the calls do: at once, or under `trace_offcpu_` when the next sample
    of its thread is read, on the thread tree of that moment;
  * `getNextSamples_eq`: with enough calls, the calls report what the one
    pass reports (`reportRecords_eq_loop` is the step: one call is the pass up
    to its first report); `getNextSamples_symbolize_at_next` is its case
    under `trace_offcpu_`;
  * `getNextSamples_keys`: which samples come back, in which order and with
    which period: every sample in record order, or under `trace_offcpu_`
    each sample with a later one on its thread (`deferredPairs`), with
    period `max(next - time, 1)` unless `time` is `2^64 - 1`;
  * `run_reader`: over every run of calls, a reader once opened keeps its
    file and only moves on through its records (`step_reader` is the step);
  * `run_samples_conserved`: however `GetNextSample` is interleaved with the
    other calls, the samples it returns and those of the records left are
    the samples of the file, none lost, repeated or reordered
    (`step_of_open` says once what a call does on an open file);
  * at fixed inputs: a deferred sample shows a comm its thread only got
    after it (`deferred_sample_sees_later_comm`), a period of `0` at the top
    of the clock (`offcpu_period_zero_at_max_time`), and a sample read from a
    file whose meta info could not be read (`meta_info_failure_then_sample`).
-/
import Simpleperf.ReportLib

namespace Simpleperf

namespace ReportLib

variable {T R : Type} (env : ReportEnv T R)

/-! ## Calling `GetNextSample` until it returns null -/

/-- `GetNextSample` called until it returns null, at most `fuel` times: the
    samples returned, and the library after. -/
def getNextSamples : Nat → ReportLib T R → List CurrentSample × ReportLib T R
  | 0, rl => ([], rl)
  | fuel + 1, rl =>
    match getNextSample env rl with
    | (rl, none) => ([], rl)
    | (rl, some current) =>
      let r := getNextSamples fuel rl
      (current :: r.1, r.2)

/-- The samples reported from the records left, read in one pass from a
    thread tree and a `next_sample_cache_`: every record updates the tree; a
    sample is reported at once, or under `trace_offcpu_` when the next
    sample of its thread is read, symbolized on the tree of that moment. -/
def reportRecords (cfg : DsoConfig) (file : RecordFile R) (traceOffcpu showArtFrames : Bool) :
    T → (UInt32 → Option SampleRecord) → List (Record R) → List CurrentSample
  | _, _, [] => []
  | tree, cache, record :: records =>
    match record with
    | .other _ => reportRecords cfg file traceOffcpu showArtFrames (env.update cfg tree record) cache records
    | .sample r =>
      if traceOffcpu then
        match cache r.tid with
        | none =>
          reportRecords cfg file traceOffcpu showArtFrames (env.update cfg tree record)
            (Function.update cache r.tid (some r)) records
        | some prev =>
          let cache := Function.update cache r.tid (some r)
          let x := setCurrentSample env cfg file true showArtFrames cache (env.update cfg tree record) prev
          x.2 :: reportRecords cfg file traceOffcpu showArtFrames x.1 cache records
      else
        let x := setCurrentSample env cfg file false showArtFrames cache (env.update cfg tree record) r
        x.2 :: reportRecords cfg file traceOffcpu showArtFrames x.1 cache records

/-! ## One call is the pass up to its first report -/

section
variable {cfg : DsoConfig} {file : RecordFile R} {traceOffcpu showArtFrames : Bool}

/-- The pass reports nothing before the loop of `GetNextSample` stops, and
    goes on from where the loop stopped. -/
theorem reportRecords_eq_loop (tree : T) (cache : UInt32 → Option SampleRecord) (records : List (Record R)) :
    reportRecords env cfg file traceOffcpu showArtFrames tree cache records =
      match nextSampleLoop env cfg traceOffcpu tree cache records with
      | (_, none) => []
      | ((tree, cache, records), some r) =>
        let x := setCurrentSample env cfg file traceOffcpu showArtFrames cache tree r
        x.2 :: reportRecords env cfg file traceOffcpu showArtFrames x.1 cache records := by
  induction records generalizing tree cache with
  | nil => rfl
  | cons record records ih =>
    cases record with
    | other _ => rw [reportRecords, nextSampleLoop, ih]
    | sample r =>
      rw [reportRecords, nextSampleLoop]
      cases traceOffcpu
      · rfl
      · simp only [if_true]
        cases cache r.tid with
        | none => rw [ih]
        | some prev => rfl

/-- A call that reports a sample reads at least one record. -/
theorem nextSampleLoop_length {tree : T} {cache : UInt32 → Option SampleRecord} {records : List (Record R)}
    {r : SampleRecord} (h : (nextSampleLoop env cfg traceOffcpu tree cache records).2 = some r) :
    (nextSampleLoop env cfg traceOffcpu tree cache records).1.2.2.length < records.length := by
  induction records generalizing tree cache with
  | nil => cases h
  | cons record records ih =>
    cases record with
    | other _ => rw [nextSampleLoop] at h ⊢; exact Nat.lt_succ_of_lt (ih h)
    | sample s =>
      rw [nextSampleLoop] at h ⊢
      cases traceOffcpu
      · exact Nat.lt_succ_self _
      · simp only [if_true] at h ⊢
        rcases hc : cache s.tid with _ | prev <;> simp only [hc] at h ⊢
        · exact Nat.lt_succ_of_lt (ih h)
        · exact Nat.lt_succ_self _

end

theorem openRecordFileIfNecessary_of_reader {rl : ReportLib T R} {x : RecordFile R × List (Record R)}
    (h : rl.recordFileReader = some x) : openRecordFileIfNecessary env rl = (rl, true) := by
  simp [openRecordFileIfNecessary, h]

/-- With enough calls, `GetNextSample` called until it returns null
    returns the samples of the one pass `reportRecords` over the records left. -/
theorem getNextSamples_eq (rl : ReportLib T R) (file : RecordFile R) (records : List (Record R))
    (h : rl.recordFileReader = some (file, records)) (fuel : Nat) (hf : records.length < fuel) :
    (getNextSamples env fuel rl).1 =
      reportRecords env rl.dsoConfig file rl.traceOffcpu rl.showArtFrames rl.threadTree rl.nextSampleCache records := by
  induction fuel generalizing rl records with
  | zero => cases hf
  | succ fuel ih =>
    rw [reportRecords_eq_loop]
    simp only [getNextSamples, getNextSample, openRecordFileIfNecessary_of_reader env h, h]
    rcases hr : nextSampleLoop env rl.dsoConfig rl.traceOffcpu rl.threadTree rl.nextSampleCache records with
      ⟨⟨tree, cache, rest⟩, _ | r⟩
    · rfl
    · have hlen := nextSampleLoop_length env
        (show (nextSampleLoop env rl.dsoConfig rl.traceOffcpu rl.threadTree rl.nextSampleCache records).2 = some r by rw [hr])
      rw [hr] at hlen
      simp only at hlen ⊢
      rw [ih _ rest rfl (by omega)]

/-- **Samples are symbolized late under `trace_offcpu_`.**  Called until it
    returns null, more times than there are records left, `GetNextSample`
    returns each sample that has a later sample on its thread, symbolized
    on the thread tree as it stands once that later sample has been read. -/
theorem getNextSamples_symbolize_at_next (rl : ReportLib T R) (file : RecordFile R)
    (records : List (Record R)) (h : rl.recordFileReader = some (file, records))
    (hoff : rl.traceOffcpu = true) (fuel : Nat) (hf : records.length < fuel) :
    (getNextSamples env fuel rl).1 =
      reportRecords env rl.dsoConfig file true rl.showArtFrames rl.threadTree rl.nextSampleCache records := by
  rw [← hoff]
  exact getNextSamples_eq env rl file records h fuel hf

end ReportLib

/-! ## Which samples come back -/

/-- A returned sample by what its order and period are about: its process,
    thread, time and period. -/
def CurrentSample.key (c : CurrentSample) : UInt32 × UInt32 × UInt64 × UInt64 :=
  (c.sample.pid, c.sample.tid, c.sample.time, c.sample.period)

/-- The samples among the records, in record order. -/
def sampleRecords {R : Type} : List (Record R) → List SampleRecord :=
  List.filterMap fun
    | .sample r => some r
    | .other _ => none

@[simp] theorem sampleRecords_nil {R : Type} : sampleRecords ([] : List (Record R)) = [] := rfl

@[simp] theorem sampleRecords_sample {R : Type} (r : SampleRecord) (records : List (Record R)) :
    sampleRecords (.sample r :: records) = r :: sampleRecords records := rfl

@[simp] theorem sampleRecords_other {R : Type} (x : R) (records : List (Record R)) :
    sampleRecords (.other x :: records) = sampleRecords records := rfl

/-- Modelled from the rule of `trace_offcpu`: each sample with the next
    sample of its thread, in the order of the later ones; `seen` holds the
    samples read before, the latest first. -/
def deferredPairs : List SampleRecord → List SampleRecord → List (SampleRecord × SampleRecord)
  | _, [] => []
  | seen, s :: ss =>
    match seen.find? (·.tid = s.tid) with
    | some p => (p, s) :: deferredPairs (s :: seen) ss
    | none => deferredPairs (s :: seen) ss

/-- The `next_sample_cache_` that the samples of `seen` leave, the latest first. -/
def cacheOf (seen : List SampleRecord) (tid : UInt32) : Option SampleRecord :=
  seen.find? (·.tid = tid)

theorem cacheOf_cons (s : SampleRecord) (seen : List SampleRecord) :
    cacheOf (s :: seen) = Function.update (cacheOf seen) s.tid (some s) := by
  funext tid
  by_cases h : tid = s.tid
  · subst h; simp [cacheOf]
  · simp [cacheOf, Function.update, h, Ne.symm h]

theorem cacheOf_tid {seen : List SampleRecord} {tid : UInt32} {p : SampleRecord}
    (h : cacheOf seen tid = some p) : p.tid = tid := by
  simpa using List.find?_some h

/-- `max(next_time, time + 1) - time` is `max(next_time - time, 1)` in exact
    arithmetic, unless `time + 1` wraps. -/
theorem offcpuPeriod_toNat (time nextTime : UInt64) (h : time.toNat < 2 ^ 64 - 1) :
    (ReportLib.offcpuPeriod time nextTime).toNat = max (nextTime.toNat - time.toNat) 1 := by
  have h1 : (time + 1).toNat = time.toNat + 1 := by
    rw [u64_toNat_add]; have : (1 : UInt64).toNat = 1 := rfl; omega
  have hmax : max nextTime (time + 1) = if nextTime ≤ time + 1 then time + 1 else nextTime := rfl
  rw [ReportLib.offcpuPeriod, hmax]
  split
  · rename_i hm
    rw [u64_le_iff, h1] at hm
    rw [u64_toNat_sub (by rw [u64_le_iff, h1]; omega), h1]; omega
  · rename_i hm
    rw [u64_le_iff, h1] at hm
    rw [u64_toNat_sub (by rw [u64_le_iff]; omega)]; omega

namespace ReportLib

variable {T R : Type} (env : ReportEnv T R)

@[simp] theorem setCurrentSample_key (cfg : DsoConfig) (file : RecordFile R) (traceOffcpu showArtFrames : Bool)
    (cache : UInt32 → Option SampleRecord) (tree : T) (r : SampleRecord) :
    (setCurrentSample env cfg file traceOffcpu showArtFrames cache tree r).2.key =
      (r.pid, r.tid, r.time,
        if traceOffcpu then offcpuPeriod r.time (((cache r.tid).map (·.time)).getD 0) else r.period) :=
  rfl

/-- Without `trace_offcpu_`, the pass reports every sample, in record order,
    with its own period. -/
theorem reportRecords_keys (cfg : DsoConfig) (file : RecordFile R) (showArtFrames : Bool) (tree : T)
    (cache : UInt32 → Option SampleRecord) (records : List (Record R)) :
    (reportRecords env cfg file false showArtFrames tree cache records).map CurrentSample.key =
      (sampleRecords records).map fun r => (r.pid, r.tid, r.time, r.period) := by
  induction records generalizing tree with
  | nil => rfl
  | cons record records ih =>
    cases record with
    | other _ => exact ih _
    | sample r =>
      simp only [reportRecords, Bool.false_eq_true, if_false, List.map_cons, setCurrentSample_key,
        sampleRecords_sample, ih]

/-- Under `trace_offcpu_`, the pass reports the pairs of `deferredPairs`:
    the earlier sample, with the later one's time in its period. -/
theorem reportRecords_offcpu_keys (cfg : DsoConfig) (file : RecordFile R) (showArtFrames : Bool) (tree : T)
    (seen : List SampleRecord) (records : List (Record R)) :
    (reportRecords env cfg file true showArtFrames tree (cacheOf seen) records).map CurrentSample.key =
      (deferredPairs seen (sampleRecords records)).map fun ps =>
        (ps.1.pid, ps.1.tid, ps.1.time, offcpuPeriod ps.1.time ps.2.time) := by
  induction records generalizing tree seen with
  | nil => rfl
  | cons record records ih =>
    cases record with
    | other _ => exact ih _ _
    | sample s =>
      have hd : deferredPairs seen (s :: sampleRecords records) =
          match cacheOf seen s.tid with
          | some p => (p, s) :: deferredPairs (s :: seen) (sampleRecords records)
          | none => deferredPairs (s :: seen) (sampleRecords records) := rfl
      simp only [reportRecords, if_true, sampleRecords_sample, hd]
      rcases hc : cacheOf seen s.tid with _ | p
      · rw [← cacheOf_cons, ih]
      · have hp := cacheOf_tid hc
        simp only [List.map_cons, setCurrentSample_key, if_true, ← cacheOf_cons, ih, hp]
        simp [cacheOf]

/-- **Which samples come back.**  Called until it returns null, more times
    than there are records left, `GetNextSample` returns every sample in
    record order with its own period; under `trace_offcpu_`, from an empty
    `next_sample_cache_`, it returns each sample that has a later sample on
    its thread, in the order of the later ones, with period
    `max(next - time, 1)` unless `time` is `2^64 - 1`. -/
theorem getNextSamples_keys (rl : ReportLib T R) (file : RecordFile R) (records : List (Record R))
    (h : rl.recordFileReader = some (file, records)) (fuel : Nat) (hf : records.length < fuel) :
    (rl.traceOffcpu = false →
      (getNextSamples env fuel rl).1.map CurrentSample.key =
        (sampleRecords records).map fun r => (r.pid, r.tid, r.time, r.period)) ∧
    (rl.traceOffcpu = true → rl.nextSampleCache = (fun _ => none) →
      (getNextSamples env fuel rl).1.map CurrentSample.key =
        (deferredPairs [] (sampleRecords records)).map (fun ps =>
          (ps.1.pid, ps.1.tid, ps.1.time, offcpuPeriod ps.1.time ps.2.time)) ∧
      ∀ ps ∈ deferredPairs [] (sampleRecords records), ps.1.time.toNat < 2 ^ 64 - 1 →
        (offcpuPeriod ps.1.time ps.2.time).toNat = max (ps.2.time.toNat - ps.1.time.toNat) 1) := by
  rw [getNextSamples_eq env rl file records h fuel hf]
  refine ⟨fun hoff => ?_, fun hoff hc => ⟨?_, fun ps _ => offcpuPeriod_toNat ps.1.time ps.2.time⟩⟩
  · rw [hoff]
    exact reportRecords_keys env _ file _ _ _ records
  · rw [hoff, hc]
    exact reportRecords_offcpu_keys env _ file _ _ [] records

/-! ## The record reader over every run of calls -/

/-- The reader `r'` is the reader `r` moved on: no reader still, or the same
    file with a suffix of the records left. -/
def Advances : Option (RecordFile R × List (Record R)) → Option (RecordFile R × List (Record R)) → Prop
  | none, r' => r' = none
  | some (file, rest), r' => ∃ rest', r' = some (file, rest') ∧ rest' <:+ rest

theorem advances_refl (r : Option (RecordFile R × List (Record R))) : Advances r r := by
  rcases r with _ | ⟨file, rest⟩
  · rfl
  · exact ⟨rest, rfl, List.suffix_refl _⟩

/-- A reader, if any, reads a file `CreateInstance` returned, with a suffix of
    its records left. -/
def ReaderOk (r : Option (RecordFile R × List (Record R))) : Prop :=
  ∀ file rest, r = some (file, rest) → (∃ name, env.createInstance name = some file) ∧ rest <:+ file.records

theorem ReaderOk.advances {r r' : Option (RecordFile R × List (Record R))} (h : ReaderOk env r)
    (ha : Advances r r') : ReaderOk env r' := by
  rcases r with _ | ⟨file, rest⟩
  · cases ha; intro _ _ h'; cases h'
  · obtain ⟨rest', rfl, hs⟩ := ha
    intro file' rest'' h'
    cases h'
    exact ⟨(h file rest rfl).1, hs.trans (h file rest rfl).2⟩

theorem nextSampleLoop_suffix (cfg : DsoConfig) (traceOffcpu : Bool) (tree : T) (cache : UInt32 → Option SampleRecord)
    (records : List (Record R)) : (nextSampleLoop env cfg traceOffcpu tree cache records).1.2.2 <:+ records := by
  induction records generalizing tree cache with
  | nil => exact List.suffix_refl _
  | cons record records ih =>
    cases record with
    | other _ => rw [nextSampleLoop]; exact (ih _ _).trans (List.suffix_cons _ _)
    | sample r =>
      rw [nextSampleLoop]
      cases traceOffcpu
      · exact List.suffix_cons _ _
      · simp only [if_true]
        cases cache r.tid with
        | none => exact (ih _ _).trans (List.suffix_cons _ _)
        | some prev => exact List.suffix_cons _ _

/-- The open keeps a reader, or creates one over all the records of the file
    `CreateInstance` returns. -/
theorem openRecordFileIfNecessary_reader (rl : ReportLib T R) :
    (openRecordFileIfNecessary env rl).1.recordFileReader = rl.recordFileReader ∨
      (rl.recordFileReader = none ∧ ∃ file, env.createInstance rl.recordFilename = some file ∧
        (openRecordFileIfNecessary env rl).1.recordFileReader = some (file, file.records)) := by
  unfold openRecordFileIfNecessary
  rcases h : rl.recordFileReader with _ | x
  · rcases hc : env.createInstance rl.recordFilename with _ | file
    · exact .inl h
    · exact .inr ⟨rfl, file, rfl, by dsimp only; split <;> rfl⟩
  · exact .inl h

theorem readerOk_open {rl : ReportLib T R} (h : ReaderOk env rl.recordFileReader) :
    ReaderOk env (openRecordFileIfNecessary env rl).1.recordFileReader := by
  rcases openRecordFileIfNecessary_reader env rl with he | ⟨-, file, hc, he⟩ <;> rw [he]
  · exact h
  · rintro _ _ ⟨⟩
    exact ⟨⟨_, hc⟩, List.suffix_refl _⟩

theorem getNextSample_advances (rl : ReportLib T R) :
    Advances (openRecordFileIfNecessary env rl).1.recordFileReader (getNextSample env rl).1.recordFileReader := by
  unfold getNextSample
  rcases openRecordFileIfNecessary env rl with ⟨rl', _ | _⟩
  · exact advances_refl _
  · dsimp only
    rcases h : rl'.recordFileReader with _ | ⟨file, records⟩
    · exact h
    · dsimp only
      have hs := nextSampleLoop_suffix env rl'.dsoConfig rl'.traceOffcpu rl'.threadTree rl'.nextSampleCache records
      rcases hl : nextSampleLoop env rl'.dsoConfig rl'.traceOffcpu rl'.threadTree rl'.nextSampleCache records with
        ⟨⟨tree, cache, rest⟩, _ | r⟩ <;> rw [hl] at hs <;> exact ⟨rest, rfl, hs⟩

@[simp] theorem getBuildIdForPath_fst (rl : ReportLib T R) (path : String) :
    (getBuildIdForPath env rl path).1 = (openRecordFileIfNecessary env rl).1 := by
  unfold getBuildIdForPath
  rcases openRecordFileIfNecessary env rl with ⟨rl', _ | _⟩ <;> rfl

@[simp] theorem getFeatureSection_fst (rl : ReportLib T R) (featureName : String) :
    (getFeatureSection env rl featureName).1 = (openRecordFileIfNecessary env rl).1 := by
  unfold getFeatureSection
  rcases openRecordFileIfNecessary env rl with ⟨rl', _ | _⟩
  · rfl
  · dsimp only; split <;> rfl

/-- One call moves the reader on from the one before it, or, for the calls
    that open the record file, from the one the open leaves. -/
theorem step_reader (rl : ReportLib T R) (call : ReportCall) :
    ∃ r₀, (r₀ = rl.recordFileReader ∨ r₀ = (openRecordFileIfNecessary env rl).1.recordFileReader) ∧
      Advances r₀ (step env rl call).1.recordFileReader := by
  cases call with
  | getNextSample => exact ⟨_, .inr rfl, getNextSample_advances env rl⟩
  | getBuildIdForPath path =>
    exact ⟨_, .inr rfl, by rw [step, getBuildIdForPath_fst]; exact advances_refl _⟩
  | getFeatureSection featureName =>
    exact ⟨_, .inr rfl, by rw [step, getFeatureSection_fst]; exact advances_refl _⟩
  | setSymfs symfsDir => exact ⟨_, .inl rfl, by rw [step]; split; exact advances_refl _⟩
  | setKallsymsFile kallsymsFile => exact ⟨_, .inl rfl, by rw [step]; split <;> exact advances_refl _⟩
  | setRecordFile _ | showIpForUnknownSymbol | showArtFrames _ => exact ⟨_, .inl rfl, advances_refl _⟩

theorem step_readerOk {rl : ReportLib T R} (call : ReportCall) (h : ReaderOk env rl.recordFileReader) :
    ReaderOk env (step env rl call).1.recordFileReader := by
  obtain ⟨r₀, rfl | rfl, ha⟩ := step_reader env rl call
  · exact h.advances env ha
  · exact (readerOk_open env h).advances env ha

theorem step_keeps_reader {rl : ReportLib T R} {file : RecordFile R} {rest : List (Record R)}
    (h : rl.recordFileReader = some (file, rest)) (call : ReportCall) :
    ∃ rest', (step env rl call).1.recordFileReader = some (file, rest') ∧ rest' <:+ rest := by
  obtain ⟨r₀, rfl | rfl, ha⟩ := step_reader env rl call
  · rw [h] at ha; exact ha
  · rw [openRecordFileIfNecessary_of_reader env h, h] at ha; exact ha

/-- **The record reader only moves on.**  Over every run of calls, a reader
    once opened is never dropped or replaced and keeps a suffix of the
    records it had left: no record is read twice, and a `SetRecordFile`
    after the open changes nothing that is read.  From `CreateReportLib`,
    every reader reads a file `CreateInstance` returned, with a suffix of its
    records left. -/
theorem run_reader (tree : T) (cfg : DsoConfig) (rl : ReportLib T R) (calls : List ReportCall) :
    (∀ file rest, rl.recordFileReader = some (file, rest) →
      ∃ rest', (run env rl calls).1.recordFileReader = some (file, rest') ∧ rest' <:+ rest) ∧
    ∀ file rest, (run env (create tree cfg) calls).1.recordFileReader = some (file, rest) →
      (∃ name, env.createInstance name = some file) ∧ rest <:+ file.records := by
  refine ⟨?_, ?_⟩
  · induction calls generalizing rl with
    | nil => exact fun file rest h => ⟨rest, h, List.suffix_refl _⟩
    | cons call calls ih =>
      intro file rest h
      obtain ⟨rest₁, h₁, hs₁⟩ := step_keeps_reader env h call
      obtain ⟨rest', h', hs'⟩ := ih _ file rest₁ h₁
      exact ⟨rest', h', hs'.trans hs₁⟩
  · suffices ∀ rl : ReportLib T R, ReaderOk env rl.recordFileReader →
        ReaderOk env (run env rl calls).1.recordFileReader from this _ fun _ _ h => by cases h
    induction calls with
    | nil => exact fun _ h => h
    | cons call calls ih => exact fun rl h => ih _ (step_readerOk env call h)

end ReportLib

/-! ## Samples over every run of calls -/

/-- The samples a call returned: the one a `GetNextSample` returned, if any. -/
def ReportResult.samples : ReportResult → List CurrentSample
  | .sample (some c) => [c]
  | _ => []

namespace ReportLib

variable {T R : Type} (env : ReportEnv T R)

/-- The samples the one pass over the records left would report from this
    state: what the later `GetNextSample` calls return if no other call comes
    between them. -/
def pendingSamples (rl : ReportLib T R) : List CurrentSample :=
  match rl.recordFileReader with
  | some (file, records) =>
    reportRecords env rl.dsoConfig file rl.traceOffcpu rl.showArtFrames rl.threadTree rl.nextSampleCache records
  | none => []

/-- Which samples the pass reports, and their periods, depend neither on the
    thread tree nor on `show_art_frames_`. -/
theorem reportRecords_keys_indep (cfg cfg' : DsoConfig) (file : RecordFile R) (traceOffcpu : Bool) (b b' : Bool)
    (tree tree' : T) (cache : UInt32 → Option SampleRecord) (records : List (Record R)) :
    (reportRecords env cfg file traceOffcpu b tree cache records).map CurrentSample.key =
      (reportRecords env cfg' file traceOffcpu b' tree' cache records).map CurrentSample.key := by
  induction records generalizing tree tree' cache with
  | nil => rfl
  | cons record records ih =>
    cases record with
    | other _ => exact ih _ _ _
    | sample r =>
      cases traceOffcpu
      · simp only [reportRecords, Bool.false_eq_true, if_false, List.map_cons, setCurrentSample_key]
        exact congrArg (List.cons _) (ih _ _ _)
      · simp only [reportRecords, if_true]
        cases cache r.tid with
        | none => exact ih _ _ _
        | some prev =>
          simp only [List.map_cons, setCurrentSample_key]
          exact congrArg (List.cons _) (ih _ _ _)

/-- The loop returns no sample only at the end of the records. -/
theorem nextSampleLoop_none {cfg : DsoConfig} {traceOffcpu : Bool} {tree : T} {cache : UInt32 → Option SampleRecord}
    {records : List (Record R)} (h : (nextSampleLoop env cfg traceOffcpu tree cache records).2 = none) :
    (nextSampleLoop env cfg traceOffcpu tree cache records).1.2.2 = [] := by
  induction records generalizing tree cache with
  | nil => rfl
  | cons record records ih =>
    cases record with
    | other _ => rw [nextSampleLoop] at h ⊢; exact ih h
    | sample s =>
      rw [nextSampleLoop] at h ⊢
      cases traceOffcpu
      · cases h
      · simp only [if_true] at h ⊢
        rcases hc : cache s.tid with _ | prev <;> simp only [hc] at h ⊢
        · exact ih h
        · cases h

/-- A `GetNextSample` on an open file returns the first sample of the pass,
    and the pass from the state it leaves is the rest. -/
theorem getNextSample_pending {rl : ReportLib T R} {x : RecordFile R × List (Record R)}
    (h : rl.recordFileReader = some x) :
    (getNextSample env rl).2.toList ++ pendingSamples env (getNextSample env rl).1 = pendingSamples env rl := by
  obtain ⟨file, records⟩ := x
  simp only [getNextSample, openRecordFileIfNecessary_of_reader env h, h, pendingSamples]
  rw [reportRecords_eq_loop]
  rcases hl : nextSampleLoop env rl.dsoConfig rl.traceOffcpu rl.threadTree rl.nextSampleCache records with
    ⟨⟨tree, cache, rest⟩, _ | r⟩
  · obtain rfl : rest = [] := by simpa [hl] using nextSampleLoop_none env (congrArg Prod.snd hl)
    rfl
  · rfl

theorem getNextSample_traceOffcpu {rl : ReportLib T R} {x : RecordFile R × List (Record R)}
    (h : rl.recordFileReader = some x) : (getNextSample env rl).1.traceOffcpu = rl.traceOffcpu := by
  obtain ⟨file, records⟩ := x
  simp only [getNextSample, openRecordFileIfNecessary_of_reader env h, h]
  split <;> rfl

/-- Under `trace_offcpu_`, the loop leaves a `next_sample_cache_` holding the
    latest sample of each thread read so far. -/
theorem nextSampleLoop_cacheOf (cfg : DsoConfig) (tree : T) (seen : List SampleRecord) (records : List (Record R)) :
    ∃ seen', (nextSampleLoop env cfg true tree (cacheOf seen) records).1.2.1 = cacheOf seen' := by
  induction records generalizing tree seen with
  | nil => exact ⟨seen, rfl⟩
  | cons record records ih =>
    cases record with
    | other _ => exact ih _ _
    | sample s =>
      rw [nextSampleLoop, if_pos rfl, ← cacheOf_cons]
      cases cacheOf seen s.tid with
      | none => exact ih _ _
      | some prev => exact ⟨s :: seen, rfl⟩

/-- **What a call does on an open record file**: a `GetNextSample`, or a
    call that keeps the reader and `next_sample_cache_` and returns no sample;
    none changes `trace_offcpu_`. -/
theorem step_of_open {rl : ReportLib T R} {x : RecordFile R × List (Record R)}
    (h : rl.recordFileReader = some x) (call : ReportCall) :
    (step env rl call).1.traceOffcpu = rl.traceOffcpu ∧
      (step env rl call = ((getNextSample env rl).1, .sample (getNextSample env rl).2) ∨
        ((step env rl call).1.recordFileReader = rl.recordFileReader ∧
          (step env rl call).1.nextSampleCache = rl.nextSampleCache ∧ (step env rl call).2.samples = [])) := by
  cases call with
  | getNextSample => exact ⟨getNextSample_traceOffcpu env h, .inl rfl⟩
  | getBuildIdForPath path =>
    have he : (step env rl (.getBuildIdForPath path)).1 = rl := by
      rw [step, getBuildIdForPath_fst, openRecordFileIfNecessary_of_reader env h]
    rw [he]; exact ⟨rfl, .inr ⟨rfl, rfl, rfl⟩⟩
  | getFeatureSection featureName =>
    have he : (step env rl (.getFeatureSection featureName)).1 = rl := by
      rw [step, getFeatureSection_fst, openRecordFileIfNecessary_of_reader env h]
    rw [he]; exact ⟨rfl, .inr ⟨rfl, rfl, rfl⟩⟩
  | setKallsymsFile kallsymsFile =>
    simp only [step]
    split <;> exact ⟨rfl, .inr ⟨rfl, rfl, rfl⟩⟩
  | setSymfs _ | setRecordFile _ | showIpForUnknownSymbol | showArtFrames _ =>
    exact ⟨rfl, .inr ⟨rfl, rfl, rfl⟩⟩

/-- Every call keeps which samples are to come, and a `GetNextSample` takes
    the first of them. -/
theorem step_pending_keys {rl : ReportLib T R} {x : RecordFile R × List (Record R)}
    (h : rl.recordFileReader = some x) (call : ReportCall) :
    ((step env rl call).2.samples ++ pendingSamples env (step env rl call).1).map CurrentSample.key =
      (pendingSamples env rl).map CurrentSample.key := by
  obtain ⟨ht, hs | ⟨hr, hc, hn⟩⟩ := step_of_open env h call
  · rw [hs, ← getNextSample_pending env h]
    cases (getNextSample env rl).2 <;> rfl
  · obtain ⟨file, records⟩ := x
    rw [hn, List.nil_append, pendingSamples, pendingSamples, hr, h, ht, hc]
    exact reportRecords_keys_indep env _ _ file _ _ _ _ _ _ records

/-- Over every run of calls on an open record file, the samples returned
    and the samples to come are the samples that were to come. -/
theorem run_pending_keys {rl : ReportLib T R} {x : RecordFile R × List (Record R)}
    (h : rl.recordFileReader = some x) (calls : List ReportCall) :
    ((run env rl calls).2.flatMap ReportResult.samples ++ pendingSamples env (run env rl calls).1).map
      CurrentSample.key = (pendingSamples env rl).map CurrentSample.key := by
  induction calls generalizing rl x with
  | nil => rfl
  | cons call calls ih =>
    obtain ⟨file, rest⟩ := x
    obtain ⟨rest₁, h₁, -⟩ := step_keeps_reader env h call
    simp only [run, List.flatMap_cons, List.append_assoc, List.map_append] at ih ⊢
    rw [ih h₁, ← List.map_append, step_pending_keys env h call]

theorem getNextSample_cacheOf {rl : ReportLib T R} {x : RecordFile R × List (Record R)}
    (h : rl.recordFileReader = some x) (ht : rl.traceOffcpu = true) {seen : List SampleRecord}
    (hc : rl.nextSampleCache = cacheOf seen) :
    ∃ seen', (getNextSample env rl).1.nextSampleCache = cacheOf seen' := by
  obtain ⟨file, records⟩ := x
  obtain ⟨seen', hs⟩ := nextSampleLoop_cacheOf env rl.dsoConfig rl.threadTree seen records
  simp only [getNextSample, openRecordFileIfNecessary_of_reader env h, h]
  rw [ht, hc] at *
  rcases hl : nextSampleLoop env rl.dsoConfig true rl.threadTree (cacheOf seen) records with
    ⟨⟨tree, cache, rest⟩, _ | r⟩ <;> rw [hl] at hs <;> exact ⟨seen', hs⟩

/-- Over every run of calls on an open record file, the file stays open on
    a suffix of its records, `trace_offcpu_` keeps its value, and under it
    `next_sample_cache_` keeps the latest sample of each thread read. -/
theorem run_of_open {rl : ReportLib T R} {file : RecordFile R} {records : List (Record R)}
    (h : rl.recordFileReader = some (file, records)) (calls : List ReportCall) :
    ∃ rest, (run env rl calls).1.recordFileReader = some (file, rest) ∧ rest <:+ records ∧
      (run env rl calls).1.traceOffcpu = rl.traceOffcpu ∧
      (rl.traceOffcpu = true → ∀ seen, rl.nextSampleCache = cacheOf seen →
        ∃ seen', (run env rl calls).1.nextSampleCache = cacheOf seen') := by
  induction calls generalizing rl records with
  | nil => exact ⟨records, h, List.suffix_refl _, rfl, fun _ seen hc => ⟨seen, hc⟩⟩
  | cons call calls ih =>
    obtain ⟨rest₁, h₁, hs₁⟩ := step_keeps_reader env h call
    obtain ⟨rest, hr, hs, ht, hc⟩ := ih h₁
    obtain ⟨ht₁, hstep⟩ := step_of_open env h call
    refine ⟨rest, hr, hs.trans hs₁, ht.trans ht₁, fun hoff seen hseen => ?_⟩
    obtain ⟨seen₁, hseen₁⟩ : ∃ seen₁, (step env rl call).1.nextSampleCache = cacheOf seen₁ := by
      rcases hstep with hs | ⟨-, hc', -⟩
      · rw [hs]; exact getNextSample_cacheOf env h hoff hseen
      · exact ⟨seen, hc'.trans hseen⟩
    exact hc (ht₁.trans hoff) seen₁ hseen₁

/-- **No sample is lost, repeated or reordered, whatever calls come between.**
    Over every run of calls on an open record file, however `GetNextSample`
    is interleaved with the other calls of the interface, the samples it
    returns, followed by those of the records still unread, are the samples
    of the file in record order, each with its own period; under
    `trace_offcpu_`, from an empty `next_sample_cache_`, they are the pairs
    of `deferredPairs`, each sample with the next one of its thread, the
    cache holding the latest sample of each thread read. -/
theorem run_samples_conserved (rl : ReportLib T R) (file : RecordFile R) (records : List (Record R))
    (h : rl.recordFileReader = some (file, records)) (calls : List ReportCall) :
    let returned := ((run env rl calls).2.flatMap ReportResult.samples).map CurrentSample.key
    ∃ rest, (run env rl calls).1.recordFileReader = some (file, rest) ∧ rest <:+ records ∧
      (rl.traceOffcpu = false →
        returned ++ (sampleRecords rest).map (fun r => (r.pid, r.tid, r.time, r.period)) =
          (sampleRecords records).map fun r => (r.pid, r.tid, r.time, r.period)) ∧
      (rl.traceOffcpu = true → rl.nextSampleCache = (fun _ => none) → ∃ seen,
        (run env rl calls).1.nextSampleCache = cacheOf seen ∧
        returned ++ (deferredPairs seen (sampleRecords rest)).map
            (fun ps => (ps.1.pid, ps.1.tid, ps.1.time, offcpuPeriod ps.1.time ps.2.time)) =
          (deferredPairs [] (sampleRecords records)).map
            fun ps => (ps.1.pid, ps.1.tid, ps.1.time, offcpuPeriod ps.1.time ps.2.time)) := by
  intro returned
  obtain ⟨rest, hr, hs, ht, hc⟩ := run_of_open env h calls
  have hk := run_pending_keys env h calls
  rw [List.map_append] at hk
  simp only [pendingSamples, hr, h, ht] at hk
  refine ⟨rest, hr, hs, fun hoff => ?_, fun hoff hnone => ?_⟩
  · rwa [hoff, reportRecords_keys, reportRecords_keys] at hk
  · obtain ⟨seen, hseen⟩ := hc hoff [] hnone
    refine ⟨seen, hseen, ?_⟩
    rwa [hoff, hseen, hnone, show (fun _ => none : UInt32 → Option SampleRecord) = cacheOf [] from rfl,
      reportRecords_offcpu_keys, reportRecords_offcpu_keys] at hk

end ReportLib

/-! ## Runs at fixed inputs -/

/-- A sample at `0x100` of thread `1` of process `7`, at a time. -/
def sampleAt (time : UInt64) : SampleRecord := ⟨0x100, 7, 1, time, false, 0, 1, [0x100], 0⟩

/-- One record file at every path, over a thread tree with nothing to keep:
    every ip falls in `libc.so` and in its function `f`; nothing demangles. -/
def singleFileEnv (file : RecordFile Unit) : ReportEnv Unit Unit where
  toFileSystem := Env.noFiles.toFileSystem
  createInstance _ := some file
  update _ _ _ := ()
  findThreadOrNew _ _ _ := ((), "app")
  findMap _ _ _ _ _ := ⟨0, 0x1000, 0, "/system/lib64/libc.so", .elfFile⟩
  findSymbol _ _ _ ip := ((), ip, ⟨"f", 0, 0x1000⟩)
  showIpForUnknownSymbol _ := ()
  loadFileFeatures _ _ _ := ()
  getFeatureId _ := -1
  cxaDemangle _ := none
  linkerPrefix := "__dl_"

/-- A record file of the given records whose meta info turns `trace_offcpu` on. -/
def offcpuFile {R : Type} (records : List (Record R)) : RecordFile R :=
  ⟨records, true, some fun k => if k = "trace_offcpu" then some "true" else none, ["sched:sched_switch"],
    fun _ => 0, [], fun _ => none⟩

/-- Two samples of one thread at time `2^64 - 1`: under `trace_offcpu_` the
    first is reported with period `0`, where the rule asks for `1`. -/
theorem offcpu_period_zero_at_max_time :
    (ReportLib.getNextSample (singleFileEnv (offcpuFile [.sample (sampleAt u64Max), .sample (sampleAt u64Max)]))
      (ReportLib.create () DsoConfig.initial)).2.map (·.sample.period) = some 0 := by
  decide

/-- Thread `1` renamed between two of its samples (`R` is a `COMM` record:
    a tid and a comm), in a file whose meta info turns `trace_offcpu` on. -/
def commFile : RecordFile (UInt32 × String) :=
  offcpuFile [.sample (sampleAt 10), .other (1, "renamed"), .sample (sampleAt 20)]

/-- A thread tree that keeps each thread's comm, updated by `COMM` records
    as `ThreadTree::Update` does, over `commFile`. -/
def commEnv : ReportEnv (UInt32 → String) (UInt32 × String) where
  toFileSystem := Env.noFiles.toFileSystem
  createInstance _ := some commFile
  update _ tree record :=
    match record with
    | .other (tid, comm) => Function.update tree tid comm
    | .sample _ => tree
  findThreadOrNew tree _ tid := (tree, tree tid)
  findMap _ _ _ _ _ := ⟨0, 0x1000, 0, "/system/lib64/libc.so", .elfFile⟩
  findSymbol _ tree _ ip := (tree, ip, ⟨"f", 0, 0x1000⟩)
  showIpForUnknownSymbol tree := tree
  loadFileFeatures _ _ tree := tree
  getFeatureId _ := -1
  cxaDemangle _ := none
  linkerPrefix := "__dl_"

/-- The library once it has opened `commFile`, every thread named `app`. -/
def commLib : ReportLib (UInt32 → String) (UInt32 × String) :=
  (ReportLib.openRecordFileIfNecessary commEnv (ReportLib.create (fun _ => "app") DsoConfig.initial)).1

/-- Under `trace_offcpu_`, the first sample of thread `1` is reported with
    the comm the thread got after it, where `SetCurrentSample` on the tree
    right after that sample gives the comm the thread had then. -/
theorem deferred_sample_sees_later_comm :
    (ReportLib.getNextSample commEnv (ReportLib.create (fun _ => "app") DsoConfig.initial)).2.map
      (·.sample.threadComm) = some "renamed" ∧
    (ReportLib.setCurrentSample commEnv commLib.dsoConfig commFile true false
      (Function.update (fun _ => none) 1 (some (sampleAt 10)))
      (commEnv.update commLib.dsoConfig (fun _ => "app") (.sample (sampleAt 10))) (sampleAt 10)).2.sample.threadComm =
      "app" := by
  decide

theorem getNextSamples_symbolize_at_next_comm :
    (ReportLib.getNextSamples commEnv 4 commLib).1.map (·.sample.threadComm) = ["renamed"] := by
  rw [ReportLib.getNextSamples_symbolize_at_next commEnv commLib commFile commFile.records rfl rfl 4
    (by decide)]
  decide

theorem getNextSamples_keys_comm :
    (ReportLib.getNextSamples commEnv 4 commLib).1.map CurrentSample.key = [(7, 1, 10, 10)] := by
  rw [((ReportLib.getNextSamples_keys commEnv commLib commFile commFile.records rfl 4
    (by decide)).2 rfl rfl).1]
  decide

/-- Around a `ShowArtFrames` and a `GetBuildIdForPath`, the one
    `GetNextSample` on `commFile` returns its deferred sample, and nothing
    else is to come. -/
theorem run_samples_conserved_comm :
    let calls : List ReportCall :=
      [.showArtFrames true, .getNextSample, .getBuildIdForPath "/system/lib64/libc.so"]
    ∃ rest seen, (ReportLib.run commEnv commLib calls).1.recordFileReader = some (commFile, rest) ∧
      ((ReportLib.run commEnv commLib calls).2.flatMap ReportResult.samples).map CurrentSample.key ++
        (deferredPairs seen (sampleRecords rest)).map
          (fun ps => (ps.1.pid, ps.1.tid, ps.1.time, ReportLib.offcpuPeriod ps.1.time ps.2.time)) =
        [(7, 1, 10, 10)] := by
  intro calls
  obtain ⟨rest, hr, -, -, hoff⟩ :=
    ReportLib.run_samples_conserved commEnv commLib commFile commFile.records rfl calls
  obtain ⟨seen, -, he⟩ := hoff rfl rfl
  exact ⟨rest, seen, hr, he.trans (by decide)⟩

/-- A record file with a meta info section that cannot be read, and one sample. -/
def brokenMetaInfoFile : RecordFile Unit :=
  ⟨[.sample (sampleAt 10)], true, none, ["cpu-clock"], fun _ => 0, [], fun _ => none⟩

/-- The first `GetNextSample` fails on the meta info, but keeps the reader:
    the second reads the sample without it. -/
theorem meta_info_failure_then_sample :
    let r : ReportLib Unit Unit × List ReportResult :=
      ReportLib.run (singleFileEnv brokenMetaInfoFile) (ReportLib.create () DsoConfig.initial)
        [.getNextSample, .getNextSample]
    r.1.recordFileReader.isSome ∧ r.1.traceOffcpu = false ∧
      ∃ current, r.2 = [.sample none, .sample (some current)] :=
  ⟨rfl, rfl, _, rfl⟩

end Simpleperf
