/-
  `ReportLib` (`report_lib_interface.cpp`): the samples of a record file, one
  `GetNextSample` call at a time, each symbolized on the thread tree.

  * `ReportEnv` is what the library calls outside the sources: the record
    file reader, the `ThreadTree` over its state `T`, `GetFeatureId`,
    `__cxa_demangle`, and the file system; records other than samples are of
    a type `R` only the thread tree reads.  The thread tree creates Dsos
    (`Update`, `LoadBuildIdAndFileFeatures`) and loads their symbols
    (`FindSymbol`) under the static members of `Dso` of the moment, which
    these calls are given;
  * `ReportLib.openRecordFileIfNecessary`, `nextSampleLoop` (the loop of
    `GetNextSample`, which under `trace_offcpu_` holds each sample back in
    `next_sample_cache_` until the next sample of its thread),
    `setCurrentSample`, `getNextSample`, `getBuildIdForPath` and
    `getFeatureSection` follow the source;
  * `ReportLib.step` is one call of the exported interface, and
    `ReportLib.run` a list of them.
-/
import Simpleperf.FrameFilter

namespace Simpleperf

/-! ## Records and what the library reads of them -/

/-- What `ReportLib` reads of a `SampleRecord`: `ip`, `pid`, `tid`, `time`,
    `InKernel()`, `cpu`, `period`, and the ips and `kernel_ip_count` of
    `GetCallChain`. -/
structure SampleRecord where
  ip : UInt64
  pid : UInt32
  tid : UInt32
  time : UInt64
  inKernel : Bool
  cpu : UInt32
  period : UInt64
  callChain : List UInt64
  kernelIpCount : Nat
  deriving DecidableEq, Repr

/-- A record of the file: a sample, or a record of another type (`MMAP`,
    `COMM`, `FORK`, ...) that only the thread tree reads. -/
inductive Record (R : Type) where
  | sample (r : SampleRecord)
  | other (r : R)
  deriving DecidableEq, Repr

/-- What `RecordFileReader` gives of one record file: the records
    `ReadRecord` yields until the end of the file or an error,
    `HasFeature(FEAT_META_INFO)`, the map `ReadMetaInfoFeature` reads (`none`
    when it fails), the event name of each attr of `AttrSection()`,
    `GetAttrIndexOfRecord`, the build ids `LoadBuildIdAndFileFeatures` passes
    to `Dso::SetBuildIds`, and `ReadFeatureSection`. -/
structure RecordFile (R : Type) where
  records : List (Record R)
  hasMetaInfo : Bool
  metaInfo : Option (String → Option String)
  eventNames : List String
  attrIndexOfRecord : SampleRecord → Nat
  buildIds : List (String × BuildId)
  featureSection : Int → Option (List UInt8)

/-- What `ReportLib` calls outside the sources: `RecordFileReader::CreateInstance`;
    the `ThreadTree` over its state `T`: `Update`, `FindThreadOrNew` (which
    may add the thread) with the thread's comm, `FindMap` for an ip of a
    thread, `FindSymbol` (which may load the Dso's symbols or add an unknown
    one) with `vaddr_in_file`, `ShowIpForUnknownSymbol`, and what
    `LoadBuildIdAndFileFeatures` adds to it; `GetFeatureId`;
    `abi::__cxa_demangle` (`none` unless its status is `0`) and
    `linker_prefix`, which `Dso::Demangle` uses; and the file system.  The
    calls that create Dsos (`Dso::CreateDso` resolves the debug file through
    the finder and `build_id_map_`) or load them (`vmlinux_`, `kallsyms_`,
    `read_kernel_symbols_from_proc_`) are given the static members of `Dso`
    they read. -/
structure ReportEnv (T R : Type) extends FileSystem where
  createInstance : String → Option (RecordFile R)
  update : DsoConfig → T → Record R → T
  findThreadOrNew : T → UInt32 → UInt32 → T × String
  findMap : T → UInt32 → UInt32 → UInt64 → Bool → MapEntry
  findSymbol : DsoConfig → T → MapEntry → UInt64 → T × UInt64 × Symbol
  showIpForUnknownSymbol : T → T
  loadFileFeatures : DsoConfig → RecordFile R → T → T
  getFeatureId : String → Int
  cxaDemangle : String → Option String
  linkerPrefix : String

/-! ## What a sample reports -/

/-- `Mapping`. -/
structure Mapping where
  start : UInt64
  endAddr : UInt64
  pgoff : UInt64
  deriving DecidableEq, Repr

/-- `SymbolEntry`. -/
structure SymbolEntry where
  dsoName : String
  vaddrInFile : UInt64
  symbolName : String
  symbolAddr : UInt64
  symbolLen : UInt64
  mapping : Mapping
  deriving DecidableEq, Repr

/-- `CallChainEntry`. -/
structure CallChainEntry where
  ip : UInt64
  symbol : SymbolEntry
  deriving DecidableEq, Repr

/-- `Sample`. -/
structure Sample where
  ip : UInt64
  pid : UInt32
  tid : UInt32
  threadComm : String
  time : UInt64
  inKernel : UInt32
  cpu : UInt32
  period : UInt64
  deriving DecidableEq, Repr

/-- What a `GetNextSample` call leaves for the getters: `current_sample_`,
    `current_event_.name`, and `callchain_entries_`, whose first entry holds
    `current_symbol_` and the others `current_callchain_`. -/
structure CurrentSample where
  sample : Sample
  eventName : String
  callchainEntries : List CallChainEntry
  deriving DecidableEq, Repr

/-! ## The library -/

/-- The members of `ReportLib` the calls read and write, and the static
    members of `Dso` they reach. -/
structure ReportLib (T R : Type) where
  recordFilename : String
  recordFileReader : Option (RecordFile R × List (Record R))
  threadTree : T
  dsoConfig : DsoConfig
  currentRecord : Option SampleRecord
  current : Option CurrentSample
  scopedEventTypes : Option String
  traceOffcpu : Bool
  nextSampleCache : UInt32 → Option SampleRecord
  showArtFrames : Bool

namespace ReportLib

variable {T R : Type} (env : ReportEnv T R)

/-- `ReportLib()`, over a thread tree and the static members of `Dso`. -/
def create (threadTree : T) (dsoConfig : DsoConfig) : ReportLib T R :=
  ⟨"perf.data", none, threadTree, dsoConfig, none, none, none, false, fun _ => none, false⟩

/-- `OpenRecordFileIfNecessary`. -/
def openRecordFileIfNecessary (rl : ReportLib T R) : ReportLib T R × Bool :=
  match rl.recordFileReader with
  | some _ => (rl, true)
  | none =>
    match env.createInstance rl.recordFilename with
    | none => (rl, false)
    | some file =>
      -- `LoadBuildIdAndFileFeatures` calls `Dso::SetBuildIds` with the file's
      -- build ids, then adds the Dsos of its file feature to the tree.
      let dsoConfig := { rl.dsoConfig with buildIdMap := setBuildIds file.buildIds }
      let rl := { rl with
        recordFileReader := some (file, file.records)
        threadTree := env.loadFileFeatures dsoConfig file rl.threadTree
        dsoConfig := dsoConfig }
      match if file.hasMetaInfo then file.metaInfo else some fun _ => none with
      | none => (rl, false)
      | some metaInfoMap =>
        ({ rl with
          scopedEventTypes := (metaInfoMap "event_type_info").or rl.scopedEventTypes
          traceOffcpu := match metaInfoMap "trace_offcpu" with
            | some v => decide (v = "true")
            | none => rl.traceOffcpu }, true)

/-- The loop of `GetNextSample` over the records not read yet: each record
    updates the thread tree; a sample is reported at once, or under
    `trace_offcpu_` kept in `next_sample_cache_`, the sample it replaces
    being reported.  The tree, the cache, the records left, and the sample to
    report (`none` at the end of the records). -/
def nextSampleLoop (cfg : DsoConfig) (traceOffcpu : Bool) :
    T → (UInt32 → Option SampleRecord) → List (Record R) →
      (T × (UInt32 → Option SampleRecord) × List (Record R)) × Option SampleRecord
  | tree, cache, [] => ((tree, cache, []), none)
  | tree, cache, record :: records =>
    match record with
    | .other _ => nextSampleLoop cfg traceOffcpu (env.update cfg tree record) cache records
    | .sample r =>
      if traceOffcpu then
        match cache r.tid with
        | none =>
          nextSampleLoop cfg traceOffcpu (env.update cfg tree record) (Function.update cache r.tid (some r)) records
        | some prev => ((env.update cfg tree record, Function.update cache r.tid (some r), records), some prev)
      else ((env.update cfg tree record, cache, records), some r)

/-- The period reported under `trace_offcpu_`:
    `max(next_time, time + 1) - time` in `uint64_t`. -/
def offcpuPeriod (time nextTime : UInt64) : UInt64 := max nextTime (time + 1) - time

/-- The second loop of `SetCurrentSample`: for each frame kept, `FindSymbol`
    on the tree as the frames before it left it, and the entry it makes.
    The name is `DemangledName()`: `demangle_` is `true` throughout, since
    no call of the interface sets it and the last `~Dso` sets it back, so
    the name a symbol keeps is `Demangle` of its name under `true`. -/
def callChainEntries (cfg : DsoConfig) : T → List Frame → T × List CallChainEntry
  | tree, [] => (tree, [])
  | tree, frame :: frames =>
    let found := env.findSymbol cfg tree frame.2 frame.1
    let rest := callChainEntries cfg found.1 frames
    (rest.1, ⟨frame.1, ⟨frame.2.dsoPath, found.2.1, demangle env.cxaDemangle env.linkerPrefix true found.2.2.name,
      found.2.2.addr, found.2.2.len, ⟨frame.2.startAddr, frame.2.startAddr + frame.2.len, frame.2.pgoff⟩⟩⟩ ::
      rest.2)

/-- `SetCurrentSample` with `SetEventOfCurrentSample`, on the thread tree and
    `next_sample_cache_` of the moment: the tree after `FindThreadOrNew`
    and the lookups, and what the getters then return.  An empty call
    chain, which the source indexes out of bounds, keeps the record's ip. -/
def setCurrentSample (cfg : DsoConfig) (file : RecordFile R) (traceOffcpu showArtFrames : Bool)
    (cache : UInt32 → Option SampleRecord) (tree : T) (r : SampleRecord) : T × CurrentSample :=
  let thread := env.findThreadOrNew tree r.pid r.tid
  let period := if traceOffcpu then offcpuPeriod r.time (((cache r.tid).map (·.time)).getD 0) else r.period
  let frames : List Frame := r.callChain.enum.map fun ip =>
    (ip.2, env.findMap thread.1 r.pid r.tid ip.2 (decide (ip.1 < r.kernelIpCount)))
  let entries := callChainEntries env cfg thread.1 (buildIpMaps showArtFrames frames)
  let ip := match entries.2 with
    | e :: _ => e.ip
    | [] => r.ip
  let attrIndex := if traceOffcpu then 0 else file.attrIndexOfRecord r
  (entries.1, ⟨⟨ip, r.pid, r.tid, thread.2, r.time, if r.inKernel then 1 else 0, r.cpu, period⟩,
    file.eventNames.getD attrIndex "", entries.2⟩)

/-- `GetNextSample`. -/
def getNextSample (rl : ReportLib T R) : ReportLib T R × Option CurrentSample :=
  match openRecordFileIfNecessary env rl with
  | (rl, false) => (rl, none)
  | (rl, true) =>
    match rl.recordFileReader with
    | none => (rl, none)
    | some (file, records) =>
      match nextSampleLoop env rl.dsoConfig rl.traceOffcpu rl.threadTree rl.nextSampleCache records with
      | ((tree, cache, records), none) =>
        ({ rl with recordFileReader := some (file, records), threadTree := tree, nextSampleCache := cache },
          none)
      | ((tree, cache, records), some r) =>
        let (tree, current) := setCurrentSample env rl.dsoConfig file rl.traceOffcpu rl.showArtFrames cache tree r
        ({ rl with
          recordFileReader := some (file, records)
          threadTree := tree
          nextSampleCache := cache
          currentRecord := some r
          current := some current }, some current)

/-- `GetBuildIdForPath`: the hex build id expected for the path, or `""`. -/
def getBuildIdForPath (rl : ReportLib T R) (path : String) : ReportLib T R × String :=
  match openRecordFileIfNecessary env rl with
  | (rl, false) => (rl, "")
  | (rl, true) =>
    let buildId := findExpectedBuildIdForPath rl.dsoConfig path
    (rl, if buildId.IsEmpty then "" else buildId.toString)

/-- `GetFeatureSection`: the data of the feature section, if any. -/
def getFeatureSection (rl : ReportLib T R) (featureName : String) : ReportLib T R × Option (List UInt8) :=
  match openRecordFileIfNecessary env rl with
  | (rl, false) => (rl, none)
  | (rl, true) =>
    let feature := env.getFeatureId featureName
    match rl.recordFileReader with
    | some (file, _) => (rl, if feature = -1 then none else file.featureSection feature)
    | none => (rl, none)

/-! ## The exported calls -/

end ReportLib

/-- The calls of the exported interface after `CreateReportLib`
    (`SetLogSeverity` only sets the log level and is left out). -/
inductive ReportCall where
  | setSymfs (symfsDir : String)
  | setRecordFile (recordFile : String)
  | setKallsymsFile (kallsymsFile : String)
  | showIpForUnknownSymbol
  | showArtFrames («show» : Bool)
  | getNextSample
  | getBuildIdForPath (path : String)
  | getFeatureSection (featureName : String)
  deriving DecidableEq, Repr

/-- What a call returns. -/
inductive ReportResult where
  | done (ok : Bool)
  | sample (current : Option CurrentSample)
  | buildId (s : String)
  | featureSection (data : Option (List UInt8))
  deriving DecidableEq, Repr

namespace ReportLib

variable {T R : Type} (env : ReportEnv T R)

/-- One call. -/
def step (rl : ReportLib T R) : ReportCall → ReportLib T R × ReportResult
  | .setSymfs symfsDir =>
    let (finder, ok) := rl.dsoConfig.debugElfFileFinder.setSymFsDir env.toFileSystem symfsDir
    ({ rl with dsoConfig := { rl.dsoConfig with debugElfFileFinder := finder } }, .done ok)
  | .setRecordFile recordFile => ({ rl with recordFilename := recordFile }, .done true)
  | .setKallsymsFile kallsymsFile =>
    match env.readFileToString kallsymsFile with
    | some kallsyms => ({ rl with dsoConfig := { rl.dsoConfig with kallsyms := kallsyms } }, .done true)
    | none => (rl, .done false)
  | .showIpForUnknownSymbol => ({ rl with threadTree := env.showIpForUnknownSymbol rl.threadTree }, .done true)
  | .showArtFrames b => ({ rl with showArtFrames := b }, .done true)
  | .getNextSample => let r := getNextSample env rl; (r.1, .sample r.2)
  | .getBuildIdForPath path => let r := getBuildIdForPath env rl path; (r.1, .buildId r.2)
  | .getFeatureSection featureName => let r := getFeatureSection env rl featureName; (r.1, .featureSection r.2)

/-- A run of calls, and what each returns. -/
def run (rl : ReportLib T R) : List ReportCall → ReportLib T R × List ReportResult
  | [] => (rl, [])
  | call :: calls =>
    let r := step env rl call
    let rs := run r.1 calls
    (rs.1, r.2 :: rs.2)

end ReportLib

end Simpleperf
