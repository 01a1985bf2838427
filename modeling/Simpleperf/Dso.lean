/-
  `Dso` (`dso.cpp`): the lazily loaded symbol table of one binary, over its
  five classes (`ElfDso`, `DexFileDso`, `KernelDso`, `KernelModuleDso`,
  `UnknownDso`).

  * `DsoClass` holds what only one class has; an `ElfDso` that receives a dex
    offset carries the offsets of its nested `DexFileDso`, and its `type_` is
    then `DSO_DEX_FILE` (`Dso.type`);
  * `Dso.loadSymbols` dispatches `LoadSymbols`; `Dso.load` is `Load`, which
    merges with a table given by `SetSymbols` through `std::set_union`;
  * `Dso.findSymbol` loads on first use, then searches the table and, failing
    that, `unknown_symbols_`;
  * `Dso.run` applies a list of calls (`DsoOp`) to a Dso.
-/
import Simpleperf.SymbolTable
import Simpleperf.DebugFileFinder
import Simpleperf.DexFile

namespace Simpleperf

/-! ## What the loaders read -/

/-- `DsoType`. -/
inductive DsoType where
  | kernel
  | kernelModule
  | elfFile
  | dexFile
  | unknownFile
  deriving DecidableEq, Repr

/-- `ElfFileSymbol` (`read_elf.h`): what the ELF readers pass to their callback. -/
structure ElfFileSymbol where
  vaddr : UInt64
  len : UInt64
  isFunc : Bool
  isLabel : Bool
  isInTextSection : Bool
  name : String
  deriving DecidableEq, Repr

/-- Modelled from the spec: `KernelSymbol` (`environment.h`), one line of
    kallsyms as `ProcessKernelSymbols` parses it.  Its type is a field read
    with `sscanf`'s ` %c`, which never yields NUL. -/
structure KernelSymbol where
  addr : UInt64
  type : Char
  name : String
  type_ne_nul : type ≠ '\x00'
  deriving DecidableEq

/-- The readers outside the sources a Dso gets its symbols from:
    `ParseSymbolsFromElfFile` and `ParseSymbolsFromApkFile` (the symbols they
    pass to the callback, none on a build-id mismatch),
    `ReadMinExecutableVirtualAddressFromElfFile`, `ProcessKernelSymbols` and
    `GetKernelBuildId`. -/
structure Env extends FileSystem, DexFiles where
  parseSymbolsFromElfFile : String → BuildId → List ElfFileSymbol
  parseSymbolsFromApkFile : String → String → BuildId → List ElfFileSymbol
  readMinExecutableVirtualAddressFromElfFile : String → BuildId → Option UInt64
  processKernelSymbols : String → List KernelSymbol
  getKernelBuildId : Option BuildId

/-- The static members of `Dso` that loading reads: `vmlinux_`, `kallsyms_`,
    `read_kernel_symbols_from_proc_`, `build_id_map_` and the finder. -/
structure DsoConfig where
  vmlinux : String
  kallsyms : String
  readKernelSymbolsFromProc : Bool
  buildIdMap : List (String × BuildId)
  debugElfFileFinder : DebugElfFileFinder

/-- A file system without files, and readers that find nothing. -/
def Env.noFiles : Env where
  isDir _ := false
  readFileToString _ := none
  splitUrlInApk _ := none
  getBuildIdFromApkFile _ _ := none
  getBuildIdFromElfFile _ := none
  fileSize _ := none
  headerSize := 0x70
  headerFileSize _ _ := 0
  loaderOpen _ _ _ := none
  parseSymbolsFromElfFile _ _ := []
  parseSymbolsFromApkFile _ _ _ := []
  readMinExecutableVirtualAddressFromElfFile _ _ := none
  processKernelSymbols _ := []
  getKernelBuildId := none

/-- The static members as `~Dso` leaves them when the last Dso goes. -/
def DsoConfig.initial : DsoConfig := ⟨"", "", false, [], DebugElfFileFinder.reset⟩

/-- `Dso::SetBuildIds`: `map.insert(pair)` for each pair, which keeps the first
    build id given for a path. -/
def setBuildIds (buildIds : List (String × BuildId)) : List (String × BuildId) :=
  buildIds.foldl (fun m p => if (m.lookup p.1).isSome then m else m ++ [p]) []

/-- `Dso::FindExpectedBuildIdForPath`. -/
def findExpectedBuildIdForPath (cfg : DsoConfig) (path : String) : BuildId :=
  (cfg.buildIdMap.lookup path).getD BuildId.empty

/-- The map `SetBuildIds` builds gives each path the build id of the first
    pair with that path (`List.lookup` finds the first). -/
theorem setBuildIds_lookup (buildIds : List (String × BuildId)) (path : String) :
    (setBuildIds buildIds).lookup path = buildIds.lookup path := by
  suffices h : ∀ m : List (String × BuildId),
      (buildIds.foldl (fun m p => if (m.lookup p.1).isSome then m else m ++ [p]) m).lookup path =
        (m.lookup path).or (buildIds.lookup path) from h []
  induction buildIds with
  | nil => simp
  | cons q buildIds ih =>
    intro m
    obtain ⟨k, b⟩ := q
    rw [List.foldl_cons, ih]
    by_cases hp : path = k
    · subst hp
      split_ifs with hk
      · obtain ⟨c, hc⟩ := Option.isSome_iff_exists.1 hk
        simp [hc]
      · have hn : m.lookup path = none := Option.not_isSome_iff_eq_none.1 hk
        simp [List.lookup_append, hn]
    · split_ifs <;> simp [List.lookup_append, List.lookup_cons, beq_false_of_ne hp]

theorem findExpectedBuildIdForPath_of_buildIdMap {cfg : DsoConfig} {buildIds : List (String × BuildId)}
    (h : cfg.buildIdMap = setBuildIds buildIds) (path : String) :
    findExpectedBuildIdForPath cfg path = (buildIds.lookup path).getD BuildId.empty := by
  rw [findExpectedBuildIdForPath, h, setBuildIds_lookup]

/-! ## The Dso -/

/-- The class of a Dso with the state only that class has. -/
inductive DsoClass where
  /-- `DexFileDso` and its `dex_file_offsets_`. -/
  | dexFile (dexFileOffsets : List UInt64)
  /-- `ElfDso`: `min_vaddr_`, and the offsets of `dex_file_dso_` once one has
      been created. -/
  | elf (minVaddr : UInt64) (dexFileDso : Option (List UInt64))
  | kernel
  | kernelModule
  | unknown
  deriving DecidableEq, Repr

/-- A `Dso`: `path_`, `debug_file_path_`, `is_loaded_`, `symbols_` and
    `unknown_symbols_` (an association list; `insert` keeps an existing key). -/
structure Dso where
  cls : DsoClass
  path : String
  debugFilePath : String
  isLoaded : Bool
  symbols : List Symbol
  unknownSymbols : List (UInt64 × Symbol)
  deriving DecidableEq, Repr

/-- What `Dso::FindSymbol` returns a pointer into: `symbols_` or
    `unknown_symbols_`. -/
inductive Found where
  | symbol (s : Symbol)
  | unknown (s : Symbol)
  deriving DecidableEq, Repr

/-- The calls a Dso receives after `CreateDso`. -/
inductive DsoOp where
  | setSymbols (symbols : List Symbol)
  | addUnknownSymbol (vaddr : UInt64) (name : String)
  | addDexFileOffset (offset : UInt64)
  | findSymbol (vaddr : UInt64)
  | minVirtualAddress
  | setMinVirtualAddress (minVaddr : UInt64)
  deriving DecidableEq, Repr

/-- The table a call installs, if any, is sorted by address. -/
def DsoOp.SortedArg : DsoOp → Prop
  | .setSymbols symbols => AddrSorted symbols
  | _ => True

instance : DecidablePred DsoOp.SortedArg := fun op =>
  match op with
  | .setSymbols symbols => inferInstanceAs (Decidable (AddrSorted symbols))
  | .addUnknownSymbol .. | .addDexFileOffset _ | .findSymbol _ | .minVirtualAddress
  | .setMinVirtualAddress _ => isTrue trivial

/-- The call is `SetSymbols`. -/
def DsoOp.isSetSymbols : DsoOp → Bool
  | .setSymbols _ => true
  | _ => false

namespace Dso

variable (env : Env) (cfg : DsoConfig) (σ : SymbolSort)

/-- `Dso::GetExpectedBuildId`. -/
def getExpectedBuildId (d : Dso) : BuildId := findExpectedBuildIdForPath cfg d.path

/-- `type_`: an `ElfDso` becomes `DSO_DEX_FILE` when it gets its
    `dex_file_dso_`. -/
def type (d : Dso) : DsoType :=
  match d.cls with
  | .dexFile _ => .dexFile
  | .elf _ none => .elfFile
  | .elf _ (some _) => .dexFile
  | .kernel => .kernel
  | .kernelModule => .kernelModule
  | .unknown => .unknownFile

/-! ## `LoadSymbols` -/

/-- `DexFileDso::LoadSymbols` for a Dso whose debug file is `debugFilePath`. -/
def dexLoadSymbols (debugFilePath : String) (offsets : List UInt64) : List Symbol :=
  match readSymbolsFromDexFile env.toDexFiles debugFilePath offsets with
  | none => []
  | some symbols => sortAndFixSymbols σ (symbols.map fun s => ⟨s.name, s.offset, s.len⟩)

/-- `ElfDso::LoadSymbols` before any dex offset: functions, and labels in the
    text section, of the debug file (or of its APK entry). -/
def elfLoadSymbols (path debugFilePath : String) : List Symbol :=
  let buildId := findExpectedBuildIdForPath cfg path
  let parsed :=
    match env.splitUrlInApk debugFilePath with
    | some (apk, entry) => env.parseSymbolsFromApkFile apk entry buildId
    | none => env.parseSymbolsFromElfFile debugFilePath buildId
  sortAndFixSymbols σ ((parsed.filter fun s => s.isFunc || (s.isLabel && s.isInTextSection)).map
    fun s => ⟨s.name, s.vaddr, s.len⟩)

/-- `strchr(s, c) != nullptr`: `c` is a character of `s` or the terminating NUL. -/
def strchr (s : String) (c : Char) : Bool := c ∈ s.toList || c = '\x00'

/-- `KernelDso::ReadSymbolsFromKallsyms`: the entries of type `T`, `t`, `W`
    or `w` at a non-zero address, with length `0`. -/
def readSymbolsFromKallsyms (kallsyms : String) : List Symbol :=
  ((env.processKernelSymbols kallsyms).filter fun s => strchr "TtWw" s.type && s.addr ≠ 0).map
    fun s => ⟨s.name, s.addr, 0⟩

/-- The last symbol of the kernel gets `UINT64_MAX - addr`. -/
def extendLast : List Symbol → List Symbol
  | [] => []
  | s :: l => (if l.isEmpty then { s with len := u64Max - s.addr } else s) :: extendLast l

/-- The symbols `KernelDso::LoadSymbols` collects before sorting: from
    `vmlinux_`, else the cached `kallsyms_`, else `/proc/kallsyms` when asked
    to or when the expected build id is that of the running kernel. -/
def kernelSymbols (path : String) : List Symbol :=
  let buildId := findExpectedBuildIdForPath cfg path
  if cfg.vmlinux ≠ "" then
    ((env.parseSymbolsFromElfFile cfg.vmlinux buildId).filter (·.isFunc)).map
      fun s => ⟨s.name, s.vaddr, s.len⟩
  else if cfg.kallsyms ≠ "" then readSymbolsFromKallsyms env cfg.kallsyms
  else if cfg.readKernelSymbolsFromProc ∨ ¬ buildId.IsEmpty then
    if buildId.IsEmpty ∨ env.getKernelBuildId = some buildId then
      match env.readFileToString "/proc/kallsyms" with
      | some kallsyms => readSymbolsFromKallsyms env kallsyms
      | none => []
    else []
  else []

/-- `KernelDso::LoadSymbols`. -/
def kernelLoadSymbols (path : String) : List Symbol :=
  extendLast (sortAndFixSymbols σ (kernelSymbols env cfg path))

/-- `KernelModuleDso::LoadSymbols`: functions and text-section symbols. -/
def kernelModuleLoadSymbols (path debugFilePath : String) : List Symbol :=
  sortAndFixSymbols σ (((env.parseSymbolsFromElfFile debugFilePath
    (findExpectedBuildIdForPath cfg path)).filter fun s => s.isFunc || s.isInTextSection).map
      fun s => ⟨s.name, s.vaddr, s.len⟩)

/-- `LoadSymbols`, dispatched on the class.  The nested `DexFileDso` of an
    `ElfDso` was built as `DexFileDso(path_, path_)`. -/
def loadSymbols (d : Dso) : List Symbol :=
  match d.cls with
  | .dexFile offsets => dexLoadSymbols env σ d.debugFilePath offsets
  | .elf _ (some offsets) => dexLoadSymbols env σ d.path offsets
  | .elf _ none => elfLoadSymbols env cfg σ d.path d.debugFilePath
  | .kernel => kernelLoadSymbols env cfg σ d.path
  | .kernelModule => kernelModuleLoadSymbols env cfg σ d.path d.debugFilePath
  | .unknown => []

/-! ## The calls -/

/-- `Dso::Load`. -/
def load (d : Dso) : Dso :=
  { d with
    isLoaded := true
    symbols := if d.symbols.isEmpty then loadSymbols env cfg σ d
      else setUnion d.symbols (loadSymbols env cfg σ d) }

/-- The Dso `FindSymbol` searches: loaded on first use. -/
def ensureLoaded (d : Dso) : Dso := if d.isLoaded then d else load env cfg σ d

/-- `Dso::FindSymbol`: the Dso after the call, and what it returns. -/
def findSymbol (d : Dso) (vaddr : UInt64) : Dso × Option Found :=
  let d := ensureLoaded env cfg σ d
  (d, match lookupSymbols d.symbols vaddr with
    | some s => some (.symbol s)
    | none => (d.unknownSymbols.lookup vaddr).map .unknown)

/-- `Dso::SetSymbols`. -/
def setSymbols (d : Dso) (symbols : List Symbol) : Dso := { d with symbols := symbols }

/-- `Dso::AddUnknownSymbol`: `insert` does not replace an existing key. -/
def addUnknownSymbol (d : Dso) (vaddr : UInt64) (name : String) : Dso :=
  if (d.unknownSymbols.lookup vaddr).isSome then d
  else { d with unknownSymbols := (vaddr, ⟨name, vaddr, 1⟩) :: d.unknownSymbols }

/-- `AddDexFileOffset`: a `DexFileDso` appends the offset; an `ElfDso` still of
    type `DSO_ELF_FILE` first becomes `DSO_DEX_FILE` with a new nested
    `DexFileDso`.  Modelled from the spec for the other classes: the base
    class's version (`dso.h`) does nothing. -/
def addDexFileOffset (d : Dso) (offset : UInt64) : Dso :=
  match d.cls with
  | .dexFile offsets => { d with cls := .dexFile (offsets ++ [offset]) }
  | .elf minVaddr none => { d with cls := .elf minVaddr (some [offset]) }
  | .elf minVaddr (some offsets) => { d with cls := .elf minVaddr (some (offsets ++ [offset])) }
  | _ => d

/-- `DexFileOffsets`: `nullptr` (here `none`) but for a DEX file or a
    reclassified ELF file. -/
def dexFileOffsets (d : Dso) : Option (List UInt64) :=
  match d.cls with
  | .dexFile offsets => some offsets
  | .elf _ nested => nested
  | _ => none

/-- `MinVirtualAddress`: an `ElfDso` reads and caches its `min_vaddr_` on first
    use (`0` when the read fails or the Dso is no longer `DSO_ELF_FILE`).
    Modelled from the spec for the other classes: `0`. -/
def minVirtualAddress (d : Dso) : Dso × UInt64 :=
  match d.cls with
  | .elf minVaddr nested =>
    if minVaddr = u64Max then
      let v := if nested.isNone then
          (env.readMinExecutableVirtualAddressFromElfFile d.debugFilePath
            (findExpectedBuildIdForPath cfg d.path)).getD 0
        else 0
      ({ d with cls := .elf v nested }, v)
    else (d, minVaddr)
  | _ => (d, 0)

/-- `SetMinVirtualAddress`: only an `ElfDso` keeps it. -/
def setMinVirtualAddress (d : Dso) (minVaddr : UInt64) : Dso :=
  match d.cls with
  | .elf _ nested => { d with cls := .elf minVaddr nested }
  | _ => d

/-- One call. -/
def step (d : Dso) : DsoOp → Dso
  | .setSymbols symbols => setSymbols d symbols
  | .addUnknownSymbol vaddr name => addUnknownSymbol d vaddr name
  | .addDexFileOffset offset => addDexFileOffset d offset
  | .findSymbol vaddr => (findSymbol env cfg σ d vaddr).1
  | .minVirtualAddress => (minVirtualAddress env cfg d).1
  | .setMinVirtualAddress minVaddr => setMinVirtualAddress d minVaddr

/-- A run of calls. -/
def run (d : Dso) (ops : List DsoOp) : Dso := ops.foldl (step env cfg σ) d

/-! ## What each call changes -/

variable {env cfg σ} {d : Dso}

@[simp] theorem run_nil : run env cfg σ d [] = d := rfl

@[simp] theorem run_cons (op : DsoOp) (ops : List DsoOp) :
    run env cfg σ d (op :: ops) = run env cfg σ (step env cfg σ d op) ops := rfl

@[simp] theorem findSymbol_fst (v : UInt64) : (findSymbol env cfg σ d v).1 = ensureLoaded env cfg σ d := rfl

@[simp] theorem ensureLoaded_isLoaded : (ensureLoaded env cfg σ d).isLoaded = true := by
  unfold ensureLoaded; split <;> simp_all [load]

@[simp] theorem ensureLoaded_of_isLoaded (h : d.isLoaded = true) : ensureLoaded env cfg σ d = d := by
  simp [ensureLoaded, h]

@[simp] theorem ensureLoaded_cls : (ensureLoaded env cfg σ d).cls = d.cls := by
  unfold ensureLoaded; split <;> rfl

@[simp] theorem addUnknownSymbol_symbols (v : UInt64) (n : String) :
    (addUnknownSymbol d v n).symbols = d.symbols := by
  unfold addUnknownSymbol; split <;> rfl

@[simp] theorem addUnknownSymbol_isLoaded (v : UInt64) (n : String) :
    (addUnknownSymbol d v n).isLoaded = d.isLoaded := by
  unfold addUnknownSymbol; split <;> rfl

@[simp] theorem addUnknownSymbol_cls (v : UInt64) (n : String) :
    (addUnknownSymbol d v n).cls = d.cls := by
  unfold addUnknownSymbol; split <;> rfl

@[simp] theorem addDexFileOffset_symbols (o : UInt64) : (addDexFileOffset d o).symbols = d.symbols := by
  unfold addDexFileOffset; split <;> rfl

@[simp] theorem addDexFileOffset_isLoaded (o : UInt64) :
    (addDexFileOffset d o).isLoaded = d.isLoaded := by
  unfold addDexFileOffset; split <;> rfl

@[simp] theorem minVirtualAddress_symbols : (minVirtualAddress env cfg d).1.symbols = d.symbols := by
  unfold minVirtualAddress; split <;> (try split) <;> rfl

@[simp] theorem minVirtualAddress_isLoaded :
    (minVirtualAddress env cfg d).1.isLoaded = d.isLoaded := by
  unfold minVirtualAddress; split <;> (try split) <;> rfl

@[simp] theorem setMinVirtualAddress_symbols (v : UInt64) :
    (setMinVirtualAddress d v).symbols = d.symbols := by
  unfold setMinVirtualAddress; split <;> rfl

@[simp] theorem setMinVirtualAddress_isLoaded (v : UInt64) :
    (setMinVirtualAddress d v).isLoaded = d.isLoaded := by
  unfold setMinVirtualAddress; split <;> rfl

@[simp] theorem type_eq_kernel : d.type = .kernel ↔ d.cls = .kernel := by
  unfold type; split <;> simp_all

/-- Only `ElfDso` and `DexFileDso` change class, and never into `KernelDso`. -/
theorem step_cls_kernel (op : DsoOp) : (step env cfg σ d op).cls = .kernel ↔ d.cls = .kernel := by
  cases op <;> simp only [step, setSymbols, findSymbol_fst, ensureLoaded_cls, addUnknownSymbol_cls]
  · unfold addDexFileOffset; split <;> simp_all
  · unfold minVirtualAddress; split <;> (try split) <;> simp_all
  · unfold setMinVirtualAddress; split <;> simp_all

end Dso

/-- `Dso::CreateDso`.  An ELF file's debug file is found at once, with the
    build id expected for its path. -/
def createDso (env : Env) (cfg : DsoConfig) (dsoType : DsoType) (dsoPath : String)
    (force64bit : Bool) : Dso :=
  match dsoType with
  | .elfFile =>
    ⟨.elf u64Max none, dsoPath,
      (cfg.debugElfFileFinder.findDebugFile env.toFileSystem dsoPath force64bit
        (findExpectedBuildIdForPath cfg dsoPath)).1, false, [], []⟩
  | .kernel => ⟨.kernel, dsoPath, dsoPath, false, [], []⟩
  | .kernelModule => ⟨.kernelModule, dsoPath, dsoPath, false, [], []⟩
  | .dexFile => ⟨.dexFile [], dsoPath, dsoPath, false, [], []⟩
  | .unknownFile => ⟨.unknown, dsoPath, dsoPath, false, [], []⟩

@[simp] theorem createDso_isLoaded (env : Env) (cfg : DsoConfig) (t : DsoType) (p : String) (b : Bool) :
    (createDso env cfg t p b).isLoaded = false := by
  cases t <;> rfl

@[simp] theorem createDso_symbols (env : Env) (cfg : DsoConfig) (t : DsoType) (p : String) (b : Bool) :
    (createDso env cfg t p b).symbols = [] := by
  cases t <;> rfl

end Simpleperf
