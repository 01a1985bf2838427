/-
  An `ElfDso` reclassified as a DEX file (`ElfDso::AddDexFileOffset`) against
  a `DexFileDso` on the same path.

  * `ConvertedPair e x`: the ElfDso `e` holds a nested `DexFileDso` with the
    offsets of `x`, its `min_vaddr_` is unset or `0`, and the two agree on
    everything `FindSymbol` reads;
  * `ConvertedPair.step`: `AddDexFileOffset`, `FindSymbol` and
    `MinVirtualAddress` keep the pair in step and give the same results;
  * `elf_as_dex_after_conversion`: when the first call is
    `AddDexFileOffset`, the two agree after every run of these calls;
  * `elf_state_survives_conversion`: a lookup or a `MinVirtualAddress` before
    the conversion leaves the ELF symbols and the ELF `min_vaddr_` behind.
-/
import Simpleperf.DsoInvariants

namespace Simpleperf

/-- The calls the conversion is run with: `AddDexFileOffset`, `FindSymbol`
    and `MinVirtualAddress`. -/
def DsoOp.isDexCall : DsoOp → Bool
  | .addDexFileOffset _ | .findSymbol _ | .minVirtualAddress => true
  | _ => false

/-- The offset an `AddDexFileOffset` call adds. -/
def DsoOp.dexOffset : DsoOp → Option UInt64
  | .addDexFileOffset offset => some offset
  | _ => none

namespace Dso

variable {env : Env} {cfg : DsoConfig} {σ : SymbolSort}

/-- A converted `ElfDso` and a `DexFileDso` in step. -/
structure ConvertedPair (e x : Dso) : Prop where
  cls : ∃ m offsets, e.cls = .elf m (some offsets) ∧ (m = u64Max ∨ m = 0) ∧ x.cls = .dexFile offsets
  debugFilePath : x.debugFilePath = e.path
  isLoaded : x.isLoaded = e.isLoaded
  symbols : x.symbols = e.symbols
  unknownSymbols : x.unknownSymbols = e.unknownSymbols

variable {e x : Dso}

/-- Both load the DEX file at `path_` with the same offsets. -/
theorem ConvertedPair.loadSymbols (h : ConvertedPair e x) : loadSymbols env cfg σ x = loadSymbols env cfg σ e := by
  obtain ⟨m, offsets, he, -, hx⟩ := h.cls
  simp only [Dso.loadSymbols, he, hx, h.debugFilePath]

theorem ConvertedPair.ensureLoaded (h : ConvertedPair e x) :
    ConvertedPair (ensureLoaded env cfg σ e) (ensureLoaded env cfg σ x) := by
  unfold Dso.ensureLoaded
  rw [h.isLoaded]
  split
  · exact h
  · exact ⟨by simpa using h.cls, h.debugFilePath, rfl, by simp [load, h.symbols, h.loadSymbols],
      h.unknownSymbols⟩

theorem ConvertedPair.findSymbol (h : ConvertedPair e x) (v : UInt64) :
    (findSymbol env cfg σ x v).2 = (findSymbol env cfg σ e v).2 := by
  have h' := @ConvertedPair.ensureLoaded env cfg σ e x h
  simp only [Dso.findSymbol, h'.symbols, h'.unknownSymbols]

theorem ConvertedPair.minVirtualAddress (h : ConvertedPair e x) :
    ConvertedPair (minVirtualAddress env cfg e).1 (minVirtualAddress env cfg x).1 ∧
      (minVirtualAddress env cfg e).2 = 0 ∧ (minVirtualAddress env cfg x).2 = 0 := by
  obtain ⟨m, offsets, he, hm, hx⟩ := h.cls
  have hx' : Dso.minVirtualAddress env cfg x = (x, 0) := by simp [Dso.minVirtualAddress, hx]
  rw [hx']
  rcases hm with rfl | rfl
  · have he' : Dso.minVirtualAddress env cfg e = ({ e with cls := .elf 0 (some offsets) }, 0) := by
      simp [Dso.minVirtualAddress, he]
    rw [he']
    exact ⟨⟨⟨0, offsets, rfl, .inr rfl, hx⟩, h.debugFilePath, h.isLoaded, h.symbols, h.unknownSymbols⟩,
      rfl, rfl⟩
  · have h0 : (0 : UInt64) ≠ u64Max := by decide
    have he' : Dso.minVirtualAddress env cfg e = (e, 0) := by simp [Dso.minVirtualAddress, he, h0]
    rw [he']
    exact ⟨h, rfl, rfl⟩

/-- One call of the conversion scenario keeps the pair in step. -/
theorem ConvertedPair.step (h : ConvertedPair e x) {op : DsoOp} (hop : op.isDexCall) :
    ConvertedPair (step env cfg σ e op) (step env cfg σ x op) := by
  cases op with
  | addDexFileOffset o =>
    obtain ⟨m, offsets, he, hm, hx⟩ := h.cls
    exact ⟨⟨m, offsets ++ [o], by simp [Dso.step, addDexFileOffset, he], hm,
      by simp [Dso.step, addDexFileOffset, hx]⟩, by simp [Dso.step, addDexFileOffset, hx, he, h.debugFilePath],
      by simp [Dso.step, h.isLoaded], by simp [Dso.step, h.symbols],
      by simp [Dso.step, addDexFileOffset, hx, he, h.unknownSymbols]⟩
  | findSymbol v => exact h.ensureLoaded
  | minVirtualAddress => exact h.minVirtualAddress.1
  | _ => cases hop

theorem ConvertedPair.run (h : ConvertedPair e x) {ops : List DsoOp} (hops : ∀ op ∈ ops, op.isDexCall) :
    ConvertedPair (run env cfg σ e ops) (run env cfg σ x ops) := by
  induction ops generalizing e x with
  | nil => exact h
  | cons op ops ih =>
    exact ih (h.step (hops op (List.mem_cons_self _ _))) fun o ho => hops o (List.mem_cons_of_mem _ ho)

/-- A `DexFileDso` appends the offsets in call order. -/
theorem run_dexFile_cls (offsets : List UInt64) {ops : List DsoOp} (hops : ∀ op ∈ ops, op.isDexCall)
    (h : x.cls = .dexFile offsets) :
    (run env cfg σ x ops).cls = .dexFile (offsets ++ ops.filterMap DsoOp.dexOffset) := by
  induction ops generalizing x offsets with
  | nil => simpa using h
  | cons op ops ih =>
    have hs : (Dso.step env cfg σ x op).cls = .dexFile (offsets ++ op.dexOffset.toList) := by
      cases op with
      | addDexFileOffset o => simp only [Dso.step, addDexFileOffset, h, DsoOp.dexOffset, Option.toList]
      | findSymbol v => simpa [Dso.step, DsoOp.dexOffset] using h
      | minVirtualAddress => simp [Dso.step, Dso.minVirtualAddress, h, DsoOp.dexOffset]
      | _ => cases hops _ (List.mem_cons_self _ _)
    rw [run_cons, ih _ (fun o ho => hops o (List.mem_cons_of_mem _ ho)) hs]
    rcases hd : op.dexOffset with _ | o <;> simp [List.filterMap_cons, hd]

end Dso

/-- An `ElfDso` whose first call is `AddDexFileOffset`, and a `DexFileDso` on
    its path given the same calls. -/
theorem convertedPair_createDso (env : Env) (cfg : DsoConfig) (σ : SymbolSort) (path : String)
    (force64bit : Bool) (offset : UInt64) :
    Dso.ConvertedPair
      (Dso.step env cfg σ (createDso env cfg .elfFile path force64bit) (.addDexFileOffset offset))
      (Dso.step env cfg σ (createDso env cfg .dexFile path force64bit) (.addDexFileOffset offset)) :=
  ⟨⟨u64Max, [offset], rfl, .inl rfl, rfl⟩, rfl, rfl, rfl, rfl⟩

/-- **Converted before use, an ELF file is a DEX file.**  When the first call
    is `AddDexFileOffset`, after any further `AddDexFileOffset`, `FindSymbol`
    and `MinVirtualAddress` calls an `ElfDso` and a `DexFileDso` on the same
    path are both of type `DSO_DEX_FILE`, have the offsets in call order,
    give `0` for `MinVirtualAddress` and the same `FindSymbol` results. -/
theorem elf_as_dex_after_conversion (env : Env) (cfg : DsoConfig) (σ : SymbolSort) (path : String)
    (force64bit : Bool) (offset : UInt64) (ops : List DsoOp) (hops : ∀ op ∈ ops, op.isDexCall) :
    let e := (createDso env cfg .elfFile path force64bit).run env cfg σ (.addDexFileOffset offset :: ops)
    let x := (createDso env cfg .dexFile path force64bit).run env cfg σ (.addDexFileOffset offset :: ops)
    e.type = .dexFile ∧ x.type = .dexFile ∧
    x.dexFileOffsets = some (offset :: ops.filterMap DsoOp.dexOffset) ∧ e.dexFileOffsets = x.dexFileOffsets ∧
    (Dso.minVirtualAddress env cfg e).2 = 0 ∧ (Dso.minVirtualAddress env cfg x).2 = 0 ∧
    ∀ v, (e.findSymbol env cfg σ v).2 = (x.findSymbol env cfg σ v).2 := by
  intro e x
  have h : Dso.ConvertedPair e x := (convertedPair_createDso env cfg σ path force64bit offset).run hops
  have hx : x.cls = .dexFile (offset :: ops.filterMap DsoOp.dexOffset) :=
    Dso.run_dexFile_cls [offset] hops rfl
  obtain ⟨m, offsets, he, -, hx'⟩ := h.cls
  rw [hx] at hx'
  cases hx'
  refine ⟨by simp [Dso.type, he], by simp [Dso.type, hx], by simp [Dso.dexFileOffsets, hx],
    by simp [Dso.dexFileOffsets, hx, he], h.minVirtualAddress.2.1, h.minVirtualAddress.2.2,
    fun v => (h.findSymbol v).symm⟩

/-- An ELF file with one function, whose minimum executable address is
    `0x1000`. -/
def elfSample : Env :=
  { Env.noFiles with
    parseSymbolsFromElfFile := fun _ _ => [⟨0x1000, 0x10, true, false, true, "elf_func"⟩]
    readMinExecutableVirtualAddressFromElfFile := fun _ _ => some 0x1000 }

/-- A run of the kind `elf_as_dex_after_conversion` speaks of, on an ELF file
    with a function at `0x1000`: once converted, the `ElfDso` looks the
    address up as the `DexFileDso` does, in the (empty) DEX table, and no
    longer finds its ELF function. -/
theorem elf_as_dex_after_conversion_lookup :
    let ops : List DsoOp := [.addDexFileOffset 0x28, .findSymbol 0x1000]
    let e := (createDso elfSample DsoConfig.initial .elfFile "/data/app/base.vdex" false).run
      elfSample DsoConfig.initial SymbolSort.insertion ops
    let x := (createDso elfSample DsoConfig.initial .dexFile "/data/app/base.vdex" false).run
      elfSample DsoConfig.initial SymbolSort.insertion ops
    e.type = .dexFile ∧ x.dexFileOffsets = some [0x28] ∧
      (e.findSymbol elfSample DsoConfig.initial SymbolSort.insertion 0x1000).2 =
        (x.findSymbol elfSample DsoConfig.initial SymbolSort.insertion 0x1000).2 ∧
      (x.findSymbol elfSample DsoConfig.initial SymbolSort.insertion 0x1000).2 = none := by
  intro ops e x
  have h := elf_as_dex_after_conversion elfSample DsoConfig.initial SymbolSort.insertion
    "/data/app/base.vdex" false 0x28 [.findSymbol 0x1000] (by decide)
  have hx : x = ⟨.dexFile [0x28], "/data/app/base.vdex", "/data/app/base.vdex", true, [], []⟩ := rfl
  refine ⟨h.1, h.2.2.1, h.2.2.2.2.2.2 0x1000, ?_⟩
  rw [Dso.findSymbol_snd_sorted _ (by rw [Dso.ensureLoaded_of_isLoaded (by rw [hx]), hx]; decide),
    Dso.ensureLoaded_of_isLoaded (by rw [hx]), hx]
  decide

/-- A lookup and a `MinVirtualAddress` before the conversion: the converted
    `ElfDso` still answers with its ELF function and its ELF `min_vaddr_`,
    where a `DexFileDso` given the same calls finds nothing and answers `0`. -/
theorem elf_state_survives_conversion :
    let ops : List DsoOp := [.findSymbol 0x1000, .minVirtualAddress, .addDexFileOffset 0]
    let e := (createDso elfSample DsoConfig.initial .elfFile "/data/app/base.vdex" false).run
      elfSample DsoConfig.initial SymbolSort.insertion ops
    let x := (createDso elfSample DsoConfig.initial .dexFile "/data/app/base.vdex" false).run
      elfSample DsoConfig.initial SymbolSort.insertion ops
    e.type = .dexFile ∧ x.type = .dexFile ∧ e.dexFileOffsets = x.dexFileOffsets ∧
    (Dso.minVirtualAddress elfSample DsoConfig.initial e).2 = 0x1000 ∧
    (Dso.minVirtualAddress elfSample DsoConfig.initial x).2 = 0 ∧
    (e.findSymbol elfSample DsoConfig.initial SymbolSort.insertion 0x1000).2 =
      some (.symbol ⟨"elf_func", 0x1000, 0x10⟩) ∧
    (x.findSymbol elfSample DsoConfig.initial SymbolSort.insertion 0x1000).2 = none := by
  intro ops e x
  have he : e = ⟨.elf 0x1000 (some [0]), "/data/app/base.vdex", "/data/app/base.vdex", true,
      [⟨"elf_func", 0x1000, 0x10⟩], []⟩ := rfl
  have hx : x = ⟨.dexFile [0], "/data/app/base.vdex", "/data/app/base.vdex", true, [], []⟩ := rfl
  refine ⟨rfl, rfl, rfl, rfl, rfl, ?_, ?_⟩
  · rw [Dso.findSymbol_snd_sorted _ (by rw [Dso.ensureLoaded_of_isLoaded (by rw [he]), he]; decide),
      Dso.ensureLoaded_of_isLoaded (by rw [he]), he]
    decide
  · rw [Dso.findSymbol_snd_sorted _ (by rw [Dso.ensureLoaded_of_isLoaded (by rw [hx]), hx]; decide),
      Dso.ensureLoaded_of_isLoaded (by rw [hx]), hx]
    decide

end Simpleperf
