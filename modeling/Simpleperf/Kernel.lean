/-
  The kernel's table read from kallsyms: `KernelDso::LoadSymbols` with
  `vmlinux_` empty, and `FindSymbol` on what it loads.

  * `kallsymsText` is the text the load reads: the cached `kallsyms_`, or
    `/proc/kallsyms` when that branch is taken (`kernelSymbols_of_kallsyms`);
  * `readSymbolsFromKallsyms_eq`: the entries kept are those of type `T`,
    `t`, `W` or `w` at a non-zero address; `strchr` also accepts NUL, which
    the kallsyms parser never yields;
  * `Tiled` tables, whose symbols each end where the next begins, and
    `tiled_lookup`: in a sorted tiled table whose last symbol ends at `E`,
    every address from the first one up to `E` falls in the last symbol at or
    below it, and `findSymbol_tiled` is the same for `FindSymbol` on a loaded
    table;
  * `kernel_kallsyms_tiling`: after its first `FindSymbol`, a kernel Dso
    holds exactly the admitted entries, they tile `[m, 2^64 - 1)` in exact
    arithmetic, and `FindSymbol` finds every address of that range;
  * `run_procKallsyms_unread`: what `/proc/kallsyms` holds changes no Dso
    over any run of calls, except through the one branch of the kernel's load
    that reads it (`readsProcKallsyms`), and there it gives the table.
-/
import Simpleperf.DsoInvariants

namespace Simpleperf

/-! ## Tiled tables -/

/-- Each symbol of the table ends, in exact arithmetic, where the next begins. -/
def Tiled (l : List Symbol) : Prop := l.Chain' fun s t => s.addr.toNat + s.len.toNat = t.addr.toNat

theorem tiled_end_le {E : Nat} : ∀ {l : List Symbol}, Tiled l →
    (∀ s ∈ l.getLast?, s.addr.toNat + s.len.toNat = E) → ∀ s ∈ l, s.addr.toNat + s.len.toNat ≤ E
  | [], _, _ => by simp
  | [s], _, hE => fun x hx => by rw [List.mem_singleton.1 hx]; exact (hE s rfl).le
  | s :: t :: l, ht, hE => by
    rw [Tiled, List.chain'_cons] at ht
    have ih := tiled_end_le ht.2 (by rwa [List.getLast?_cons_cons] at hE)
    intro x hx
    rcases List.mem_cons.1 hx with rfl | hx
    · have := ih t (List.mem_cons_self _ _); omega
    · exact ih x hx

theorem lastAtOrBelow_cons_of_le {s t : Symbol} {l : List Symbol} {v : UInt64} (h : t.addr ≤ v) :
    lastAtOrBelow (s :: t :: l) v = lastAtOrBelow (t :: l) v := by
  unfold lastAtOrBelow
  rw [List.filter_cons, List.filter_cons_of_pos (by simpa using h)]
  split <;> simp [List.getLast?_cons_cons]

/-- In a sorted tiled table whose last symbol ends at `E`, an address from the
    first symbol's up to `E` falls in the last symbol at or below it. -/
theorem tiled_lookup {E : Nat} {v : UInt64} (hvE : v.toNat < E) : ∀ {s : Symbol} {l : List Symbol},
    AddrSorted (s :: l) → Tiled (s :: l) → (∀ x ∈ (s :: l).getLast?, x.addr.toNat + x.len.toNat = E) →
    s.addr ≤ v → ∃ x, lastAtOrBelow (s :: l) v = some x ∧ v.toNat < x.addr.toNat + x.len.toNat
  | s, [], _, _, hE, hsv => ⟨s, by simp [lastAtOrBelow, hsv], by have := hE s rfl; omega⟩
  | s, t :: l, hs, ht, hE, hsv => by
    rw [Tiled, List.chain'_cons] at ht
    by_cases htv : t.addr ≤ v
    · rw [lastAtOrBelow_cons_of_le htv]
      exact tiled_lookup hvE (addrSorted_cons.1 hs).2 ht.2 (by rwa [List.getLast?_cons_cons] at hE) htv
    · refine ⟨s, by rw [lastAtOrBelow_sorted hs]; simp [List.takeWhile_cons, hsv, htv], ?_⟩
      rw [u64_le_iff] at htv; omega

/-! ## The kernel's last symbol, on tiled tables -/

namespace Dso

theorem extendLast_map_key (l : List Symbol) : (extendLast l).map Symbol.key = l.map Symbol.key := by
  induction l with
  | nil => rfl
  | cons s l ih => simp only [extendLast, List.map_cons, ih]; split <;> simp [Symbol.key]

/-- Only the last symbol's length changes, and no symbol follows it. -/
theorem tiled_extendLast {l : List Symbol} (h : Tiled l) : Tiled (extendLast l) := by
  induction l with
  | nil => exact List.chain'_nil
  | cons s l ih =>
    rw [Tiled, List.chain'_cons'] at h
    refine List.Chain'.cons' (ih h.2) fun u hu => ?_
    cases l with
    | nil => simp [extendLast] at hu
    | cons t l =>
      simp only [extendLast, List.head?_cons, Option.mem_def, Option.some.injEq] at hu
      subst hu
      simp only [List.isEmpty_cons, Bool.false_eq_true, if_false]
      split <;> exact h.1 t rfl

/-! ## What the load reads -/

variable {env : Env} {cfg : DsoConfig} {σ : SymbolSort}

/-- The text `KernelDso::LoadSymbols` reads kallsyms from when `vmlinux_` is
    empty: the cached `kallsyms_`, else `/proc/kallsyms` when asked to or
    when the expected build id is that of the running kernel. -/
def kallsymsText (env : Env) (cfg : DsoConfig) (path : String) : Option String :=
  let buildId := findExpectedBuildIdForPath cfg path
  if cfg.kallsyms ≠ "" then some cfg.kallsyms
  else if (cfg.readKernelSymbolsFromProc ∨ ¬ buildId.IsEmpty) ∧
      (buildId.IsEmpty ∨ env.getKernelBuildId = some buildId) then
    env.readFileToString "/proc/kallsyms"
  else none

theorem kernelSymbols_of_kallsyms (path : String) (h : cfg.vmlinux = "") :
    kernelSymbols env cfg path = ((kallsymsText env cfg path).map (readSymbolsFromKallsyms env)).getD [] := by
  unfold kernelSymbols kallsymsText
  simp only [h, ne_eq, not_true_eq_false, if_false]
  split_ifs <;> try (split <;> simp_all)
  all_goals simp_all

/-- Modelled from the spec: the kallsyms entries the kernel keeps, those of
    type `T`, `t`, `W` or `w` at a non-zero address. -/
def admittedEntries (env : Env) (kallsyms : String) : List KernelSymbol :=
  (env.processKernelSymbols kallsyms).filter fun e => e.type ∈ ['T', 't', 'W', 'w'] ∧ e.addr ≠ 0

/-- `strchr("TtWw", type)` also holds for NUL, which no entry has. -/
theorem strchr_TtWw (e : KernelSymbol) : strchr "TtWw" e.type = decide (e.type ∈ ['T', 't', 'W', 'w']) := by
  have : "TtWw".toList = ['T', 't', 'W', 'w'] := rfl
  simp [strchr, this, e.type_ne_nul]

theorem readSymbolsFromKallsyms_eq (kallsyms : String) :
    readSymbolsFromKallsyms env kallsyms =
      (admittedEntries env kallsyms).map fun e => ⟨e.name, e.addr, 0⟩ := by
  simp only [readSymbolsFromKallsyms, admittedEntries, strchr_TtWw, Bool.decide_and]

/-! ## The loaded table -/

theorem kernel_findSymbol_symbols (path : String) (b : Bool) (v : UInt64) :
    ((createDso env cfg .kernel path b).findSymbol env cfg σ v).1.symbols =
      kernelLoadSymbols env cfg σ path := by
  simp [ensureLoaded, load, loadSymbols, createDso]

/-- The kernel table built from zero-length symbols: sorted, tiled, and ending
    at `2^64 - 1`, with the names and addresses it was given. -/
theorem kernelTable_spec (l : List Symbol) (hz : ∀ s ∈ l, s.len = 0) :
    let T := extendLast (sortAndFixSymbols σ l)
    AddrSorted T ∧ Tiled T ∧ (∀ s ∈ T.getLast?, s.addr.toNat + s.len.toNat = 2 ^ 64 - 1) ∧
      (T.map Symbol.key).Perm (l.map Symbol.key) := by
  refine ⟨addrSorted_extendLast (sortAndFixSymbols_sorted σ l),
    tiled_extendLast (fixSymbols_tiles (σ.sorted l) fun s hs => hz s ((σ.perm l).subset hs)),
    extendLast_getLast _, ?_⟩
  rw [extendLast_map_key, sortAndFixSymbols, fixSymbols_map_key]
  exact (σ.perm l).map _

/-- On a loaded table that is sorted, tiled and ends at `2^64 - 1`, every
    address from the first symbol's up to `2^64 - 1` is found in the last
    symbol at or below it. -/
theorem findSymbol_tiled {d : Dso} (hl : d.isLoaded = true) (hs : AddrSorted d.symbols)
    (hti : Tiled d.symbols) (hE : ∀ s ∈ d.symbols.getLast?, s.addr.toNat + s.len.toNat = 2 ^ 64 - 1)
    {v : UInt64} {x : Symbol} (hx : x ∈ d.symbols) (hxv : x.addr ≤ v) (hvE : v.toNat < 2 ^ 64 - 1) :
    ∃ s, lastAtOrBelow d.symbols v = some s ∧ (d.findSymbol env cfg σ v).2 = some (.symbol s) ∧
      s.addr.toNat ≤ v.toNat ∧ v.toNat < s.addr.toNat + s.len.toNat := by
  obtain ⟨s, l, hsl⟩ : ∃ s l, d.symbols = s :: l := List.exists_cons_of_ne_nil (List.ne_nil_of_mem hx)
  have hsv : s.addr ≤ v := by
    rw [hsl] at hs hx
    rcases List.mem_cons.1 hx with rfl | hx
    · exact hxv
    · exact UInt64.le_trans ((addrSorted_cons.1 hs).1 x hx) hxv
  rw [hsl] at hs hti hE
  obtain ⟨y, hy, hvy⟩ := tiled_lookup hvE hs hti hE hsv
  have hend := tiled_end_le hti hE y (List.mem_filter.1 (List.mem_of_getLast?_eq_some hy)).1
  rw [← hsl] at hy hs
  have hd : (d.findSymbol env cfg σ v).1 = d := by rw [findSymbol_fst, ensureLoaded_of_isLoaded hl]
  refine ⟨y, hy, ?_, lastAtOrBelow_le hy, hvy⟩
  exact ((@findSymbol_of_sorted env cfg σ d v hs).2 y (by rwa [hd])).1 hvy (by omega)

end Dso

/-- **The kernel's table from kallsyms.**  With `vmlinux_` empty and the
    kallsyms text `t` read, a kernel Dso after its first `FindSymbol` holds
    one symbol per admitted entry, with its name and address; each symbol
    ends where the next begins and the last at `2^64 - 1`, in exact
    arithmetic; and every address from the smallest admitted one up to
    `2^64 - 1` is found in the last symbol at or below it. -/
theorem kernel_kallsyms_tiling (env : Env) (cfg : DsoConfig) (σ : SymbolSort) (path : String)
    (force64bit : Bool) (v₀ : UInt64) (t : String) (hv : cfg.vmlinux = "")
    (ht : Dso.kallsymsText env cfg path = some t) :
    let d := ((createDso env cfg .kernel path force64bit).findSymbol env cfg σ v₀).1
    (d.symbols.map Symbol.key).Perm ((Dso.admittedEntries env t).map fun e => (e.name, e.addr)) ∧
    Tiled d.symbols ∧ (∀ s ∈ d.symbols.getLast?, s.addr.toNat + s.len.toNat = 2 ^ 64 - 1) ∧
    ∀ v : UInt64, (∃ e ∈ Dso.admittedEntries env t, e.addr ≤ v) → v.toNat < 2 ^ 64 - 1 →
      ∃ s, lastAtOrBelow d.symbols v = some s ∧ (d.findSymbol env cfg σ v).2 = some (.symbol s) ∧
        s.addr.toNat ≤ v.toNat ∧ v.toNat < s.addr.toNat + s.len.toNat := by
  intro d
  have hT : d.symbols = Dso.extendLast (sortAndFixSymbols σ
      ((Dso.admittedEntries env t).map fun e => ⟨e.name, e.addr, 0⟩)) := by
    rw [Dso.kernel_findSymbol_symbols, Dso.kernelLoadSymbols, Dso.kernelSymbols_of_kallsyms path hv, ht]
    simp [Dso.readSymbolsFromKallsyms_eq]
  obtain ⟨hs, hti, hE, hkey⟩ := Dso.kernelTable_spec (σ := σ)
    ((Dso.admittedEntries env t).map fun e => ⟨e.name, e.addr, 0⟩) (by simp)
  rw [← hT] at hs hti hE hkey
  rw [List.map_map] at hkey
  refine ⟨hkey, hti, hE, fun v ⟨e, he, hev⟩ hvE => ?_⟩
  obtain ⟨x, hx, hxk⟩ := List.exists_of_mem_map (hkey.symm.subset (List.mem_map_of_mem _ he))
  have hxv : x.addr ≤ v := by rw [show x.addr = e.addr from congrArg Prod.snd hxk]; exact hev
  exact Dso.findSymbol_tiled (by simp [d]) hs hti hE hx hxv hvE

/-- The sample cached in `kallsyms_`: an address between the two text symbols
    falls in the first. -/
theorem kernel_kallsyms_tiling_between :
    let cfg : DsoConfig := { DsoConfig.initial with kallsyms := "kallsyms" }
    let d := ((createDso kallsymsSample cfg .kernel "[kernel.kallsyms]" false).findSymbol
      kallsymsSample cfg SymbolSort.insertion 0).1
    ∃ s, lastAtOrBelow d.symbols 0x1800 = some s ∧
      (d.findSymbol kallsymsSample cfg SymbolSort.insertion 0x1800).2 = some (.symbol s) ∧
      s.addr.toNat ≤ (0x1800 : UInt64).toNat ∧ (0x1800 : UInt64).toNat < s.addr.toNat + s.len.toNat :=
  (kernel_kallsyms_tiling kallsymsSample { DsoConfig.initial with kallsyms := "kallsyms" }
    SymbolSort.insertion "[kernel.kallsyms]" false 0 "kallsyms" rfl rfl).2.2.2 0x1800
      ⟨⟨0x1000, 'T', "_text", by decide⟩, by decide, by decide⟩ (by decide)

/-! ## What `/proc/kallsyms` can change -/

/-- `env` with `/proc/kallsyms` holding `text` (`none`: it cannot be read). -/
def Env.withProcKallsyms (env : Env) (text : Option String) : Env :=
  { env with readFileToString := fun p => if p = "/proc/kallsyms" then text else env.readFileToString p }

namespace Dso

/-- The load of the kernel Dso at `path` reads `/proc/kallsyms`: neither
    `vmlinux_` nor `kallsyms_` is set, and either no build id is expected for
    the path and `read_kernel_symbols_from_proc_` is set, or the expected one
    is the running kernel's. -/
def readsProcKallsyms (env : Env) (cfg : DsoConfig) (path : String) : Prop :=
  let b := findExpectedBuildIdForPath cfg path
  cfg.vmlinux = "" ∧ cfg.kallsyms = "" ∧
    ((b.IsEmpty ∧ cfg.readKernelSymbolsFromProc = true) ∨ (¬b.IsEmpty ∧ env.getKernelBuildId = some b))

instance (env : Env) (cfg : DsoConfig) (path : String) : Decidable (readsProcKallsyms env cfg path) :=
  inferInstanceAs (Decidable (_ ∧ _))

variable {env : Env} {cfg : DsoConfig} {σ : SymbolSort}

/-- The text the load reads: only the branch `readsProcKallsyms` describes
    reads `/proc/kallsyms`. -/
theorem kallsymsText_withProcKallsyms (text : Option String) (path : String) (hv : cfg.vmlinux = "") :
    kallsymsText (env.withProcKallsyms text) cfg path =
      if readsProcKallsyms env cfg path then text else kallsymsText env cfg path := by
  unfold kallsymsText readsProcKallsyms
  by_cases hk : cfg.kallsyms = "" <;> by_cases hb : (findExpectedBuildIdForPath cfg path).IsEmpty <;>
    simp [Env.withProcKallsyms, hv, hk, hb] <;> split_ifs <;> rfl

theorem kernelSymbols_withProcKallsyms (text : Option String) (path : String) :
    kernelSymbols (env.withProcKallsyms text) cfg path =
      if readsProcKallsyms env cfg path then (text.map (readSymbolsFromKallsyms env)).getD []
      else kernelSymbols env cfg path := by
  by_cases hv : cfg.vmlinux = ""
  · rw [kernelSymbols_of_kallsyms path hv, kernelSymbols_of_kallsyms path hv,
      kallsymsText_withProcKallsyms text path hv]
    split_ifs <;> rfl
  · have hr : ¬readsProcKallsyms env cfg path := fun h => hv h.1
    simp only [kernelSymbols, if_pos hv, if_neg hr]
    rfl

theorem loadSymbols_withProcKallsyms (text : Option String) (d : Dso)
    (h : d.cls = .kernel → ¬readsProcKallsyms env cfg d.path) :
    loadSymbols (env.withProcKallsyms text) cfg σ d = loadSymbols env cfg σ d := by
  unfold loadSymbols
  split
  case h_4 hk => rw [kernelLoadSymbols, kernelLoadSymbols, kernelSymbols_withProcKallsyms, if_neg (h hk)]
  all_goals rfl

theorem step_withProcKallsyms (text : Option String) (d : Dso) (op : DsoOp)
    (h : d.cls = .kernel → ¬readsProcKallsyms env cfg d.path) :
    step (env.withProcKallsyms text) cfg σ d op = step env cfg σ d op := by
  cases op with
  | findSymbol v =>
    simp only [step, findSymbol_fst, ensureLoaded, load, loadSymbols_withProcKallsyms text d h]
  | _ => rfl

@[simp] theorem step_path (op : DsoOp) : (step env cfg σ d op).path = d.path := by
  cases op with
  | setSymbols _ => rfl
  | addUnknownSymbol v n => simp only [step]; unfold addUnknownSymbol; split <;> rfl
  | addDexFileOffset o => simp only [step]; unfold addDexFileOffset; split <;> rfl
  | findSymbol v => simp only [step, findSymbol_fst]; unfold ensureLoaded; split <;> rfl
  | minVirtualAddress => simp only [step]; unfold minVirtualAddress; split <;> (try split) <;> rfl
  | setMinVirtualAddress m => simp only [step]; unfold setMinVirtualAddress; split <;> rfl

theorem run_withProcKallsyms (text : Option String) (d : Dso) (ops : List DsoOp)
    (h : d.cls = .kernel → ¬readsProcKallsyms env cfg d.path) :
    run (env.withProcKallsyms text) cfg σ d ops = run env cfg σ d ops := by
  induction ops generalizing d with
  | nil => rfl
  | cons op ops ih =>
    rw [run_cons, run_cons, step_withProcKallsyms text d op h]
    exact ih _ fun hk => by rw [step_path]; exact h ((step_cls_kernel op).1 hk)

end Dso

/-- **`/proc/kallsyms` is read only where the load means to read it.**  From
    `CreateDso` on, whatever calls a Dso receives, what `/proc/kallsyms`
    holds changes nothing, unless the Dso is a kernel Dso with neither
    `vmlinux_` nor `kallsyms_`, for which no build id is expected and
    `read_kernel_symbols_from_proc_` is set, or the expected build id is the
    running kernel's; so a record file from a device whose kernel differs
    never gets the host's kernel symbols.  In that one case the file's text is
    what the table is read from. -/
theorem run_procKallsyms_unread (env : Env) (cfg : DsoConfig) (σ : SymbolSort) (text : Option String)
    (dsoType : DsoType) (path : String) (force64bit : Bool) :
    let env' := env.withProcKallsyms text
    (¬(dsoType = .kernel ∧ Dso.readsProcKallsyms env cfg path) → ∀ ops : List DsoOp,
      (createDso env' cfg dsoType path force64bit).run env' cfg σ ops =
        (createDso env cfg dsoType path force64bit).run env cfg σ ops) ∧
    (Dso.readsProcKallsyms env cfg path →
      Dso.kernelSymbols env' cfg path = (text.map (Dso.readSymbolsFromKallsyms env)).getD []) := by
  intro env'
  have hc : createDso env' cfg dsoType path force64bit = createDso env cfg dsoType path force64bit := by
    cases dsoType <;> rfl
  refine ⟨fun h ops => ?_, fun h => by rw [Dso.kernelSymbols_withProcKallsyms, if_pos h]⟩
  rw [hc]
  refine Dso.run_withProcKallsyms text _ ops fun hk hr => h ⟨?_, ?_⟩
  · cases dsoType <;> first | rfl | cases hk
  · cases dsoType <;> exact hr

/-- A record file whose kernel is not the running one: with
    `read_kernel_symbols_from_proc_` set, the host's `/proc/kallsyms` still
    does not reach the kernel Dso. -/
theorem run_procKallsyms_unread_mismatch :
    let env : Env := { Env.noFiles with getKernelBuildId := some ⟨List.replicate 20 1, rfl⟩ }
    let cfg : DsoConfig := { DsoConfig.initial with
                             readKernelSymbolsFromProc := true
                             buildIdMap := [("[kernel.kallsyms]", ⟨List.replicate 20 2, rfl⟩)] }
    let env' := env.withProcKallsyms (some "ffffffc010080000 T _text")
    (createDso env' cfg .kernel "[kernel.kallsyms]" false).run env' cfg SymbolSort.insertion [.findSymbol 0] =
      (createDso env cfg .kernel "[kernel.kallsyms]" false).run env cfg SymbolSort.insertion [.findSymbol 0] :=
  (run_procKallsyms_unread _ _ SymbolSort.insertion _ .kernel "[kernel.kallsyms]" false).1 (by decide) _

end Simpleperf
