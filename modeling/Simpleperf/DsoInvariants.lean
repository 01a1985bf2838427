/-
  The symbol table of a Dso over whole runs of calls.

  * `run_sorted`: the table stays sorted by address as long as `SetSymbols`
    is only given sorted tables;
  * `run_fromFile`: a Dso never given a table by `SetSymbols` has, once
    loaded, a patched table, whose last symbol ends at `2^64 - 1` for a kernel;
  * `findSymbol_snd_sorted`: on a sorted table `FindSymbol` returns the last
    symbol at or below the address if its range holds it, and otherwise looks
    in `unknown_symbols_`; `findSymbol_eq_linear`: that binary search is
    the linear scan for the last symbol at or below the address;
  * `load_merge_by_address`: `Load` merges the table `SetSymbols` left with
    the loaded one address by address, as `std::set_union` does;
  * `findSymbol_last_covering` and `dso_table_invariants`: the lookup and the
    table invariants as they hold over every run from `CreateDso`, with the
    runs that break the stronger statements next to them;
  * `loaded_run_ignores_statics`: once loaded, a Dso reads neither the static
    members nor the files again, but for an `ElfDso`'s `min_vaddr_`.
-/
import Simpleperf.Dso

namespace Simpleperf

namespace Dso

variable {env : Env} {cfg : DsoConfig} {σ : SymbolSort} {d : Dso}

/-! ## The kernel's last symbol -/

theorem extendLast_map_addr (l : List Symbol) : (extendLast l).map Symbol.addr = l.map Symbol.addr := by
  induction l with
  | nil => rfl
  | cons s l ih => simp only [extendLast, List.map_cons, ih]; split <;> rfl

theorem extendLast_head?_addr (l : List Symbol) :
    (extendLast l).head?.map Symbol.addr = l.head?.map Symbol.addr := by
  rw [← List.head?_map, extendLast_map_addr, List.head?_map]

theorem addrSorted_extendLast {l : List Symbol} (h : AddrSorted l) : AddrSorted (extendLast l) := by
  rwa [addrSorted_iff_map, extendLast_map_addr, ← addrSorted_iff_map]

/-- Only the last symbol changes, and it has no successor. -/
theorem patched_extendLast {l : List Symbol} (h : Patched l) : Patched (extendLast l) := by
  induction l with
  | nil => exact List.chain'_nil
  | cons s l ih =>
    rw [Patched, List.chain'_cons'] at h
    refine List.Chain'.cons' (ih h.2) fun u hu hu0 => ?_
    cases l with
    | nil => simp [extendLast] at hu
    | cons t l =>
      simp only [extendLast, List.head?_cons, Option.mem_def, Option.some.injEq] at hu
      subst hu
      simp only [List.isEmpty_cons, Bool.false_eq_true, if_false] at hu0 ⊢
      have := h.1 t rfl hu0
      split <;> exact this

theorem extendLast_getLast (l : List Symbol) :
    ∀ s ∈ (extendLast l).getLast?, s.addr.toNat + s.len.toNat = 2 ^ 64 - 1 := by
  induction l with
  | nil => simp [extendLast]
  | cons s l ih =>
    cases l with
    | nil =>
      intro x hx
      simp only [extendLast, List.isEmpty_nil, if_true, List.getLast?_singleton, Option.mem_def,
        Option.some.injEq] at hx
      subst hx
      have hle : s.addr ≤ u64Max := u64_le_iff.2 (by simp; have := u64_toNat_lt s.addr; omega)
      have := u64_toNat_lt s.addr
      simp only [u64_toNat_sub hle, u64Max_toNat]; omega
    | cons t l =>
      intro x hx
      simp only [extendLast] at hx ih
      rw [List.getLast?_cons_cons] at hx
      exact ih x hx

/-! ## `LoadSymbols` -/

theorem dexLoadSymbols_sorted (path : String) (offsets : List UInt64) :
    AddrSorted (dexLoadSymbols env σ path offsets) := by
  unfold dexLoadSymbols; split
  · exact List.sorted_nil
  · exact sortAndFixSymbols_sorted σ _

theorem dexLoadSymbols_patched (path : String) (offsets : List UInt64) :
    Patched (dexLoadSymbols env σ path offsets) := by
  unfold dexLoadSymbols; split
  · exact List.chain'_nil
  · exact patched_fixSymbols (σ.sorted _)

/-- Every class loads a sorted table. -/
theorem loadSymbols_sorted (d : Dso) : AddrSorted (loadSymbols env cfg σ d) := by
  unfold loadSymbols
  split
  · exact dexLoadSymbols_sorted _ _
  · exact dexLoadSymbols_sorted _ _
  · exact sortAndFixSymbols_sorted σ _
  · exact addrSorted_extendLast (sortAndFixSymbols_sorted σ _)
  · exact sortAndFixSymbols_sorted σ _
  · exact List.sorted_nil

/-- Every class loads a patched table. -/
theorem loadSymbols_patched (d : Dso) : Patched (loadSymbols env cfg σ d) := by
  unfold loadSymbols
  split
  · exact dexLoadSymbols_patched _ _
  · exact dexLoadSymbols_patched _ _
  · exact patched_fixSymbols (σ.sorted _)
  · exact patched_extendLast (patched_fixSymbols (σ.sorted _))
  · exact patched_fixSymbols (σ.sorted _)
  · exact List.chain'_nil


/-! ## Sortedness over runs -/

theorem load_sorted (h : AddrSorted d.symbols) : AddrSorted (load env cfg σ d).symbols := by
  unfold load; split
  · exact loadSymbols_sorted d
  · exact setUnion_sorted h (loadSymbols_sorted d)

theorem ensureLoaded_sorted (h : AddrSorted d.symbols) :
    AddrSorted (ensureLoaded env cfg σ d).symbols := by
  unfold ensureLoaded; split
  · exact h
  · exact load_sorted h

/-- One call keeps the table sorted. -/
theorem step_sorted {op : DsoOp} (hop : op.SortedArg) (h : AddrSorted d.symbols) :
    AddrSorted (step env cfg σ d op).symbols := by
  cases op with
  | setSymbols symbols => exact hop
  | findSymbol v => exact ensureLoaded_sorted h
  | _ => simpa [step] using h

/-- **Every run keeps the table sorted**, if `SetSymbols` only gets sorted tables. -/
theorem run_sorted {ops : List DsoOp} (hops : ∀ op ∈ ops, op.SortedArg) (h : AddrSorted d.symbols) :
    AddrSorted (run env cfg σ d ops).symbols := by
  induction ops generalizing d with
  | nil => exact h
  | cons op ops ih =>
    exact ih (fun o ho => hops o (List.mem_cons_of_mem _ ho)) (step_sorted (hops op (List.mem_cons_self _ _)) h)

/-! ## What `Load` merges -/

/-- `Load` merges through `std::set_union` whatever table it finds: with none,
    the union is the loaded table itself. -/
theorem load_symbols (env : Env) (cfg : DsoConfig) (σ : SymbolSort) (d : Dso) :
    (load env cfg σ d).symbols = setUnion d.symbols (loadSymbols env cfg σ d) := by
  rw [load]
  split
  · rename_i h
    rw [List.isEmpty_iff.1 h, setUnion]
  · rfl

/-- **What `Load` merges.**  For a table `P` that `SetSymbols` left, sorted by
    address, and the table `L` that `LoadSymbols` returns, the loaded table is
    sorted and holds, at each address, the symbols of `P` there in their order
    and then those of `L` there beyond as many as `P` has: none of `P` is
    lost, a loaded symbol is dropped only for one of `P` at its address, and
    the table has `max(|P_a|, |L_a|)` symbols at each address `a`. -/
theorem load_merge_by_address (env : Env) (cfg : DsoConfig) (σ : SymbolSort) (d : Dso)
    (hP : AddrSorted d.symbols) :
    let P := d.symbols
    let L := loadSymbols env cfg σ d
    let M := (load env cfg σ d).symbols
    AddrSorted L ∧ AddrSorted M ∧
      (∀ a, symbolsAt M a = symbolsAt P a ++ (symbolsAt L a).drop (symbolsAt P a).length) ∧
      M.length = (((P ++ L).map Symbol.addr).dedup.map fun a =>
        max (symbolsAt P a).length (symbolsAt L a).length).sum := by
  intro P L M
  have hL : AddrSorted L := loadSymbols_sorted d
  have hM : M = setUnion P L := load_symbols env cfg σ d
  rw [hM]
  exact ⟨hL, setUnion_sorted hP hL, setUnion_symbolsAt hP hL, setUnion_length hP hL⟩

/-- An ELF file with two functions at `0x1000` and one at `0x2000`. -/
def mergeSample : Env :=
  { Env.noFiles with parseSymbolsFromElfFile := fun _ _ =>
      [⟨0x1000, 8, true, false, true, "a"⟩, ⟨0x1000, 8, true, false, true, "b"⟩,
        ⟨0x2000, 4, true, false, true, "c"⟩] }

/-- A table given by `SetSymbols` with one symbol at `0x1000`, merged with
    `mergeSample`: the preset symbol and the second loaded one stay there. -/
theorem load_merge_by_address_preset :
    let d : Dso := ⟨.elf u64Max none, "/system/lib/libc.so", "/system/lib/libc.so", false,
      [⟨"preset", 0x1000, 0x10⟩], []⟩
    symbolsAt (load mergeSample DsoConfig.initial SymbolSort.insertion d).symbols 0x1000 =
      [⟨"preset", 0x1000, 0x10⟩, ⟨"b", 0x1000, 8⟩] := by
  intro d
  rw [(load_merge_by_address mergeSample DsoConfig.initial SymbolSort.insertion d (by decide)).2.2.1]
  decide

/-! ## Tables read from the file only -/

/-- The table of a Dso that `SetSymbols` has not touched: empty before the
    load; after it, patched, and ending at `2^64 - 1` for a kernel. -/
def FromFile (d : Dso) : Prop :=
  (d.isLoaded = false → d.symbols = []) ∧
  (d.isLoaded = true → Patched d.symbols ∧
    (d.cls = .kernel → ∀ s ∈ d.symbols.getLast?, s.addr.toNat + s.len.toNat = 2 ^ 64 - 1))

theorem fromFile_of_eq {d' : Dso} (hl : d'.isLoaded = d.isLoaded) (hs : d'.symbols = d.symbols)
    (hk : d'.cls = .kernel ↔ d.cls = .kernel) (h : FromFile d) : FromFile d' := by
  rw [FromFile, hl, hs, hk]; exact h

theorem ensureLoaded_fromFile (h : FromFile d) : FromFile (ensureLoaded env cfg σ d) := by
  unfold ensureLoaded; split
  · exact h
  · rename_i hl
    have h0 : d.symbols = [] := h.1 (by simpa using hl)
    refine ⟨fun h' => by simp [load] at h', fun _ => ?_⟩
    simp only [load, h0, List.isEmpty_nil, if_true]
    refine ⟨loadSymbols_patched d, fun hk => ?_⟩
    unfold loadSymbols; rw [hk]; exact extendLast_getLast _

/-- One call other than `SetSymbols` keeps `FromFile`. -/
theorem step_fromFile {op : DsoOp} (hop : op.isSetSymbols = false) (h : FromFile d) :
    FromFile (step env cfg σ d op) := by
  cases op with
  | setSymbols _ => cases hop
  | findSymbol v => exact ensureLoaded_fromFile h
  | _ => exact fromFile_of_eq (by simp [step]) (by simp [step]) (step_cls_kernel _) h

theorem run_fromFile {ops : List DsoOp} (hops : ∀ op ∈ ops, op.isSetSymbols = false)
    (h : FromFile d) : FromFile (run env cfg σ d ops) := by
  induction ops generalizing d with
  | nil => exact h
  | cons op ops ih =>
    exact ih (fun o ho => hops o (List.mem_cons_of_mem _ ho)) (step_fromFile (hops op (List.mem_cons_self _ _)) h)

theorem createDso_fromFile (t : DsoType) (p : String) (b : Bool) : FromFile (createDso env cfg t p b) :=
  ⟨fun _ => createDso_symbols env cfg t p b, by simp⟩

/-! ## The lookup -/

/-- `FindSymbol` on a Dso whose loaded table is sorted. -/
theorem findSymbol_snd_sorted (v : UInt64) (h : AddrSorted (ensureLoaded env cfg σ d).symbols) :
    (findSymbol env cfg σ d v).2 =
      match (lastAtOrBelow (ensureLoaded env cfg σ d).symbols v).filter (fun s => s.addr + s.len > v) with
      | some s => some (.symbol s)
      | none => ((ensureLoaded env cfg σ d).unknownSymbols.lookup v).map .unknown :=
  congrArg (fun o : Option Symbol => (match o with
    | some s => some (.symbol s)
    | none => ((ensureLoaded env cfg σ d).unknownSymbols.lookup v).map .unknown : Option Found))
    (lookupSymbols_eq_filter h v)

/-- `FindSymbol` on a sorted table: the last symbol at or below the address if
    it covers it without wrapping, else `unknown_symbols_`. -/
theorem findSymbol_of_sorted (v : UInt64) (h : AddrSorted d.symbols) :
    (lastAtOrBelow (findSymbol env cfg σ d v).1.symbols v = none →
      (findSymbol env cfg σ d v).2 = ((findSymbol env cfg σ d v).1.unknownSymbols.lookup v).map .unknown) ∧
    ∀ s, lastAtOrBelow (findSymbol env cfg σ d v).1.symbols v = some s →
      (v.toNat < s.addr.toNat + s.len.toNat → s.addr.toNat + s.len.toNat < 2 ^ 64 →
        (findSymbol env cfg σ d v).2 = some (.symbol s)) ∧
      (s.addr.toNat + s.len.toNat ≤ v.toNat →
        (findSymbol env cfg σ d v).2 = ((findSymbol env cfg σ d v).1.unknownSymbols.lookup v).map .unknown) := by
  simp only [findSymbol_fst]
  have hr := findSymbol_snd_sorted v (ensureLoaded_sorted h : AddrSorted (ensureLoaded env cfg σ d).symbols)
  refine ⟨fun hn => by rw [hr, hn]; rfl, fun s hs => ⟨fun h1 h2 => ?_, fun h3 => ?_⟩⟩
  · have hc := (covers_iff s v).2 ⟨lastAtOrBelow_le hs, h1, h2⟩
    rw [hr, hs]; simp [Option.filter, hc]
  · have hc : ¬ (s.addr + s.len > v) := fun hc => by
      have := (covers_iff s v).1 ⟨lastAtOrBelow_le hs, hc⟩; omega
    rw [hr, hs]; simp [Option.filter, hc]

/-- What `FindSymbol` returns from the table covers the address, whatever the table. -/
theorem findSymbol_sound {v : UInt64} {s : Symbol}
    (h : (findSymbol env cfg σ d v).2 = some (.symbol s)) :
    s ∈ (findSymbol env cfg σ d v).1.symbols ∧ s.addr.toNat ≤ v.toNat ∧
      v.toNat < s.addr.toNat + s.len.toNat := by
  unfold findSymbol at h ⊢
  dsimp only at h ⊢
  split at h
  · cases h; exact lookupSymbols_sound ‹_›
  · simp at h

/-- Modelled from the spec: `FindSymbol` as a linear scan of a table and of
    `unknown_symbols_`: the last symbol at or below `v`, if `addr + len > v`
    in `uint64_t`; otherwise the unknown symbol whose key is `v`, if any. -/
def findSymbolLinear (symbols : List Symbol) (unknownSymbols : List (UInt64 × Symbol)) (v : UInt64) :
    Option Found :=
  match lastAtOrBelow symbols v with
  | some s => if s.addr + s.len > v then some (.symbol s) else (unknownSymbols.lookup v).map .unknown
  | none => (unknownSymbols.lookup v).map .unknown

/-- **The binary search is the linear scan.**  Whatever `unknown_symbols_`
    holds, `FindSymbol` on a sorted table returns what the linear scan of the
    table and of `unknown_symbols_` finds. -/
theorem findSymbol_eq_linear (v : UInt64) (h : AddrSorted (ensureLoaded env cfg σ d).symbols) :
    (findSymbol env cfg σ d v).2 =
      findSymbolLinear (ensureLoaded env cfg σ d).symbols (ensureLoaded env cfg σ d).unknownSymbols v := by
  rw [findSymbol_snd_sorted v h, findSymbolLinear]
  cases lastAtOrBelow (ensureLoaded env cfg σ d).symbols v with
  | none => rfl
  | some s => by_cases hc : s.addr + s.len > v <;> simp [Option.filter, hc]

/-- An address past the table's only symbol, kept in `unknown_symbols_`. -/
theorem findSymbol_eq_linear_unknown :
    let d : Dso := ⟨.unknown, "[unknown]", "[unknown]", true, [⟨"f", 0x1000, 0x10⟩],
      [(0x2000, ⟨"u", 0x2000, 1⟩)]⟩
    (findSymbol Env.noFiles DsoConfig.initial SymbolSort.insertion d 0x2000).2 =
      some (.unknown ⟨"u", 0x2000, 1⟩) := by
  intro d
  rw [@findSymbol_eq_linear Env.noFiles DsoConfig.initial SymbolSort.insertion d 0x2000 (by decide)]
  decide

end Dso

/-! ## Over every run from `CreateDso` -/

/-- Two nested symbols given by `SetSymbols`: past the end of the inner one,
    `FindSymbol` finds nothing, though the outer one holds the address. -/
theorem findSymbol_misses_enclosing :
    let r := ((createDso Env.noFiles DsoConfig.initial .unknownFile "x" false).run Env.noFiles
      DsoConfig.initial SymbolSort.insertion [.setSymbols [⟨"outer", 0, 100⟩, ⟨"inner", 10, 5⟩]]).findSymbol
        Env.noFiles DsoConfig.initial SymbolSort.insertion 50
    (⟨"outer", 0, 100⟩ : Symbol) ∈ r.1.symbols ∧ r.2 = none := by
  intro r
  have hd : r.1 = ⟨.unknown, "x", "x", true, [⟨"outer", 0, 100⟩, ⟨"inner", 10, 5⟩], []⟩ := by
    simp [r, Dso.ensureLoaded, Dso.load, Dso.loadSymbols, Dso.step, Dso.setSymbols, createDso]
  refine ⟨by rw [hd]; decide, ?_⟩
  rw [Dso.findSymbol_snd_sorted _ (by rw [← Dso.findSymbol_fst (v := 50), hd]; decide)]
  simp only [← Dso.findSymbol_fst (v := 50)]
  rw [hd]; decide

/-- **`FindSymbol` over every run.**  What it returns from the table covers the
    address in exact arithmetic, whatever the table.  When `SetSymbols` only
    gets sorted tables, it returns the last symbol at or below the address if
    that one covers it and ends below `2^64`; if that one ends at or before the
    address, or there is none, it looks in `unknown_symbols_`, even when an
    earlier symbol covers the address. -/
theorem findSymbol_last_covering (env : Env) (cfg : DsoConfig) (σ : SymbolSort) (dsoType : DsoType)
    (path : String) (force64bit : Bool) (ops : List DsoOp) (v : UInt64) :
    let r := ((createDso env cfg dsoType path force64bit).run env cfg σ ops).findSymbol env cfg σ v
    (∀ s, r.2 = some (.symbol s) →
      s ∈ r.1.symbols ∧ s.addr.toNat ≤ v.toNat ∧ v.toNat < s.addr.toNat + s.len.toNat) ∧
    ((∀ op ∈ ops, op.SortedArg) →
      (lastAtOrBelow r.1.symbols v = none → r.2 = (r.1.unknownSymbols.lookup v).map .unknown) ∧
      ∀ s, lastAtOrBelow r.1.symbols v = some s →
        (v.toNat < s.addr.toNat + s.len.toNat → s.addr.toNat + s.len.toNat < 2 ^ 64 →
          r.2 = some (.symbol s)) ∧
        (s.addr.toNat + s.len.toNat ≤ v.toNat → r.2 = (r.1.unknownSymbols.lookup v).map .unknown)) := by
  intro r
  exact ⟨fun s hs => Dso.findSymbol_sound hs,
    fun hops => Dso.findSymbol_of_sorted v (Dso.run_sorted hops (by simp; exact List.sorted_nil))⟩

/-- A run of the kind `findSymbol_last_covering` speaks of: a sorted table,
    and a lookup inside its only symbol. -/
theorem findSymbol_last_covering_inside :
    let r := ((createDso Env.noFiles DsoConfig.initial .unknownFile "x" false).run Env.noFiles
      DsoConfig.initial SymbolSort.insertion [.setSymbols [⟨"f", 0x1000, 0x10⟩]]).findSymbol
        Env.noFiles DsoConfig.initial SymbolSort.insertion 0x1004
    r.2 = some (.symbol ⟨"f", 0x1000, 0x10⟩) := by
  intro r
  have hd : r.1 = ⟨.unknown, "x", "x", true, [⟨"f", 0x1000, 0x10⟩], []⟩ := by
    simp [r, Dso.ensureLoaded, Dso.load, Dso.loadSymbols, Dso.step, Dso.setSymbols, createDso]
  have h := findSymbol_last_covering Env.noFiles DsoConfig.initial SymbolSort.insertion .unknownFile "x" false
    [.setSymbols [⟨"f", 0x1000, 0x10⟩]] 0x1004
  exact ((h.2 (by decide)).2 ⟨"f", 0x1000, 0x10⟩ (by rw [hd]; decide)).1 (by decide) (by decide)

/-- A zero-length placeholder given by `SetSymbols` stays in the table after
    the load, in front of a symbol at another address. -/
theorem setSymbols_keeps_placeholder :
    let d := (createDso Env.noFiles DsoConfig.initial .unknownFile "x" false).run Env.noFiles
      DsoConfig.initial SymbolSort.insertion [.setSymbols [⟨"a", 0, 0⟩, ⟨"b", 10, 5⟩], .findSymbol 0]
    AddrSorted [⟨"a", 0, 0⟩, ⟨"b", 10, 5⟩] ∧ d.isLoaded = true ∧ ¬ Patched d.symbols := by
  intro d
  have hd : d = ⟨.unknown, "x", "x", true, [⟨"a", 0, 0⟩, ⟨"b", 10, 5⟩], []⟩ := by
    simp [d, Dso.ensureLoaded, Dso.load, Dso.loadSymbols, Dso.step, Dso.setSymbols, createDso]
  rw [hd]
  refine ⟨by decide, rfl, ?_⟩
  simp [Patched]

/-- **The table over every run.**  It stays sorted when `SetSymbols` only gets
    sorted tables.  When `SetSymbols` is never called, the loaded table has
    its zero-length placeholders patched, and a kernel's non-empty table ends
    at `2^64 - 1`. -/
theorem dso_table_invariants (env : Env) (cfg : DsoConfig) (σ : SymbolSort) (dsoType : DsoType)
    (path : String) (force64bit : Bool) (ops : List DsoOp) :
    let d := (createDso env cfg dsoType path force64bit).run env cfg σ ops
    ((∀ op ∈ ops, op.SortedArg) → AddrSorted d.symbols) ∧
    ((∀ op ∈ ops, op.isSetSymbols = false) → d.isLoaded = true →
      Patched d.symbols ∧
        (d.type = .kernel → ∀ s ∈ d.symbols.getLast?, s.addr.toNat + s.len.toNat = 2 ^ 64 - 1)) := by
  intro d
  refine ⟨fun hops => Dso.run_sorted hops (by simp; exact List.sorted_nil), fun hops hl => ?_⟩
  have h := (Dso.run_fromFile hops (Dso.createDso_fromFile dsoType path force64bit)).2 hl
  exact ⟨h.1, fun hk => h.2 (Dso.type_eq_kernel.1 hk)⟩

/-- A kallsyms text with a data symbol between two text symbols. -/
def kallsymsSample : Env :=
  { Env.noFiles with processKernelSymbols := fun _ =>
      [⟨0x1000, 'T', "_text", by decide⟩, ⟨0x1800, 'd', "data", by decide⟩, ⟨0x2000, 't', "f", by decide⟩] }

/-- A kernel run of the kind `dso_table_invariants` speaks of: no `SetSymbols`,
    and a lookup that loads the table from `kallsyms_`, whose two text
    symbols come with length `0` and are patched, the last up to `2^64 - 1`. -/
theorem dso_table_invariants_kernel :
    let cfg : DsoConfig := { DsoConfig.initial with kallsyms := "kallsyms" }
    let d := (createDso kallsymsSample cfg .kernel "[kernel.kallsyms]" false).run kallsymsSample cfg
      SymbolSort.insertion [.findSymbol 0x1800]
    d.symbols.map Symbol.addr = [0x1000, 0x2000] ∧ AddrSorted d.symbols ∧ Patched d.symbols ∧
      ∀ s ∈ d.symbols.getLast?, s.addr.toNat + s.len.toNat = 2 ^ 64 - 1 := by
  intro cfg d
  have h := dso_table_invariants kallsymsSample cfg SymbolSort.insertion .kernel "[kernel.kallsyms]" false
    [.findSymbol 0x1800]
  have hl := h.2 (by decide) (by decide)
  exact ⟨by decide, h.1 (by decide), hl.1, hl.2 (by decide)⟩

/-! ## After the load -/

namespace Dso

variable {env env' : Env} {cfg cfg' : DsoConfig} {σ σ' : SymbolSort} {d d' : Dso}

/-- The Dso with `min_vaddr_` set to `0`: all that a loaded Dso may still
    read from its file is gone. -/
def eraseMinVaddr (d : Dso) : Dso := setMinVirtualAddress d 0

theorem eraseMinVaddr_setSymbols (l : List Symbol) :
    eraseMinVaddr (setSymbols d l) = setSymbols (eraseMinVaddr d) l := by
  obtain ⟨c, _⟩ := d; cases c <;> rfl

@[simp] theorem eraseMinVaddr_unknownSymbols : (eraseMinVaddr d).unknownSymbols = d.unknownSymbols := by
  obtain ⟨c, _⟩ := d; cases c <;> rfl

theorem eraseMinVaddr_addUnknownSymbol (v : UInt64) (n : String) :
    eraseMinVaddr (addUnknownSymbol d v n) = addUnknownSymbol (eraseMinVaddr d) v n := by
  unfold addUnknownSymbol
  rw [eraseMinVaddr_unknownSymbols]
  split
  · rfl
  · obtain ⟨c, _⟩ := d; cases c <;> rfl

theorem eraseMinVaddr_addDexFileOffset (o : UInt64) :
    eraseMinVaddr (addDexFileOffset d o) = addDexFileOffset (eraseMinVaddr d) o := by
  obtain ⟨c, _⟩ := d
  cases c with
  | elf m nested => cases nested <;> rfl
  | _ => rfl

theorem eraseMinVaddr_minVirtualAddress :
    eraseMinVaddr (minVirtualAddress env cfg d).1 = eraseMinVaddr d := by
  obtain ⟨c, _⟩ := d
  cases c with
  | elf m nested => by_cases hm : m = u64Max <;> simp [minVirtualAddress, eraseMinVaddr, setMinVirtualAddress, hm]
  | _ => rfl

theorem eraseMinVaddr_setMinVirtualAddress (m : UInt64) :
    eraseMinVaddr (setMinVirtualAddress d m) = eraseMinVaddr d := by
  obtain ⟨c, _⟩ := d; cases c <;> rfl

@[simp] theorem eraseMinVaddr_isLoaded : (eraseMinVaddr d).isLoaded = d.isLoaded := by
  obtain ⟨c, _⟩ := d; cases c <;> rfl

@[simp] theorem eraseMinVaddr_symbols : (eraseMinVaddr d).symbols = d.symbols := by
  obtain ⟨c, _⟩ := d; cases c <;> rfl

@[simp] theorem eraseMinVaddr_type : (eraseMinVaddr d).type = d.type := by
  obtain ⟨c, _⟩ := d
  cases c with
  | elf m nested => cases nested <;> rfl
  | _ => rfl

@[simp] theorem eraseMinVaddr_dexFileOffsets : (eraseMinVaddr d).dexFileOffsets = d.dexFileOffsets := by
  obtain ⟨c, _⟩ := d; cases c <;> rfl

/-- One call on two loaded Dsos that agree but for `min_vaddr_`, each with its
    own static members, files and sort: they still agree. -/
theorem step_eraseMinVaddr (hl : d.isLoaded = true) (hl' : d'.isLoaded = true)
    (h : eraseMinVaddr d = eraseMinVaddr d') (op : DsoOp) :
    eraseMinVaddr (step env cfg σ d op) = eraseMinVaddr (step env' cfg' σ' d' op) := by
  cases op with
  | setSymbols l => simp only [step, eraseMinVaddr_setSymbols, h]
  | addUnknownSymbol v n => simp only [step, eraseMinVaddr_addUnknownSymbol, h]
  | addDexFileOffset o => simp only [step, eraseMinVaddr_addDexFileOffset, h]
  | findSymbol v => simpa only [step, findSymbol_fst, ensureLoaded_of_isLoaded hl, ensureLoaded_of_isLoaded hl']
  | minVirtualAddress => simpa only [step, eraseMinVaddr_minVirtualAddress]
  | setMinVirtualAddress m => simpa only [step, eraseMinVaddr_setMinVirtualAddress]

@[simp] theorem step_isLoaded (hl : d.isLoaded = true) (op : DsoOp) :
    (step env cfg σ d op).isLoaded = true := by
  cases op <;> simp [step, setSymbols, hl]

theorem run_isLoaded (hl : d.isLoaded = true) (ops : List DsoOp) : (run env cfg σ d ops).isLoaded = true := by
  induction ops generalizing d with
  | nil => exact hl
  | cons op ops ih => exact ih (step_isLoaded hl op)

/-- `FindSymbol` on a loaded Dso reads only the table and `unknown_symbols_`. -/
theorem findSymbol_snd_congr (hl : d.isLoaded = true) (hl' : d'.isLoaded = true) (hs : d.symbols = d'.symbols)
    (hu : d.unknownSymbols = d'.unknownSymbols) (v : UInt64) :
    (findSymbol env cfg σ d v).2 = (findSymbol env' cfg' σ' d' v).2 := by
  simp only [findSymbol, ensureLoaded_of_isLoaded hl, ensureLoaded_of_isLoaded hl', hs, hu]

theorem run_eraseMinVaddr (hl : d.isLoaded = true) (hl' : d'.isLoaded = true)
    (h : eraseMinVaddr d = eraseMinVaddr d') (ops : List DsoOp) :
    eraseMinVaddr (run env cfg σ d ops) = eraseMinVaddr (run env' cfg' σ' d' ops) := by
  induction ops generalizing d d' with
  | nil => exact h
  | cons op ops ih =>
    exact ih (step_isLoaded hl op) (step_isLoaded hl' op) (step_eraseMinVaddr hl hl' h op)

end Dso

/-- **A loaded Dso reads neither the static members nor the files.**  Once a
    Dso is loaded, whatever calls it then receives, the static members, the
    files and the sort it is run with change neither its table, nor
    `unknown_symbols_`, its type or its dex offsets, nor what `FindSymbol`
    returns: `Load` never runs again.  Only `min_vaddr_`, which an `ElfDso`
    reads on its first `MinVirtualAddress`, may differ. -/
theorem loaded_run_ignores_statics (env env' : Env) (cfg cfg' : DsoConfig) (σ σ' : SymbolSort) (d : Dso)
    (hl : d.isLoaded = true) (ops : List DsoOp) :
    let r := d.run env cfg σ ops
    let r' := d.run env' cfg' σ' ops
    r.eraseMinVaddr = r'.eraseMinVaddr ∧ r.symbols = r'.symbols ∧ r.type = r'.type ∧
      r.dexFileOffsets = r'.dexFileOffsets ∧ ∀ v, (r.findSymbol env cfg σ v).2 = (r'.findSymbol env' cfg' σ' v).2 := by
  intro r r'
  have h : r.eraseMinVaddr = r'.eraseMinVaddr := Dso.run_eraseMinVaddr hl hl rfl ops
  have hs : r.symbols = r'.symbols := by simpa using congrArg Dso.symbols h
  refine ⟨h, hs, by simpa using congrArg Dso.type h, by simpa using congrArg Dso.dexFileOffsets h, fun v => ?_⟩
  exact Dso.findSymbol_snd_congr (Dso.run_isLoaded hl ops) (Dso.run_isLoaded hl ops) hs
    (by simpa using congrArg Dso.unknownSymbols h) v

/-- An ELF Dso loaded from `Dso.mergeSample`, then run where no file has a
    symbol: its lookups are those of the run on `Dso.mergeSample`. -/
theorem loaded_run_ignores_statics_elf :
    let d := ((createDso Dso.mergeSample DsoConfig.initial .elfFile "/system/lib/libc.so" false).findSymbol
      Dso.mergeSample DsoConfig.initial SymbolSort.insertion 0).1
    let ops := [DsoOp.minVirtualAddress, .findSymbol 0x2000]
    ((d.run Env.noFiles DsoConfig.initial SymbolSort.insertion ops).findSymbol Env.noFiles DsoConfig.initial
        SymbolSort.insertion 0x2000).2 =
      ((d.run Dso.mergeSample DsoConfig.initial SymbolSort.insertion ops).findSymbol Dso.mergeSample DsoConfig.initial
        SymbolSort.insertion 0x2000).2 :=
  (loaded_run_ignores_statics Env.noFiles Dso.mergeSample DsoConfig.initial DsoConfig.initial SymbolSort.insertion
    SymbolSort.insertion _ rfl _).2.2.2.2 0x2000

end Simpleperf
