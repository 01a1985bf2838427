/-
  The lifetime of the Dsos (`dso.cpp`): `dso_count_`, `g_dump_id_`, and the
  dump ids of Dsos and of their symbols, over `Dso::Dso`, `~Dso`,
  `CreateDumpId`, `CreateSymbolDumpId`, and the nested `DexFileDso` that
  `ElfDso::AddDexFileOffset` creates.

  * `Dsos.step` is one call; it fails (`none`) where a `CHECK` fails or a Dso
    that is not live is used.  `Dsos.run` runs a list of calls and collects
    the ids handed out;
  * `Dsos.Wf`: `dso_count_` counts the live Dsos with their nested ones, and
    the live Dsos are distinct objects; every call keeps it (`step_wf`);
  * `Dsos.SymbolIdsOk`: a Dso's symbol dump ids are `0, 1, ...` in turn,
    its own count of `CreateSymbolDumpId` calls, modulo `2^32`;
    `Dsos.IdsOk` adds that the count is at most the calls on that Dso;
  * `Dsos.DumpIdsOk s past n`: with `n` dump ids handed out since
    `g_dump_id_` was last reset (`Dsos.afterLastReset`), the dump ids of live
    Dsos are below `g_dump_id_` and distinct, and none given one is
    `UINT_MAX`.  A call keeps it while `n` stays below `2^32 - 1`, and the
    reset restarts it (`step_dumpIdsOk`);
  * `dsos_run_invariants`: the three over every run from no Dso;
  * `symbol_dump_id_reaches_sentinel`: with `2^32` symbols of one Dso, the
    last symbol dump id is `UINT_MAX`.
-/
import Simpleperf.Dso
import Mathlib.Algebra.Order.BigOperators.Group.List
import Mathlib.Algebra.Order.Ring.Nat

namespace Simpleperf

/-! ## Unsigned 32-bit counters -/

theorem u32_eq_iff {a b : UInt32} : a = b ↔ a.toNat = b.toNat := ⟨congrArg _, UInt32.toNat.inj⟩

theorem u32_toNat_add (a b : UInt32) : (a + b).toNat = (a.toNat + b.toNat) % 2 ^ 32 :=
  BitVec.toNat_add _ _

theorem u32_toNat_succ {a : UInt32} (h : a.toNat < 2 ^ 32 - 1) : (a + 1).toNat = a.toNat + 1 := by
  have h1 : (1 : UInt32).toNat = 1 := rfl
  rw [u32_toNat_add, h1]; omega

theorem u32_ofNat_succ (k : Nat) : UInt32.ofNat k + 1 = UInt32.ofNat (k + 1) := by
  rw [u32_eq_iff, u32_toNat_add]
  show (k % 2 ^ 32 + 1) % 2 ^ 32 = (k + 1) % 2 ^ 32
  omega

theorem u32_ofNat_toNat {k : Nat} (h : k < 2 ^ 32) : (UInt32.ofNat k).toNat = k :=
  Nat.mod_eq_of_lt h

/-- `UINT_MAX`: the dump id of a Dso or a symbol that has none. -/
def u32Max : UInt32 := 4294967295

@[simp] theorem u32Max_toNat : u32Max.toNat = 2 ^ 32 - 1 := rfl

/-! ## The model -/

/-- A live Dso: its key, whether it is an `ElfDso` still of type
    `DSO_ELF_FILE`, whether it owns a nested `DexFileDso`, `dump_id_`,
    `symbol_dump_id_`, and the `dump_id_` of each of its symbols given one,
    the latest first. -/
structure LiveDso where
  key : Nat
  elfFile : Bool
  nested : Bool
  dumpId : UInt32
  symbolDumpId : UInt32
  symbolDumpIds : List (Nat × UInt32)
  deriving DecidableEq, Repr

/-- The Dso objects a live Dso stands for: itself and its nested `DexFileDso`. -/
def LiveDso.objects (d : LiveDso) : Nat := if d.nested then 2 else 1

/-- `dso_count_`, `g_dump_id_`, the live Dsos, and the key the next one gets. -/
structure Dsos where
  dsoCount : Nat
  gDumpId : UInt32
  live : List LiveDso
  nextKey : Nat
  deriving DecidableEq, Repr

/-- The calls on the lifetime of Dsos. -/
inductive DsoLifeOp where
  | createDso (dsoType : DsoType)
  | deleteDso (key : Nat)
  | addDexFileOffset (key : Nat)
  | createDumpId (key : Nat)
  | createSymbolDumpId (key : Nat) (symbol : Nat)
  deriving DecidableEq, Repr

def DsoLifeOp.isCreateDumpId : DsoLifeOp → Bool
  | .createDumpId _ => true
  | _ => false

/-- The call asks the Dso of the key for a symbol dump id. -/
def DsoLifeOp.isCreateSymbolDumpIdOf (key : Nat) : DsoLifeOp → Bool
  | .createSymbolDumpId k _ => k == key
  | _ => false

/-- The call deletes a Dso. -/
def DsoLifeOp.isDeleteDso : DsoLifeOp → Bool
  | .deleteDso _ => true
  | _ => false

namespace Dsos

/-- No Dso yet. -/
def empty : Dsos := ⟨0, 0, [], 0⟩

/-- The live Dso of a key. -/
def find (s : Dsos) (key : Nat) : Option LiveDso := s.live.find? (·.key == key)

/-- The live Dsos with `d` changed into `d'`. -/
def replace (s : Dsos) (d d' : LiveDso) : List LiveDso := s.live.filter (·.key ≠ d.key) ++ [d']

/-- `~Dso`: one object fewer; with the last one, the static members are
    cleared and `g_dump_id_` is `0` again. -/
def destroy (s : Dsos) : Dsos :=
  if s.dsoCount - 1 = 0 then { s with dsoCount := 0, gDumpId := 0 }
  else { s with dsoCount := s.dsoCount - 1 }

/-- `delete` of the live Dso `d`: its nested `DexFileDso` goes first. -/
def deleteObjects (s : Dsos) (d : LiveDso) : Dsos := if d.nested then destroy (destroy s) else destroy s

/-- One call, and the id it hands out. -/
def step (s : Dsos) : DsoLifeOp → Option (Dsos × Option UInt32)
  | .createDso dsoType =>
    some ({ s with
      dsoCount := s.dsoCount + 1
      live := s.live ++ [⟨s.nextKey, decide (dsoType = .elfFile), false, u32Max, 0, []⟩]
      nextKey := s.nextKey + 1 }, none)
  | .deleteDso key =>
    (s.find key).map fun d =>
      ({ s.deleteObjects d with live := s.live.filter (·.key ≠ key) }, none)
  | .addDexFileOffset key =>
    (s.find key).map fun d =>
      if d.elfFile then
        ({ s with
          dsoCount := s.dsoCount + 1
          live := s.replace d { d with elfFile := false, nested := true } }, none)
      else (s, none)
  | .createDumpId key =>
    (s.find key).bind fun d =>
      if d.dumpId ≠ u32Max then none
      else some ({ s with gDumpId := s.gDumpId + 1, live := s.replace d { d with dumpId := s.gDumpId } },
        some s.gDumpId)
  | .createSymbolDumpId key symbol =>
    (s.find key).bind fun d =>
      if (d.symbolDumpIds.lookup symbol).any (· ≠ u32Max) then none
      else
        let d' := { d with
          symbolDumpId := d.symbolDumpId + 1
          symbolDumpIds := (symbol, d.symbolDumpId) :: d.symbolDumpIds }
        some ({ s with live := s.replace d d' }, some d.symbolDumpId)

/-- A run of calls, and the ids handed out in order. -/
def run (s : Dsos) : List DsoLifeOp → Option (Dsos × List UInt32)
  | [] => some (s, [])
  | op :: ops =>
    match s.step op with
    | none => none
    | some (s', out) => (run s' ops).map fun r => (r.1, out.toList ++ r.2)

/-- The calls after the last deletion that leaves no Dso object, where
    `~Dso` sets `g_dump_id_` back to `0`; `none` when no call of the run is
    one. -/
def afterLastReset (s : Dsos) : List DsoLifeOp → Option (List DsoLifeOp)
  | [] => none
  | op :: ops =>
    match s.step op with
    | none => none
    | some (s', _) => (afterLastReset s' ops).or (if op.isDeleteDso ∧ s'.dsoCount = 0 then some ops else none)

/-! ## Lists of live Dsos -/

variable {s : Dsos} {d d' : LiveDso}

theorem find_spec {key : Nat} (h : s.find key = some d) : d ∈ s.live ∧ d.key = key :=
  ⟨List.mem_of_find?_eq_some h, by simpa using List.find?_some h⟩

theorem mem_replace {x : LiveDso} : x ∈ s.replace d d' ↔ (x ∈ s.live ∧ x.key ≠ d.key) ∨ x = d' := by
  simp [replace]

theorem objects_pos (d : LiveDso) : 0 < d.objects := by
  unfold LiveDso.objects; split <;> omega

/-- Taking out the Dso of a key takes out its objects. -/
theorem sum_filter_key {l : List LiveDso} (hl : (l.map LiveDso.key).Nodup) (hd : d ∈ l) :
    ((l.filter (·.key ≠ d.key)).map LiveDso.objects).sum + d.objects = (l.map LiveDso.objects).sum := by
  induction l with
  | nil => cases hd
  | cons a l ih =>
    rw [List.map_cons, List.nodup_cons] at hl
    by_cases ha : a.key = d.key
    · have hnot : d ∉ l := fun h => hl.1 (by rw [ha]; exact List.mem_map_of_mem _ h)
      obtain rfl : d = a := (List.mem_cons.1 hd).resolve_right hnot
      have hl' : l.filter (·.key ≠ d.key) = l := List.filter_eq_self.2 fun x hx => by
        simpa using fun h => hl.1 (by rw [← h]; exact List.mem_map_of_mem _ hx)
      rw [List.filter_cons_of_neg (by simp), hl', List.map_cons, List.sum_cons]; omega
    · have := ih hl.2 ((List.mem_cons.1 hd).resolve_left fun h => ha (h ▸ rfl))
      rw [List.filter_cons_of_pos (by simpa using ha), List.map_cons, List.sum_cons, List.map_cons,
        List.sum_cons]; omega

theorem nodup_replace (hl : (s.live.map LiveDso.key).Nodup) (hk : d'.key = d.key) :
    ((s.replace d d').map LiveDso.key).Nodup := by
  rw [replace, List.map_append, List.nodup_append]
  refine ⟨(List.filter_sublist _).map _ |>.nodup hl, List.nodup_singleton _, ?_⟩
  intro x hx hy
  simp only [List.mem_map, List.mem_filter] at hx
  obtain ⟨z, ⟨-, hz⟩, rfl⟩ := hx
  simp only [List.map_cons, List.map_nil, List.mem_singleton] at hy
  rw [hy, hk] at hz; simp at hz

/-! ## Well-formedness -/

/-- `dso_count_` is the number of live Dso objects, nested ones included; the
    live Dsos have distinct keys, below the next one; an `ElfDso` of type
    `DSO_ELF_FILE` owns no nested `DexFileDso`. -/
structure Wf (s : Dsos) : Prop where
  keys : (s.live.map LiveDso.key).Nodup
  fresh : ∀ d ∈ s.live, d.key < s.nextKey
  nested : ∀ d ∈ s.live, d.elfFile → d.nested = false
  count : s.dsoCount = (s.live.map LiveDso.objects).sum

theorem wf_empty : Wf empty := ⟨List.nodup_nil, by simp [empty], by simp [empty], rfl⟩

/-- Changing a live Dso without changing its key; `dso_count_` follows its
    objects. -/
theorem Wf.replace {s' : Dsos} (h : Wf s) (hd : d ∈ s.live) (hl : s'.live = s.replace d d')
    (hk : d'.key = d.key) (hn : d'.elfFile → d'.nested = false)
    (hc : s'.dsoCount + d.objects = s.dsoCount + d'.objects) (hnk : s'.nextKey = s.nextKey) : Wf s' := by
  cases s'; dsimp only at hl hc hnk; subst hl hnk
  refine ⟨nodup_replace h.keys hk, fun x hx => ?_, fun x hx => ?_, ?_⟩
  · rcases mem_replace.1 hx with ⟨hx, -⟩ | rfl
    · exact h.fresh x hx
    · exact hk ▸ h.fresh d hd
  · rcases mem_replace.1 hx with ⟨hx, -⟩ | rfl
    · exact h.nested x hx
    · exact hn
  · have := sum_filter_key h.keys hd
    simp only [Dsos.replace, List.map_append, List.sum_append, List.map_cons, List.map_nil,
      List.sum_cons, List.sum_nil] at this ⊢
    rw [h.count] at hc; omega

theorem destroy_dsoCount (s : Dsos) : (destroy s).dsoCount = s.dsoCount - 1 := by
  unfold destroy; split <;> simp_all

/-- `g_dump_id_` after `~Dso`: `0` once no Dso object is left, else unchanged. -/
theorem destroy_gDumpId (s : Dsos) :
    (destroy s).gDumpId = if (destroy s).dsoCount = 0 then 0 else s.gDumpId := by
  unfold destroy; split <;> simp_all

theorem deleteObjects_gDumpId (s : Dsos) (d : LiveDso) :
    (s.deleteObjects d).gDumpId = if (s.deleteObjects d).dsoCount = 0 then 0 else s.gDumpId := by
  unfold deleteObjects
  split
  · simp only [destroy_gDumpId (destroy s), destroy_gDumpId s, destroy_dsoCount]
    split_ifs <;> first | rfl | omega
  · exact destroy_gDumpId s

theorem deleteObjects_nextKey (s : Dsos) (d : LiveDso) : (s.deleteObjects d).nextKey = s.nextKey := by
  unfold deleteObjects destroy; split_ifs <;> rfl

/-- The state after deleting the live Dso `d`. -/
theorem step_deleteDso {key : Nat} {s' : Dsos} {out : Option UInt32} (h : Wf s)
    (hs : s.step (.deleteDso key) = some (s', out)) :
    ∃ d ∈ s.live, d.key = key ∧ s'.live = s.live.filter (·.key ≠ key) ∧ s'.nextKey = s.nextKey ∧
      s'.dsoCount + d.objects = s.dsoCount ∧
      s'.gDumpId = (if s'.dsoCount = 0 then 0 else s.gDumpId) ∧ out = none := by
  simp only [step, Option.map_eq_some'] at hs
  obtain ⟨d, hf, hs⟩ := hs
  obtain ⟨hd, rfl⟩ := find_spec hf
  cases hs
  have hc : d.objects ≤ s.dsoCount := by rw [h.count]; exact List.le_sum_of_mem (List.mem_map_of_mem _ hd)
  refine ⟨d, hd, rfl, rfl, deleteObjects_nextKey s d, ?_, deleteObjects_gDumpId s d, rfl⟩
  unfold deleteObjects LiveDso.objects at *
  cases hn : d.nested <;> simp only [hn, if_true, Bool.false_eq_true, if_false, destroy_dsoCount] at hc ⊢ <;>
    omega

/-- `AddDexFileOffset` on the live Dso of the key: an `ElfDso` of type
    `DSO_ELF_FILE` gets its nested `DexFileDso`; any other is left as it is. -/
theorem step_addDexFileOffset {key : Nat} {s' : Dsos} {out : Option UInt32}
    (hs : s.step (.addDexFileOffset key) = some (s', out)) :
    ∃ d ∈ s.live, d.key = key ∧ out = none ∧
      ((d.elfFile ∧ s' = { s with dsoCount := s.dsoCount + 1,
                                  live := s.replace d { d with elfFile := false, nested := true } }) ∨
        s' = s) := by
  simp only [step, Option.map_eq_some'] at hs
  obtain ⟨d, hf, hs⟩ := hs
  obtain ⟨hd, rfl⟩ := find_spec hf
  split at hs <;> cases hs
  · exact ⟨d, hd, rfl, rfl, .inl ⟨‹_›, rfl⟩⟩
  · exact ⟨d, hd, rfl, rfl, .inr rfl⟩

/-- `CreateDumpId` on the live Dso of the key, which has no dump id yet. -/
theorem step_createDumpId {key : Nat} {s' : Dsos} {out : Option UInt32}
    (hs : s.step (.createDumpId key) = some (s', out)) :
    ∃ d ∈ s.live, d.key = key ∧ d.dumpId = u32Max ∧
      s' = { s with gDumpId := s.gDumpId + 1, live := s.replace d { d with dumpId := s.gDumpId } } ∧
      out = some s.gDumpId := by
  simp only [step, Option.bind_eq_some] at hs
  obtain ⟨d, hf, hs⟩ := hs
  obtain ⟨hd, rfl⟩ := find_spec hf
  split at hs
  · cases hs
  · cases hs; exact ⟨d, hd, rfl, not_not.1 ‹_›, rfl, rfl⟩

/-- `CreateSymbolDumpId` on the live Dso of the key, for a symbol with no
    symbol dump id yet. -/
theorem step_createSymbolDumpId {key symbol : Nat} {s' : Dsos} {out : Option UInt32}
    (hs : s.step (.createSymbolDumpId key symbol) = some (s', out)) :
    ∃ d ∈ s.live, d.key = key ∧ (d.symbolDumpIds.lookup symbol).any (· ≠ u32Max) = false ∧
      s' = { s with live := s.replace d { d with symbolDumpId := d.symbolDumpId + 1
                                                 symbolDumpIds := (symbol, d.symbolDumpId) :: d.symbolDumpIds } } ∧
      out = some d.symbolDumpId := by
  simp only [step, Option.bind_eq_some] at hs
  obtain ⟨d, hf, hs⟩ := hs
  obtain ⟨hd, rfl⟩ := find_spec hf
  split at hs
  · cases hs
  · cases hs; exact ⟨d, hd, rfl, Bool.of_not_eq_true ‹_›, rfl, rfl⟩

/-- **Every call keeps `Wf`.** -/
theorem step_wf {op : DsoLifeOp} {s' : Dsos} {out : Option UInt32} (h : Wf s)
    (hs : s.step op = some (s', out)) : Wf s' := by
  cases op with
  | createDso t =>
    simp only [step, Option.some.injEq, Prod.mk.injEq] at hs
    obtain ⟨rfl, -⟩ := hs
    refine ⟨?_, fun x hx => ?_, fun x hx => ?_, by simp [h.count, LiveDso.objects]⟩
    · rw [List.map_append, List.nodup_append]
      exact ⟨h.keys, List.nodup_singleton _, fun x hx hy => by
        simp only [List.mem_map] at hx
        obtain ⟨z, hz, rfl⟩ := hx
        simp at hy; have := h.fresh z hz; omega⟩
    · rcases List.mem_append.1 hx with hx | hx
      · exact Nat.lt_succ_of_lt (h.fresh x hx)
      · simp at hx; simp [hx]
    · rcases List.mem_append.1 hx with hx | hx
      · exact h.nested x hx
      · simp at hx; simp [hx]
  | deleteDso key =>
    obtain ⟨d, hd, rfl, hl, hk, hc, -, -⟩ := step_deleteDso h hs
    refine ⟨hl ▸ (List.filter_sublist _).map _ |>.nodup h.keys, fun x hx => ?_, fun x hx => ?_, ?_⟩
    · rw [hl] at hx; rw [hk]; exact h.fresh x (List.mem_filter.1 hx).1
    · rw [hl] at hx; exact h.nested x (List.mem_filter.1 hx).1
    · have := sum_filter_key h.keys hd
      have := h.count
      rw [hl]; omega
  | addDexFileOffset key =>
    obtain ⟨d, hd, -, -, ⟨he, rfl⟩ | rfl⟩ := step_addDexFileOffset hs
    · exact h.replace hd rfl rfl nofun (by simp [LiveDso.objects, h.nested d hd he]) rfl
    · exact h
  | createDumpId key =>
    obtain ⟨d, hd, -, -, rfl, -⟩ := step_createDumpId hs
    exact h.replace hd rfl rfl (h.nested d hd) rfl rfl
  | createSymbolDumpId key symbol =>
    obtain ⟨d, hd, -, -, rfl, -⟩ := step_createSymbolDumpId hs
    exact h.replace hd rfl rfl (h.nested d hd) rfl rfl

theorem Wf.live_eq_nil (h : Wf s) (hc : s.dsoCount = 0) : s.live = [] :=
  List.eq_nil_iff_forall_not_mem.2 fun x hx => by
    have := List.le_sum_of_mem (List.mem_map_of_mem LiveDso.objects hx)
    have := objects_pos x
    have := h.count
    omega

/-! ## Symbol dump ids -/

/-- The symbol dump ids a Dso has handed out are `0`, `1`, ... in turn, the
    latest first, and `symbol_dump_id_` is the next, all modulo `2^32`. -/
structure SymbolIdsOk (d : LiveDso) : Prop where
  next : d.symbolDumpId = UInt32.ofNat d.symbolDumpIds.length
  ids : d.symbolDumpIds.map Prod.snd = ((List.range d.symbolDumpIds.length).map UInt32.ofNat).reverse

theorem SymbolIdsOk.createSymbolDumpId (h : SymbolIdsOk d) (symbol : Nat) :
    SymbolIdsOk { d with
      symbolDumpId := d.symbolDumpId + 1
      symbolDumpIds := (symbol, d.symbolDumpId) :: d.symbolDumpIds } := by
  constructor
  · simp only [List.length_cons, h.next, u32_ofNat_succ]
  · simp [h.ids, h.next, List.range_succ]

/-- While a Dso has handed out fewer than `2^32` symbol dump ids, they are
    distinct and none is `UINT_MAX`. -/
theorem SymbolIdsOk.nodup (h : SymbolIdsOk d) (hk : d.symbolDumpIds.length ≤ 2 ^ 32 - 1) :
    (d.symbolDumpIds.map Prod.snd).Nodup ∧ ∀ p ∈ d.symbolDumpIds, p.2 ≠ u32Max := by
  have hmem : ∀ p ∈ d.symbolDumpIds, ∃ i < d.symbolDumpIds.length, p.2 = UInt32.ofNat i := fun p hp => by
    have : p.2 ∈ d.symbolDumpIds.map Prod.snd := List.mem_map_of_mem _ hp
    simpa [h.ids, eq_comm] using this
  refine ⟨?_, fun p hp e => ?_⟩
  · rw [h.ids, List.nodup_reverse]
    refine (List.nodup_range _).map_on fun i hi j hj e => ?_
    rw [List.mem_range] at hi hj
    rw [← u32_ofNat_toNat (k := i) (by omega), ← u32_ofNat_toNat (k := j) (by omega), e]
  · obtain ⟨i, hi, hp2⟩ := hmem p hp
    have := congrArg UInt32.toNat (hp2.symm.trans e)
    rw [u32_ofNat_toNat (by omega), u32Max_toNat] at this
    omega

/-- What the calls `past` leave of the symbol dump ids: each live Dso's are
    its own count, which is at most the calls on it; and every key given a
    dump id is one a Dso was created with. -/
structure IdsOk (s : Dsos) (past : List DsoLifeOp) : Prop where
  symbols : ∀ d ∈ s.live, SymbolIdsOk d
  count : ∀ d ∈ s.live, d.symbolDumpIds.length ≤ past.countP (DsoLifeOp.isCreateSymbolDumpIdOf d.key)
  given : ∀ k, DsoLifeOp.createDumpId k ∈ past → k < s.nextKey

theorem idsOk_empty : IdsOk empty [] := ⟨by simp [empty], by simp [empty], by simp⟩

/-- The keys given a dump id stay below the next key, as long as the call's
    own key is. -/
theorem IdsOk.given_step {past : List DsoLifeOp} {op : DsoLifeOp} {s' : Dsos} (h : IdsOk s past)
    (hk : s.nextKey ≤ s'.nextKey) (hop : ∀ k, op = .createDumpId k → k < s'.nextKey) :
    ∀ k, DsoLifeOp.createDumpId k ∈ past ++ [op] → k < s'.nextKey := fun k hk' =>
  (List.mem_append.1 hk').elim (fun hk' => (h.given k hk').trans_le hk)
    fun hk' => hop k (List.mem_singleton.1 hk').symm

/-- Changing one live Dso into one whose symbol dump ids are well formed and
    counted by the calls on its key. -/
theorem IdsOk.replace {past : List DsoLifeOp} {op : DsoLifeOp} {s' : Dsos} (h : IdsOk s past)
    (hl : s'.live = s.replace d d') (hk : s'.nextKey = s.nextKey) (hsym : SymbolIdsOk d')
    (hcnt : d'.symbolDumpIds.length ≤ (past ++ [op]).countP (DsoLifeOp.isCreateSymbolDumpIdOf d'.key))
    (hop : ∀ k, op = .createDumpId k → k < s.nextKey) : IdsOk s' (past ++ [op]) := by
  refine ⟨fun x hx => ?_, fun x hx => ?_, h.given_step hk.ge (hk ▸ hop)⟩ <;>
    rcases mem_replace.1 (hl ▸ hx) with ⟨hx, -⟩ | rfl
  · exact h.symbols x hx
  · exact hsym
  · exact (h.count x hx).trans ((List.sublist_append_left _ _).countP_le _)
  · exact hcnt

/-- **A call keeps `IdsOk`.** -/
theorem step_idsOk {op : DsoLifeOp} {s' : Dsos} {out : Option UInt32} {past : List DsoLifeOp} (hw : Wf s)
    (h : IdsOk s past) (hs : s.step op = some (s', out)) : IdsOk s' (past ++ [op]) := by
  have hcount : ∀ k, past.countP (DsoLifeOp.isCreateSymbolDumpIdOf k) ≤
      (past ++ [op]).countP (DsoLifeOp.isCreateSymbolDumpIdOf k) := fun k =>
    (List.sublist_append_left _ _).countP_le _
  cases op with
  | createDso t =>
    simp only [step, Option.some.injEq, Prod.mk.injEq] at hs
    obtain ⟨rfl, -⟩ := hs
    refine ⟨fun x hx => ?_, fun x hx => ?_, h.given_step (Nat.le_succ _) nofun⟩ <;>
      rcases List.mem_append.1 hx with hx | hx
    · exact h.symbols x hx
    · simp at hx; subst hx; exact ⟨rfl, rfl⟩
    · exact (h.count x hx).trans (hcount _)
    · simp at hx; simp [hx]
  | deleteDso key =>
    obtain ⟨d, hd, rfl, hl, hk, -⟩ := step_deleteDso hw hs
    exact ⟨fun x hx => h.symbols x (List.mem_filter.1 (hl ▸ hx)).1,
      fun x hx => (h.count x (List.mem_filter.1 (hl ▸ hx)).1).trans (hcount _), h.given_step hk.ge nofun⟩
  | addDexFileOffset key =>
    obtain ⟨d, hd, -, -, ⟨-, rfl⟩ | rfl⟩ := step_addDexFileOffset hs
    · exact h.replace rfl rfl ⟨(h.symbols d hd).1, (h.symbols d hd).2⟩ ((h.count d hd).trans (hcount _)) nofun
    · exact ⟨h.symbols, fun x hx => (h.count x hx).trans (hcount _), h.given_step le_rfl nofun⟩
  | createDumpId key =>
    obtain ⟨d, hd, rfl, -, rfl, -⟩ := step_createDumpId hs
    exact h.replace rfl rfl ⟨(h.symbols d hd).1, (h.symbols d hd).2⟩ ((h.count d hd).trans (hcount _))
      fun k hk => by cases hk; exact hw.fresh d hd
  | createSymbolDumpId key symbol =>
    obtain ⟨d, hd, rfl, -, rfl, -⟩ := step_createSymbolDumpId hs
    refine h.replace rfl rfl ((h.symbols d hd).createSymbolDumpId symbol) ?_ nofun
    have := h.count d hd
    simp only [List.length_cons, List.countP_append, List.countP_singleton, DsoLifeOp.isCreateSymbolDumpIdOf,
      beq_self_eq_true, if_true]
    omega

/-! ## Dump ids -/

/-- After `n` dump ids handed out since `g_dump_id_` was last reset, by the
    calls `past`: the dump ids of live Dsos are below `g_dump_id_`, two live
    Dsos never share one, and a live Dso given one does not have `UINT_MAX`. -/
structure DumpIdsOk (s : Dsos) (past : List DsoLifeOp) (n : Nat) : Prop where
  gDumpId : s.gDumpId.toNat = n
  dumpId_lt : ∀ d ∈ s.live, d.dumpId ≠ u32Max → d.dumpId.toNat < n
  dumpId_ne : ∀ d ∈ s.live, ∀ d' ∈ s.live, d.key ≠ d'.key → d.dumpId ≠ u32Max → d.dumpId ≠ d'.dumpId
  given : ∀ d ∈ s.live, DsoLifeOp.createDumpId d.key ∈ past → d.dumpId ≠ u32Max

theorem dumpIdsOk_empty : DumpIdsOk empty [] 0 := ⟨rfl, by simp [empty], by simp [empty], by simp [empty]⟩

/-- With no Dso object left, `g_dump_id_` at `0` starts the count again. -/
theorem DumpIdsOk.reset {past : List DsoLifeOp} (hl : s.live = []) (hg : s.gDumpId = 0) : DumpIdsOk s past 0 :=
  ⟨by rw [hg]; rfl, by simp [hl], by simp [hl], by simp [hl]⟩

/-- Changing the live Dsos without a new dump id: each one kept, or changed
    into one with its key and dump id. -/
theorem DumpIdsOk.of_subset {past past' : List DsoLifeOp} {n : Nat} {s' : Dsos} (h : DumpIdsOk s past n)
    (hl : ∀ x ∈ s'.live, ∃ y ∈ s.live, x.key = y.key ∧ x.dumpId = y.dumpId) (hg : s'.gDumpId = s.gDumpId)
    (hp : ∀ k, DsoLifeOp.createDumpId k ∈ past' → DsoLifeOp.createDumpId k ∈ past) : DumpIdsOk s' past' n := by
  refine ⟨hg ▸ h.gDumpId, fun x hx => ?_, fun x hx x' hx' => ?_, fun x hx hk => ?_⟩
  · obtain ⟨y, hy, -, e⟩ := hl x hx; rw [e]; exact h.dumpId_lt y hy
  · obtain ⟨y, hy, k, e⟩ := hl x hx
    obtain ⟨y', hy', k', e'⟩ := hl x' hx'
    rw [e, e', k, k']; exact h.dumpId_ne y hy y' hy'
  · obtain ⟨y, hy, k, e⟩ := hl x hx
    rw [e]; exact h.given y hy (k ▸ hp _ hk)

/-- `CreateDumpId` on a live Dso while fewer than `2^32 - 1` dump ids have
    been handed out since the reset: `g_dump_id_` does not wrap, so the new
    id is not `UINT_MAX` and no other live Dso has it. -/
theorem DumpIdsOk.createDumpId {past : List DsoLifeOp} {n : Nat} {d : LiveDso} (h : DumpIdsOk s past n)
    (hn : n + 1 ≤ 2 ^ 32 - 1) :
    DumpIdsOk { s with gDumpId := s.gDumpId + 1, live := s.replace d { d with dumpId := s.gDumpId } }
      (past ++ [.createDumpId d.key]) (n + 1) := by
  have hg := h.gDumpId
  have hg1 := u32_toNat_succ (a := s.gDumpId) (by omega)
  have hgm : s.gDumpId ≠ u32Max := fun e => by rw [e, u32Max_toNat] at hg; omega
  refine ⟨by simp only; omega, fun x hx hne => ?_, fun x hx x' hx' hk hne => ?_, fun x hx hk => ?_⟩
  · rcases mem_replace.1 hx with ⟨hx, -⟩ | rfl
    · have := h.dumpId_lt x hx hne; omega
    · simp only; omega
  · rcases mem_replace.1 hx with ⟨hx, hkx⟩ | rfl <;> rcases mem_replace.1 hx' with ⟨hx', hkx'⟩ | rfl
    · exact h.dumpId_ne x hx x' hx' hk hne
    · have := h.dumpId_lt x hx hne
      exact fun e => by rw [e] at this; simp only at this; omega
    · intro e
      by_cases hx'm : x'.dumpId = u32Max
      · exact hgm (e.trans hx'm)
      · have := h.dumpId_lt x' hx' hx'm
        rw [← e] at this; simp only at this; omega
    · exact absurd rfl hk
  · rcases mem_replace.1 hx with ⟨hx, hkx⟩ | rfl
    · refine h.given x hx ?_
      simpa [hkx] using hk
    · exact hgm

/-- **A call keeps the dump ids apart** while fewer than `2^32 - 1` have
    been handed out since `g_dump_id_` was last reset; a deletion that
    leaves no Dso object starts the count again. -/
theorem step_dumpIdsOk {op : DsoLifeOp} {s' : Dsos} {out : Option UInt32} {past : List DsoLifeOp} {n : Nat}
    (hw : Wf s) (hi : IdsOk s past) (hs : s.step op = some (s', out))
    (h : n ≤ 2 ^ 32 - 1 → DumpIdsOk s past n)
    (hn : (if op.isDeleteDso ∧ s'.dsoCount = 0 then 0 else n + if op.isCreateDumpId then 1 else 0) ≤ 2 ^ 32 - 1) :
    DumpIdsOk s' (past ++ [op]) (if op.isDeleteDso ∧ s'.dsoCount = 0 then 0 else n + if op.isCreateDumpId then 1 else 0) := by
  have hp : ∀ k, DsoLifeOp.createDumpId k ∈ past ++ [op] → op.isCreateDumpId = false →
      DsoLifeOp.createDumpId k ∈ past := fun k hk hop => by
    rcases List.mem_append.1 hk with hk | hk
    · exact hk
    · simp only [List.mem_singleton] at hk; subst hk; cases hop
  cases op with
  | createDso t =>
    simp only [step, Option.some.injEq, Prod.mk.injEq] at hs
    obtain ⟨rfl, -⟩ := hs
    simp only [DsoLifeOp.isDeleteDso, DsoLifeOp.isCreateDumpId, Bool.false_eq_true, false_and, if_false,
      Nat.add_zero] at hn ⊢
    have h := h hn
    refine ⟨h.gDumpId, fun x hx hne => ?_, fun x hx x' hx' hk hne => ?_, fun x hx hk => ?_⟩ <;>
      simp only [List.mem_append, List.mem_singleton] at hx
    · rcases hx with hx | rfl
      · exact h.dumpId_lt x hx hne
      · exact absurd rfl hne
    · simp only [List.mem_append, List.mem_singleton] at hx'
      rcases hx with hx | rfl
      · rcases hx' with hx' | rfl
        · exact h.dumpId_ne x hx x' hx' hk hne
        · exact hne
      · exact absurd rfl hne
    · rcases hx with hx | rfl
      · exact h.given x hx (hp _ hk rfl)
      · exact absurd (hi.given _ (hp _ hk rfl)) (Nat.lt_irrefl _)
  | deleteDso key =>
    obtain ⟨d, hd, rfl, hl, -, -, hg, -⟩ := step_deleteDso hw hs
    by_cases hc : s'.dsoCount = 0
    · simp only [DsoLifeOp.isDeleteDso, hc, and_self, if_true] at hg ⊢
      exact DumpIdsOk.reset ((step_wf hw hs).live_eq_nil hc) hg
    · simp only [DsoLifeOp.isDeleteDso, DsoLifeOp.isCreateDumpId, hc, and_false, if_false,
        Bool.false_eq_true, Nat.add_zero] at hn hg ⊢
      exact (h hn).of_subset (fun x hx => ⟨x, (List.mem_filter.1 (hl ▸ hx)).1, rfl, rfl⟩) hg
        fun k hk => hp k hk rfl
  | addDexFileOffset key =>
    simp only [DsoLifeOp.isDeleteDso, DsoLifeOp.isCreateDumpId, Bool.false_eq_true, false_and, if_false,
      Nat.add_zero] at hn ⊢
    obtain ⟨d, hd, -, -, ⟨-, rfl⟩ | rfl⟩ := step_addDexFileOffset hs
    · refine (h hn).of_subset (fun x hx => ?_) rfl fun k hk => hp k hk rfl
      rcases mem_replace.1 hx with ⟨hx, -⟩ | rfl
      · exact ⟨x, hx, rfl, rfl⟩
      · exact ⟨d, hd, rfl, rfl⟩
    · exact (h hn).of_subset (fun x hx => ⟨x, hx, rfl, rfl⟩) rfl fun k hk => hp k hk rfl
  | createDumpId key =>
    obtain ⟨d, hd, rfl, -, rfl, -⟩ := step_createDumpId hs
    simp only [DsoLifeOp.isDeleteDso, DsoLifeOp.isCreateDumpId, Bool.false_eq_true, false_and, if_false,
      if_true] at hn ⊢
    exact (h (by omega)).createDumpId hn
  | createSymbolDumpId key symbol =>
    obtain ⟨d, hd, -, -, rfl, -⟩ := step_createSymbolDumpId hs
    simp only [DsoLifeOp.isDeleteDso, DsoLifeOp.isCreateDumpId, Bool.false_eq_true, false_and, if_false,
      Nat.add_zero] at hn ⊢
    refine (h hn).of_subset (fun x hx => ?_) rfl fun k hk => hp k hk rfl
    rcases mem_replace.1 hx with ⟨hx, -⟩ | rfl
    · exact ⟨x, hx, rfl, rfl⟩
    · exact ⟨d, hd, rfl, rfl⟩

/-! ## Runs -/

theorem run_cons_some {op : DsoLifeOp} {ops : List DsoLifeOp} {s'' : Dsos} {ids : List UInt32}
    (h : s.run (op :: ops) = some (s'', ids)) :
    ∃ s' out rest, s.step op = some (s', out) ∧ s'.run ops = some (s'', rest) ∧ ids = out.toList ++ rest := by
  simp only [run] at h
  split at h
  · cases h
  · rename_i s' out hs
    obtain ⟨⟨s₁, rest⟩, hr, he⟩ := Option.map_eq_some'.1 h
    cases he
    exact ⟨s', out, rest, hs, hr, rfl⟩

theorem run_wf {ops : List DsoLifeOp} {s' : Dsos} {ids : List UInt32} (h : Wf s)
    (hr : s.run ops = some (s', ids)) : Wf s' := by
  induction ops generalizing s ids with
  | nil => cases hr; exact h
  | cons op ops ih =>
    obtain ⟨s₁, out, rest, hs, hr₁, -⟩ := run_cons_some hr
    exact ih (step_wf h hs) hr₁

theorem run_idsOk {ops past : List DsoLifeOp} {s' : Dsos} {ids : List UInt32} (hw : Wf s) (h : IdsOk s past)
    (hr : s.run ops = some (s', ids)) : IdsOk s' (past ++ ops) := by
  induction ops generalizing s past ids with
  | nil => cases hr; simpa using h
  | cons op ops ih =>
    obtain ⟨s₁, out, rest, hs, hr₁, -⟩ := run_cons_some hr
    simpa using ih (step_wf hw hs) (step_idsOk hw h hs) hr₁

/-- The dump ids handed out since `g_dump_id_` was last reset, after the
    calls `ops` from `s`, where `n` had been. -/
def dumpIdsSinceReset (s : Dsos) (n : Nat) (ops : List DsoLifeOp) : Nat :=
  match s.afterLastReset ops with
  | some since => since.countP DsoLifeOp.isCreateDumpId
  | none => n + ops.countP DsoLifeOp.isCreateDumpId

theorem dumpIdsSinceReset_cons {op : DsoLifeOp} {ops : List DsoLifeOp} {s' : Dsos} {out : Option UInt32}
    (n : Nat) (hs : s.step op = some (s', out)) :
    s.dumpIdsSinceReset n (op :: ops) =
      s'.dumpIdsSinceReset (if op.isDeleteDso ∧ s'.dsoCount = 0 then 0 else n + if op.isCreateDumpId then 1 else 0)
        ops := by
  unfold dumpIdsSinceReset
  simp only [afterLastReset, hs]
  cases s'.afterLastReset ops with
  | some since => rfl
  | none =>
    simp only [Option.none_or, List.countP_cons]
    split_ifs <;> dsimp only <;> omega

theorem run_dumpIdsOk {ops past : List DsoLifeOp} {s' : Dsos} {ids : List UInt32} {n : Nat} (hw : Wf s)
    (hi : IdsOk s past) (h : n ≤ 2 ^ 32 - 1 → DumpIdsOk s past n) (hr : s.run ops = some (s', ids))
    (hn : s.dumpIdsSinceReset n ops ≤ 2 ^ 32 - 1) : DumpIdsOk s' (past ++ ops) (s.dumpIdsSinceReset n ops) := by
  induction ops generalizing s past ids n with
  | nil => cases hr; simpa [dumpIdsSinceReset, afterLastReset] using h (by simpa [dumpIdsSinceReset, afterLastReset] using hn)
  | cons op ops ih =>
    obtain ⟨s₁, out, rest, hs, hr₁, -⟩ := run_cons_some hr
    rw [dumpIdsSinceReset_cons n hs] at hn ⊢
    simpa using ih (step_wf hw hs) (step_idsOk hw hi hs) (fun hn₁ => step_dumpIdsOk hw hi hs h hn₁) hr₁ hn

end Dsos

/-- **The lifetime of the Dsos over every run.**  `dso_count_` counts the
    live Dsos with their nested `DexFileDso`s.  When at most `2^32 - 1`
    `CreateDumpId` calls come after the last deletion that left no Dso (where
    `g_dump_id_` is reset to `0`), a live Dso given a dump id does not have
    `UINT_MAX`, and two live Dsos never share a dump id.  When at most
    `2^32 - 1` `CreateSymbolDumpId` calls are made on a live Dso, its symbol
    dump ids are distinct and none is `UINT_MAX`. -/
theorem dsos_run_invariants (ops : List DsoLifeOp) (s : Dsos) (ids : List UInt32)
    (h : Dsos.empty.run ops = some (s, ids)) :
    s.dsoCount = (s.live.map LiveDso.objects).sum ∧
    (((Dsos.empty.afterLastReset ops).getD ops).countP DsoLifeOp.isCreateDumpId ≤ 2 ^ 32 - 1 →
      ∀ d ∈ s.live, (DsoLifeOp.createDumpId d.key ∈ ops → d.dumpId ≠ u32Max) ∧
        ∀ d' ∈ s.live, d.key ≠ d'.key → d.dumpId ≠ u32Max → d.dumpId ≠ d'.dumpId) ∧
    ∀ d ∈ s.live, ops.countP (DsoLifeOp.isCreateSymbolDumpIdOf d.key) ≤ 2 ^ 32 - 1 →
      (d.symbolDumpIds.map Prod.snd).Nodup ∧ ∀ p ∈ d.symbolDumpIds, p.2 ≠ u32Max := by
  have hi := Dsos.run_idsOk Dsos.wf_empty Dsos.idsOk_empty h
  rw [List.nil_append] at hi
  have hsince : ((Dsos.empty.afterLastReset ops).getD ops).countP DsoLifeOp.isCreateDumpId =
      Dsos.empty.dumpIdsSinceReset 0 ops := by
    unfold Dsos.dumpIdsSinceReset; cases Dsos.empty.afterLastReset ops <;> simp
  refine ⟨(Dsos.run_wf Dsos.wf_empty h).count, fun hn d hd => ?_, fun d hd hk =>
    (hi.symbols d hd).nodup ((hi.count d hd).trans hk)⟩
  rw [hsince] at hn
  have hd' := Dsos.run_dumpIdsOk Dsos.wf_empty Dsos.idsOk_empty (fun _ => Dsos.dumpIdsOk_empty) h hn
  rw [List.nil_append] at hd'
  exact ⟨hd'.given d hd, hd'.dumpId_ne d hd⟩

/-- A run of the kind `dsos_run_invariants` speaks of: an ELF file given a
    dump id and released, which resets `g_dump_id_`; then an ELF file turned
    DEX file and a kernel, dump ids for both, and a symbol dump id. -/
theorem dsos_run_invariants_sample :
    let ops : List DsoLifeOp := [.createDso .elfFile, .createDumpId 0, .deleteDso 0, .createDso .elfFile,
      .createDso .kernel, .addDexFileOffset 1, .createDumpId 2, .createDumpId 1, .createSymbolDumpId 1 7]
    ∃ s ids, Dsos.empty.run ops = some (s, ids) ∧ s.dsoCount = (s.live.map LiveDso.objects).sum ∧
      ∀ d ∈ s.live, DsoLifeOp.createDumpId d.key ∈ ops → d.dumpId ≠ u32Max := by
  intro ops
  have h := dsos_run_invariants ops _ _ rfl
  exact ⟨_, _, rfl, h.1, fun d hd => ((h.2.1 (by decide)) d hd).1⟩

/-! ## The symbol dump id wraps -/

namespace Dsos

/-- One `ElfDso`, the first, with `k` of its symbols given dump ids. -/
def withSymbolDumpIds (k : Nat) : Dsos :=
  ⟨1, 0, [⟨0, true, false, u32Max, UInt32.ofNat k,
    ((List.range k).map fun i => (i, UInt32.ofNat i)).reverse⟩], 1⟩

theorem run_append (s : Dsos) {ops ops' : List DsoLifeOp} :
    s.run (ops ++ ops') = (s.run ops).bind fun r => (r.1.run ops').map fun r' => (r'.1, r.2 ++ r'.2) := by
  induction ops generalizing s with
  | nil => simp only [List.nil_append, run, Option.some_bind]; cases s.run ops' <;> rfl
  | cons op ops ih =>
    rw [List.cons_append, run, run]
    rcases s.step op with _ | ⟨s', out⟩
    · rfl
    · dsimp only
      rw [ih]
      cases s'.run ops <;> simp [Option.map_map, Function.comp_def]

theorem run_symbolDumpIds (k : Nat) :
    (withSymbolDumpIds 0).run ((List.range k).map (.createSymbolDumpId 0)) =
      some (withSymbolDumpIds k, (List.range k).map UInt32.ofNat) := by
  induction k with
  | zero => rfl
  | succ k ih =>
    rw [List.range_succ, List.map_append, run_append, ih]
    have hl : ((((List.range k).map fun i => (i, UInt32.ofNat i)).reverse).lookup k) = none :=
      List.lookup_eq_none_iff.2 fun p hp => by
        simp only [List.mem_reverse, List.mem_map, List.mem_range] at hp
        obtain ⟨i, hi, rfl⟩ := hp
        simpa using hi.ne'
    simp [run, step, find, withSymbolDumpIds, replace, hl, u32_ofNat_succ, List.range_succ]

end Dsos

/-- One Dso whose symbols get `2^32` dump ids: the last is `UINT_MAX`, the
    "no id" value, though the Dso is live. -/
theorem symbol_dump_id_reaches_sentinel :
    ∃ s ids, Dsos.empty.run (.createDso .elfFile :: (List.range (2 ^ 32)).map (.createSymbolDumpId 0)) =
      some (s, ids) ∧ s.dsoCount = 1 ∧ u32Max ∈ ids := by
  refine ⟨Dsos.withSymbolDumpIds (2 ^ 32), (List.range (2 ^ 32)).map UInt32.ofNat, ?_, rfl,
    List.mem_map.2 ⟨2 ^ 32 - 1, List.mem_range.2 (by decide), by decide⟩⟩
  have h0 : Dsos.empty.step (.createDso .elfFile) = some (Dsos.withSymbolDumpIds 0, none) := rfl
  rw [Dsos.run, h0]
  dsimp only
  rw [Dsos.run_symbolDumpIds, Option.map_some', Option.toList, List.nil_append]

end Simpleperf
