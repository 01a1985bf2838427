/-
  Symbols of a Dso (`dso.cpp`): the `Symbol` record, the address order the
  symbol tables are kept in, and `SortAndFixSymbols`.

  * `SymbolSort` is `std::sort` with `Symbol::CompareValueByAddr`: some
    permutation sorted by address (`std::sort` is not stable, so the order
    among symbols at one address is left open);
  * `fixSymbols` is the loop of `SortAndFixSymbols` after the sort: a symbol
    whose length is `0` gets the distance to its successor;
  * on a sorted table the loop keeps every address (`fixSymbols_map_addr`), so
    the table stays sorted, a length `0` survives only on the last symbol or
    before a symbol at the same address (`patched_fixSymbols`), and a table of
    placeholders is tiled without gaps (`fixSymbols_tiles`);
  * `sortAndFixSymbols_spec`: index by index, the sorted permutation with its
    names and addresses, and lengths changed only where a `0` is patched to
    the distance to the successor, with no wrap-around;
  * `demangle` is `Dso::Demangle` and `demangledName` is
    `Symbol::DemangledName`, which keeps the first name it computes.
-/
import Mathlib.Data.List.Chain
import Mathlib.Data.List.Sort
import Mathlib.Algebra.Order.Ring.Nat

namespace Simpleperf

/-! ## Unsigned 64-bit arithmetic

`uint64_t` is `UInt64`; these read its order and its wrapping `+` and `-` on
`toNat`, where `omega` works. -/

theorem u64_lt_iff {a b : UInt64} : a < b ↔ a.toNat < b.toNat := Iff.rfl

theorem u64_le_iff {a b : UInt64} : a ≤ b ↔ a.toNat ≤ b.toNat := Iff.rfl

theorem u64_eq_iff {a b : UInt64} : a = b ↔ a.toNat = b.toNat :=
  ⟨congrArg _, UInt64.toNat.inj⟩

theorem u64_le_of_lt {a b : UInt64} (h : a < b) : a ≤ b := Nat.le_of_lt h

theorem u64_lt_of_lt_of_le {a b c : UInt64} (h₁ : a < b) (h₂ : b ≤ c) : a < c :=
  Nat.lt_of_lt_of_le h₁ h₂

theorem u64_toNat_eq_zero {a : UInt64} : a.toNat = 0 ↔ a = 0 := by
  rw [u64_eq_iff]; rfl

theorem u64_toNat_add (a b : UInt64) : (a + b).toNat = (a.toNat + b.toNat) % 2 ^ 64 :=
  BitVec.toNat_add _ _

theorem u64_toNat_sub {a b : UInt64} (h : b ≤ a) : (a - b).toNat = a.toNat - b.toNat :=
  UInt64.toNat_sub_of_le a b h

theorem u64_toNat_lt (a : UInt64) : a.toNat < 2 ^ 64 := a.toNat_lt_size

/-- `std::numeric_limits<uint64_t>::max()`. -/
def u64Max : UInt64 := 18446744073709551615

@[simp] theorem u64Max_toNat : u64Max.toNat = 2 ^ 64 - 1 := rfl

/-! ## Symbols -/

/-- `Symbol`: the range `[addr, addr + len)` of a binary with its name.
    `demangled_name_`, the cache the first `DemangledName()` fills, is kept
    by `demangledName` below; the report reads the name through `demangle`
    (`ReportLib.callChainEntries`).  Dump ids are modelled with the Dso
    lifecycle. -/
structure Symbol where
  name : String
  addr : UInt64
  len : UInt64
  deriving DecidableEq, Repr, Inhabited

/-- Modelled from the spec: `Symbol::CompareValueByAddr` (declared in `dso.h`,
    not among the sources) orders symbols by `addr`. -/
def Symbol.compareValueByAddr (s1 s2 : Symbol) : Bool := s1.addr < s2.addr

/-- The order a sorted symbol table is in: addresses ascending. -/
def AddrLe (s t : Symbol) : Prop := s.addr ≤ t.addr

instance : DecidableRel AddrLe := fun s t => inferInstanceAs (Decidable (s.addr ≤ t.addr))

instance : IsTotal Symbol AddrLe := ⟨fun s t => UInt64.le_total s.addr t.addr⟩

instance : IsTrans Symbol AddrLe := ⟨fun _ _ _ => UInt64.le_trans⟩

/-- A symbol table sorted by address. -/
def AddrSorted (l : List Symbol) : Prop := l.Sorted AddrLe

instance : DecidablePred AddrSorted := fun l => inferInstanceAs (Decidable (l.Pairwise AddrLe))

theorem addrSorted_cons {s : Symbol} {l : List Symbol} :
    AddrSorted (s :: l) ↔ (∀ t ∈ l, s.addr ≤ t.addr) ∧ AddrSorted l :=
  List.sorted_cons

/-- `std::sort(symbols.begin(), symbols.end(), Symbol::CompareValueByAddr)`:
    a permutation of its input, sorted by address. -/
structure SymbolSort where
  sort : List Symbol → List Symbol
  perm : ∀ l, (sort l).Perm l
  sorted : ∀ l, AddrSorted (sort l)

/-- One `SymbolSort`: insertion sort by address. -/
def SymbolSort.insertion : SymbolSort where
  sort := List.insertionSort AddrLe
  perm := List.perm_insertionSort AddrLe
  sorted := List.sorted_insertionSort AddrLe

/-! ## `SortAndFixSymbols` -/

/-- The symbol the loop of `SortAndFixSymbols` leaves in place of `s` when the
    symbols after it are `l`: when the successor `t` is visited, `s`, if its
    length is still `0`, gets `symbol.addr - prev_symbol->addr`. -/
def fixHead (s : Symbol) : List Symbol → Symbol
  | t :: _ => if s.len = 0 then { s with len := t.addr - s.addr } else s
  | [] => s

/-- The loop of `SortAndFixSymbols`, over the sorted table. -/
def fixSymbols : List Symbol → List Symbol
  | [] => []
  | s :: l => fixHead s l :: fixSymbols l

/-- `SortAndFixSymbols`. -/
def sortAndFixSymbols (σ : SymbolSort) (symbols : List Symbol) : List Symbol :=
  fixSymbols (σ.sort symbols)

@[simp] theorem fixHead_addr (s : Symbol) (l : List Symbol) : (fixHead s l).addr = s.addr := by
  cases l with
  | nil => rfl
  | cons t l => simp only [fixHead]; split <;> rfl

@[simp] theorem fixHead_name (s : Symbol) (l : List Symbol) : (fixHead s l).name = s.name := by
  cases l with
  | nil => rfl
  | cons t l => simp only [fixHead]; split <;> rfl

/-- The loop changes lengths only: addresses stay in place. -/
theorem fixSymbols_map_addr (l : List Symbol) : (fixSymbols l).map Symbol.addr = l.map Symbol.addr := by
  induction l with
  | nil => rfl
  | cons s l ih => simp [fixSymbols, ih]

theorem fixSymbols_map_name (l : List Symbol) : (fixSymbols l).map Symbol.name = l.map Symbol.name := by
  induction l with
  | nil => rfl
  | cons s l ih => simp [fixSymbols, ih]

/-- What the length fix leaves alone: the name and the address. -/
def Symbol.key (s : Symbol) : String × UInt64 := (s.name, s.addr)

theorem fixSymbols_map_key (l : List Symbol) : (fixSymbols l).map Symbol.key = l.map Symbol.key := by
  induction l with
  | nil => rfl
  | cons s l ih => simp [fixSymbols, ih, Symbol.key]

@[simp] theorem fixSymbols_length (l : List Symbol) : (fixSymbols l).length = l.length := by
  simpa using congrArg List.length (fixSymbols_map_addr l)

theorem addrSorted_iff_map {l : List Symbol} :
    AddrSorted l ↔ (l.map Symbol.addr).Pairwise (· ≤ ·) := by
  rw [AddrSorted, List.Sorted, List.pairwise_map]; rfl

theorem addrSorted_fixSymbols {l : List Symbol} (h : AddrSorted l) : AddrSorted (fixSymbols l) := by
  rwa [addrSorted_iff_map, fixSymbols_map_addr, ← addrSorted_iff_map]

theorem sortAndFixSymbols_sorted (σ : SymbolSort) (l : List Symbol) :
    AddrSorted (sortAndFixSymbols σ l) :=
  addrSorted_fixSymbols (σ.sorted l)

/-- Every symbol of length `0` is the last one or is followed by a symbol at
    the same address: the zero-length placeholders have been patched. -/
def Patched (l : List Symbol) : Prop := l.Chain' fun s t => s.len = 0 → t.addr = s.addr

instance : DecidablePred Patched := fun l =>
  inferInstanceAs (Decidable (l.Chain' fun (s t : Symbol) => s.len = 0 → t.addr = s.addr))

/-- What the loop leaves for a symbol followed by `t` in a sorted table: the
    length is `t.addr - s.addr` if it was `0`, with no wrap-around. -/
theorem fixHead_len_toNat {s t : Symbol} {l : List Symbol} (h : s.addr ≤ t.addr) :
    (fixHead s (t :: l)).len.toNat = if s.len = 0 then t.addr.toNat - s.addr.toNat else s.len.toNat := by
  simp only [fixHead]; split <;> simp [u64_toNat_sub h]

theorem patched_fixSymbols {l : List Symbol} (h : AddrSorted l) : Patched (fixSymbols l) := by
  induction l with
  | nil => exact List.chain'_nil
  | cons s l ih =>
    cases l with
    | nil => exact List.chain'_singleton _
    | cons t l =>
      obtain ⟨hs, hl⟩ := addrSorted_cons.1 h
      have hst := hs t (List.mem_cons_self _ _)
      refine List.Chain'.cons' (ih hl) fun u hu h0 => ?_
      simp only [fixSymbols, List.head?_cons, Option.mem_def, Option.some.injEq] at hu
      subst hu
      have hlen := fixHead_len_toNat (l := l) hst
      rw [h0, UInt64.toNat_zero] at hlen
      rw [u64_le_iff] at hst; simp only [fixHead_addr, u64_eq_iff]
      split at hlen
      · omega
      · exact absurd (u64_toNat_eq_zero.1 hlen.symm) ‹_›

/-- On a sorted table whose lengths are all `0` (as `kallsyms` gives them),
    every symbol but the last ends exactly where its successor begins, with no
    wrap-around. -/
theorem fixSymbols_tiles {l : List Symbol} (h : AddrSorted l) (hz : ∀ s ∈ l, s.len = 0) :
    (fixSymbols l).Chain' fun s t => s.addr.toNat + s.len.toNat = t.addr.toNat := by
  induction l with
  | nil => exact List.chain'_nil
  | cons s l ih =>
    cases l with
    | nil => exact List.chain'_singleton _
    | cons t l =>
      obtain ⟨hs, hl⟩ := addrSorted_cons.1 h
      have hst := hs t (List.mem_cons_self _ _)
      refine List.Chain'.cons' (ih hl fun x hx => hz x (List.mem_cons_of_mem _ hx)) fun u hu => ?_
      simp only [fixSymbols, List.head?_cons, Option.mem_def, Option.some.injEq] at hu
      subst hu
      rw [fixHead_addr, fixHead_addr, fixHead_len_toNat hst, if_pos (hz s (List.mem_cons_self _ _))]
      rw [u64_le_iff] at hst; omega

/-! ## What `SortAndFixSymbols` returns -/

/-- The loop leaves, at each index, the symbol there fixed against the symbols
    after it. -/
theorem fixSymbols_getElem? (p : List Symbol) (i : Nat) :
    (fixSymbols p)[i]? = p[i]?.map fun s => fixHead s (p.drop (i + 1)) := by
  induction p generalizing i with
  | nil => rfl
  | cons s p ih =>
    cases i with
    | zero => simp [fixSymbols]
    | succ i => simp only [fixSymbols, List.getElem?_cons_succ, ih, List.drop_succ_cons]

/-- Two neighbours of a sorted table are in address order. -/
theorem AddrSorted.getElem?_succ {p : List Symbol} (h : AddrSorted p) {i : Nat} {s t : Symbol}
    (hs : p[i]? = some s) (ht : p[i + 1]? = some t) : s.addr ≤ t.addr := by
  obtain ⟨hi, rfl⟩ := List.getElem?_eq_some_iff.1 hs
  obtain ⟨hi', rfl⟩ := List.getElem?_eq_some_iff.1 ht
  exact List.pairwise_iff_getElem.1 h _ _ hi hi' (Nat.lt_succ_self i)

/-- **What `SortAndFixSymbols` returns.**  The permutation `std::sort` chose,
    sorted by address, with every name and address in place and every length
    kept, except that a symbol of length `0` with a successor `t` gets
    `t.addr - addr`, which does not wrap: it then ends where `t` begins, and
    its length stays `0` only when `t` is at its address. -/
theorem sortAndFixSymbols_spec (σ : SymbolSort) (symbols : List Symbol) :
    let p := σ.sort symbols
    let r := sortAndFixSymbols σ symbols
    p.Perm symbols ∧ AddrSorted p ∧ r.length = p.length ∧
    ∀ i (s : Symbol), p[i]? = some s → ∃ s' : Symbol, r[i]? = some s' ∧ s'.name = s.name ∧ s'.addr = s.addr ∧
      (s.len ≠ 0 → s'.len = s.len) ∧ (s.len = 0 → p[i + 1]? = none → s'.len = 0) ∧
      (s.len = 0 → ∀ t : Symbol, p[i + 1]? = some t →
        s'.len = t.addr - s.addr ∧ s.addr.toNat + s'.len.toNat = t.addr.toNat ∧
          (s'.len = 0 ↔ t.addr = s.addr)) := by
  intro p r
  refine ⟨σ.perm symbols, σ.sorted symbols, fixSymbols_length p, fun i s hs => ?_⟩
  refine ⟨_, by rw [show r = fixSymbols p from rfl, fixSymbols_getElem?, hs]; rfl, fixHead_name _ _,
    fixHead_addr _ _, ?_⟩
  have hnext : (p.drop (i + 1)).head? = p[i + 1]? := by rw [List.head?_drop]
  rcases hd : p.drop (i + 1) with _ | ⟨t, rest⟩ <;> rw [hd] at hnext
  · exact ⟨fun _ => rfl, fun h _ => h, fun _ t ht => (by rw [← hnext] at ht; cases ht)⟩
  · have hst := (σ.sorted symbols).getElem?_succ hs hnext.symm
    refine ⟨fun h0 => (by simp [fixHead, h0]), fun _ h => (by rw [← hnext] at h; cases h), ?_⟩
    intro h0 t' ht'
    rw [← hnext] at ht'
    obtain rfl : t = t' := Option.some.inj ht'
    have hsub := u64_toNat_sub hst
    rw [u64_le_iff] at hst
    simp only [fixHead, h0, if_true, u64_eq_iff, hsub, UInt64.toNat_zero]
    exact ⟨trivial, by omega, by omega⟩

/-! ## Demangled names -/

/-- `Dso::Demangle` under the flag `demangle_`, given `__cxa_demangle` (`none`
    unless its status is `0`) and `linker_prefix`, both outside the sources:
    a linker symbol, whose name starts with the prefix, loses it and gets
    `[linker]` in front, demangled or not. -/
def demangle (cxaDemangle : String → Option String) (linkerPrefix : String) (demangleFlag : Bool)
    (name : String) : String :=
  if !demangleFlag then name
  else
    let isLinkerSymbol := linkerPrefix.toList.isPrefixOf name.toList
    let mangledStr := if isLinkerSymbol then String.mk (name.toList.drop linkerPrefix.length) else name
    match cxaDemangle mangledStr with
    | some demangledName => if isLinkerSymbol then "[linker]" ++ demangledName else demangledName
    | none => if isLinkerSymbol then "[linker]" ++ mangledStr else name

/-- `Symbol::DemangledName`: `demangled_name_` once set, else `Demangle(name_)`
    under the flag of the moment, which is kept.  The new `demangled_name_`
    and the name returned. -/
def demangledName (cxaDemangle : String → Option String) (linkerPrefix : String) (demangleFlag : Bool)
    (demangledName? : Option String) (name : String) : Option String × String :=
  match demangledName? with
  | some d => (some d, d)
  | none =>
    let s := demangle cxaDemangle linkerPrefix demangleFlag name
    (some s, s)

end Simpleperf
