/-
  `ReadSymbolsFromDexFile` (`read_dex_file.cpp`): the methods of the DEX files
  embedded at given offsets of one mapped file.

  * `openDexFilesLoop` is the loop of `OpenDexFiles`: for each offset, a bound
    check on the header and one on the size the header claims, then the
    loader, then the callback; the first failure ends the loop with `false`;
  * `readSymbolsFromDexFile` collects one symbol per method with a code item,
    and reports nothing when `OpenDexFiles` fails;
  * `openDexFilesReads` lists what the loop reads of the mapping, and
    `openDexFilesReads_agree` ties it to the loop: the callbacks are the ranges
    read and opened, and a loop that succeeds has read every offset;
  * `openDexFiles_within_mapping` puts every read inside the file, in exact
    arithmetic, with the result and the callbacks it makes.
-/
import Simpleperf.Symbol

namespace Simpleperf

/-- A method with a code item, as the callback of `ReadSymbolsFromDexFile`
    sees it: its pretty-printed name, `code.Insns() - dex_file.Begin()`, and
    `code.InsnsSizeInCodeUnits()`. -/
structure DexMethod where
  name : String
  insnsOffset : UInt64
  insnsSizeInCodeUnits : UInt32
  deriving DecidableEq, Repr

/-- `DexFileSymbol` (`read_dex_file.h`). -/
structure DexFileSymbol where
  offset : UInt64
  len : UInt64
  name : String
  deriving DecidableEq, Repr

/-- What `OpenDexFiles` reads outside the sources: the size of the mapped file
    (when `open`, `fstat` and `mmap` succeed), `sizeof(art::DexFile::Header)`,
    the `file_size_` field of the header at an offset, and the methods with a
    code item of what `art::DexFileLoader::Open` builds from a range
    (`nullptr` when it fails). -/
structure DexFiles where
  fileSize : String → Option UInt64
  headerSize : UInt64
  headerFileSize : String → UInt64 → UInt32
  loaderOpen : String → UInt64 → UInt32 → Option (List DexMethod)

/-- The loop of `OpenDexFiles` over `dex_file_offsets`: the callbacks made, each
    with the opened file's methods and its offset, and the result. -/
def openDexFilesLoop (dx : DexFiles) (path : String) (fileSize : UInt64) :
    List UInt64 → List (List DexMethod × UInt64) × Bool
  | [] => ([], true)
  | offset :: offsets =>
    if offset ≥ fileSize ∨ fileSize - offset < dx.headerSize then ([], false)
    else if fileSize - offset < (dx.headerFileSize path offset).toUInt64 then ([], false)
    else
      match dx.loaderOpen path offset (dx.headerFileSize path offset) with
      | none => ([], false)
      | some dexFile =>
        ((dexFile, offset) :: (openDexFilesLoop dx path fileSize offsets).1,
          (openDexFilesLoop dx path fileSize offsets).2)

/-- `OpenDexFiles`. -/
def openDexFiles (dx : DexFiles) (path : String) (offsets : List UInt64) :
    List (List DexMethod × UInt64) × Bool :=
  match dx.fileSize path with
  | none => ([], false)
  | some fileSize => openDexFilesLoop dx path fileSize offsets

/-- The symbol the callback of `ReadSymbolsFromDexFile` adds for a method of the
    DEX file at `dexFileOffset`. -/
def dexMethodSymbol (dexFileOffset : UInt64) (m : DexMethod) : DexFileSymbol :=
  ⟨m.insnsOffset + dexFileOffset, m.insnsSizeInCodeUnits.toUInt64 * 2, m.name⟩

/-- `ReadSymbolsFromDexFile`: the symbols, when `OpenDexFiles` returns true. -/
def readSymbolsFromDexFile (dx : DexFiles) (path : String) (offsets : List UInt64) :
    Option (List DexFileSymbol) :=
  let r := openDexFiles dx path offsets
  if r.2 then some (r.1.flatMap fun (methods, offset) => methods.map (dexMethodSymbol offset))
  else none

/-! ## What the loop reads of the mapping -/

/-- A read `OpenDexFiles` makes of the mapped file: the header it dereferences
    at an offset (`header->file_size_`), and the range from the header on that
    it hands to `DexFileLoader::Open`, of the size the header gives. -/
inductive DexRead
  | header (offset : UInt64)
  | loaderOpen (offset : UInt64) (size : UInt32)
  deriving DecidableEq, Repr

/-- The reads of the loop of `OpenDexFiles`, in order. -/
def openDexFilesReads (dx : DexFiles) (path : String) (fileSize : UInt64) :
    List UInt64 → List DexRead
  | [] => []
  | offset :: offsets =>
    if offset ≥ fileSize ∨ fileSize - offset < dx.headerSize then []
    else if fileSize - offset < (dx.headerFileSize path offset).toUInt64 then [.header offset]
    else
      .header offset :: .loaderOpen offset (dx.headerFileSize path offset) ::
        match dx.loaderOpen path offset (dx.headerFileSize path offset) with
        | none => []
        | some _ => openDexFilesReads dx path fileSize offsets

/-- Modelled from the spec: the header at `o` and the range its header claims
    lie inside a file of `F` bytes, in exact arithmetic. -/
def DexRangeFits (dx : DexFiles) (path : String) (F o : UInt64) : Prop :=
  o.toNat < F.toNat ∧ o.toNat + dx.headerSize.toNat ≤ F.toNat ∧
    o.toNat + (dx.headerFileSize path o).toNat ≤ F.toNat

instance (dx : DexFiles) (path : String) (F o : UInt64) : Decidable (DexRangeFits dx path F o) :=
  inferInstanceAs (Decidable (_ ∧ _ ∧ _))

/-- Modelled from the spec: an offset whose ranges fit and whose range the
    loader opens. -/
def dexOffsetPasses (dx : DexFiles) (path : String) (F o : UInt64) : Bool :=
  decide (DexRangeFits dx path F o) && (dx.loaderOpen path o (dx.headerFileSize path o)).isSome

section Checks

variable {dx : DexFiles} {path : String} {F o : UInt64}

/-- `file_size - offset` does not wrap once `offset` is below `file_size`. -/
theorem u64_le_sub_iff {h : UInt64} (ho : o ≤ F) : h ≤ F - o ↔ o.toNat + h.toNat ≤ F.toNat := by
  have := u64_le_iff.1 ho
  rw [u64_le_iff, u64_toNat_sub ho]
  omega

/-- The first check of the loop, in exact arithmetic. -/
theorem dexHeaderCheck_iff {h : UInt64} :
    ¬(o ≥ F ∨ F - o < h) ↔ o.toNat < F.toNat ∧ o.toNat + h.toNat ≤ F.toNat := by
  simp only [ge_iff_le, not_or, UInt64.not_le, UInt64.not_lt]
  exact and_congr_right fun ho => u64_le_sub_iff (u64_le_of_lt ho)

/-- The two checks of the loop fail exactly when the ranges do not fit. -/
theorem dexChecks_fail_iff :
    ((o ≥ F ∨ F - o < dx.headerSize) ∨ F - o < (dx.headerFileSize path o).toUInt64) ↔
      ¬DexRangeFits dx path F o := by
  rw [← not_iff_not, not_not, not_or, dexHeaderCheck_iff, DexRangeFits, UInt64.not_lt, and_assoc]
  exact and_congr_right fun ho => and_congr_right fun _ => u64_le_sub_iff (u64_le_of_lt ho)

theorem openDexFilesLoop_cons_of_not_fits (h : ¬DexRangeFits dx path F o) (offsets : List UInt64) :
    openDexFilesLoop dx path F (o :: offsets) = ([], false) := by
  rw [openDexFilesLoop, ← ite_or, if_pos (dexChecks_fail_iff.2 h)]

theorem openDexFilesLoop_cons_of_fits (h : DexRangeFits dx path F o) (offsets : List UInt64) :
    openDexFilesLoop dx path F (o :: offsets) =
      (dx.loaderOpen path o (dx.headerFileSize path o)).elim ([], false) fun m =>
        ((m, o) :: (openDexFilesLoop dx path F offsets).1, (openDexFilesLoop dx path F offsets).2) := by
  rw [openDexFilesLoop, ← ite_or, if_neg (mt dexChecks_fail_iff.1 (not_not.2 h))]
  cases dx.loaderOpen path o (dx.headerFileSize path o) <;> rfl

end Checks

/-- Modelled from the spec: a read lies inside a file of `F` bytes, and a
    range handed to the loader has the size its header gives. -/
def DexRead.Within (dx : DexFiles) (path : String) (F : UInt64) : DexRead → Prop
  | .header o => o.toNat < F.toNat ∧ o.toNat + dx.headerSize.toNat ≤ F.toNat
  | .loaderOpen o n => n = dx.headerFileSize path o ∧ o.toNat < F.toNat ∧ o.toNat + n.toNat ≤ F.toNat

section Loop

variable {dx : DexFiles} {path : String} {F : UInt64}

theorem openDexFilesLoop_snd (offsets : List UInt64) :
    (openDexFilesLoop dx path F offsets).2 = offsets.all (dexOffsetPasses dx path F) := by
  induction offsets with
  | nil => rfl
  | cons o offsets ih =>
    rw [List.all_cons, dexOffsetPasses]
    by_cases hfit : DexRangeFits dx path F o
    · rw [openDexFilesLoop_cons_of_fits hfit]
      cases dx.loaderOpen path o (dx.headerFileSize path o) <;> simp [hfit, ih]
    · rw [openDexFilesLoop_cons_of_not_fits hfit, decide_eq_false hfit]
      rfl

theorem openDexFilesLoop_fst (offsets : List UInt64) :
    (openDexFilesLoop dx path F offsets).1 =
      (offsets.takeWhile (dexOffsetPasses dx path F)).filterMap fun o =>
        (dx.loaderOpen path o (dx.headerFileSize path o)).map fun m => (m, o) := by
  induction offsets with
  | nil => rfl
  | cons o offsets ih =>
    rw [List.takeWhile_cons, dexOffsetPasses]
    by_cases hfit : DexRangeFits dx path F o
    · rw [openDexFilesLoop_cons_of_fits hfit]
      cases hl : dx.loaderOpen path o (dx.headerFileSize path o) <;> simp [hfit, hl, ih]
    · rw [openDexFilesLoop_cons_of_not_fits hfit, decide_eq_false hfit]
      rfl

/-- Every read of the loop lies inside the mapping. -/
theorem openDexFilesReads_within (offsets : List UInt64) :
    ∀ r ∈ openDexFilesReads dx path F offsets, r.Within dx path F := by
  induction offsets with
  | nil => nofun
  | cons o offsets ih =>
    rw [openDexFilesReads]
    split_ifs with h1 h2
    · nofun
    · rintro r (_ | ⟨_, ⟨⟩⟩)
      exact dexHeaderCheck_iff.1 h1
    · have hfit : DexRangeFits dx path F o := not_not.1 (mt dexChecks_fail_iff.2 (not_or.2 ⟨h1, h2⟩))
      have hrest : ∀ r ∈ (match dx.loaderOpen path o (dx.headerFileSize path o) with
          | none => [] | some _ => openDexFilesReads dx path F offsets), r.Within dx path F := by
        split
        · nofun
        · exact ih
      rintro r (_ | ⟨_, _ | ⟨_, hr⟩⟩)
      · exact ⟨hfit.1, hfit.2.1⟩
      · exact ⟨rfl, hfit.1, hfit.2.2⟩
      · exact hrest r hr

/-- The callback a read leads to: a range the loader opens. -/
def DexRead.callback (dx : DexFiles) (path : String) : DexRead → Option (List DexMethod × UInt64)
  | .header _ => none
  | .loaderOpen o n => (dx.loaderOpen path o n).map fun m => (m, o)

/-- The reads are those of the loop: its callbacks are the ranges the reads
    hand to a loader that opens them, and a loop that returns true has read
    the header and the range of every offset. -/
theorem openDexFilesReads_agree (offsets : List UInt64) :
    (openDexFilesReads dx path F offsets).filterMap (DexRead.callback dx path) =
        (openDexFilesLoop dx path F offsets).1 ∧
      ((openDexFilesLoop dx path F offsets).2 = true →
        openDexFilesReads dx path F offsets =
          offsets.flatMap fun o => [.header o, .loaderOpen o (dx.headerFileSize path o)]) := by
  induction offsets with
  | nil => exact ⟨rfl, fun _ => rfl⟩
  | cons o offsets ih =>
    rw [openDexFilesReads, openDexFilesLoop]
    split_ifs
    · exact ⟨rfl, nofun⟩
    · exact ⟨rfl, nofun⟩
    · cases hl : dx.loaderOpen path o (dx.headerFileSize path o) with
      | none => simp [DexRead.callback, hl]
      | some m => simpa [DexRead.callback, hl] using ih

end Loop

/-- **`OpenDexFiles` reads only inside the mapping.**  For a mapped file of `F`
    bytes, whatever the offsets and whatever `file_size_` each header holds:
    every header the loop dereferences lies in `[o, o + sizeof(Header))` and
    every range it hands to `DexFileLoader::Open` is `[o, o + file_size_)`,
    both inside `[0, F)` in exact arithmetic; the result is true exactly when
    every offset passes both checks and loads; and the callbacks are made, in
    order, for the offsets before the first one that fails. -/
theorem openDexFiles_within_mapping (dx : DexFiles) (path : String) (offsets : List UInt64)
    (F : UInt64) (hF : dx.fileSize path = some F) :
    let reads := openDexFilesReads dx path F offsets
    (∀ o, DexRead.header o ∈ reads → o.toNat < F.toNat ∧ o.toNat + dx.headerSize.toNat ≤ F.toNat) ∧
    (∀ o n, DexRead.loaderOpen o n ∈ reads →
      n = dx.headerFileSize path o ∧ o.toNat < F.toNat ∧ o.toNat + n.toNat ≤ F.toNat) ∧
    ((openDexFiles dx path offsets).2 = true ↔ ∀ o ∈ offsets, dexOffsetPasses dx path F o = true) ∧
    (openDexFiles dx path offsets).1 =
      (offsets.takeWhile (dexOffsetPasses dx path F)).filterMap fun o =>
        (dx.loaderOpen path o (dx.headerFileSize path o)).map fun m => (m, o) := by
  intro reads
  have hw : ∀ r ∈ reads, r.Within dx path F := openDexFilesReads_within offsets
  have hopen : openDexFiles dx path offsets = openDexFilesLoop dx path F offsets := by
    rw [openDexFiles, hF]
  rw [hopen, openDexFilesLoop_snd, List.all_eq_true]
  exact ⟨fun o h => hw _ h, fun o n h => hw _ h, Iff.rfl, openDexFilesLoop_fst offsets⟩

/-- A 512-byte file with one DEX file at `0x28`; the header at `0x100` claims
    more bytes than remain after it. -/
def dexSample : DexFiles where
  fileSize _ := some 0x200
  headerSize := 0x70
  headerFileSize _ o := if o = 0x28 then 0x100 else 0x1000
  loaderOpen _ _ _ := some [⟨"void Main.main()", 0x100, 4⟩]

/-- The header at `0x100` claims more than remains: the loop fails there,
    after the one callback, for `0x28`. -/
theorem openDexFiles_within_mapping_sample :
    (openDexFiles dexSample "base.apk" [0x28, 0x100]).1 = [([⟨"void Main.main()", 0x100, 4⟩], 0x28)] ∧
      (openDexFiles dexSample "base.apk" [0x28, 0x100]).2 = false := by
  have h := openDexFiles_within_mapping dexSample "base.apk" [0x28, 0x100] 0x200 rfl
  rw [h.2.2.2, Bool.eq_false_iff, ne_eq, h.2.2.1]
  decide

end Simpleperf
