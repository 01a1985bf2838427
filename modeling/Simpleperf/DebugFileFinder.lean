/-
  `DebugElfFileFinder` (`dso.cpp`): where the symbols of an ELF file are read
  from, given a symfs directory with its `build_id_list` and two vdso files.

  * `setSymFsDir` validates the directory, adds the trailing `/`, and reads
    `build_id_list` into `buildIdToFileMap` (`parseBuildIdList`);
  * `findDebugFile` tries the vdso overrides, then three candidates under the
    symfs directory, checking each one's build id;
  * `lookup_parseBuildIdList`: the map holds, for each key, the value of the
    last line that splits on `'='` into exactly two items;
  * `findDebugFile_eq_firstCandidate`: the finder returns the first candidate
    whose build id matches, in the order `build_id_list`, symfs, `/usr/lib/debug`;
  * `findDebugFile_cases`: everything the finder can return, from which the
    build id it reports follows (`findDebugFile_buildId`, `findDebugFile_snd`);
  * `findDebugFile_after_setSymFsDir`: both together, for the finder a
    successful `SetSymFsDir` leaves; a rejected one changes nothing.
-/
import Simpleperf.Symbol

namespace Simpleperf

/-! ## Build ids and the file system -/

/-- Modelled from the spec: `BuildId` (`build_id.h`, not among the sources), a
    20-byte tag compared bytewise. -/
structure BuildId where
  data : List UInt8
  length_eq : data.length = 20
  deriving DecidableEq

/-- `BuildId()`: all bytes zero. -/
def BuildId.empty : BuildId := ⟨List.replicate 20 0, rfl⟩

/-- `BuildId::IsEmpty`: all bytes zero. -/
def BuildId.IsEmpty (b : BuildId) : Prop := ∀ x ∈ b.data, x = 0

instance : DecidablePred BuildId.IsEmpty := fun b =>
  inferInstanceAs (Decidable (∀ x ∈ b.data, x = 0))

/-- A hexadecimal digit, lowercase. -/
def hexDigit (n : Nat) : Char := if n < 10 then Char.ofNat (48 + n) else Char.ofNat (87 + n)

/-- Modelled from the spec: `BuildId::ToString`, the bytes in lowercase hex. -/
def BuildId.toString (b : BuildId) : String :=
  String.mk (b.data.flatMap fun x => [hexDigit (x.toNat / 16), hexDigit (x.toNat % 16)])

/-- The file system as the finder and the readers see it.  Each field is a
    function outside the sources: `IsDir`, `android::base::ReadFileToString`,
    `SplitUrlInApk`, `GetBuildIdFromApkFile` and `GetBuildIdFromElfFile` (a
    build id when they return `ElfStatus::NO_ERROR`). -/
structure FileSystem where
  isDir : String → Bool
  readFileToString : String → Option String
  splitUrlInApk : String → Option (String × String)
  getBuildIdFromApkFile : String → String → Option BuildId
  getBuildIdFromElfFile : String → Option BuildId

/-- A file system with no files, in which every path is a directory. -/
def FileSystem.dirsOnly : FileSystem :=
  ⟨fun _ => true, fun _ => none, fun _ => none, fun _ _ => none, fun _ => none⟩

/-- `GetBuildIdFromDsoPath`: an `apk!/entry` path is read in its APK. -/
def getBuildIdFromDsoPath (fs : FileSystem) (dsoPath : String) : Option BuildId :=
  match fs.splitUrlInApk dsoPath with
  | some (apk, entry) => fs.getBuildIdFromApkFile apk entry
  | none => fs.getBuildIdFromElfFile dsoPath

/-! ## `build_id_list` -/

/-- `android::base::Split(s, d)` with one delimiter, from the piece `cur` read
    so far (kept reversed): the pieces between delimiters, empty ones kept. -/
def splitAux (d : Char) (cur : List Char) : List Char → List String
  | [] => [String.mk cur.reverse]
  | c :: cs => if c = d then String.mk cur.reverse :: splitAux d [] cs else splitAux d (c :: cur) cs

/-- `android::base::Split(s, d)`. -/
def split (s : String) (d : Char) : List String := splitAux d [] s.toList

/-- One line of `build_id_list`: `build_id_to_file_map_[items[0]] = items[1]`
    if it splits on `'='` into exactly two items. -/
def addBuildIdLine (m : List (String × String)) (line : String) : List (String × String) :=
  match split line '=' with
  | [k, v] => (k, v) :: m
  | _ => m

/-- The loop of `SetSymFsDir` over the lines of `build_id_list`; the map is an
    association list, newest entry first. -/
def parseBuildIdList (text : String) : List (String × String) :=
  (split text '\n').foldl addBuildIdLine []

/-- The entry a line of `build_id_list` gives for the key `k`. -/
def entryFor (k line : String) : Option String :=
  match split line '=' with
  | [k', v] => if k' = k then some v else none
  | _ => none

/-- The value the last line of `text` that splits on `'='` into `[k, v]`
    gives: the first such line found scanning from the end. -/
def lastEntry (text : String) (k : String) : Option String :=
  (split text '\n').reverse.findSome? (entryFor k)

theorem lookup_addBuildIdLine (k : String) (m : List (String × String)) (line : String) :
    (addBuildIdLine m line).lookup k = (entryFor k line).or (m.lookup k) := by
  unfold addBuildIdLine entryFor
  split
  · rename_i k' v _
    by_cases hk : k' = k
    · subst hk; simp
    · have : (k == k') = false := by simpa using Ne.symm hk
      simp [List.lookup_cons, hk, this]
  · rfl

theorem lookup_foldl_addBuildIdLine (k : String) :
    ∀ (lines : List String) (m : List (String × String)),
      (lines.foldl addBuildIdLine m).lookup k = (lines.reverse.findSome? (entryFor k)).or (m.lookup k)
  | [], m => by simp
  | line :: lines, m => by
    rw [List.foldl_cons, lookup_foldl_addBuildIdLine k lines, lookup_addBuildIdLine,
      List.reverse_cons, List.findSome?_append, Option.or_assoc]
    simp only [List.findSome?]; cases entryFor k line <;> rfl

/-- **`build_id_list` read as a map**: each key maps to the value of its last
    well-formed line. -/
theorem lookup_parseBuildIdList (text k : String) :
    (parseBuildIdList text).lookup k = lastEntry text k := by
  rw [parseBuildIdList, lookup_foldl_addBuildIdLine]; simp [lastEntry]

/-! ## The finder -/

/-- `simpleperf_dso_impl::DebugElfFileFinder`. -/
structure DebugElfFileFinder where
  vdso64bit : String
  vdso32bit : String
  symfsDir : String
  buildIdToFileMap : List (String × String)
  deriving DecidableEq, Repr

namespace DebugElfFileFinder

/-- `DebugElfFileFinder::Reset`, and the state of a new finder. -/
def reset : DebugElfFileFinder := ⟨"", "", "", []⟩

/-- The symfs directory with a trailing `/`. -/
def dirName (symfsDir : String) : String :=
  if symfsDir.isEmpty ∨ symfsDir.toList.getLast? = some '/' then symfsDir else symfsDir ++ "/"

/-- `DebugElfFileFinder::SetSymFsDir`: the new finder and the result. -/
def setSymFsDir (fs : FileSystem) (f : DebugElfFileFinder) (symfsDir : String) :
    DebugElfFileFinder × Bool :=
  if !symfsDir.isEmpty ∧ !fs.isDir symfsDir then (f, false)
  else
    ({ f with
      symfsDir := dirName symfsDir
      buildIdToFileMap :=
        match fs.readFileToString (dirName symfsDir ++ "build_id_list") with
        | some text => parseBuildIdList text
        | none => [] }, true)

/-- `DebugElfFileFinder::SetVdsoFile`. -/
def setVdsoFile (f : DebugElfFileFinder) (vdsoFile : String) (is64bit : Bool) : DebugElfFileFinder :=
  if is64bit then { f with vdso64bit := vdsoFile } else { f with vdso32bit := vdsoFile }

/-- `check_path` of `FindDebugFile`: the file's build id is `buildId`. -/
def checkPath (fs : FileSystem) (buildId : BuildId) (path : String) : Bool :=
  getBuildIdFromDsoPath fs path = some buildId

/-- `DebugElfFileFinder::FindDebugFile`: the path, and the build id as the
    reference argument leaves it (read from `dsoPath` when it came in empty). -/
def findDebugFile (fs : FileSystem) (f : DebugElfFileFinder) (dsoPath : String) (force64bit : Bool)
    (buildId : BuildId) : String × BuildId :=
  if dsoPath = "[vdso]" then
    if force64bit ∧ f.vdso64bit ≠ "" then (f.vdso64bit, buildId)
    else if !force64bit ∧ f.vdso32bit ≠ "" then (f.vdso32bit, buildId)
    else (dsoPath, buildId)
  else if f.symfsDir ≠ "" then
    match (if ¬ buildId.IsEmpty then some buildId else getBuildIdFromDsoPath fs dsoPath) with
    | none => (dsoPath, buildId)
    | some buildId =>
      match f.buildIdToFileMap.lookup buildId.toString with
      | some file =>
        if checkPath fs buildId (f.symfsDir ++ file) then (f.symfsDir ++ file, buildId)
        else if checkPath fs buildId (f.symfsDir ++ dsoPath) then (f.symfsDir ++ dsoPath, buildId)
        else if checkPath fs buildId ("/usr/lib/debug" ++ dsoPath) then
          ("/usr/lib/debug" ++ dsoPath, buildId)
        else (dsoPath, buildId)
      | none =>
        if checkPath fs buildId (f.symfsDir ++ dsoPath) then (f.symfsDir ++ dsoPath, buildId)
        else if checkPath fs buildId ("/usr/lib/debug" ++ dsoPath) then
          ("/usr/lib/debug" ++ dsoPath, buildId)
        else (dsoPath, buildId)
  else (dsoPath, buildId)

end DebugElfFileFinder

/-! ## What the finder returns -/

/-- The candidates, in order, for `dsoPath` with build id `b` under the symfs
    directory `dir` and the map `m` from hex build ids to files. -/
def candidates (dir : String) (m : String → Option String) (dsoPath : String) (b : BuildId) :
    List String :=
  ((m b.toString).map (dir ++ ·)).toList ++ [dir ++ dsoPath, "/usr/lib/debug" ++ dsoPath]

/-- The debug file of §4.2 of the spec: the vdso override of the requested
    bitness; else, with a symfs directory and a known build id, the first
    candidate whose build id matches; else the path itself. -/
def firstCandidate (fs : FileSystem) (dir : String) (m : String → Option String)
    (vdso32 vdso64 : String) (dsoPath : String) (force64bit : Bool) (b : BuildId) : String :=
  if dsoPath = "[vdso]" then
    if force64bit then (if vdso64 ≠ "" then vdso64 else dsoPath)
    else (if vdso32 ≠ "" then vdso32 else dsoPath)
  else if dir ≠ "" then
    match (if ¬ b.IsEmpty then some b else getBuildIdFromDsoPath fs dsoPath) with
    | none => dsoPath
    | some b => ((candidates dir m dsoPath b).find? fun c => getBuildIdFromDsoPath fs c = some b).getD dsoPath
  else dsoPath

/-- The finder returns the first matching candidate. -/
theorem findDebugFile_eq_firstCandidate (fs : FileSystem) (f : DebugElfFileFinder) (dsoPath : String)
    (force64bit : Bool) (b : BuildId) :
    (f.findDebugFile fs dsoPath force64bit b).1 =
      firstCandidate fs f.symfsDir f.buildIdToFileMap.lookup f.vdso32bit f.vdso64bit dsoPath force64bit b := by
  unfold DebugElfFileFinder.findDebugFile firstCandidate
  by_cases hv : dsoPath = "[vdso]"
  · simp only [if_pos hv]
    cases force64bit <;> by_cases h64 : f.vdso64bit = "" <;> by_cases h32 : f.vdso32bit = "" <;>
      simp [h64, h32]
  · simp only [if_neg hv]
    split
    · split
      · rfl
      · rename_i b' _
        simp only [candidates, DebugElfFileFinder.checkPath]
        cases f.buildIdToFileMap.lookup b'.toString <;> simp [List.find?] <;> split_ifs <;> simp_all
    · rfl

/-- What `FindDebugFile` can return: `dsoPath` or a vdso override with the
    build id it was given, or `dsoPath` or a checked candidate with the build
    id it looked up. -/
theorem findDebugFile_cases (fs : FileSystem) (f : DebugElfFileFinder) (dsoPath : String)
    (force64bit : Bool) (b : BuildId) :
    ∃ p b', f.findDebugFile fs dsoPath force64bit b = (p, b') ∧
      ((b' = b ∧ (p = dsoPath ∨ p = f.vdso32bit ∨ p = f.vdso64bit)) ∨
        ((if ¬ b.IsEmpty then some b else getBuildIdFromDsoPath fs dsoPath) = some b' ∧
          (p = dsoPath ∨ DebugElfFileFinder.checkPath fs b' p))) := by
  unfold DebugElfFileFinder.findDebugFile
  generalize (if ¬ b.IsEmpty then some b else getBuildIdFromDsoPath fs dsoPath) = src
  by_cases hv : dsoPath = "[vdso]"
  · rw [if_pos hv]
    split_ifs
    · exact ⟨_, _, rfl, .inl ⟨rfl, .inr (.inr rfl)⟩⟩
    · exact ⟨_, _, rfl, .inl ⟨rfl, .inr (.inl rfl)⟩⟩
    · exact ⟨_, _, rfl, .inl ⟨rfl, .inl rfl⟩⟩
  · rw [if_neg hv]
    split
    · split
      · exact ⟨_, _, rfl, .inl ⟨rfl, .inl rfl⟩⟩
      · split <;> split_ifs <;>
          first | exact ⟨_, _, rfl, .inr ⟨rfl, .inr ‹_›⟩⟩ | exact ⟨_, _, rfl, .inr ⟨rfl, .inl rfl⟩⟩
    · exact ⟨_, _, rfl, .inl ⟨rfl, .inl rfl⟩⟩

/-- The build id the finder reports for what it returns. -/
theorem findDebugFile_buildId (fs : FileSystem) (f : DebugElfFileFinder) (dsoPath : String)
    (force64bit : Bool) (b : BuildId) (hp : (f.findDebugFile fs dsoPath force64bit b).1 ≠ dsoPath)
    (h32 : (f.findDebugFile fs dsoPath force64bit b).1 ≠ f.vdso32bit)
    (h64 : (f.findDebugFile fs dsoPath force64bit b).1 ≠ f.vdso64bit) :
    getBuildIdFromDsoPath fs (f.findDebugFile fs dsoPath force64bit b).1 =
      some (f.findDebugFile fs dsoPath force64bit b).2 := by
  obtain ⟨p, b', hr, ⟨-, hp' | hp' | hp'⟩ | ⟨-, hp' | hc⟩⟩ := findDebugFile_cases fs f dsoPath force64bit b <;>
    rw [hr] at hp h32 h64 ⊢
  · exact absurd hp' hp
  · exact absurd hp' h32
  · exact absurd hp' h64
  · exact absurd hp' hp
  · simpa [DebugElfFileFinder.checkPath] using hc

/-- The build id `FindDebugFile` leaves in its reference argument: the one
    given, or, when that was empty, the one read from `dsoPath`. -/
theorem findDebugFile_snd (fs : FileSystem) (f : DebugElfFileFinder) (dsoPath : String)
    (force64bit : Bool) (b : BuildId) :
    (f.findDebugFile fs dsoPath force64bit b).2 = b ∨
      (b.IsEmpty ∧ getBuildIdFromDsoPath fs dsoPath = some (f.findDebugFile fs dsoPath force64bit b).2) := by
  obtain ⟨p, b', hr, ⟨rfl, -⟩ | ⟨hb, -⟩⟩ := findDebugFile_cases fs f dsoPath force64bit b <;> rw [hr]
  · exact .inl rfl
  · split_ifs at hb with he
    · exact .inr ⟨he, hb⟩
    · exact .inl (Option.some_injective _ hb).symm

/-- The text of `build_id_list` in the symfs directory `dir`; empty when it
    cannot be read. -/
def buildIdListText (fs : FileSystem) (dir : String) : String :=
  (fs.readFileToString (DebugElfFileFinder.dirName dir ++ "build_id_list")).getD ""

theorem lookup_setSymFsDir (fs : FileSystem) (f : DebugElfFileFinder) (dir : String)
    (h : (f.setSymFsDir fs dir).2 = true) :
    (f.setSymFsDir fs dir).1.buildIdToFileMap.lookup = lastEntry (buildIdListText fs dir) := by
  funext k
  unfold DebugElfFileFinder.setSymFsDir at h ⊢
  split at h
  · cases h
  · rw [if_neg ‹_›, buildIdListText]
    split <;> simp_all [lookup_parseBuildIdList]; rfl

/-- **The debug file of a finder set up by `SetSymFsDir` and `SetVdsoFile`.**
    After an accepted `SetSymFsDir dir` and the two vdso overrides,
    `FindDebugFile` returns the first candidate whose build id matches, with
    `build_id_list` read as a map from each key to its last line; what it
    returns, other than `dsoPath` and the overrides, carries the build id (the
    one given, or the one read from `dsoPath` when that was empty).  A rejected
    `SetSymFsDir` changes nothing. -/
theorem findDebugFile_after_setSymFsDir (fs : FileSystem) (f : DebugElfFileFinder)
    (dir vdso32 vdso64 : String) :
    ((f.setSymFsDir fs dir).2 = true →
      let g := ((f.setSymFsDir fs dir).1.setVdsoFile vdso32 false).setVdsoFile vdso64 true
      g.symfsDir = DebugElfFileFinder.dirName dir ∧
      ∀ dsoPath force64bit b,
        (g.findDebugFile fs dsoPath force64bit b).1 =
          firstCandidate fs (DebugElfFileFinder.dirName dir) (lastEntry (buildIdListText fs dir))
            vdso32 vdso64 dsoPath force64bit b ∧
        ((g.findDebugFile fs dsoPath force64bit b).1 ∉ [dsoPath, vdso32, vdso64] →
          ∃ b', (b' = b ∨ (b.IsEmpty ∧ getBuildIdFromDsoPath fs dsoPath = some b')) ∧
            getBuildIdFromDsoPath fs (g.findDebugFile fs dsoPath force64bit b).1 = some b')) ∧
    ((f.setSymFsDir fs dir).2 = false → (f.setSymFsDir fs dir).1 = f) := by
  have hdir : (f.setSymFsDir fs dir).2 = true →
      (f.setSymFsDir fs dir).1.symfsDir = DebugElfFileFinder.dirName dir := by
    unfold DebugElfFileFinder.setSymFsDir; split <;> simp
  refine ⟨fun h => ⟨hdir h, fun dsoPath force64bit b => ⟨?_, fun hn => ?_⟩⟩, ?_⟩
  · rw [findDebugFile_eq_firstCandidate]
    simp [DebugElfFileFinder.setVdsoFile, lookup_setSymFsDir fs f dir h, hdir h]
  · simp only [List.mem_cons, List.mem_singleton, not_or, List.not_mem_nil] at hn
    refine ⟨_, findDebugFile_snd fs _ dsoPath force64bit b,
      findDebugFile_buildId fs _ dsoPath force64bit b hn.1 ?_ ?_⟩
    · simpa [DebugElfFileFinder.setVdsoFile] using hn.2.1
    · simpa [DebugElfFileFinder.setVdsoFile] using hn.2.2.1
  · unfold DebugElfFileFinder.setSymFsDir; split <;> simp

/-- Two libraries with their build ids: `libc.so`'s debug file is listed in
    `build_id_list` and matches; `libm.so`'s listed file is stale (it carries
    `libc.so`'s id), and its debug file is under `/usr/lib/debug`. -/
def libcId : BuildId := ⟨0xab :: 0xcd :: List.replicate 18 0, rfl⟩

def libmId : BuildId := ⟨0x12 :: 0x34 :: List.replicate 18 0, rfl⟩

def symfsSample : FileSystem where
  isDir p := p = "/sym"
  readFileToString p :=
    if p = "/sym/build_id_list" then
      some (libcId.toString ++ "=libc.so.debug\n" ++ libmId.toString ++ "=libm.so.debug\n")
    else none
  splitUrlInApk _ := none
  getBuildIdFromApkFile _ _ := none
  getBuildIdFromElfFile p :=
    if p = "/system/lib/libc.so" ∨ p = "/sym/libc.so.debug" ∨ p = "/sym/libm.so.debug" then some libcId
    else if p = "/system/lib/libm.so" ∨ p = "/usr/lib/debug/system/lib/libm.so" then some libmId
    else none

/-- A finder set up with `/sym`: `libc.so`, asked with an empty build id,
    has its id read from the path and is found through `build_id_list`; the
    listed file of `libm.so` fails the build-id check, and the finder moves on
    to `/usr/lib/debug`. -/
theorem findDebugFile_after_setSymFsDir_sym :
    let g := ((DebugElfFileFinder.reset.setSymFsDir symfsSample "/sym").1.setVdsoFile "" false).setVdsoFile
      "" true
    (g.findDebugFile symfsSample "/system/lib/libc.so" false BuildId.empty).1 = "/sym/libc.so.debug" ∧
      (g.findDebugFile symfsSample "/system/lib/libm.so" false libmId).1 =
        "/usr/lib/debug/system/lib/libm.so" := by
  have h := (findDebugFile_after_setSymFsDir symfsSample DebugElfFileFinder.reset "/sym" "" "").1 (by decide)
  exact ⟨(h.2 _ _ _).1.trans (by decide), (h.2 _ _ _).1.trans (by decide)⟩

end Simpleperf
