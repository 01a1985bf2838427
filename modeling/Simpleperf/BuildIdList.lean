/-
  The `build_id_list` file of a symfs directory (`dso.cpp`,
  `DebugElfFileFinder::SetSymFsDir`) as a format: `parseBuildIdList` reads it,
  and `renderBuildIdList` writes it as the test `use_build_id_list` does, one
  `key=value` line per entry, each ended by a newline.

  * `split_eq_splitOn`: `android::base::Split` with one delimiter is
    `List.splitOn` on the characters, so the laws of the split come from the
    library;
  * `setSymFsDir_renderBuildIdList`: an accepted `SetSymFsDir` on a directory
    whose list was written so installs exactly its entries, newest first,
    when no key or value holds `'='` or a newline;
  * `parseBuildIdList_sound`: every entry read comes from a line `key=value`
    of the file and holds neither character, so the map read can be written
    out and read back unchanged;
  * `findDebugFile_build_id_list`: `FindDebugFile` then returns the file the
    last entry for the build id names, when that file has the build id.
-/
import Simpleperf.DebugFileFinder

namespace Simpleperf

/-! ## `Split` is `List.splitOn` -/

theorem splitAux_eq_splitOnP_go (d : Char) (cur l : List Char) :
    splitAux d cur l = (List.splitOnP.go (· == d) l cur).map String.mk := by
  induction l generalizing cur with
  | nil => rfl
  | cons c l ih => by_cases h : c = d <;> simp [splitAux, List.splitOnP.go, h, ih]

/-- `android::base::Split` with one delimiter is `List.splitOn` on the characters. -/
theorem split_eq_splitOn (s : String) (d : Char) : split s d = (s.toList.splitOn d).map String.mk :=
  splitAux_eq_splitOnP_go d [] s.toList

theorem not_mem_of_mem_splitOnP_go {d : Char} {l acc p : List Char} (hacc : d ∉ acc)
    (hp : p ∈ List.splitOnP.go (· == d) l acc) : d ∉ p := by
  induction l generalizing acc with
  | nil =>
    simp only [List.splitOnP.go, List.mem_singleton] at hp
    rwa [hp, List.mem_reverse]
  | cons c l ih =>
    simp only [List.splitOnP.go] at hp
    split at hp
    · rcases List.mem_cons.1 hp with rfl | hp
      · rwa [List.mem_reverse]
      · exact ih (List.not_mem_nil d) hp
    · rename_i hc
      refine ih ?_ hp
      rintro (_ | ⟨_, h⟩)
      · exact hc (beq_self_eq_true d)
      · exact hacc h

/-- No piece of a split holds the delimiter. -/
theorem not_mem_of_mem_split {s p : String} {d : Char} (hp : p ∈ split s d) : d ∉ p.toList := by
  rw [split_eq_splitOn] at hp
  obtain ⟨q, hq, rfl⟩ := List.mem_map.1 hp
  exact not_mem_of_mem_splitOnP_go (List.not_mem_nil d) hq

/-- Joining the pieces of a split with the delimiter gives the string back. -/
theorem intercalate_split (s : String) (d : Char) :
    [d].intercalate ((split s d).map String.toList) = s.toList := by
  rw [split_eq_splitOn, List.map_map, show String.toList ∘ String.mk = id from rfl, List.map_id]
  exact List.intercalate_splitOn s.toList d

theorem split_of_not_mem {s : String} {d : Char} (hs : d ∉ s.toList) : split s d = [s] := by
  rw [split_eq_splitOn, List.splitOn, List.splitOnP_eq_single _ _ fun x hx h => hs (by
    rwa [← eq_of_beq h])]
  rfl

/-- A piece free of the delimiter, then the delimiter: the piece comes first. -/
theorem split_append_cons {s : String} {d : Char} (hs : d ∉ s.toList) (t : String) :
    split (s ++ String.singleton d ++ t) d = s :: split t d := by
  rw [split_eq_splitOn, split_eq_splitOn, List.splitOn, List.splitOn,
    show (s ++ String.singleton d ++ t).toList = s.toList ++ d :: t.toList by simp,
    List.splitOnP_first (· == d) _ (fun x hx h => hs (by rwa [← eq_of_beq h])) d (beq_self_eq_true d)]
  rfl

/-! ## Writing a list -/

/-- A key or a value that `build_id_list` can hold: neither `'='` nor a
    newline. -/
def BuildIdListField (s : String) : Prop := '=' ∉ s.toList ∧ '\n' ∉ s.toList

instance : DecidablePred BuildIdListField := fun s =>
  inferInstanceAs (Decidable ('=' ∉ s.toList ∧ '\n' ∉ s.toList))

/-- Modelled from the test `use_build_id_list`: the text of a
    `build_id_list`, one `key=value` line per entry. -/
def renderBuildIdList : List (String × String) → String
  | [] => ""
  | (k, v) :: entries => k ++ "=" ++ v ++ "\n" ++ renderBuildIdList entries

/-- A line `key=value` splits on `'='` into the key and the value. -/
theorem split_line {k v : String} (hk : BuildIdListField k) (hv : BuildIdListField v) :
    split (k ++ "=" ++ v) '=' = [k, v] := by
  show split (k ++ String.singleton '=' ++ v) '=' = _
  rw [split_append_cons hk.1, split_of_not_mem hv.1]

theorem addBuildIdLine_line {k v : String} (hk : BuildIdListField k) (hv : BuildIdListField v)
    (m : List (String × String)) : addBuildIdLine m (k ++ "=" ++ v) = (k, v) :: m := by
  rw [addBuildIdLine, split_line hk hv]

/-- The lines of a written list are its entries, then the empty piece after
    the last newline. -/
theorem split_renderBuildIdList {entries : List (String × String)}
    (h : ∀ e ∈ entries, BuildIdListField e.1 ∧ BuildIdListField e.2) :
    split (renderBuildIdList entries) '\n' = entries.map (fun e => e.1 ++ "=" ++ e.2) ++ [""] := by
  induction entries with
  | nil => rfl
  | cons e entries ih =>
    obtain ⟨k, v⟩ := e
    have hkv := h (k, v) (List.mem_cons_self _ _)
    have hline : '\n' ∉ (k ++ "=" ++ v).toList := by simpa using And.intro hkv.1.2 hkv.2.2
    show split (k ++ "=" ++ v ++ String.singleton '\n' ++ renderBuildIdList entries) '\n' = _
    rw [split_append_cons hline, ih fun e he => h e (List.mem_cons_of_mem _ he)]
    rfl

theorem foldl_addBuildIdLine_lines {entries : List (String × String)}
    (h : ∀ e ∈ entries, BuildIdListField e.1 ∧ BuildIdListField e.2) (m : List (String × String)) :
    (entries.map fun e => e.1 ++ "=" ++ e.2).foldl addBuildIdLine m = entries.reverse ++ m := by
  induction entries generalizing m with
  | nil => rfl
  | cons e entries ih =>
    have he := h e (List.mem_cons_self _ _)
    rw [List.map_cons, List.foldl_cons, addBuildIdLine_line he.1 he.2,
      ih (fun e he => h e (List.mem_cons_of_mem _ he))]
    simp

/-- Reading a written list gives its entries back, newest first. -/
theorem parseBuildIdList_renderBuildIdList {entries : List (String × String)}
    (h : ∀ e ∈ entries, BuildIdListField e.1 ∧ BuildIdListField e.2) :
    parseBuildIdList (renderBuildIdList entries) = entries.reverse := by
  rw [parseBuildIdList, split_renderBuildIdList h, List.foldl_append, foldl_addBuildIdLine_lines h,
    List.append_nil]
  rfl

/-! ## What a read list holds -/

/-- A line split on `'='` into two pieces is the two pieces joined by `'='`. -/
theorem eq_of_split_eq_pair {line k v : String} (h : split line '=' = [k, v]) :
    line = k ++ "=" ++ v := by
  have := intercalate_split line '='
  rw [h] at this
  exact String.ext (by simpa [List.intercalate] using this.symm)

theorem mem_addBuildIdLine {m : List (String × String)} {line : String} {e : String × String}
    (he : e ∈ addBuildIdLine m line) :
    e ∈ m ∨ (line = e.1 ++ "=" ++ e.2 ∧ '=' ∉ e.1.toList ∧ '=' ∉ e.2.toList) := by
  unfold addBuildIdLine at he
  split at he
  · rename_i k v hkv
    rcases List.mem_cons.1 he with rfl | he
    · have hk : k ∈ split line '=' := by simp [hkv]
      have hv : v ∈ split line '=' := by simp [hkv]
      exact .inr ⟨eq_of_split_eq_pair hkv, not_mem_of_mem_split hk, not_mem_of_mem_split hv⟩
    · exact .inl he
  · exact .inl he

theorem mem_foldl_addBuildIdLine {lines : List String} {m : List (String × String)}
    {e : String × String} (he : e ∈ lines.foldl addBuildIdLine m) :
    e ∈ m ∨ (e.1 ++ "=" ++ e.2 ∈ lines ∧ '=' ∉ e.1.toList ∧ '=' ∉ e.2.toList) := by
  induction lines generalizing m with
  | nil => exact .inl he
  | cons line lines ih =>
    rcases ih he with he | ⟨hl, hk⟩
    · rcases mem_addBuildIdLine he with he | ⟨rfl, hk⟩
      · exact .inl he
      · exact .inr ⟨List.mem_cons_self _ _, hk⟩
    · exact .inr ⟨List.mem_cons_of_mem _ hl, hk⟩

/-- **What `SetSymFsDir` reads from `build_id_list`.**  Every entry of the map
    comes from a line `key=value` of the file, and neither its key nor its
    value holds `'='` or a newline; so the map, written out oldest entry first,
    reads back unchanged. -/
theorem parseBuildIdList_sound (text : String) :
    (∀ e ∈ parseBuildIdList text,
      e.1 ++ "=" ++ e.2 ∈ split text '\n' ∧ BuildIdListField e.1 ∧ BuildIdListField e.2) ∧
    parseBuildIdList (renderBuildIdList (parseBuildIdList text).reverse) = parseBuildIdList text := by
  have hsound : ∀ e ∈ parseBuildIdList text,
      e.1 ++ "=" ++ e.2 ∈ split text '\n' ∧ BuildIdListField e.1 ∧ BuildIdListField e.2 := by
    intro e he
    rcases mem_foldl_addBuildIdLine he with he | ⟨hl, hk, hv⟩
    · exact absurd he (List.not_mem_nil e)
    · have hnl : '\n' ∉ e.1.toList ∧ '\n' ∉ e.2.toList := by
        simpa using not_mem_of_mem_split hl
      exact ⟨hl, ⟨hk, hnl.1⟩, hv, hnl.2⟩
  refine ⟨hsound, ?_⟩
  rw [parseBuildIdList_renderBuildIdList fun e he => (hsound e (List.mem_reverse.1 he)).2,
    List.reverse_reverse]

/-! ## `SetSymFsDir` on a written list -/

theorem setSymFsDir_symfsDir {fs : FileSystem} {f : DebugElfFileFinder} {dir : String}
    (h : (f.setSymFsDir fs dir).2 = true) :
    (f.setSymFsDir fs dir).1.symfsDir = DebugElfFileFinder.dirName dir := by
  unfold DebugElfFileFinder.setSymFsDir at h ⊢
  split at h
  · cases h
  · rw [if_neg ‹_›]

theorem dirName_ne_empty {dir : String} (h : dir ≠ "") : DebugElfFileFinder.dirName dir ≠ "" := by
  unfold DebugElfFileFinder.dirName
  split
  · exact h
  · intro he
    have := congrArg String.length he
    simp only [String.length_append, String.length_empty, Nat.add_eq_zero] at this
    exact absurd this.2 (by decide)

/-- **`build_id_list` round trip.**  When the symfs directory is accepted and
    its `build_id_list` was written one `key=value` line per entry, with no
    `'='` or newline in a key or a value, `SetSymFsDir` installs exactly those
    entries, newest first: a key given twice maps to its last value. -/
theorem setSymFsDir_renderBuildIdList (fs : FileSystem) (f : DebugElfFileFinder) (dir : String)
    (entries : List (String × String)) (hdir : dir = "" ∨ fs.isDir dir = true)
    (htext : fs.readFileToString (DebugElfFileFinder.dirName dir ++ "build_id_list") =
      some (renderBuildIdList entries))
    (hfields : ∀ e ∈ entries, BuildIdListField e.1 ∧ BuildIdListField e.2) :
    (f.setSymFsDir fs dir).2 = true ∧
      (f.setSymFsDir fs dir).1.buildIdToFileMap = entries.reverse := by
  have hacc : ¬((!dir.isEmpty) = true ∧ (!fs.isDir dir) = true) := by
    rintro ⟨he, hd⟩
    rcases hdir with rfl | h
    · exact absurd he (by decide)
    · simp [h] at hd
  simp only [DebugElfFileFinder.setSymFsDir, if_neg hacc, htext, parseBuildIdList_renderBuildIdList hfields,
    and_self]

/-- The round trip on a list with one key written twice: the later line wins. -/
theorem setSymFsDir_renderBuildIdList_twice :
    let entries := [("ab12", "libc.so"), ("cd34", "libm.so"), ("ab12", "libc.so.debug")]
    (DebugElfFileFinder.reset.setSymFsDir ⟨fun _ => true, fun _ => some (renderBuildIdList entries),
        fun _ => none, fun _ _ => none, fun _ => none⟩ "/sym").1.buildIdToFileMap.lookup "ab12" =
      some "libc.so.debug" := by
  intro entries
  rw [(setSymFsDir_renderBuildIdList _ _ "/sym" entries (.inr rfl) rfl (by decide)).2]
  rfl

/-- **`FindDebugFile` through a written `build_id_list`.**  After
    `SetSymFsDir dir` on a directory whose `build_id_list` was written one
    `key=value` line per entry, `FindDebugFile` for a known build id returns
    the file that the last entry for the build id's hex string names, under
    the symfs directory, once that file has the build id: `dir` itself need
    not end in `/`. -/
theorem findDebugFile_build_id_list (fs : FileSystem) (f : DebugElfFileFinder) (dir : String)
    (entries : List (String × String)) (hne : dir ≠ "") (hdir : fs.isDir dir = true)
    (htext : fs.readFileToString (DebugElfFileFinder.dirName dir ++ "build_id_list") =
      some (renderBuildIdList entries))
    (hfields : ∀ e ∈ entries, BuildIdListField e.1 ∧ BuildIdListField e.2)
    (dsoPath : String) (force64bit : Bool) (b : BuildId) (file : String)
    (hv : dsoPath ≠ "[vdso]") (hb : ¬b.IsEmpty) (hfile : entries.reverse.lookup b.toString = some file)
    (hcheck : getBuildIdFromDsoPath fs (DebugElfFileFinder.dirName dir ++ file) = some b) :
    (f.setSymFsDir fs dir).1.findDebugFile fs dsoPath force64bit b =
      (DebugElfFileFinder.dirName dir ++ file, b) := by
  obtain ⟨hacc, hmap⟩ := setSymFsDir_renderBuildIdList fs f dir entries (.inr hdir) htext hfields
  simp [DebugElfFileFinder.findDebugFile, DebugElfFileFinder.checkPath, setSymFsDir_symfsDir hacc,
    dirName_ne_empty hne, hv, hb, hmap, hfile, hcheck]

/-- The test `use_build_id_list`: a symfs directory `/tmp/sym` without the
    trailing `/`, whose list names `elf_copy` for the build id of `elf`. -/
theorem findDebugFile_build_id_list_test :
    let b : BuildId := ⟨List.replicate 20 0xab, rfl⟩
    let entries := [(b.toString, "elf_copy")]
    let fs : FileSystem := ⟨fun _ => true, fun _ => some (renderBuildIdList entries), fun _ => none,
      fun _ _ => none, fun p => if p = "/tmp/sym/elf_copy" then some b else none⟩
    (DebugElfFileFinder.reset.setSymFsDir fs "/tmp/sym").1.findDebugFile fs "elf" false b =
      ("/tmp/sym/elf_copy", b) :=
  findDebugFile_build_id_list _ _ "/tmp/sym" _ (by decide) rfl rfl (by decide) "elf" false _ "elf_copy"
    (by decide) (by decide) (by decide) rfl

end Simpleperf
