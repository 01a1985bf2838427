/-
  The build ids a record file names (`dso.cpp`, `report_lib_interface.cpp`):
  `Dso::SetBuildIds` installs them, and `Dso::FindExpectedBuildIdForPath`,
  `Dso::GetExpectedBuildId` and `ReportLib::GetBuildIdForPath` look them up.

  * `setBuildIds_lookup` (with `SetBuildIds`): `insert` keeps the first build
    id given for a path, and the map before is dropped;
  * `lookup_round_trip_iff`: every pair of a list is found again by its path
    exactly when pairs with one path have one build id;
  * `build_ids_first_pair`: what the three lookups return after
    `SetBuildIds`, and when the round trip holds; a list with a repeated path
    may still give it back (`build_ids_repeated_path_round_trip`).
-/
import Simpleperf.SampleStream

namespace Simpleperf

/-! ## The round trip -/

/-- Looking each pair's path up gives back its build id exactly when pairs
    with one path have one build id. -/
theorem lookup_round_trip_iff (l : List (String × BuildId)) :
    (∀ q ∈ l, l.lookup q.1 = some q.2) ↔ ∀ q ∈ l, ∀ q' ∈ l, q.1 = q'.1 → q.2 = q'.2 := by
  constructor
  · intro h q hq q' hq' hk
    exact Option.some.inj ((h q hq).symm.trans (by rw [hk]; exact h q' hq'))
  · induction l with
    | nil => nofun
    | cons p l ih =>
      intro h q hq
      obtain ⟨k, b⟩ := p
      by_cases hk : q.1 = k
      · rw [hk, List.lookup_cons_self]
        exact congrArg some (h (k, b) (List.mem_cons_self _ _) q hq hk.symm)
      · have hq' : q ∈ l := (List.mem_cons.1 hq).resolve_left fun h => hk (by rw [h])
        rw [List.lookup_cons, beq_false_of_ne hk]
        exact ih (fun x hx y hy => h x (List.mem_cons_of_mem _ hx) y (List.mem_cons_of_mem _ hy)) q hq'

/-! ## After `SetBuildIds` -/

/-- **What the build id lookups return after `SetBuildIds`.**  Whatever map
    was installed before, `FindExpectedBuildIdForPath` returns the build id of
    the first pair of the list with the path, or the empty `BuildId`;
    `GetExpectedBuildId` does so for the Dso's path; `GetBuildIdForPath`, on
    an open record file, returns that build id in hex, or `""` when it is
    empty.  Every pair is found again exactly when pairs with one path have
    one build id, so in particular when no path repeats. -/
theorem build_ids_first_pair (cfg : DsoConfig) (buildIds : List (String × BuildId)) (path : String)
    (d : Dso) :
    let cfg' : DsoConfig := { cfg with buildIdMap := setBuildIds buildIds }
    let expected := (buildIds.lookup path).getD BuildId.empty
    findExpectedBuildIdForPath cfg' path = expected ∧
    Dso.getExpectedBuildId cfg' d = (buildIds.lookup d.path).getD BuildId.empty ∧
    (∀ {T R : Type} (env : ReportEnv T R) (rl : ReportLib T R) (x : RecordFile R × List (Record R)),
      rl.recordFileReader = some x → rl.dsoConfig.buildIdMap = setBuildIds buildIds →
      (ReportLib.getBuildIdForPath env rl path).2 = if expected.IsEmpty then "" else expected.toString) ∧
    ((∀ q ∈ buildIds, findExpectedBuildIdForPath cfg' q.1 = q.2) ↔
      ∀ q ∈ buildIds, ∀ q' ∈ buildIds, q.1 = q'.1 → q.2 = q'.2) ∧
    ((buildIds.map Prod.fst).Nodup → ∀ q ∈ buildIds, findExpectedBuildIdForPath cfg' q.1 = q.2) := by
  intro cfg' expected
  have hfind : ∀ p, findExpectedBuildIdForPath cfg' p = (buildIds.lookup p).getD BuildId.empty :=
    findExpectedBuildIdForPath_of_buildIdMap rfl
  have hround : (∀ q ∈ buildIds, findExpectedBuildIdForPath cfg' q.1 = q.2) ↔
      ∀ q ∈ buildIds, buildIds.lookup q.1 = some q.2 := by
    refine forall₂_congr fun q hq => ?_
    rw [hfind]
    obtain ⟨b, hb⟩ := Option.isSome_iff_exists.1 (List.lookup_isSome_iff.2 ⟨q, hq, beq_self_eq_true _⟩)
    rw [hb, Option.getD_some, Option.some.injEq]
  refine ⟨hfind path, hfind d.path, fun env rl x hx hmap => ?_, hround.trans (lookup_round_trip_iff _),
    fun hnd => hround.2 ((lookup_round_trip_iff _).2 fun q hq q' hq' hk => ?_)⟩
  · rw [ReportLib.getBuildIdForPath, ReportLib.openRecordFileIfNecessary_of_reader env hx]
    simp only [findExpectedBuildIdForPath_of_buildIdMap hmap, expected]
  · exact congrArg Prod.snd (List.inj_on_of_nodup_map hnd hq hq' hk)

/-- Two paths, one with the empty build id: each is found again. -/
theorem build_ids_first_pair_distinct :
    let buildIds : List (String × BuildId) :=
      [("/system/lib/libc.so", BuildId.empty),
        ("/system/lib/libm.so", ⟨List.replicate 20 0xab, rfl⟩)]
    ∀ q ∈ buildIds,
      findExpectedBuildIdForPath { DsoConfig.initial with buildIdMap := setBuildIds buildIds } q.1 = q.2 :=
  (build_ids_first_pair DsoConfig.initial _ "/system/lib/libc.so"
    ⟨.unknown, "/system/lib/libc.so", "/system/lib/libc.so", false, [], []⟩).2.2.2.2 (by decide)

/-- A path given twice with one build id: the round trip holds although the
    path repeats. -/
theorem build_ids_repeated_path_round_trip :
    let buildIds : List (String × BuildId) :=
      [("/system/lib/libc.so", ⟨List.replicate 20 0xab, rfl⟩),
        ("/system/lib/libc.so", ⟨List.replicate 20 0xab, rfl⟩)]
    ¬(buildIds.map Prod.fst).Nodup ∧ ∀ q ∈ buildIds,
      findExpectedBuildIdForPath { DsoConfig.initial with buildIdMap := setBuildIds buildIds } q.1 = q.2 := by
  decide

end Simpleperf
