/-
  The ART frame filter of `ReportLib::SetCurrentSample`: with
  `show_art_frames_` false, interpreter frames (maps of `libart.so`) next to a
  Java frame (a map of a DEX file) are dropped from the call chain.

  * `filterLoop` is the loop over the frames, with `ip_maps` kept last element
    first, and `buildIpMaps` the whole of `ip_maps`;
  * `dropArtFrames` says the same by structural recursion, in terms of the
    frame before (`near`) and the frames after (`nextIsDex`); `filterLoop_eq`
    relates the two, popping included;
  * `selectFrames keep` keeps each frame for which `keep` holds of the frames
    before it, the frame, and the frames after it: `keepsFrame` is what the
    loop does, `interpreterFrameRule` the rule for interpreter frames alone;
  * `buildIpMaps_spec`: the loop keeps exactly the frames `keepsFrame` keeps,
    agrees with `interpreterFrameRule` when no DEX frame is a map of `libart.so`, is
    idempotent, and keeps a frame of every non-empty chain.
-/
import Simpleperf.Dso
import Mathlib.Data.List.DropRight

namespace Simpleperf

/-- What `SetCurrentSample` reads of a `MapEntry`: `start_addr`, `len`,
    `pgoff`, and the path and type of its Dso. -/
structure MapEntry where
  startAddr : UInt64
  len : UInt64
  pgoff : UInt64
  dsoPath : String
  dsoType : DsoType
  deriving DecidableEq, Repr

/-- An entry of `ip_maps`: an ip and the map it falls in. -/
abbrev Frame := UInt64 × MapEntry

/-- `is_map_for_interpreter`: `EndsWith(map->dso->Path(), "/libart.so")`. -/
def isMapForInterpreter (map : MapEntry) : Bool := "/libart.so".toList.isSuffixOf map.dsoPath.toList

/-! ## The loop -/

/-- The loop of `SetCurrentSample` over the frames with `show_art_frames_`
    false: `near_java_method`, and `ip_maps` with its last element first. A
    Java frame pops the interpreter frames on top of `ip_maps`; an interpreter
    frame is skipped right after a Java frame; any other frame ends the Java
    method. -/
def filterLoop (nearJavaMethod : Bool) (ipMaps : List Frame) : List Frame → List Frame
  | [] => ipMaps.reverse
  | f :: fs =>
    if f.2.dsoType = .dexFile then
      filterLoop true (f :: ipMaps.dropWhile fun g => isMapForInterpreter g.2) fs
    else if isMapForInterpreter f.2 then
      if nearJavaMethod then filterLoop nearJavaMethod ipMaps fs
      else filterLoop nearJavaMethod (f :: ipMaps) fs
    else filterLoop false (f :: ipMaps) fs

/-- `ip_maps` as `SetCurrentSample` builds it from the frames of a call chain. -/
def buildIpMaps (showArtFrames : Bool) (frames : List Frame) : List Frame :=
  if showArtFrames then frames else filterLoop false [] frames

/-! ## The frames dropped -/

/-- The class of a frame: DEX when its Dso is a DEX file, INTERP when it is
    not and its Dso is `libart.so`, OTHER else. -/
inductive FrameClass where
  | dex
  | interp
  | other
  deriving DecidableEq, Repr

def frameClass (f : Frame) : FrameClass :=
  if f.2.dsoType = .dexFile then .dex else if isMapForInterpreter f.2 then .interp else .other

/-- The nearest frame of the list that is not INTERP is a DEX frame. -/
def nextIsDex : List Frame → Bool
  | [] => false
  | f :: fs =>
    match frameClass f with
    | .dex => true
    | .interp => nextIsDex fs
    | .other => false

/-- The frames the loop keeps, `near` telling whether the nearest non-INTERP
    frame before them is a DEX frame: every OTHER frame, a DEX frame unless it
    is a map of `libart.so` with a DEX frame next, and an INTERP frame with no
    DEX frame next on either side. -/
def dropArtFrames (near : Bool) : List Frame → List Frame
  | [] => []
  | f :: fs =>
    match frameClass f with
    | .dex =>
      if isMapForInterpreter f.2 && nextIsDex fs then dropArtFrames true fs
      else f :: dropArtFrames true fs
    | .interp =>
      if near || nextIsDex fs then dropArtFrames near fs else f :: dropArtFrames near fs
    | .other => f :: dropArtFrames false fs

/-- The frames for which `keep` holds of the frames before (nearest first),
    the frame, and the frames after. -/
def selectFrames (keep : List Frame → Frame → List Frame → Bool) : List Frame → List Frame → List Frame
  | _, [] => []
  | before, f :: after =>
    if keep before f after then f :: selectFrames keep (f :: before) after
    else selectFrames keep (f :: before) after

/-- The frames the loop keeps. -/
def keepsFrame (before : List Frame) (f : Frame) (after : List Frame) : Bool :=
  match frameClass f with
  | .dex => !(isMapForInterpreter f.2 && nextIsDex after)
  | .interp => !(nextIsDex before || nextIsDex after)
  | .other => true

/-- Modelled from the spec: the INTERP frames whose nearest non-INTERP frame
    before or after is a DEX frame are dropped, and only those. -/
def interpreterFrameRule (before : List Frame) (f : Frame) (after : List Frame) : Bool :=
  frameClass f != .interp || !(nextIsDex before || nextIsDex after)

section
variable {f : Frame} {fs : List Frame}

@[simp] theorem nextIsDex_dex (h : frameClass f = .dex) : nextIsDex (f :: fs) = true := by
  simp [nextIsDex, h]

@[simp] theorem nextIsDex_interp (h : frameClass f = .interp) : nextIsDex (f :: fs) = nextIsDex fs := by
  simp [nextIsDex, h]

@[simp] theorem nextIsDex_other (h : frameClass f = .other) : nextIsDex (f :: fs) = false := by
  simp [nextIsDex, h]

theorem frameClass_dex : frameClass f = .dex ↔ f.2.dsoType = .dexFile := by
  unfold frameClass; split_ifs <;> simp_all

theorem frameClass_interp : frameClass f = .interp ↔ f.2.dsoType ≠ .dexFile ∧ isMapForInterpreter f.2 := by
  unfold frameClass; split_ifs <;> simp_all

theorem frameClass_other : frameClass f = .other ↔ f.2.dsoType ≠ .dexFile ∧ ¬ isMapForInterpreter f.2 := by
  unfold frameClass; split_ifs <;> simp_all

end

/-! ## The loop computes `dropArtFrames` -/

/-- **The loop, popping included.**  Run on the frames `xs` after building
    `ipMaps`, the loop pops the interpreter frames on top of `ipMaps` if a DEX
    frame comes next, and appends what `dropArtFrames` keeps of `xs`. -/
theorem filterLoop_eq (near : Bool) (ipMaps xs : List Frame) :
    filterLoop near ipMaps xs =
      (if nextIsDex xs then ipMaps.dropWhile (fun g => isMapForInterpreter g.2) else ipMaps).reverse ++
        dropArtFrames near xs := by
  induction xs generalizing near ipMaps with
  | nil => simp [filterLoop, nextIsDex, dropArtFrames]
  | cons f fs ih =>
    rcases h : frameClass f
    · -- a Java frame
      have hd := frameClass_dex.1 h
      rw [filterLoop, if_pos hd, ih, nextIsDex_dex h, dropArtFrames, h]
      cases hl : isMapForInterpreter f.2 <;> cases nextIsDex fs <;>
        simp [List.dropWhile_cons_of_pos, List.dropWhile_cons_of_neg, hl, List.dropWhile_idempotent]
    · -- an interpreter frame
      obtain ⟨hd, hl⟩ := frameClass_interp.1 h
      rw [filterLoop, if_neg hd, if_pos hl, nextIsDex_interp h, dropArtFrames, h]
      cases near <;> cases hn : nextIsDex fs <;> simp [ih, hn, List.dropWhile_cons_of_pos, hl]
    · -- any other frame
      obtain ⟨hd, hl⟩ := frameClass_other.1 h
      rw [filterLoop, if_neg hd, if_neg hl, ih, nextIsDex_other h, dropArtFrames, h]
      cases nextIsDex fs <;> simp [List.dropWhile_cons_of_neg, hl]

theorem buildIpMaps_eq (frames : List Frame) : buildIpMaps false frames = dropArtFrames false frames := by
  simp [buildIpMaps, filterLoop_eq]

/-! ## `dropArtFrames`, frame by frame -/

/-- `near` is whether the nearest non-INTERP frame before is a DEX frame. -/
theorem dropArtFrames_eq_select (before xs : List Frame) :
    dropArtFrames (nextIsDex before) xs = selectFrames keepsFrame before xs := by
  induction xs generalizing before with
  | nil => rfl
  | cons f fs ih =>
    rcases h : frameClass f
    · rw [dropArtFrames, h, selectFrames, keepsFrame, h, ← ih, nextIsDex_dex h]
      cases isMapForInterpreter f.2 && nextIsDex fs <;> rfl
    · rw [dropArtFrames, h, selectFrames, keepsFrame, h, ← ih, nextIsDex_interp h]
      cases nextIsDex before || nextIsDex fs <;> rfl
    · rw [dropArtFrames, h, selectFrames, keepsFrame, h, ← ih, nextIsDex_other h]
      rfl

theorem selectFrames_congr {k k' : List Frame → Frame → List Frame → Bool} :
    ∀ {before xs : List Frame}, (∀ b f a, f ∈ xs → k b f a = k' b f a) →
      selectFrames k before xs = selectFrames k' before xs
  | _, [], _ => rfl
  | before, f :: fs, h => by
    rw [selectFrames, selectFrames, h before f fs (List.mem_cons_self _ _),
      selectFrames_congr fun b g a hg => h b g a (List.mem_cons_of_mem _ hg)]

/-- Where no DEX frame is a map of `libart.so`, the loop drops the INTERP
    frames next to a DEX frame and nothing else. -/
theorem keepsFrame_eq_interpreterFrameRule {f : Frame} (h : ¬ (f.2.dsoType = .dexFile ∧ isMapForInterpreter f.2))
    (before after : List Frame) : keepsFrame before f after = interpreterFrameRule before f after := by
  unfold keepsFrame interpreterFrameRule
  rcases hc : frameClass f
  · have hl : isMapForInterpreter f.2 = false := by simpa [frameClass_dex.1 hc] using h
    simp [hc, hl]
  · simp
  · simp

/-! ## Idempotence, and a frame kept -/

/-- Right after a DEX frame no INTERP frame is kept first. -/
theorem dropArtFrames_true_head (xs : List Frame) :
    ∀ g ∈ (dropArtFrames true xs).head?, frameClass g ≠ .interp := by
  induction xs with
  | nil => simp [dropArtFrames]
  | cons f fs ih =>
    rcases h : frameClass f <;> simp only [dropArtFrames, h]
    · split
      · exact ih
      · simp [h]
    · simpa using ih
    · simp [h]

/-- `near` only decides the INTERP frames at the front. -/
theorem dropArtFrames_near {xs : List Frame} (h : ∀ g ∈ xs.head?, frameClass g ≠ .interp) (b b' : Bool) :
    dropArtFrames b xs = dropArtFrames b' xs := by
  cases xs with
  | nil => rfl
  | cons f fs =>
    have hf : frameClass f ≠ .interp := h f rfl
    rcases hc : frameClass f
    · simp only [dropArtFrames, hc]
    · exact absurd hc hf
    · simp only [dropArtFrames, hc]

/-- The nearest non-INTERP frame kept is a DEX frame exactly when it was one. -/
@[simp] theorem nextIsDex_dropArtFrames (near : Bool) (xs : List Frame) :
    nextIsDex (dropArtFrames near xs) = nextIsDex xs := by
  induction xs generalizing near with
  | nil => rfl
  | cons f fs ih =>
    rcases h : frameClass f <;> simp only [dropArtFrames, h]
    · split
      · rename_i hc; simp_all
      · simp [h]
    · split <;> simp [h, ih]
    · simp [h]

theorem dropArtFrames_idem (near : Bool) (xs : List Frame) :
    dropArtFrames near (dropArtFrames near xs) = dropArtFrames near xs := by
  induction xs generalizing near with
  | nil => rfl
  | cons f fs ih =>
    rcases h : frameClass f <;> simp only [dropArtFrames, h]
    · split
      · rw [dropArtFrames_near (dropArtFrames_true_head fs) near true, ih]
      · rename_i hc
        simp only [dropArtFrames, h, nextIsDex_dropArtFrames, hc, ih, Bool.false_eq_true, ↓reduceIte]
    · split
      · exact ih near
      · rename_i hc
        simp only [dropArtFrames, h, nextIsDex_dropArtFrames, hc, ih, Bool.false_eq_true, ↓reduceIte]
    · simp only [dropArtFrames, h, ih]

/-- A chain whose nearest non-INTERP frame is a DEX frame keeps a frame. -/
theorem dropArtFrames_ne_nil_of_nextIsDex {xs : List Frame} (near : Bool) (h : nextIsDex xs = true) :
    dropArtFrames near xs ≠ [] := by
  induction xs generalizing near with
  | nil => cases h
  | cons f fs ih =>
    rcases hc : frameClass f <;> simp only [dropArtFrames, hc]
    · split
      · rename_i hl; exact ih true (by simp_all)
      · simp
    · rw [nextIsDex_interp hc] at h
      simp only [h, Bool.or_true, if_true]
      exact ih near h
    · simp

theorem dropArtFrames_false_ne_nil {xs : List Frame} (h : xs ≠ []) : dropArtFrames false xs ≠ [] := by
  cases xs with
  | nil => exact absurd rfl h
  | cons f fs =>
    rcases hc : frameClass f <;> simp only [dropArtFrames, hc]
    · split
      · rename_i hl; exact dropArtFrames_ne_nil_of_nextIsDex true (by simp_all)
      · simp
    · split
      · rename_i hn; exact dropArtFrames_ne_nil_of_nextIsDex false (by simpa using hn)
      · simp
    · simp

/-- **The frame filter.**  With `show_art_frames_` false, `ip_maps` is the
    chain less the INTERP frames whose nearest non-INTERP frame before or
    after is a DEX frame, and less the DEX frames of `libart.so` whose nearest
    non-INTERP frame after is a DEX frame; where no DEX frame is a map of
    `libart.so`, that is the first rule alone.  Filtering twice is filtering
    once, and a non-empty chain keeps a frame.  With `show_art_frames_` true
    every frame is kept. -/
theorem buildIpMaps_spec (frames : List Frame) :
    buildIpMaps false frames = selectFrames keepsFrame [] frames ∧
    ((∀ f ∈ frames, ¬ (f.2.dsoType = .dexFile ∧ isMapForInterpreter f.2)) →
      buildIpMaps false frames = selectFrames interpreterFrameRule [] frames) ∧
    buildIpMaps false (buildIpMaps false frames) = buildIpMaps false frames ∧
    (frames ≠ [] → buildIpMaps false frames ≠ []) ∧
    buildIpMaps true frames = frames := by
  have hsel : buildIpMaps false frames = selectFrames keepsFrame [] frames := by
    rw [buildIpMaps_eq]; exact dropArtFrames_eq_select [] frames
  refine ⟨hsel, fun h => hsel.trans (selectFrames_congr fun b f a hf => keepsFrame_eq_interpreterFrameRule (h f hf) b a),
    ?_, fun h => ?_, rfl⟩
  · simp only [buildIpMaps_eq, dropArtFrames_idem]
  · rw [buildIpMaps_eq]; exact dropArtFrames_false_ne_nil h

/-- A DEX frame of `libart.so` followed by another DEX frame: the loop pops
    it, while the rule for INTERP frames alone keeps every DEX frame. -/
theorem buildIpMaps_pops_dex_libart :
    let dl : Frame := (0x100, ⟨0, 0x1000, 0, "/system/lib64/libart.so", .dexFile⟩)
    let d : Frame := (0x200, ⟨0, 0x1000, 0, "/data/app/base.apk", .dexFile⟩)
    buildIpMaps false [dl, d] = [d] ∧ selectFrames interpreterFrameRule [] [dl, d] = [dl, d] := by
  decide

end Simpleperf
