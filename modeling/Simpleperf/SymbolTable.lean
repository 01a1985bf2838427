/-
  The two standard algorithms a Dso runs over its symbol table, as libstdc++
  runs them: `std::upper_bound` (the lookup of `Dso::FindSymbol`) and
  `std::set_union` (the merge of `Dso::Load`).

  * `upperBound_eq`: on a table that splits at `k` around `v` (everything
    before `k` at or below `v`, the rest above) the binary search returns `k`;
    a sorted table splits at the length of its prefix at or below `v`;
  * `lookupSymbols` is the table part of `FindSymbol`: the predecessor of the
    upper bound, kept if its range holds `v` in `uint64_t` arithmetic.
    `lookupSymbols_sound`: what it returns is in the table and covers `v` in
    exact arithmetic, whatever the order of the table;
    `lookupSymbols_eq_filter`: on a sorted table it returns the last symbol
    at or below `v` exactly when that one covers `v`;
  * `setUnion_sorted`: merging two sorted tables gives a sorted table;
    `setUnion_symbolsAt`: at each address it holds the symbols of the first
    table there, then those of the second beyond as many, so it has
    `max(|xs_a|, |ys_a|)` of them (`setUnion_length`).
-/
import Simpleperf.Symbol
import Mathlib.Algebra.BigOperators.Group.List

namespace Simpleperf

/-! ## `std::upper_bound` -/

/-- `std::upper_bound(first, first + len, Symbol("", v, 0), Symbol::CompareValueByAddr)`
    as libstdc++ runs it over the table `l`: halve the range, keeping the half
    that holds the first symbol above `v`. -/
def upperBound (l : List Symbol) (v : UInt64) (first len : Nat) : Nat :=
  if 0 < len then
    if Symbol.compareValueByAddr ⟨"", v, 0⟩ (l.getD (first + len / 2) default) then
      upperBound l v first (len / 2)
    else upperBound l v (first + len / 2 + 1) (len - len / 2 - 1)
  else first
termination_by len
decreasing_by all_goals simp_wf; omega

/-- The table `l` splits at index `k` around `v`: the symbols before `k` are at
    or below `v`, the others above. -/
def SplitAt (l : List Symbol) (v : UInt64) (k : Nat) : Prop :=
  ∀ i (hi : i < l.length), l[i].addr ≤ v ↔ i < k

theorem getD_eq_getElem {l : List Symbol} {i : Nat} (h : i < l.length) :
    l.getD i default = l[i] := by
  simp [List.getD_eq_getElem?_getD, h]

/-- The binary search keeps the split point inside `[first, first + len]`. -/
theorem upperBound_eq {l : List Symbol} {v : UInt64} {k : Nat} (hk : SplitAt l v k) :
    ∀ len first, first ≤ k → k ≤ first + len → first + len ≤ l.length →
      upperBound l v first len = k := by
  intro len
  induction len using Nat.strong_induction_on with
  | _ len ih =>
    intro first h1 h2 h3
    rw [upperBound]
    split
    · have hm : first + len / 2 < l.length := by omega
      have hsplit := hk _ hm
      rw [getD_eq_getElem hm]
      by_cases hc : v < l[first + len / 2].addr
      · rw [if_pos (by simpa [Symbol.compareValueByAddr] using hc)]
        have : ¬ first + len / 2 < k := fun h => absurd (hsplit.2 h) (UInt64.not_le.2 hc)
        exact ih _ (by omega) _ h1 (by omega) (by omega)
      · rw [if_neg (by simpa [Symbol.compareValueByAddr] using hc)]
        have : first + len / 2 < k := hsplit.1 (UInt64.not_lt.1 hc)
        exact ih _ (by omega) _ (by omega) (by omega) (by omega)
    · omega

theorem upperBound_le {l : List Symbol} {v : UInt64} :
    ∀ len first, first + len ≤ l.length → upperBound l v first len ≤ l.length := by
  intro len
  induction len using Nat.strong_induction_on with
  | _ len ih =>
    intro first h
    rw [upperBound]
    split
    · split
      · exact ih _ (by omega) _ (by omega)
      · exact ih _ (by omega) _ (by omega)
    · omega

theorem splitAt_append {A B : List Symbol} {v : UInt64} (hA : ∀ a ∈ A, a.addr ≤ v)
    (hB : ∀ b ∈ B, v < b.addr) : SplitAt (A ++ B) v A.length := by
  intro i hi
  by_cases h : i < A.length
  · simp only [List.getElem_append_left h, h, iff_true]
    exact hA _ (List.getElem_mem h)
  · simp only [List.getElem_append_right (Nat.le_of_not_lt h), h, iff_false, UInt64.not_le]
    exact hB _ (List.getElem_mem _)

/-- The symbols a sorted table holds past its prefix at or below `v` are above `v`. -/
theorem dropWhile_above {l : List Symbol} (h : AddrSorted l) (v : UInt64) :
    ∀ b ∈ l.dropWhile (fun s => s.addr ≤ v), v < b.addr := by
  induction l with
  | nil => simp
  | cons s l ih =>
    obtain ⟨hs, hl⟩ := addrSorted_cons.1 h
    rw [List.dropWhile_cons]
    split
    · exact ih hl
    · rename_i hsv
      have hsv : v < s.addr := by simpa using hsv
      intro b hb
      rcases List.mem_cons.1 hb with rfl | hb
      · exact hsv
      · exact u64_lt_of_lt_of_le hsv (hs b hb)

theorem takeWhile_atOrBelow {l : List Symbol} {v : UInt64} :
    ∀ a ∈ l.takeWhile (fun s => s.addr ≤ v), a.addr ≤ v :=
  fun _ ha => by simpa using List.mem_takeWhile_imp ha

/-- **The binary search on a sorted table**: it returns the number of symbols
    at or below `v`. -/
theorem upperBound_sorted {l : List Symbol} (h : AddrSorted l) (v : UInt64) :
    upperBound l v 0 l.length = (l.takeWhile fun s => s.addr ≤ v).length := by
  have hsplit : SplitAt l v (l.takeWhile fun s => s.addr ≤ v).length := by
    have := splitAt_append (takeWhile_atOrBelow (l := l)) (dropWhile_above h v)
    rwa [List.takeWhile_append_dropWhile] at this
  have hk : (l.takeWhile fun s => s.addr ≤ v).length ≤ l.length :=
    (List.takeWhile_sublist _).length_le
  exact upperBound_eq hsplit _ _ (Nat.zero_le _) (by omega) (by omega)

/-! ## The table part of `FindSymbol` -/

/-- The table part of `Dso::FindSymbol`: step back from the upper bound, and
    keep that symbol if `addr <= v` and `addr + len > v` in `uint64_t`. -/
def lookupSymbols (l : List Symbol) (v : UInt64) : Option Symbol :=
  match upperBound l v 0 l.length with
  | 0 => none
  | i + 1 =>
    let s := l.getD i default
    if s.addr ≤ v ∧ s.addr + s.len > v then some s else none

/-- The `uint64_t` range check holds exactly when `v` is in `[addr, addr + len)`
    and the range does not wrap past `2^64`. -/
theorem covers_iff (s : Symbol) (v : UInt64) :
    (s.addr ≤ v ∧ s.addr + s.len > v) ↔
      s.addr.toNat ≤ v.toNat ∧ v.toNat < s.addr.toNat + s.len.toNat ∧
        s.addr.toNat + s.len.toNat < 2 ^ 64 := by
  rw [gt_iff_lt, u64_le_iff, u64_lt_iff, u64_toNat_add]
  have := u64_toNat_lt v
  constructor
  · rintro ⟨h1, h2⟩
    by_cases hw : s.addr.toNat + s.len.toNat < 2 ^ 64
    · rw [Nat.mod_eq_of_lt hw] at h2; exact ⟨h1, h2, hw⟩
    · have := u64_toNat_lt s.len
      rw [Nat.mod_eq_sub_mod (by omega), Nat.mod_eq_of_lt (by omega)] at h2; omega
  · rintro ⟨h1, h2, hw⟩
    rw [Nat.mod_eq_of_lt hw]; exact ⟨h1, h2⟩

/-- **What the lookup returns covers `v`**, in exact arithmetic, and is in the
    table, whatever the order of the table. -/
theorem lookupSymbols_sound {l : List Symbol} {v : UInt64} {s : Symbol}
    (h : lookupSymbols l v = some s) :
    s ∈ l ∧ s.addr.toNat ≤ v.toNat ∧ v.toNat < s.addr.toNat + s.len.toNat := by
  unfold lookupSymbols at h
  have hle := upperBound_le (l := l) (v := v) l.length 0 (by omega)
  generalize upperBound l v 0 l.length = k at h hle
  cases k with
  | zero => cases h
  | succ i =>
    simp only at h
    split at h
    · rename_i hc
      cases h
      obtain ⟨h1, h2, -⟩ := (covers_iff _ v).1 hc
      have hi : i < l.length := by omega
      exact ⟨getD_eq_getElem hi ▸ List.getElem_mem hi, h1, h2⟩
    · cases h

/-- The last symbol of the table, in table order, at or below `v`. -/
def lastAtOrBelow (l : List Symbol) (v : UInt64) : Option Symbol :=
  (l.filter fun s => s.addr ≤ v).getLast?

theorem lastAtOrBelow_le {l : List Symbol} {v : UInt64} {s : Symbol}
    (h : lastAtOrBelow l v = some s) : s.addr ≤ v := by
  have := List.mem_of_getLast?_eq_some h
  simpa using (List.mem_filter.1 this).2

theorem lastAtOrBelow_sorted {l : List Symbol} (h : AddrSorted l) (v : UInt64) :
    lastAtOrBelow l v = (l.takeWhile fun s => s.addr ≤ v).getLast? := by
  conv_lhs => rw [lastAtOrBelow, ← List.takeWhile_append_dropWhile (fun s => s.addr ≤ v) l]
  rw [List.filter_append, List.filter_eq_self.2, List.filter_eq_nil_iff.2, List.append_nil]
  · exact fun b hb => by simpa using dropWhile_above h v b hb
  · exact fun a ha => by simpa using takeWhile_atOrBelow a ha

/-- **The lookup on a sorted table**: the last symbol at or below `v`, if its
    range holds `v` in `uint64_t` arithmetic. -/
theorem lookupSymbols_eq_filter {l : List Symbol} (h : AddrSorted l) (v : UInt64) :
    lookupSymbols l v = (lastAtOrBelow l v).filter fun s => s.addr + s.len > v := by
  rw [lastAtOrBelow_sorted h, lookupSymbols, upperBound_sorted h]
  have hpre := List.takeWhile_prefix (fun s : Symbol => decide (s.addr ≤ v)) (l := l)
  generalize hA : l.takeWhile (fun s => s.addr ≤ v) = A at hpre
  rcases A.eq_nil_or_concat with rfl | ⟨B, a, rfl⟩
  · rfl
  · have hav : a.addr ≤ v := takeWhile_atOrBelow a (by rw [hA]; simp)
    have hget : l[B.length]?.getD default = a := by
      obtain ⟨C, rfl⟩ := hpre
      simp [List.getElem_append_right]
    simp [hget, hav, Option.filter]

/-! ## `std::set_union` -/

/-- `std::set_union(first1, last1, first2, last2, out, Symbol::CompareValueByAddr)`
    as libstdc++ runs it: a merge that, of two symbols at one address, copies
    the one from the first range and steps past both. -/
def setUnion : List Symbol → List Symbol → List Symbol
  | [], ys => ys
  | xs@(_ :: _), [] => xs
  | x :: xs, y :: ys =>
    if Symbol.compareValueByAddr x y then x :: setUnion xs (y :: ys)
    else if Symbol.compareValueByAddr y x then y :: setUnion (x :: xs) ys
    else x :: setUnion xs ys
termination_by xs ys => xs.length + ys.length

@[simp] theorem setUnion_nil_right (xs : List Symbol) : setUnion xs [] = xs := by
  cases xs <;> simp [setUnion]

theorem mem_setUnion {xs ys : List Symbol} {z : Symbol} (h : z ∈ setUnion xs ys) :
    z ∈ xs ∨ z ∈ ys := by
  induction xs, ys using setUnion.induct with
  | case1 ys => exact .inr (by simpa [setUnion] using h)
  | case2 xs _ => exact .inl (by simpa [setUnion] using h)
  | case3 x xs y ys hxy ih =>
    rw [setUnion, if_pos hxy] at h
    rcases List.mem_cons.1 h with rfl | h
    · simp
    · rcases ih h with h | h <;> simp [h]
  | case4 x xs y ys hxy hyx ih =>
    rw [setUnion, if_neg hxy, if_pos hyx] at h
    rcases List.mem_cons.1 h with rfl | h
    · simp
    · rcases ih h with h | h <;> simp [h]
  | case5 x xs y ys hxy hyx ih =>
    rw [setUnion, if_neg hxy, if_neg hyx] at h
    rcases List.mem_cons.1 h with rfl | h
    · simp
    · rcases ih h with h | h <;> simp [h]

/-- The head of a sorted table is at or below all of it. -/
theorem AddrSorted.head_le {y : Symbol} {ys : List Symbol} (h : AddrSorted (y :: ys)) :
    ∀ t ∈ y :: ys, y.addr ≤ t.addr := by
  intro t ht
  rcases List.mem_cons.1 ht with rfl | ht
  exacts [UInt64.le_refl _, (addrSorted_cons.1 h).1 t ht]

/-- **Merging two sorted tables gives a sorted table.** -/
theorem setUnion_sorted {xs ys : List Symbol} (hx : AddrSorted xs) (hy : AddrSorted ys) :
    AddrSorted (setUnion xs ys) := by
  induction xs, ys using setUnion.induct with
  | case1 ys => simpa [setUnion] using hy
  | case2 xs _ => simpa [setUnion] using hx
  | case3 x xs y ys hxy ih =>
    rw [setUnion, if_pos hxy]
    have hxy : x.addr ≤ y.addr := u64_le_of_lt (by simpa [Symbol.compareValueByAddr] using hxy)
    refine addrSorted_cons.2 ⟨fun t ht => ?_, ih (addrSorted_cons.1 hx).2 hy⟩
    exact (mem_setUnion ht).elim ((addrSorted_cons.1 hx).1 t)
      fun ht => UInt64.le_trans hxy (hy.head_le t ht)
  | case4 x xs y ys hxy hyx ih =>
    rw [setUnion, if_neg hxy, if_pos hyx]
    have hyx : y.addr ≤ x.addr := u64_le_of_lt (by simpa [Symbol.compareValueByAddr] using hyx)
    refine addrSorted_cons.2 ⟨fun t ht => ?_, ih hx (addrSorted_cons.1 hy).2⟩
    exact (mem_setUnion ht).elim (fun ht => UInt64.le_trans hyx (hx.head_le t ht))
      ((addrSorted_cons.1 hy).1 t)
  | case5 x xs y ys hxy hyx ih =>
    rw [setUnion, if_neg hxy, if_neg hyx]
    have hxy : x.addr ≤ y.addr := by simpa [Symbol.compareValueByAddr] using hyx
    refine addrSorted_cons.2 ⟨fun t ht => ?_, ih (addrSorted_cons.1 hx).2 (addrSorted_cons.1 hy).2⟩
    exact (mem_setUnion ht).elim ((addrSorted_cons.1 hx).1 t)
      fun ht => UInt64.le_trans hxy ((addrSorted_cons.1 hy).1 t ht)

/-! ## What `std::set_union` keeps -/

/-- The symbols of a table at the address `a`, in table order. -/
def symbolsAt (l : List Symbol) (a : UInt64) : List Symbol := l.filter (·.addr = a)

@[simp] theorem symbolsAt_nil (a : UInt64) : symbolsAt [] a = [] := rfl

theorem symbolsAt_cons (s : Symbol) (l : List Symbol) (a : UInt64) :
    symbolsAt (s :: l) a = if s.addr = a then s :: symbolsAt l a else symbolsAt l a := by
  by_cases h : s.addr = a <;> simp [symbolsAt, List.filter_cons, h]

/-- A sorted table starting above `a` holds nothing at `a`. -/
theorem symbolsAt_of_lt {s : Symbol} {l : List Symbol} (h : AddrSorted (s :: l)) {a : UInt64}
    (ha : a < s.addr) : symbolsAt (s :: l) a = [] := by
  refine List.filter_eq_nil_iff.2 fun z hz => ?_
  have hz : s.addr ≤ z.addr := by
    rcases List.mem_cons.1 hz with rfl | hz
    · exact UInt64.le_refl _
    · exact (addrSorted_cons.1 h).1 z hz
  simp only [decide_eq_true_eq]
  rintro rfl
  exact absurd hz (UInt64.not_le.2 ha)

/-- **What `std::set_union` keeps at one address.**  Of two sorted tables, the
    union holds at `a` the symbols of the first table there, in order, then
    those of the second there beyond as many as the first has. -/
theorem setUnion_symbolsAt {xs ys : List Symbol} (hx : AddrSorted xs) (hy : AddrSorted ys) (a : UInt64) :
    symbolsAt (setUnion xs ys) a = symbolsAt xs a ++ (symbolsAt ys a).drop (symbolsAt xs a).length := by
  induction xs, ys using setUnion.induct with
  | case1 ys => simp [setUnion]
  | case2 xs _ => simp
  | case3 x xs y ys hxy ih =>
    have hlt : x.addr < y.addr := by simpa [Symbol.compareValueByAddr] using hxy
    rw [setUnion, if_pos hxy, symbolsAt_cons, symbolsAt_cons x, ih (addrSorted_cons.1 hx).2 hy]
    by_cases hxa : x.addr = a
    · rw [symbolsAt_of_lt hy (hxa ▸ hlt)]; simp [hxa]
    · simp [hxa]
  | case4 x xs y ys hxy hyx ih =>
    have hlt : y.addr < x.addr := by simpa [Symbol.compareValueByAddr] using hyx
    rw [setUnion, if_neg hxy, if_pos hyx, symbolsAt_cons, symbolsAt_cons y, ih hx (addrSorted_cons.1 hy).2]
    by_cases hya : y.addr = a
    · rw [symbolsAt_of_lt hx (hya ▸ hlt)]; simp [hya]
    · simp [hya]
  | case5 x xs y ys hxy hyx ih =>
    have he : x.addr = y.addr := u64_eq_iff.2 (Nat.le_antisymm
      (UInt64.not_lt.1 (by simpa [Symbol.compareValueByAddr] using hyx))
      (UInt64.not_lt.1 (by simpa [Symbol.compareValueByAddr] using hxy)))
    rw [setUnion, if_neg hxy, if_neg hyx, symbolsAt_cons, symbolsAt_cons x, symbolsAt_cons y,
      ih (addrSorted_cons.1 hx).2 (addrSorted_cons.1 hy).2]
    by_cases hxa : x.addr = a
    · simp [hxa, ← he]
    · simp [hxa, ← he]

theorem sum_map_ite_eq_count (A : List UInt64) (x : UInt64) :
    (A.map fun a => if x = a then 1 else 0).sum = A.count x := by
  induction A with
  | nil => rfl
  | cons b A ih =>
    by_cases h : x = b
    · subst h; simp [List.count_cons, ih, Nat.add_comm]
    · simp [List.count_cons, h, ih, Ne.symm h]

/-- A table has as many symbols as it holds at each address of a list of
    distinct addresses that covers it. -/
theorem length_eq_sum_symbolsAt {l : List Symbol} {A : List UInt64} (hA : A.Nodup)
    (hl : ∀ s ∈ l, s.addr ∈ A) : l.length = (A.map fun a => (symbolsAt l a).length).sum := by
  induction l with
  | nil => simp [List.sum_replicate]
  | cons s l ih =>
    have hs : (A.map fun a => if s.addr = a then 1 else 0).sum = 1 := by
      rw [sum_map_ite_eq_count, List.count_eq_one_of_mem hA (hl s (List.mem_cons_self _ _))]
    have hsplit : ∀ a, (symbolsAt (s :: l) a).length = (symbolsAt l a).length + if s.addr = a then 1 else 0 :=
      fun a => by rw [symbolsAt_cons]; split <;> rfl
    simp only [hsplit, List.sum_map_add, hs, List.length_cons, ih fun t ht => hl t (List.mem_cons_of_mem _ ht)]

/-- The union has `max(|xs_a|, |ys_a|)` symbols at each address `a` of the two. -/
theorem setUnion_length {xs ys : List Symbol} (hx : AddrSorted xs) (hy : AddrSorted ys) :
    (setUnion xs ys).length =
      (((xs ++ ys).map Symbol.addr).dedup.map fun a =>
        max (symbolsAt xs a).length (symbolsAt ys a).length).sum := by
  rw [length_eq_sum_symbolsAt (List.nodup_dedup _) fun s hs => ?_]
  · refine congrArg List.sum (List.map_congr_left fun a _ => ?_)
    rw [setUnion_symbolsAt hx hy, List.length_append, List.length_drop]
    omega
  · refine List.mem_dedup.2 (List.mem_map_of_mem _ ?_)
    rcases mem_setUnion hs with h | h
    · exact List.mem_append_left _ h
    · exact List.mem_append_right _ h

end Simpleperf
