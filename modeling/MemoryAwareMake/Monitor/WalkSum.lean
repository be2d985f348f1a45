import MemoryAwareMake.Monitor.FullTable
import MemoryAwareMake.Monitor.Preserve

/-!
# MemoryAwareMake — what the walk returns while the table has room

`find_child_descendants (parent_pid, ...)` returns `total_rss_kb`: for each child of
`parent_pid`, its RSS and what the recursive call on it returns. The only place where the walk
does not descend is the `continue` for a new process under a full table
(`Monitor/FullTable.lean`). The walk never removes an entry, so a walk that ends with fewer than
`MAX_TRACKED_DESCENDANTS` entries was never under a full table, and it returns the
specification's sum over the proper descendants, modulo `2 ^ 64`.

* `walkRel_compileCount` — the count of entries only grows during a walk;
* `descendInto_totalRssKb`, `walkEntry_child` — one child: its RSS, then what the recursive
  call returns;
* `walkLoop_totalRssKb` — the `readdir` loop;
* `walk_returns_descendant_rss` — the whole walk.
-/

namespace MemoryAwareMake

/-! ## The table grows during a walk -/

theorem updateDescendant_compileCount (m : Monitor) (idx : Nat) (k : Int) (n : Nat) (nd : Bool)
    (now : Int) : (updateDescendant m idx k n nd now).md.compileCount = m.md.compileCount := by
  simp only [updateDescendant]
  split_ifs <;> simp only [Monitor.recordUsage_md, MonitoringData.setDescendant]

theorem discover_compileCount_le (w : Walk) (p : Proc) (parentIdx now : Int) :
    w.mon.md.compileCount ≤ (discover w p parentIdx now).walk.mon.md.compileCount := by
  simp only [discover]
  split_ifs <;> simp [addDescendant]

/-- The walk's writes never shrink the table. -/
theorem walkRel_compileCount (snap : List Proc) :
    WalkRel snap fun m m' => m.md.compileCount ≤ m'.md.compileCount where
  refl _ := le_refl _
  trans h₁ h₂ := le_trans h₁ h₂
  update m idx k _ nd now := (updateDescendant_compileCount m idx k _ nd now).ge
  discover w p parentIdx now _ _ _ := discover_compileCount_le w p parentIdx now

/-! ## One child -/

section Child

variable (recur : Int → Int → Walk → Walk × Nat × Nat) (below : Descendant) (now : Int)

/-- The end of an iteration adds what the recursive call returns, and keeps the table's count
as the call leaves it. -/
theorem descendInto_totalRssKb (p : Proc) (parentIdx : Int) (totalRssKb totalJobs : Nat)
    (v : Visit) :
    (descendInto recur below now p parentIdx totalRssKb totalJobs v).totalRssKb =
        (totalRssKb +
          (recur p.pid (if 0 ≤ v.profileIdx then v.profileIdx else parentIdx) v.walk).2.1) %
          ulongSize ∧
      (descendInto recur below now p parentIdx totalRssKb totalJobs v).walk.mon.md.compileCount =
        (recur p.pid (if 0 ≤ v.profileIdx then v.profileIdx else parentIdx)
          v.walk).1.mon.md.compileCount := by
  simp only [descendInto]
  split_ifs <;> exact ⟨rfl, by simp only [updateDescendant_compileCount]⟩

/-- **A child seen while the table has room** adds its RSS and what the recursive call on it
returns. -/
theorem walkEntry_child (parentPid : Int) (L : WalkLoop) {p : Proc}
    (hp : 0 < p.pid ∧ p.ppid = parentPid)
    (hroom : L.walk.mon.md.compileCount < maxTrackedDescendants) :
    ∃ idx w, (walkEntry recur below now parentPid L p).totalRssKb =
        ((L.totalRssKb + p.vmRssKb) % ulongSize + (recur p.pid idx w).2.1) % ulongSize ∧
      (walkEntry recur below now parentPid L p).walk.mon.md.compileCount =
        (recur p.pid idx w).1.mon.md.compileCount := by
  simp only [walkEntry, if_neg (show ¬(p.pid ≤ 0 ∨ p.ppid ≠ parentPid) by omega)]
  rw [if_neg fun h => absurd h.2.2 (by omega)]
  exact ⟨_, _, descendInto_totalRssKb recur below now _ _ _ _ _⟩

theorem walkEntry_totalRssKb_lt (parentPid : Int) (L : WalkLoop) (p : Proc)
    (ht : L.totalRssKb < ulongSize) :
    (walkEntry recur below now parentPid L p).totalRssKb < ulongSize := by
  simp only [walkEntry]
  split_ifs
  · exact ht
  · exact Nat.mod_lt _ (by decide)
  all_goals
    rw [(descendInto_totalRssKb recur below now _ _ _ _ _).1]
    exact Nat.mod_lt _ (by decide)

end Child

/-! ## The loop and the walk -/

section Loop

variable {snap : List Proc} (below : Descendant) (now : Int) (fuel : Nat) (parentPid : Int)
  (hrec : ∀ pid idx w,
    (findChildDescendants snap below now fuel pid idx w).1.mon.md.compileCount <
      maxTrackedDescendants →
    (findChildDescendants snap below now fuel pid idx w).2.1 =
      descendantRssKb snap fuel pid % ulongSize)
include hrec

/-- The `readdir` loop over a part of the snapshot, when it ends with room in the table: the
total grows by the RSS of each child and of its proper descendants. -/
theorem walkLoop_totalRssKb :
    ∀ (ps : List Proc) (L : WalkLoop), (∀ p ∈ ps, p ∈ snap) → L.totalRssKb < ulongSize →
      (ps.foldl (walkEntry (findChildDescendants snap below now fuel) below now parentPid)
        L).walk.mon.md.compileCount < maxTrackedDescendants →
      (ps.foldl (walkEntry (findChildDescendants snap below now fuel) below now parentPid)
        L).totalRssKb =
        (L.totalRssKb + ((ps.filter fun p => 0 < p.pid ∧ p.ppid = parentPid).map fun p =>
          p.vmRssKb + descendantRssKb snap fuel p.pid).sum) % ulongSize
  | [], L, _, ht, _ => by simp [Nat.mod_eq_of_lt ht]
  | p :: ps, L, hsub, ht, hend => by
    have H := walkRel_compileCount snap
    have hwalk := findChildDescendants_rel H below now fuel
    -- the count only grows from `L` to the end of the loop
    have hL1 := walkEntry_rel H _ hwalk below now parentPid L (hsub p (List.mem_cons_self _ _))
    have hrest := walkLoop_rel H _ hwalk below now parentPid ps
      (fun q hq => hsub q (List.mem_cons_of_mem _ hq))
      (walkEntry (findChildDescendants snap below now fuel) below now parentPid L p)
    rw [List.foldl_cons] at hend ⊢
    rw [walkLoop_totalRssKb ps _ (fun q hq => hsub q (List.mem_cons_of_mem _ hq))
      (walkEntry_totalRssKb_lt _ below now parentPid L p ht) hend, List.filter_cons]
    by_cases hc : 0 < p.pid ∧ p.ppid = parentPid
    · -- a child: its RSS, then the walk below it
      obtain ⟨idx, w, htot, hcount⟩ :=
        walkEntry_child (findChildDescendants snap below now fuel) below now parentPid L hc
          (by omega)
      have hsub := hrec p.pid idx w (by omega)
      rw [htot, hsub, if_pos (decide_eq_true hc), List.map_cons, List.sum_cons]
      unfold ulongSize
      omega
    · rw [walkEntry_not_child _ below now parentPid L hc, if_neg (by simpa using hc)]

end Loop

/-- **The walk returns the RSS of the proper descendants.** A walk of depth `fuel` from any
state, that ends with room in the table, returns the RSS of the processes below `parentPid` down
to that depth, modulo `2 ^ 64`. -/
theorem walk_returns_descendant_rss (snap : List Proc) (below : Descendant) (now : Int) :
    ∀ fuel parentPid parentIdx w,
      (findChildDescendants snap below now fuel parentPid parentIdx w).1.mon.md.compileCount <
        maxTrackedDescendants →
      (findChildDescendants snap below now fuel parentPid parentIdx w).2.1 =
        descendantRssKb snap fuel parentPid % ulongSize
  | 0, _, _, _, _ => (Nat.zero_mod _).symm
  | fuel + 1, parentPid, parentIdx, w, hroom =>
    (walkLoop_totalRssKb below now fuel parentPid (walk_returns_descendant_rss snap below now fuel)
      snap ⟨w, parentIdx, 0, 0⟩ (fun _ hp => hp) (show 0 < ulongSize by decide) hroom).trans
      (by rw [Nat.zero_add]; rfl)

/-- The walk below make on the compiler `101` and its `cc1`: 100 MiB and 200 MiB. -/
theorem walk_returns_descendant_rss_gcc :
    (findChildDescendants gccWithCc1.snap gccWithCc1.below gccWithCc1.now 3 100 (-1)
        ⟨startWithA, 0⟩).1.mon.md.compileCount < maxTrackedDescendants ∧
      (findChildDescendants gccWithCc1.snap gccWithCc1.below gccWithCc1.now 3 100 (-1)
        ⟨startWithA, 0⟩).2.1 = descendantRssKb gccWithCc1.snap 3 100 % ulongSize :=
  ⟨by decide, walk_returns_descendant_rss _ _ _ 3 100 (-1) _ (by decide)⟩

end MemoryAwareMake
