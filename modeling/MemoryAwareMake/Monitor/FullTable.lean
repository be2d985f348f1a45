import MemoryAwareMake.Monitor.Exit

/-!
# MemoryAwareMake — the walk under a full descendant table

`find_child_descendants` counts the RSS of each child of `parent_pid` and walks the child's own
children, except when the child is new, nothing above it is tracked, and the table already
holds `MAX_TRACKED_DESCENDANTS` entries: then the `continue` skips the whole subtree after
counting the child alone. This module shows that this case is reached and what it costs.

* `findChildDescendants_full` — on a full table that holds neither the walked pid nor any of
  its children, the walk returns the children's RSS alone and changes nothing;
* `tick_fresh_children` — a tick on a snapshot of fresh children of make that no file
  classifies gives each of them an entry, in `readdir` order;
* `full_table_skips_new_subtree` — after a tick that fills the table, a new compiler and its
  `cc1` are walked as the compiler alone.
-/

namespace MemoryAwareMake

/-- The VmRSS (kB) of the children of `parentPid` in the snapshot, as the walker's `readdir`
loop selects them (`pid > 0`, `PPid == parent_pid`). -/
def childRssKb (snap : List Proc) (parentPid : Int) : Nat :=
  ((snap.filter fun p => 0 < p.pid ∧ p.ppid = parentPid).map Proc.vmRssKb).sum

/-- The sum the specification asks of `find_child_descendants (pid, ...)`: the VmRSS (kB) of
the proper descendants of `pid` in the snapshot, down to `depth` levels. -/
def descendantRssKb (snap : List Proc) : Nat → Int → Nat
  | 0, _ => 0
  | depth + 1, pid => ((snap.filter fun p => 0 < p.pid ∧ p.ppid = pid).map fun p =>
      p.vmRssKb + descendantRssKb snap depth p.pid).sum

theorem childRssKb_cons (p : Proc) (ps : List Proc) (parentPid : Int) :
    childRssKb (p :: ps) parentPid =
      (if 0 < p.pid ∧ p.ppid = parentPid then p.vmRssKb else 0) + childRssKb ps parentPid := by
  unfold childRssKb
  split_ifs with h <;> simp [List.filter_cons, h]

/-- The pids of the table's entries, in order. -/
def MonitoringData.pids (md : MonitoringData) : List Int := md.entries.map Descendant.pid

/-! ## Lookups that miss -/

section Lookup

variable {md : MonitoringData}

theorem MonitoringData.pid_mem_pids {j : Nat} (hj : j < md.compileCount) :
    (md.descendants j).pid ∈ md.pids :=
  List.mem_map_of_mem _ (by simpa [MonitoringData.entries] using ⟨j, hj, rfl⟩)

theorem scanTable_absent {d : Nat → Descendant} {parentPid pid : Int} (n : Nat) :
    ∀ (i : Nat) (h : TableHit), h.descendantIdx < 0 →
      (∀ j, i ≤ j → j < i + n → (d j).pid ≠ pid ∧ (d j).pid ≠ parentPid) →
      scanTable d parentPid pid i n h = h := by
  induction n with
  | zero => exact fun _ _ _ _ => rfl
  | succ n ih =>
    intro i h hd hj
    have hi := hj i le_rfl (by omega)
    have hstep : scanStep d parentPid pid i h = h := by
      simp only [scanStep, if_neg hi.1, if_neg hi.2]
    simp only [scanTable, hstep,
      if_neg (show ¬(0 ≤ h.descendantIdx ∧ 0 ≤ h.foundPpidx) by omega)]
    exact ih (i + 1) h hd fun j h1 h2 => hj j (by omega) (by omega)

/-- **A lookup of two pids the table lacks** leaves `descendant_idx` and `profile_idx` at `-1`
and `found_ppidx` at `parent_idx`. -/
theorem lookupDescendant_absent {parentPid pid : Int} (parentIdx : Int)
    (hp : pid ∉ md.pids) (hpp : parentPid ∉ md.pids) :
    lookupDescendant md parentPid pid parentIdx = ⟨-1, parentIdx, -1⟩ :=
  scanTable_absent _ 0 _ (show (-1 : Int) < 0 by decide) fun _ _ hj =>
    ⟨fun h => hp (h ▸ md.pid_mem_pids (by omega)),
      fun h => hpp (h ▸ md.pid_mem_pids (by omega))⟩

end Lookup

/-! ## The walk under a full table -/

section Full

variable (recur : Int → Int → Walk → Walk × Nat × Nat) (below : Descendant) (now : Int)
  (parentPid : Int)

/-- A process that is not a child of `parent_pid` is passed over. -/
theorem walkEntry_not_child (L : WalkLoop) {p : Proc} (hp : ¬(0 < p.pid ∧ p.ppid = parentPid)) :
    walkEntry recur below now parentPid L p = L :=
  if_pos (by omega)

/-- **A new child under a full table** is counted, and its subtree skipped. -/
theorem walkEntry_full (L : WalkLoop) {p : Proc} (hp : 0 < p.pid ∧ p.ppid = parentPid)
    (hfull : maxTrackedDescendants ≤ L.walk.mon.md.compileCount) (hidx : L.parentIdx < 0)
    (hnew : p.pid ∉ L.walk.mon.md.pids) (hpp : parentPid ∉ L.walk.mon.md.pids) :
    walkEntry recur below now parentPid L p =
      { L with totalRssKb := (L.totalRssKb + p.vmRssKb) % ulongSize } := by
  have hadopt : adoptParentIdx ⟨-1, L.parentIdx, -1⟩ L.parentIdx = L.parentIdx := by
    simp [adoptParentIdx]
  simp only [walkEntry, if_neg (show ¬(p.pid ≤ 0 ∨ p.ppid ≠ parentPid) by omega),
    lookupDescendant_absent L.parentIdx hnew hpp, hadopt]
  rw [if_pos ⟨by decide, hidx, hfull⟩]

/-- The `readdir` loop over a full table that lacks `parent_pid` and every child of it: the
total grows by the children's RSS, modulo `2 ^ 64`, and nothing else changes. -/
theorem walkLoop_full :
    ∀ (ps : List Proc) (L : WalkLoop), maxTrackedDescendants ≤ L.walk.mon.md.compileCount →
      L.parentIdx < 0 → parentPid ∉ L.walk.mon.md.pids →
      (∀ p ∈ ps, 0 < p.pid ∧ p.ppid = parentPid → p.pid ∉ L.walk.mon.md.pids) →
      L.totalRssKb < ulongSize →
      ps.foldl (walkEntry recur below now parentPid) L =
        { L with totalRssKb := (L.totalRssKb + childRssKb ps parentPid) % ulongSize }
  | [], L, _, _, _, _, ht => by
    simp [childRssKb, Nat.mod_eq_of_lt ht]
  | p :: ps, L, hfull, hidx, hpp, hnew, ht => by
    have hM : 0 < ulongSize := by decide
    rw [List.foldl_cons, childRssKb_cons]
    by_cases hc : 0 < p.pid ∧ p.ppid = parentPid
    · -- a child: counted, then the rest of the loop
      rw [walkEntry_full recur below now parentPid L hc hfull hidx
        (hnew p (List.mem_cons_self _ _) hc) hpp, if_pos hc,
        walkLoop_full ps { L with totalRssKb := (L.totalRssKb + p.vmRssKb) % ulongSize } hfull
          hidx hpp (fun q hq => hnew q (List.mem_cons_of_mem _ hq)) (Nat.mod_lt _ hM),
        Nat.mod_add_mod, Nat.add_assoc]
    · rw [walkEntry_not_child recur below now parentPid L hc, if_neg hc, Nat.zero_add,
        walkLoop_full ps L hfull hidx hpp (fun q hq => hnew q (List.mem_cons_of_mem _ hq)) ht]

end Full

/-- **Under a full table the walk stops at the children.** When the table holds
`MAX_TRACKED_DESCENDANTS` entries, none of them for `parent_pid` or for a child of it, and
nothing above is tracked (`parent_idx < 0`), `find_child_descendants (parent_pid, ...)`
returns the RSS of the children alone, modulo `2 ^ 64`, walks none of their subtrees, counts
no job and leaves the walk as it was. -/
theorem findChildDescendants_full (snap : List Proc) (below : Descendant) (now : Int)
    (fuel : Nat) (parentPid parentIdx : Int) (w : Walk)
    (hfull : maxTrackedDescendants ≤ w.mon.md.compileCount) (hidx : parentIdx < 0)
    (hpp : parentPid ∉ w.mon.md.pids)
    (hnew : ∀ p ∈ snap, 0 < p.pid ∧ p.ppid = parentPid → p.pid ∉ w.mon.md.pids) :
    findChildDescendants snap below now (fuel + 1) parentPid parentIdx w =
      (w, childRssKb snap parentPid % ulongSize, 0) := by
  simp only [findChildDescendants]
  rw [walkLoop_full _ below now parentPid snap ⟨w, parentIdx, 0, 0⟩ hfull hidx hpp hnew
    (show 0 < ulongSize by decide), Nat.zero_add]

/-! ## Fresh children and a table with room -/

section Fresh

variable (snap : List Proc) (below : Descendant) (now : Int)

theorem walkLoop_no_child (recur : Int → Int → Walk → Walk × Nat × Nat) (parentPid : Int) :
    ∀ (ps : List Proc) (L : WalkLoop), (∀ q ∈ ps, ¬(0 < q.pid ∧ q.ppid = parentPid)) →
      ps.foldl (walkEntry recur below now parentPid) L = L
  | [], _, _ => rfl
  | p :: ps, L, h => by
    rw [List.foldl_cons, walkEntry_not_child recur below now parentPid L
      (h p (List.mem_cons_self _ _))]
    exact walkLoop_no_child recur parentPid ps L fun q hq => h q (List.mem_cons_of_mem _ hq)

/-- **The walk under a process without children** returns nothing and changes nothing. -/
theorem findChildDescendants_leaf {pid : Int} (hleaf : ∀ q ∈ snap, ¬(0 < q.pid ∧ q.ppid = pid)) :
    ∀ fuel parentIdx w, findChildDescendants snap below now fuel pid parentIdx w = (w, 0, 0)
  | 0, _, _ => rfl
  | fuel + 1, parentIdx, w => by
    simp only [findChildDescendants, walkLoop_no_child below now _ pid snap _ hleaf]

theorem MonitoringData.pids_addDescendant (md : MonitoringData) (pid : Int) (c o : Nat) (k : Int) :
    (addDescendant md pid c o k).pids = md.pids ++ [pid] := by
  simp only [MonitoringData.pids, MonitoringData.entries, addDescendant, List.range_succ,
    List.map_append, List.map_map]
  congr 1
  · refine List.map_congr_left fun j hj => ?_
    simp [Function.update_noteq (List.mem_range.mp hj).ne]
  · simp

/-- **A fresh child with room in the table** gets an entry: the first `compile_count` entries
stay and the child's comes last, with no profile (no file classifies its command line). -/
theorem walkEntry_fresh (recur : Int → Int → Walk → Walk × Nat × Nat) (parentPid : Int)
    (L : WalkLoop) {p : Proc} (hp : 0 < p.pid ∧ p.ppid = parentPid)
    (hroom : L.walk.mon.md.compileCount < maxTrackedDescendants) (hidx : L.parentIdx < 0)
    (hnew : p.pid ∉ L.walk.mon.md.pids) (hpp : parentPid ∉ L.walk.mon.md.pids)
    (hcls : extractFilenameFromCmdline p.cmdline = none)
    (hrec : ∀ w, recur p.pid L.parentIdx w = (w, 0, 0)) :
    (walkEntry recur below now parentPid L p).walk.mon.md =
        addDescendant L.walk.mon.md p.pid (p.vmRssKb / 1024) 0 (-1) ∧
      (walkEntry recur below now parentPid L p).parentIdx = L.parentIdx := by
  have hadopt : adoptParentIdx ⟨-1, L.parentIdx, -1⟩ L.parentIdx = L.parentIdx := by
    simp [adoptParentIdx]
  have hprof :
      profileOfNewDescendant L.walk.mon.store p now = ⟨L.walk.mon.store, -1, 0, none⟩ := by
    simp [profileOfNewDescendant, hcls]
  simp only [walkEntry, if_neg (show ¬(p.pid ≤ 0 ∨ p.ppid ≠ parentPid) by omega),
    lookupDescendant_absent L.parentIdx hnew hpp, hadopt,
    if_neg (show ¬((-1 : Int) < 0 ∧ L.parentIdx < 0 ∧
      maxTrackedDescendants ≤ L.walk.mon.md.compileCount) by omega),
    if_pos (show (-1 : Int) < 0 by decide), discover, if_pos hidx, hprof, if_pos hroom,
    descendInto, if_neg (show ¬((0 : Int) ≤ -1) by decide), hrec,
    if_neg (show ¬(0 ≤ (L.walk.mon.md.compileCount : Int) ∧ (0 : Int) ≤ -1) by omega),
    and_self]

/-- A child the walk can discover: a child of `parentPid` whose command line no file
classifies, with no children of its own in the snapshot, that the table lacks. -/
def FreshLeaf (snap : List Proc) (parentPid : Int) (md : MonitoringData) (k : Proc) : Prop :=
  0 < k.pid ∧ k.ppid = parentPid ∧ extractFilenameFromCmdline k.cmdline = none ∧
    (∀ q ∈ snap, ¬(0 < q.pid ∧ q.ppid = k.pid)) ∧ k.pid ∉ md.pids

/-- **The `readdir` loop over fresh leaf children** with room for all of them gives each an
entry, in order. -/
theorem walkLoop_fresh (fuel : Nat) (parentPid : Int) :
    ∀ (kids : List Proc) (L : WalkLoop), L.parentIdx < 0 → parentPid ∉ L.walk.mon.md.pids →
      (∀ k ∈ kids, FreshLeaf snap parentPid L.walk.mon.md k) → (kids.map Proc.pid).Nodup →
      parentPid ∉ kids.map Proc.pid →
      L.walk.mon.md.compileCount + kids.length ≤ maxTrackedDescendants →
      (kids.foldl (walkEntry (findChildDescendants snap below now fuel) below now parentPid)
        L).walk.mon.md.pids = L.walk.mon.md.pids ++ kids.map Proc.pid
  | [], _, _, _, _, _, _, _ => by simp
  | k :: ks, L, hidx, hpp, hk, hnd, hppk, hroom => by
    obtain ⟨hpos, hppid, hcls, hleaf, hnew⟩ := hk k (List.mem_cons_self _ _)
    obtain ⟨hkks, hnd'⟩ := List.nodup_cons.mp hnd
    have hppk' : parentPid ≠ k.pid ∧ parentPid ∉ ks.map Proc.pid := by simpa using hppk
    obtain ⟨hmd, hpi⟩ := walkEntry_fresh below now _ parentPid L ⟨hpos, hppid⟩
      (by simp at hroom; omega) hidx hnew hpp hcls
      (findChildDescendants_leaf snap below now hleaf fuel L.parentIdx)
    rw [List.foldl_cons, walkLoop_fresh fuel parentPid ks _ (by rw [hpi]; exact hidx)
      (by rw [hmd, MonitoringData.pids_addDescendant]; simpa using ⟨hpp, hppk'.1⟩)
      (fun k' hk' => ?_) hnd' hppk'.2
      (by rw [hmd]; simp only [addDescendant, List.length_cons] at hroom ⊢; omega),
      hmd, MonitoringData.pids_addDescendant]
    · simp
    · -- a later child is still fresh: the table gained `k`, whose pid differs
      obtain ⟨h1, h2, h3, h4, h5⟩ := hk k' (List.mem_cons_of_mem _ hk')
      refine ⟨h1, h2, h3, h4, ?_⟩
      rw [hmd, MonitoringData.pids_addDescendant]
      simp only [List.mem_append, List.mem_singleton, not_or]
      exact ⟨h5, fun he => hkks (he ▸ List.mem_map_of_mem _ hk')⟩

end Fresh

/-! ## A tick that fills the table -/

/-- The exit detection removes nothing when every tracked process is alive. -/
theorem exitDetection_all_alive (snap : List Proc) (now : Int) (m : Monitor)
    (hn : m.md.compileCount ≤ maxTrackedDescendants)
    (halive : ∀ d ∈ m.md.entries, alive snap d.pid = true) :
    ((exitDetection snap now (m.md.compileCount + 1) 0 m).getD m).md.entries = m.md.entries := by
  obtain ⟨m', hm', h1, -⟩ :=
    exitDetection_from snap now (m.md.compileCount + 1) 0 m hn (Nat.zero_le _) (by omega)
  rw [hm', Option.getD_some, h1, List.take_zero, List.drop_zero, List.nil_append,
    List.filter_eq_self.mpr halive]

/-- **A tick on fresh children of make gives each of them an entry**, in `readdir` order: from
an empty table, when every process of the snapshot is a child of make whose command line no
file classifies, their pids are distinct and differ from make's, and there are at most
`MAX_TRACKED_DESCENDANTS` of them. -/
theorem tick_fresh_children (self : Int) (t : TickInput) (m : Monitor)
    (hm : m.md.compileCount = 0)
    (hkids : ∀ k ∈ t.snap, 0 < k.pid ∧ k.ppid = self ∧ extractFilenameFromCmdline k.cmdline = none)
    (hnd : (t.snap.map Proc.pid).Nodup) (hself : self ∉ t.snap.map Proc.pid)
    (hlen : t.snap.length ≤ maxTrackedDescendants) :
    (tick self t m).md.pids = t.snap.map Proc.pid := by
  have hempty : m.md.pids = [] := by simp [MonitoringData.pids, MonitoringData.entries, hm]
  -- the walk gives every child an entry
  have hwalk : (findChildDescendants t.snap t.below t.now (t.snap.length + 1) self (-1)
      ⟨m, 0⟩).1.mon.md.pids = t.snap.map Proc.pid := by
    simp only [findChildDescendants]
    rw [walkLoop_fresh t.snap t.below t.now t.snap.length self t.snap ⟨⟨m, 0⟩, -1, 0, 0⟩
      (show (-1 : Int) < 0 by decide) (by rw [hempty]; simp)
      (fun k hk => ⟨(hkids k hk).1, (hkids k hk).2.1, (hkids k hk).2.2, fun q hq hc => ?_,
        by rw [hempty]; simp⟩) hnd hself
      (by simp [hm, hlen]), hempty, List.nil_append]
    -- a child of `k` would be a child of make with `k`'s pid
    exact hself ((hkids q hq).2.1 ▸ hc.2 ▸ List.mem_map_of_mem _ hk)
  -- every entry is alive, so the exit detection keeps them all
  have hcount : (findChildDescendants t.snap t.below t.now (t.snap.length + 1) self (-1)
      ⟨m, 0⟩).1.mon.md.compileCount = t.snap.length := by
    simpa [MonitoringData.pids] using congrArg List.length hwalk
  simp only [tick, saveIfDirty_md, MonitoringData.pids]
  rw [exitDetection_all_alive _ _ _ (by omega) fun d hd => ?_]
  · exact hwalk
  · have hmem : d.pid ∈ t.snap.map Proc.pid := by
      rw [← hwalk]; exact List.mem_map_of_mem _ hd
    obtain ⟨p, hp, hpd⟩ := List.mem_map.mp hmem
    exact List.any_eq_true.mpr ⟨p, hp, decide_eq_true hpd⟩

/-! ## A full table reached, and a subtree lost

Make, pid `100`, first runs a hundred recipe shells: one tick gives each an entry and fills the
table. Before the next tick they exit and make starts the compiler of `gccWithCc1`, which runs
`cc1`: the walk of that tick still sees the full table. -/

/-- The command line of `/bin/sh -c true`. -/
def shellCmdline : List Char := cmdlineOfArgv ["/bin/sh".toList, "-c".toList, "true".toList]

theorem shellCmdline_unclassified : extractFilenameFromCmdline (some shellCmdline) = none := by
  decide

/-- A recipe shell of make `100`, resident at 1 MiB. -/
def recipeShell (pid : Int) : Proc := ⟨pid, 100, 1024, some shellCmdline⟩

/-- A hundred recipe shells, pids `1000` to `1099`. -/
def hundredShells : List Proc := (List.range 100).map fun i : Nat => recipeShell (1000 + i)

/-- The monitor after one tick on the hundred shells. -/
def fullMonitor : Monitor := tick 100 (.ok hundredShells 1000) (.start (.ofList []))

theorem hundredShells_pids :
    hundredShells.map Proc.pid = (List.range 100).map fun i : Nat => (1000 + i : Int) := by
  simp [hundredShells, recipeShell]

theorem fullMonitor_pids : fullMonitor.md.pids = hundredShells.map Proc.pid := by
  refine tick_fresh_children 100 (.ok hundredShells 1000) _ rfl (fun k hk => ?_) ?_ ?_
    (by simp [TickInput.ok, hundredShells, maxTrackedDescendants])
  · obtain ⟨i, -, rfl⟩ := List.mem_map.mp hk
    exact ⟨show (0 : Int) < 1000 + i by omega, rfl, shellCmdline_unclassified⟩
  · rw [show (TickInput.ok hundredShells 1000).snap = hundredShells from rfl, hundredShells_pids]
    exact (List.nodup_range 100).map fun a b h => by omega
  · rw [show (TickInput.ok hundredShells 1000).snap = hundredShells from rfl, hundredShells_pids]
    simp only [List.mem_map, List.mem_range, not_exists, not_and]
    omega

/-- **A full table loses the subtree of a new compiler.** After the tick on the hundred shells
the table holds `MAX_TRACKED_DESCENDANTS` entries; the walk from make over the compiler of
`src/a.c` (100 MiB) and its `cc1` (200 MiB) then returns 102400 kB, the compiler alone, while
the processes below make hold 307200 kB. -/
theorem full_table_skips_new_subtree :
    fullMonitor.md.compileCount = maxTrackedDescendants ∧
      (findChildDescendants gccWithCc1.snap gccWithCc1.below gccWithCc1.now
        (gccWithCc1.snap.length + 1) 100 (-1) ⟨fullMonitor, 0⟩).2.1 = 102400 ∧
      descendantRssKb gccWithCc1.snap gccWithCc1.snap.length 100 = 307200 := by
  have hcount : fullMonitor.md.compileCount = maxTrackedDescendants := by
    simpa [MonitoringData.pids, hundredShells, maxTrackedDescendants] using
      congrArg List.length fullMonitor_pids
  have hlacks : ∀ pid : Int, pid < 1000 → pid ∉ fullMonitor.md.pids := by
    intro pid hpid
    rw [fullMonitor_pids, hundredShells_pids]
    simp only [List.mem_map, List.mem_range, not_exists, not_and]
    omega
  refine ⟨hcount, ?_, by decide⟩
  have hfull : maxTrackedDescendants ≤ (⟨fullMonitor, 0⟩ : Walk).mon.md.compileCount := by
    simp only [hcount, le_refl]
  have h100 : (100 : Int) ∉ (⟨fullMonitor, 0⟩ : Walk).mon.md.pids := hlacks 100 (by decide)
  rw [findChildDescendants_full gccWithCc1.snap gccWithCc1.below gccWithCc1.now
    gccWithCc1.snap.length 100 (-1) ⟨fullMonitor, 0⟩ hfull (show (-1 : Int) < 0 by decide)
    h100 fun p hp _ => hlacks _ ?_]
  · decide
  · simp only [gccWithCc1, TickInput.ok, compileProc, List.mem_cons, List.mem_singleton,
      List.not_mem_nil, or_false] at hp
    rcases hp with rfl | rfl <;> decide

end MemoryAwareMake
