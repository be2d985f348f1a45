import MemoryAwareMake.Shared.Lifecycle

/-!
# MemoryAwareMake — `die` against the monitor thread

The monitor thread is stopped only by `stop_memory_monitor_atexit`, which `exit` runs once
`die` has finished. At top level `die` first calls `cleanup_shared_memory`, which unmaps the
region and then stores `NULL` into `shared_data`, and then waits for the jobs, while the monitor
goes on with its passes. Each pass runs the block `if (shared_data) { shared_data->unused_peaks_mb
= ...; count = shared_data->reservation_count; ... }`, in which every `shared_data->...` reads
the global again and dereferences it.

This module interleaves the two, one memory step at a time: the monitor's check and its `n`
dereferences (the store of `unused_peaks_mb`, the read of `reservation_count`, the reads of the
counted slots and of `total_reserved_mb`), against the cleanup's `munmap` and its `NULL` store.
A schedule picks the thread that steps; a thread that has finished stutters.

* `cleanupStep_unmap` — the cleanup's two steps end as the sequential model's `unmap`;
* `monitorRun` — a run of the monitor alone, while the memory stands still;
* `afterMunmap_fault` — once the region is unmapped, the monitor faults as soon as it
  dereferences, before or after the `NULL` store;
* `die_races_monitor_block` — over every interleaving, the monitor faults exactly when the
  `munmap` comes before its last dereference and the `NULL` store after its check.
-/

namespace MemoryAwareMake

/-- The two threads during the race: `shared_data`, whether the region it pointed to is still
mapped, the monitor's position in its block (`0` before its check, `i + 1` after `i`
dereferences, `n + 1` once done or skipped), the cleanup's position (`0`, `1` after `munmap`,
`2` after the `NULL` store), and whether a dereference has faulted. -/
structure Teardown where
  sharedData : Mapping
  regionMapped : Bool
  monitorPc : Nat
  cleanupPc : Nat
  fault : Bool
  deriving DecidableEq, Repr

/-- The top-level make in `die` while its monitor thread runs: the region mapped, both threads
before their blocks. -/
def Teardown.start : Teardown := ⟨.mapped, true, 0, 0, false⟩

/-- A step of `cleanup_shared_memory`'s first block: `munmap` when `shared_data` is neither
`NULL` nor `MAP_FAILED`, then `shared_data = NULL`. -/
def cleanupStep (s : Teardown) : Teardown :=
  match s.cleanupPc with
  | 0 =>
    if s.sharedData = .mapped then { s with regionMapped := false, cleanupPc := 1 }
    else { s with cleanupPc := 2 }
  | 1 => { s with sharedData := .null, cleanupPc := 2 }
  | _ => s

/-- **The cleanup's two steps are the sequential `unmap`.** From a process's `shared_data`, the
`munmap` and the `NULL` store leave `shared_data` as `ShmProc.unmap` does. -/
theorem cleanupStep_unmap (p : ShmProc) :
    (cleanupStep (cleanupStep ⟨p.sharedData, true, 0, 0, false⟩)).sharedData =
      p.unmap.sharedData := by
  unfold ShmProc.unmap
  cases h : p.sharedData <;> simp [cleanupStep, h]

theorem cleanupStep_munmap {s : Teardown} (h0 : s.cleanupPc = 0) (hm : s.sharedData = .mapped) :
    cleanupStep s = { s with regionMapped := false, cleanupPc := 1 } := by
  simp [cleanupStep, h0, hm]

theorem cleanupStep_store {s : Teardown} (h1 : s.cleanupPc = 1) :
    cleanupStep s = { s with sharedData := .null, cleanupPc := 2 } := by
  simp [cleanupStep, h1]

section Race

variable (n : Nat)

/-- A step of the monitor's block with `n` dereferences: the check skips the block on `NULL`,
and a dereference faults unless `shared_data` points to a region still mapped. -/
def monitorStep (s : Teardown) : Teardown :=
  if s.monitorPc = 0 then
    if s.sharedData = .null then { s with monitorPc := n + 1 } else { s with monitorPc := 1 }
  else if s.monitorPc ≤ n then
    { s with monitorPc := s.monitorPc + 1,
             fault := s.fault || !(s.sharedData == .mapped && s.regionMapped) }
  else s

/-- A step of the thread the schedule picks: `true` for the monitor, `false` for `die`. -/
def teardownStep (s : Teardown) (monitor : Bool) : Teardown :=
  if monitor then monitorStep n s else cleanupStep s

/-- The interleaving `sched` from `s`. -/
def teardownRun (sched : List Bool) (s : Teardown) : Teardown :=
  sched.foldl (teardownStep n) s

theorem teardownRun_cons (m : Bool) (sched : List Bool) (s : Teardown) :
    teardownRun n (m :: sched) s = teardownRun n sched (teardownStep n s m) := rfl

theorem teardownRun_append (l₁ l₂ : List Bool) (s : Teardown) :
    teardownRun n (l₁ ++ l₂) s = teardownRun n l₂ (teardownRun n l₁ s) :=
  List.foldl_append _ _ _ _

/-- The interleaving in which the monitor takes `a` steps, the cleanup unmaps, the monitor takes
`b` steps, the cleanup stores `NULL`, and the monitor takes `c` steps: every interleaving of the
cleanup's two steps with `a + b + c` steps of the monitor. -/
def teardownSchedule (a b c : Nat) : List Bool :=
  List.replicate a true ++ false :: List.replicate b true ++ false :: List.replicate c true

/-- **The monitor alone, while the memory stands still.** From inside its block, `k` steps move
it `k` dereferences on, at most to its end, and fault when one of them runs while `shared_data`
does not point to a mapped region. -/
theorem monitorRun (k : Nat) (s : Teardown) (hp : 1 ≤ s.monitorPc ∧ s.monitorPc ≤ n + 1) :
    let s' := teardownRun n (List.replicate k true) s
    s'.sharedData = s.sharedData ∧ s'.regionMapped = s.regionMapped ∧
      s'.cleanupPc = s.cleanupPc ∧ s'.monitorPc = min (s.monitorPc + k) (n + 1) ∧
      (s'.fault = true ↔ s.fault = true ∨
        (0 < k ∧ s.monitorPc ≤ n ∧ ¬(s.sharedData = .mapped ∧ s.regionMapped = true))) := by
  induction k generalizing s with
  | zero => simp [teardownRun]; omega
  | succ k ih =>
    rw [List.replicate_succ, teardownRun_cons]
    by_cases hn : s.monitorPc ≤ n
    · -- a dereference
      have hs : teardownStep n s true =
          { s with
            monitorPc := s.monitorPc + 1
            fault := s.fault || !(s.sharedData == .mapped && s.regionMapped) } := by
        simp only [teardownStep, monitorStep, if_true, if_neg (show s.monitorPc ≠ 0 by omega),
          if_pos hn]
      obtain ⟨h1, h2, h3, h4, h5⟩ := ih (teardownStep n s true) (by rw [hs]; dsimp only; omega)
      rw [hs] at h1 h2 h3 h4 h5 ⊢
      dsimp only at h1 h2 h3 h4 h5
      refine ⟨h1, h2, h3, by rw [h4]; omega, ?_⟩
      rw [h5]
      cases hsd : s.sharedData <;> cases hrm : s.regionMapped <;> simp [hn]
    · -- the block is over: the monitor stutters
      have hs : teardownStep n s true = s := by
        simp only [teardownStep, monitorStep, if_true, if_neg (show s.monitorPc ≠ 0 by omega),
          if_neg hn]
      rw [hs]
      obtain ⟨h1, h2, h3, h4, h5⟩ := ih s hp
      exact ⟨h1, h2, h3, by rw [h4]; omega, by rw [h5]; simp [hn]⟩

/-- The monitor's check, then `k` more steps of its block. -/
theorem monitorRun_check (k : Nat) (s : Teardown) (h0 : s.monitorPc = 0) :
    teardownRun n (List.replicate (k + 1) true) s =
      teardownRun n (List.replicate k true)
        { s with monitorPc := if s.sharedData = .null then n + 1 else 1 } := by
  rw [List.replicate_succ, teardownRun_cons]
  congr 1
  by_cases hs : s.sharedData = .null <;> simp [teardownStep, monitorStep, h0, hs]

/-- **After the `munmap` every dereference faults.** From the `munmap` on, `b` steps of the
monitor, the `NULL` store and `c` more steps fault exactly when the monitor is still inside its
block and steps at least once. -/
theorem afterMunmap_fault (b c : Nat) (t : Teardown) (hm : t.sharedData = .mapped)
    (hr : t.regionMapped = false) (h1 : t.cleanupPc = 1)
    (hp : 1 ≤ t.monitorPc ∧ t.monitorPc ≤ n + 1) :
    (teardownRun n (List.replicate b true ++ false :: List.replicate c true) t).fault = true ↔
      t.fault = true ∨ (t.monitorPc ≤ n ∧ 0 < b + c) := by
  rw [teardownRun_append, teardownRun_cons, teardownStep, if_neg Bool.false_ne_true]
  obtain ⟨-, -, g3, g4, g5⟩ := monitorRun n b t hp
  generalize teardownRun n (List.replicate b true) t = u at g3 g4 g5 ⊢
  rw [cleanupStep_store (g3.trans h1)]
  obtain ⟨-, -, -, -, k5⟩ := monitorRun n c { u with sharedData := .null, cleanupPc := 2 }
    ⟨by dsimp only; omega, by dsimp only; omega⟩
  have hu : u.monitorPc ≤ n ↔ t.monitorPc + b ≤ n := by clear g5 k5; omega
  rw [k5]
  dsimp only
  rw [g5, hm, hr, hu, or_assoc]
  clear g5 k5
  apply or_congr_right
  simp only [reduceCtorEq, Bool.false_eq_true, and_false, not_false_eq_true, and_true,
    false_and]
  omega

/-- **`die` races the monitor's block.** Over every interleaving of the cleanup's two steps with
enough steps of the monitor to finish its block, the monitor faults exactly when the `NULL`
store comes after its check (`1 ≤ a + b`) and the `munmap` before its last dereference
(`a ≤ n`): when it dereferences a region already unmapped, or `NULL`. -/
theorem die_races_monitor_block (hn : 0 < n) (a b c : Nat) (hrun : n + 1 ≤ a + b + c) :
    (teardownRun n (teardownSchedule a b c) .start).fault = true ↔ 1 ≤ a + b ∧ a ≤ n := by
  rw [teardownSchedule, List.append_assoc, teardownRun_append, List.cons_append,
    teardownRun_cons, teardownStep, if_neg Bool.false_ne_true]
  rcases a with _ | a
  · -- the `munmap` comes before the monitor's check
    rw [show cleanupStep (teardownRun n (List.replicate 0 true) .start) =
      ⟨.mapped, false, 0, 1, false⟩ from rfl]
    rcases b with _ | b
    · -- and the `NULL` store too: the check skips the block
      obtain ⟨c, rfl⟩ : ∃ c', c = c' + 1 := ⟨c - 1, by omega⟩
      rw [List.replicate_zero, List.nil_append, teardownRun_cons, monitorRun_check n c _ rfl]
      change (teardownRun n (List.replicate c true) ⟨.null, false, n + 1, 2, false⟩).fault = true
        ↔ _
      rw [(monitorRun n c _ ⟨by show 1 ≤ n + 1; omega, le_refl _⟩).2.2.2.2]
      simp
    · -- the check reads the dangling pointer, and a later dereference faults
      rw [List.replicate_succ, List.cons_append, teardownRun_cons,
        show teardownStep n ⟨.mapped, false, 0, 1, false⟩ true = ⟨.mapped, false, 1, 1, false⟩
          from rfl,
        afterMunmap_fault n b c _ rfl rfl rfl ⟨le_refl 1, by show 1 ≤ n + 1; omega⟩]
      dsimp only
      omega
  · -- the check and the first `a` dereferences, on the mapped region
    rw [monitorRun_check n a _ rfl,
      show ({ Teardown.start with
        monitorPc := if Teardown.start.sharedData = .null then n + 1 else 1 } : Teardown) =
          ⟨.mapped, true, 1, 0, false⟩ from rfl]
    obtain ⟨h1, -, h3, h4, h5⟩ :=
      monitorRun n a ⟨.mapped, true, 1, 0, false⟩ ⟨le_refl 1, by show 1 ≤ n + 1; omega⟩
    generalize teardownRun n (List.replicate a true) ⟨.mapped, true, 1, 0, false⟩ = t
      at h1 h3 h4 h5 ⊢
    dsimp only at h1 h3 h4 h5
    -- the `munmap`, then the rest of the schedule
    rw [cleanupStep_munmap h3 h1,
      afterMunmap_fault n b c { t with regionMapped := false, cleanupPc := 1 } h1 rfl rfl
      ⟨by dsimp only; omega, by dsimp only; omega⟩]
    dsimp only
    rw [h5]
    simp only [Bool.false_eq_true, false_or, and_self, not_true_eq_false, and_false]
    clear h5
    omega

/-- The monitor's check, the `munmap`, a dereference of the dangling pointer, the `NULL` store
and the rest of a block of three dereferences: the monitor faults. -/
theorem die_races_monitor_block_check_first :
    (0 < 3 ∧ 3 + 1 ≤ 1 + 1 + 2) ∧
      (teardownRun 3 (teardownSchedule 1 1 2) .start).fault = true ∧
      ((teardownRun 3 (teardownSchedule 1 1 2) .start).fault = true ↔ 1 ≤ 1 + 1 ∧ 1 ≤ 3) :=
  ⟨by decide, by decide, die_races_monitor_block 3 (by decide) 1 1 2 (by decide)⟩

end Race

end MemoryAwareMake
