import MemoryAwareMake.Monitor.Preserve

/-!
# MemoryAwareMake — the monitor's representation invariant

The walker and the exit detection keep indices across ticks: a table entry's `profile_idx`
points into `memory_profiles`, and the walker finds a process's entry by its pid. This module
proves that every run of ticks, interleaved with any `reserve_memory_mb` calls, keeps them
valid:

* the profile store only grows (`ProfilesExtend`) and keeps `StoreInv`;
* the table holds at most 100 entries with distinct pids (`DescendantsInv`);
* every entry's profile index is `-1` or names a profile in use whose filename is the path the
  walker extracted for the entry's process when it made the entry (`EntryOk`), read off the
  walker's `New descendant` debug lines (`lastSeenFile`).

`Follows m m'` packages "`m'` keeps the invariant of `m` and extends its store"; it is proved
for each writer (`recordUsage_follows`, `updateDescendant_follows`, `discover_follows`,
`removeDescendant_follows`), so that it is a `TickRel` (`follows_tickRel`) and every tick keeps
it (`tick_rel`, `Monitor/Preserve.lean`); then for runs (`runSystem_follows`).

* `monitor_state_invariant` — the invariant holds after every run from a start state whose
  store satisfies `StoreInv`, and any continuation of the run extends the store.
-/

namespace MemoryAwareMake

/-! ## The file of an entry's process -/

/-- How one debug line changes the file last extracted for `pid`. -/
def seenStep (pid : Int) (acc : Option (Option String)) : Event → Option (Option String)
  | .newDescendant _ q _ f => if q = pid then some f else acc
  | .record .. => acc

/-- The file the walker extracted for `pid` when it last made an entry for it. -/
def lastSeenFile (trace : List Event) (pid : Int) : Option (Option String) :=
  trace.foldl (seenStep pid) none

@[simp] theorem lastSeenFile_append (t : List Event) (e : Event) (pid : Int) :
    lastSeenFile (t ++ [e]) pid = seenStep pid (lastSeenFile t pid) e := by
  simp [lastSeenFile, List.foldl_append]

/-- Entry `d`'s profile index is `-1`, or names a profile in use whose filename is the path
the walker extracted for `d`'s process when it made the entry. -/
def EntryOk (s : ProfileStore) (trace : List Event) (d : Descendant) : Prop :=
  d.profileIdx = -1 ∨ 0 ≤ d.profileIdx ∧ d.profileIdx.toNat < s.memoryProfileCount ∧
    lastSeenFile trace d.pid = some (s.memoryProfiles d.profileIdx.toNat).filename

/-- `EntryOk` survives a store that extends, a trace that says the same of the entry's pid, and
an entry with the same pid and profile index. -/
theorem EntryOk.mono {s s' : ProfileStore} {t t' : List Event} {d d' : Descendant}
    (h : EntryOk s t d) (hs : ProfilesExtend s s')
    (ht : lastSeenFile t' d.pid = lastSeenFile t d.pid) (hpid : d'.pid = d.pid)
    (hk : d'.profileIdx = d.profileIdx) : EntryOk s' t' d' := by
  rcases h with h | ⟨h0, hlt, hseen⟩
  · exact .inl (hk ▸ h)
  · refine .inr ⟨hk ▸ h0, hk ▸ lt_of_lt_of_le hlt hs.count_le, ?_⟩
    rw [hk, hpid, ht, hs.filename_eq _ hlt]
    exact hseen

/-- The monitor's representation invariant. -/
structure MonitorInv (m : Monitor) : Prop where
  store : StoreInv m.store
  table : DescendantsInv m.md
  entries : ∀ i < m.md.compileCount, EntryOk m.store m.trace (m.md.descendants i)

/-- The start state satisfies the invariant when its store does. -/
theorem MonitorInv.start {s : ProfileStore} (hs : StoreInv s) : MonitorInv (Monitor.start s) :=
  ⟨hs, ⟨Nat.zero_le _, fun i hi => absurd hi (Nat.not_lt_zero i)⟩,
    fun i hi => absurd hi (Nat.not_lt_zero i)⟩

/-! ## Steps that keep the invariant -/

/-- `m'` keeps the invariant of `m` and extends its store. -/
def Follows (m m' : Monitor) : Prop :=
  MonitorInv m → MonitorInv m' ∧ ProfilesExtend m.store m'.store

theorem Follows.refl (m : Monitor) : Follows m m := fun h => ⟨h, .refl _⟩

theorem Follows.trans {m₁ m₂ m₃ : Monitor} (h₁ : Follows m₁ m₂) (h₂ : Follows m₂ m₃) :
    Follows m₁ m₃ := fun h =>
  ⟨(h₂ (h₁ h).1).1, (h₁ h).2.trans (h₂ (h₁ h).1).2⟩

/-- A change that keeps the store's count, capacity and filenames, what the trace says of
every pid, and the table's count, pids and profile indices keeps the invariant. -/
theorem follows_of_keys {m m' : Monitor}
    (hc : m'.store.memoryProfileCount = m.store.memoryProfileCount)
    (hcap : m'.store.memoryProfilesCapacity = m.store.memoryProfilesCapacity)
    (hf : ∀ i, (m'.store.memoryProfiles i).filename = (m.store.memoryProfiles i).filename)
    (ht : ∀ pid, lastSeenFile m'.trace pid = lastSeenFile m.trace pid)
    (hn : m'.md.compileCount = m.md.compileCount)
    (hkeys : ∀ j, (m'.md.descendants j).pid = (m.md.descendants j).pid ∧
      (m'.md.descendants j).profileIdx = (m.md.descendants j).profileIdx) :
    Follows m m' := by
  intro h
  have hext : ProfilesExtend m.store m'.store := ⟨hc.ge, fun i _ => hf i⟩
  refine ⟨⟨h.store.of_filenames hc hcap hf,
    ⟨hn ▸ h.table.count_le, fun i hi j hj hij => ?_⟩, fun i hi => ?_⟩, hext⟩
  · exact h.table.pid_inj i (hn ▸ hi) j (hn ▸ hj) (by rwa [(hkeys i).1, (hkeys j).1] at hij)
  · exact (h.entries i (hn ▸ hi)).mono hext (ht _) (hkeys i).1 (hkeys i).2

/-- A change of the monitor outside the table, the store and the trace. -/
theorem follows_of_frame {m m' : Monitor} (hmd : m'.md = m.md) (hs : m'.store = m.store)
    (ht : m'.trace = m.trace) : Follows m m' :=
  follows_of_keys (by rw [hs]) (by rw [hs]) (by simp [hs]) (by simp [ht]) (by rw [hmd])
    (by simp [hmd])

theorem recordUsage_follows (m : Monitor) (k : Int) (mb : Nat) (final : Bool) (now : Int) :
    Follows m (m.recordUsage k mb final now) :=
  follows_of_keys (by simp [Monitor.recordUsage]) (by simp [Monitor.recordUsage])
    (by simp [Monitor.recordUsage]) (by simp [Monitor.recordUsage, seenStep])
    rfl fun _ => ⟨rfl, rfl⟩

/-- Overwriting an entry with one of the same pid and profile index. -/
theorem setDescendant_follows (m : Monitor) {i : Nat} {d : Descendant}
    (hpid : d.pid = (m.md.descendants i).pid)
    (hk : d.profileIdx = (m.md.descendants i).profileIdx) :
    Follows m { m with md := m.md.setDescendant i d } :=
  follows_of_keys rfl rfl (fun _ => rfl) (fun _ => rfl) rfl (m.md.setDescendant_keys hpid hk)

theorem updateDescendant_follows (m : Monitor) (idx : Nat) (k : Int) (newCurrentMb : Nat)
    (newDescendant : Bool) (now : Int) :
    Follows m (updateDescendant m idx k newCurrentMb newDescendant now) := by
  simp only [updateDescendant]
  split_ifs
  · exact (setDescendant_follows m (by rfl) (by rfl)).trans (recordUsage_follows _ _ _ _ _)
  · exact setDescendant_follows m rfl rfl
  · exact .refl m

/-- The classification of a new process keeps the store's invariant, extends it, and gives
`-1` or the index of a profile in use named by the extracted path. -/
theorem profileOfNewDescendant_spec {s : ProfileStore} (hs : StoreInv s) (p : Proc) (now : Int) :
    StoreInv (profileOfNewDescendant s p now).store ∧
      ProfilesExtend s (profileOfNewDescendant s p now).store ∧
      ((profileOfNewDescendant s p now).profileIdx = -1 ∨
        0 ≤ (profileOfNewDescendant s p now).profileIdx ∧
        (profileOfNewDescendant s p now).profileIdx.toNat <
          (profileOfNewDescendant s p now).store.memoryProfileCount ∧
        ((profileOfNewDescendant s p now).store.memoryProfiles
          (profileOfNewDescendant s p now).profileIdx.toNat).filename =
          (profileOfNewDescendant s p now).stripPtr) := by
  unfold profileOfNewDescendant
  split
  · exact ⟨hs, .refl s, .inl rfl⟩
  · split <;> dsimp only
    · -- a profile of the path is in use
      rename_i i hi
      obtain ⟨hlt, hf⟩ := lookupProfile_some hi
      exact ⟨hs, .refl s, .inr ⟨by omega, by simpa using hlt, by simpa using hf⟩⟩
    · -- a new profile is appended
      rename_i f _ hnone
      obtain ⟨h1, h2, n, hn, hlt, hf⟩ :=
        appendProfile_spec p.vmRssKb now hs (lookupProfile_none hs hnone)
      exact ⟨h1, h2, .inr ⟨by omega, by simpa [hn] using hlt, by simpa [hn] using hf⟩⟩

/-- **Discovery keeps the invariant.** For a child that no entry holds, the classification,
the new entry and its `New descendant` line keep the invariant. -/
theorem discover_follows (w : Walk) (p : Proc) (parentIdx now : Int)
    (hnew : ∀ j < w.mon.md.compileCount, (w.mon.md.descendants j).pid ≠ p.pid) :
    Follows w.mon (discover w p parentIdx now).walk.mon := by
  intro h
  obtain ⟨hs, hext, hk⟩ := profileOfNewDescendant_spec h.store p now
  simp only [discover]
  split_ifs with hpi hroom
  · -- a new entry at index `compile_count`
    refine ⟨⟨hs, addDescendant_inv h.table _ _ _ hroom hnew, fun i hi => ?_⟩, hext⟩
    simp only [addDescendant] at hi
    simp only [addDescendant_descendants]
    split_ifs with hic
    · rcases hk with hk | ⟨h0, hlt, hf⟩
      · exact .inl hk
      · exact .inr ⟨h0, hlt, by simp [seenStep, hf]⟩
    · exact (h.entries i (by omega)).mono hext
        (by simp [seenStep, Ne.symm (hnew i (by omega))]) rfl rfl
  · -- the table is full: only the store changes
    exact ⟨⟨hs, h.table, fun i hi => (h.entries i hi).mono hext rfl rfl rfl⟩, hext⟩
  · exact ⟨h, .refl _⟩

/-- Removing entry `i` keeps every other entry, so the invariant. -/
theorem removeDescendant_follows (m : Monitor) {i : Nat} (hi : i < m.md.compileCount) :
    Follows m { m with md := removeDescendant m.md i } := by
  intro h
  refine ⟨⟨h.store, removeDescendant_inv h.table hi, fun j hj => ?_⟩, .refl _⟩
  simp only [removeDescendant] at hj
  rw [removeDescendant_descendants m.md hj]
  exact h.entries _ (by split_ifs <;> omega)

theorem saveIfDirty_follows (t : TickInput) (m : Monitor) : Follows m (saveIfDirty t m) := by
  unfold saveIfDirty saveMemoryProfiles
  split_ifs <;>
    exact follows_of_keys rfl rfl (fun _ => rfl) (fun _ => rfl) rfl fun _ => ⟨rfl, rfl⟩

/-- The publication of the unused peaks. -/
theorem publish_follows (m : Monitor) (sd : SharedMemoryData) : Follows m { m with shared := sd } :=
  follows_of_frame rfl rfl rfl

/-- Every write of a tick keeps the invariant. -/
theorem follows_tickRel (snap : List Proc) : TickRel snap Follows where
  refl := Follows.refl
  trans := Follows.trans
  update m idx k _ nd now := updateDescendant_follows m idx k _ nd now
  discover w p parentIdx now _ _ hnew := discover_follows w p parentIdx now hnew
  exitRecord m _ now _ := recordUsage_follows m _ _ true now
  remove _ _ hi := removeDescendant_follows _ hi
  publish m _ := publish_follows m _
  save := saveIfDirty_follows

theorem tick_follows (self : Int) (t : TickInput) (m : Monitor) : Follows m (tick self t m) :=
  tick_rel self (follows_tickRel t.snap) m

theorem sysStep_follows (self : Int) (m : Monitor) (e : SysEvent) :
    Follows m (sysStep self m e) := by
  cases e with
  | tick t => exact tick_follows self t m
  | reserve pid mb => exact publish_follows m _

theorem runSystem_follows (self : Int) (evs : List SysEvent) :
    ∀ m, Follows m (runSystem self m evs) := by
  induction evs with
  | nil => exact Follows.refl
  | cons e es ih => exact fun m => (sysStep_follows self m e).trans (ih _)

theorem runSystem_append (self : Int) (m : Monitor) (pre evs : List SysEvent) :
    runSystem self m (pre ++ evs) = runSystem self (runSystem self m pre) evs :=
  List.foldl_append _ _ _ _

/-- **Monitor-state representation invariant.** From a start state whose profile store has its
count within its capacity and pairwise distinct filenames, every run of ticks and
`reserve_memory_mb` calls reaches a state where the store keeps that invariant, the table holds
at most 100 entries with distinct pids, and every entry's profile index is `-1` or names a
profile in use whose filename is the path extracted for the entry's process when its entry was
made; and any continuation of the run keeps every profile in use, with its filename. -/
theorem monitor_state_invariant (self : Int) {s : ProfileStore} (hs : StoreInv s)
    (pre evs : List SysEvent) :
    MonitorInv (runSystem self (.start s) pre) ∧ MonitorInv (runSystem self (.start s) (pre ++ evs)) ∧
      ProfilesExtend (runSystem self (.start s) pre).store (runSystem self (.start s) (pre ++ evs)).store := by
  have h := (runSystem_follows self pre _ (MonitorInv.start hs)).1
  rw [runSystem_append]
  exact ⟨h, runSystem_follows self evs _ h⟩

/-- The invariant along a run from a store with the profile `src/a.c`: a compiler of `src/b.c`
appears, make reserves memory for it, and it exits. -/
theorem monitor_state_invariant_run :
    StoreInv (.ofList [⟨some "src/a.c", 1000, 0⟩]) ∧
      MonitorInv (runSystem 100 (.start (.ofList [⟨some "src/a.c", 1000, 0⟩]))
        [.tick (.ok [compileProc 101 100 300 "src/b.c"] 1000)]) ∧
      MonitorInv (runSystem 100 (.start (.ofList [⟨some "src/a.c", 1000, 0⟩]))
        ([.tick (.ok [compileProc 101 100 300 "src/b.c"] 1000)] ++
          [.reserve 101 300, .tick (.ok [] 1020)])) ∧
      ProfilesExtend
        (runSystem 100 (.start (.ofList [⟨some "src/a.c", 1000, 0⟩]))
          [.tick (.ok [compileProc 101 100 300 "src/b.c"] 1000)]).store
        (runSystem 100 (.start (.ofList [⟨some "src/a.c", 1000, 0⟩]))
          ([.tick (.ok [compileProc 101 100 300 "src/b.c"] 1000)] ++
            [.reserve 101 300, .tick (.ok [] 1020)])).store :=
  ⟨by decide, monitor_state_invariant 100 (by decide) _ _⟩

end MemoryAwareMake
