import MemoryAwareMake.Monitor.Tick

/-!
# MemoryAwareMake — what a whole tick preserves

A tick writes the monitor's state in few places: the update of a tracked entry, the discovery
of a new child, the final record and the removal of an exited entry, the publication of the
unused peaks and the save of the profiles. `TickRel snap R` says that a preorder `R` on monitor
states is kept by each of these writes, for a tick that sees the processes `snap`; `WalkRel`
asks it of the walk's two writes alone. This module proves once, by induction on the walk's
fuel, on its `readdir` loop and on the exit detection's fuel, that a whole walk keeps a
`WalkRel` and a whole tick a `TickRel`. The representation invariant
(`Monitor/Invariant.lean`) and the reservation table (`Monitor/Region.lean`) are two such
relations; the growth of the table during a walk (`Monitor/WalkSum.lean`) is a third.

* `walkEntry_rel`, `walkLoop_rel`, `findChildDescendants_rel` — the recursive walk;
* `exitDetection_rel` — the exit detection;
* `tick_rel` — one tick.
-/

namespace MemoryAwareMake

/-- A preorder on monitor states that each write of the walk over the processes `snap`
keeps. -/
structure WalkRel (snap : List Proc) (R : Monitor → Monitor → Prop) : Prop where
  refl : ∀ m, R m m
  trans : ∀ {m₁ m₂ m₃}, R m₁ m₂ → R m₂ m₃ → R m₁ m₃
  /-- The update of a tracked, profiled entry with `(rss_kb + child_rss_kb) / 1024`. -/
  update : ∀ m idx k x nd now, R m (updateDescendant m idx k ((x % ulongSize) / 1024) nd now)
  /-- The discovery of a child of the snapshot that no entry holds. -/
  discover : ∀ w p parentIdx now, p ∈ snap → 0 < p.pid →
    (∀ j < w.mon.md.compileCount, (w.mon.md.descendants j).pid ≠ p.pid) →
    R w.mon (discover w p parentIdx now).walk.mon

/-- A preorder on monitor states that each write of a tick seeing the processes `snap` keeps:
those of the walk, and those of the exit detection, the publication and the save. -/
structure TickRel (snap : List Proc) (R : Monitor → Monitor → Prop) extends WalkRel snap R :
    Prop where
  /-- The final record of an exited entry's peak. -/
  exitRecord : ∀ m i now, i < m.md.compileCount →
    R m (m.recordUsage (m.md.descendants i).profileIdx (m.md.descendants i).peakMb true now)
  /-- The removal of an exited entry. -/
  remove : ∀ m i, i < m.md.compileCount → R m { m with md := removeDescendant m.md i }
  /-- The publication of the unused peaks. -/
  publish : ∀ m u, R m { m with shared := { m.shared with unusedPeaksMb := u } }
  /-- The rate-limited save. -/
  save : ∀ t m, R m (saveIfDirty t m)

/-! ## The walk -/

section Walk

variable {snap : List Proc} {R : Monitor → Monitor → Prop} (H : WalkRel snap R)
  (recur : Int → Int → Walk → Walk × Nat × Nat)
  (hrec : ∀ parentPid parentIdx w, R w.mon (recur parentPid parentIdx w).1.mon)
  (below : Descendant) (now : Int)
include H hrec

theorem descendInto_rel (p : Proc) (parentIdx : Int) (totalRssKb totalJobs : Nat) (v : Visit) :
    R v.walk.mon (descendInto recur below now p parentIdx totalRssKb totalJobs v).walk.mon := by
  simp only [descendInto]
  split_ifs <;> first | exact hrec _ _ _ | exact H.trans (hrec _ _ _) (H.update _ _ _ _ _ _)

theorem walkEntry_rel (parentPid : Int) (L : WalkLoop) {p : Proc} (hp : p ∈ snap) :
    R L.walk.mon (walkEntry recur below now parentPid L p).walk.mon := by
  simp only [walkEntry]
  split_ifs with hskip hfull hd
  · exact H.refl _
  · exact H.refl _
  · -- a child the table does not hold: discovery, then the descent
    exact H.trans (H.discover _ _ _ _ hp (by omega) (lookupDescendant_not_found hd))
      (descendInto_rel H recur hrec below now _ _ _ _ _)
  · exact descendInto_rel H recur hrec below now _ _ _ _ ⟨L.walk, _, _, _⟩

/-- One call's whole `readdir` loop, over any part of the snapshot. -/
theorem walkLoop_rel (parentPid : Int) :
    ∀ (ps : List Proc), (∀ p ∈ ps, p ∈ snap) → ∀ L,
      R L.walk.mon (ps.foldl (walkEntry recur below now parentPid) L).walk.mon
  | [], _, _ => H.refl _
  | p :: ps, hps, L =>
    H.trans (walkEntry_rel H recur hrec below now parentPid L (hps p (List.mem_cons_self _ _)))
      (walkLoop_rel parentPid ps (fun q hq => hps q (List.mem_cons_of_mem _ hq)) _)

end Walk

section Run

variable {snap : List Proc} {R : Monitor → Monitor → Prop}

/-- The recursive walk, whatever the fuel. -/
theorem findChildDescendants_rel (H : WalkRel snap R) (below : Descendant) (now : Int) :
    ∀ fuel parentPid parentIdx w,
      R w.mon (findChildDescendants snap below now fuel parentPid parentIdx w).1.mon
  | 0, _, _, w => H.refl w.mon
  | fuel + 1, parentPid, parentIdx, w =>
    walkLoop_rel H _ (findChildDescendants_rel H below now fuel) below now parentPid snap
      (fun _ hp => hp) ⟨w, parentIdx, 0, 0⟩

/-- The exit detection, whatever the fuel and the starting index, when it ends. -/
theorem exitDetection_rel (H : TickRel snap R) (now : Int) :
    ∀ fuel i m m', exitDetection snap now fuel i m = some m' → R m m'
  | 0, _, _, _, h => by simp [exitDetection] at h
  | fuel + 1, i, m, m', h => by
    simp only [exitDetection] at h
    split_ifs at h with hi _ hrec
    · exact exitDetection_rel H now fuel _ _ _ h
    · exact H.trans (H.exitRecord _ _ _ hi)
        (H.trans (H.remove _ _ hi) (exitDetection_rel H now fuel _ _ _ h))
    · exact H.trans (H.remove _ _ hi) (exitDetection_rel H now fuel _ _ _ h)
    · cases h
      exact H.refl m

/-- The exit detection as a tick runs it, the state it was given standing in for a run out of
fuel. -/
theorem exitDetection_getD_rel (H : TickRel snap R) (now : Int) (fuel i : Nat) (m : Monitor) :
    R m ((exitDetection snap now fuel i m).getD m) := by
  cases h : exitDetection snap now fuel i m with
  | none => exact H.refl m
  | some m' => exact exitDetection_rel H now fuel i m m' h

end Run

/-- **A whole tick keeps `R`**: the walk from the make itself, the exit detection, the
publication and the save. -/
theorem tick_rel {R : Monitor → Monitor → Prop} (self : Int) {t : TickInput}
    (H : TickRel t.snap R) (m : Monitor) :
    R m (tick self t m) :=
  H.trans (findChildDescendants_rel H.toWalkRel t.below t.now _ self (-1) ⟨m, 0⟩) <|
    H.trans (exitDetection_getD_rel H t.now _ 0 _) <| H.trans (H.publish _ _) (H.save t _)

end MemoryAwareMake
