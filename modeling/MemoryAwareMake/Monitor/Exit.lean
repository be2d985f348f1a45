import MemoryAwareMake.Monitor.Tick

/-!
# MemoryAwareMake — the exit detection

After the walk, the loop `for (unsigned int i = 0; i < compile_count; i++)` of the monitor
checks each entry of the table. An entry whose process is gone gets its final record when it
has a profile and a peak, is removed by shifting the later entries down (`memmove`), and the
`i--` that follows (wrapping at `0`, the loop header bringing it back) makes the loop test the
same index again. This module shows that the loop does what it is for: it keeps the live
entries in their order, records the final peak of each exited entry once, and stops after one
test per entry and a last one.

* `entries_removeDescendant` — the removal is `eraseIdx` on the list of entries;
* `exitDetection_live`, `exitDetection_exited` — one iteration, for a live and an exited entry;
* `exitDetection_from` — the loop from index `i`, by induction on its fuel;
* `exit_detection_keeps_live_entries` — the whole loop.
-/

namespace MemoryAwareMake

/-- The entries `0 .. compile_count - 1` of the table, in order. -/
def MonitoringData.entries (md : MonitoringData) : List Descendant :=
  (List.range md.compileCount).map md.descendants

/-- The final record of the exited entry `d`: a call of `record_file_memory_usage_by_index`
when it has a profile and a nonzero peak or old peak. -/
def recordExited (now : Int) (m : Monitor) (d : Descendant) : Monitor :=
  if 0 ≤ d.profileIdx ∧ (0 < d.peakMb ∨ 0 < d.oldPeakMb) then
    m.recordUsage d.profileIdx d.peakMb true now
  else m

/-! ## The list of entries -/

section Entries

variable (md : MonitoringData)

@[simp] theorem MonitoringData.length_entries : md.entries.length = md.compileCount := by
  simp [MonitoringData.entries]

theorem MonitoringData.getElem_entries {i : Nat} (hi : i < md.entries.length) :
    md.entries[i] = md.descendants i := by
  simp [MonitoringData.entries]

/-- Removing entry `i` erases it from the list of entries. -/
theorem entries_removeDescendant {i : Nat} (hi : i < md.compileCount) :
    (removeDescendant md i).entries = md.entries.eraseIdx i := by
  apply List.ext_getElem
  · simp [List.length_eraseIdx, hi, removeDescendant]
  · intro j hj _
    have hj' : j < md.compileCount - 1 := by simpa [removeDescendant] using hj
    rw [List.getElem_eraseIdx, MonitoringData.getElem_entries,
      removeDescendant_descendants md hj']
    split_ifs <;> simp [MonitoringData.getElem_entries]

end Entries

/-! ## The final records -/

section Records

variable (now : Int) (d : Descendant) (m : Monitor)

@[simp] theorem recordExited_md : (recordExited now m d).md = m.md := by
  unfold recordExited; split_ifs <;> rfl

/-- A final record does not look at the table. -/
theorem recordExited_withMd (md : MonitoringData) :
    recordExited now { m with md := md } d = { recordExited now m d with md := md } := by
  unfold recordExited; split_ifs <;> rfl

/-- The final records of a list of entries add one `record` line per entry with a profile and
a peak, in order. -/
theorem foldl_recordExited_trace (l : List Descendant) (m : Monitor) :
    (l.foldl (recordExited now) m).trace = m.trace ++
      (l.filter fun d => decide (0 ≤ d.profileIdx ∧ (0 < d.peakMb ∨ 0 < d.oldPeakMb))).map
        fun d => .record d.profileIdx d.peakMb true := by
  induction l generalizing m with
  | nil => simp
  | cons d l ih =>
    rw [List.foldl_cons, ih]
    by_cases h : 0 ≤ d.profileIdx ∧ (0 < d.peakMb ∨ 0 < d.oldPeakMb)
    · simp [recordExited, h, Monitor.recordUsage]
    · simp [recordExited, h]

end Records

/-! ## One iteration -/

section Step

variable (snap : List Proc) (now : Int) (fuel i : Nat) (m : Monitor)

/-- A live entry: the loop moves on to `i + 1`. -/
theorem exitDetection_live (hi : i < m.md.compileCount)
    (ha : alive snap (m.md.descendants i).pid = true) :
    exitDetection snap now (fuel + 1) i m = exitDetection snap now fuel ((i + 1) % uintSize) m := by
  simp only [exitDetection, if_pos hi, ha, if_true]

/-- An exited entry: its final record, its removal, and `i--; i++` back to `i`. -/
theorem exitDetection_exited (hi : i < m.md.compileCount)
    (ha : alive snap (m.md.descendants i).pid = false) :
    exitDetection snap now (fuel + 1) i m =
      exitDetection snap now fuel (((i + uintSize - 1) % uintSize + 1) % uintSize)
        { recordExited now m (m.md.descendants i) with md := removeDescendant m.md i } := by
  have h : exitDetection snap now (fuel + 1) i m =
      exitDetection snap now fuel (((i + uintSize - 1) % uintSize + 1) % uintSize)
        { recordExited now m (m.md.descendants i) with
          md := removeDescendant (recordExited now m (m.md.descendants i)).md i } := by
    simp only [exitDetection, if_pos hi, ha, Bool.false_eq_true, if_false]
    rfl
  rw [h, recordExited_md]

end Step

/-! ## The loop -/

/-- **The loop from index `i`.** On a table of at most `MAX_TRACKED_DESCENDANTS` entries, with
fuel for one test per entry from `i` on and a last one, the loop ends; it keeps the entries
before `i` and the live ones from `i` on, in order, and apart from the table it does exactly
the final records of the exited entries from `i` on. -/
theorem exitDetection_from (snap : List Proc) (now : Int) :
    ∀ (fuel i : Nat) (m : Monitor), m.md.compileCount ≤ maxTrackedDescendants →
      i ≤ m.md.compileCount → m.md.compileCount - i < fuel →
      ∃ m', exitDetection snap now fuel i m = some m' ∧
        m'.md.entries =
          m.md.entries.take i ++ (m.md.entries.drop i).filter (fun d => alive snap d.pid) ∧
        ∀ md0, { m' with md := md0 } =
          ((m.md.entries.drop i).filter fun d => !alive snap d.pid).foldl (recordExited now)
            { m with md := md0 }
  | 0, _, _, _, _, hf => absurd hf (Nat.not_lt_zero _)
  | fuel + 1, i, m, hn, hi, hf => by
    by_cases hlt : i < m.md.compileCount
    · have hE : i < m.md.entries.length := by simpa using hlt
      have hdrop := List.drop_eq_getElem_cons hE
      rw [MonitoringData.getElem_entries] at hdrop
      have hsmall : i + 1 < uintSize := by
        unfold maxTrackedDescendants at hn; unfold uintSize; omega
      cases ha : alive snap (m.md.descendants i).pid
      · -- an exited entry is removed and index `i` is tested again
        have hback : ((i + uintSize - 1) % uintSize + 1) % uintSize = i := by
          unfold uintSize at hsmall ⊢; omega
        have hE1 := entries_removeDescendant m.md hlt
        have hc1 : (removeDescendant m.md i).compileCount = m.md.compileCount - 1 := rfl
        obtain ⟨m', hm', ih1, ih2⟩ := exitDetection_from snap now fuel i
          { recordExited now m (m.md.descendants i) with md := removeDescendant m.md i }
          (by simp only [hc1]; omega) (by simp only [hc1]; omega) (by simp only [hc1]; omega)
        rw [exitDetection_exited snap now fuel i m hlt ha, hback]
        simp only [hE1, List.eraseIdx_eq_take_drop_succ, List.take_append_of_le_length
          (show i ≤ (m.md.entries.take i).length by simp; omega),
          List.drop_left' (show (m.md.entries.take i).length = i by simp; omega)] at ih1 ih2
        refine ⟨m', hm', by rw [ih1, hdrop, List.filter_cons, ha]; simp, fun md0 => ?_⟩
        rw [ih2 md0, hdrop, List.filter_cons, ha]
        simp only [Bool.not_false, if_true, List.foldl_cons]
        rw [← recordExited_withMd]
      · -- a live entry is kept and the loop moves on
        obtain ⟨m', hm', ih1, ih2⟩ :=
          exitDetection_from snap now fuel (i + 1) m hn (by omega) (by omega)
        rw [exitDetection_live snap now fuel i m hlt ha, Nat.mod_eq_of_lt hsmall]
        refine ⟨m', hm', ?_, fun md0 => ?_⟩
        · rw [ih1, hdrop, List.filter_cons, ha, if_pos rfl, List.take_succ,
            List.getElem?_eq_getElem hE, MonitoringData.getElem_entries]
          simp
        · rw [ih2 md0, hdrop, List.filter_cons, ha]
          simp
    · -- the loop test fails at `i = compile_count`
      have hic : i = m.md.compileCount := by omega
      simp only [exitDetection, if_neg hlt]
      subst hic
      refine ⟨m, rfl, ?_, fun _ => ?_⟩
      · rw [List.take_of_length_le (by simp), List.drop_of_length_le (by simp)]
        simp
      · rw [List.drop_of_length_le (by simp)]
        rfl

/-- **The exit detection keeps the live entries and records each exited one once.** On a table
of at most `MAX_TRACKED_DESCENDANTS` entries, the loop ends within `compile_count + 1` tests
(the fuel the tick gives it), leaves `compile_count` equal to the number of live entries and
the table holding exactly those, in their order, and calls
`record_file_memory_usage_by_index (profile_idx, peak_mb, 1)` once for each exited entry with
a profile and a nonzero peak or old peak, in order, and for no other; these calls are all it
does besides the table. -/
theorem exit_detection_keeps_live_entries (snap : List Proc) (now : Int) (m : Monitor)
    (hn : m.md.compileCount ≤ maxTrackedDescendants) (fuel : Nat)
    (hfuel : m.md.compileCount < fuel) :
    ∃ m', exitDetection snap now fuel 0 m = some m' ∧
      m'.md.compileCount = (m.md.entries.filter fun d => alive snap d.pid).length ∧
      m'.md.entries = m.md.entries.filter (fun d => alive snap d.pid) ∧
      m'.trace = m.trace ++
        ((m.md.entries.filter fun d => !alive snap d.pid &&
            decide (0 ≤ d.profileIdx ∧ (0 < d.peakMb ∨ 0 < d.oldPeakMb))).map
          fun d => .record d.profileIdx d.peakMb true) ∧
      { m' with md := m.md } =
        (m.md.entries.filter fun d => !alive snap d.pid).foldl (recordExited now) m := by
  obtain ⟨m', hm', h1, h2⟩ := exitDetection_from snap now fuel 0 m hn (Nat.zero_le _) (by omega)
  simp only [List.take_zero, List.drop_zero, List.nil_append] at h1 h2
  have hrest := h2 m.md
  refine ⟨m', hm', ?_, h1, ?_, hrest⟩
  · rw [← MonitoringData.length_entries, h1]
  · have htr := congrArg Monitor.trace hrest
    rw [foldl_recordExited_trace, List.filter_filter] at htr
    simpa only [Bool.and_comm] using htr

/-- The exit of the `gcc` of `gccWithCc1` after the tick that discovered it: its entry is
removed and its peak recorded once. -/
theorem exit_detection_keeps_live_entries_run :
    let m := tick 100 gccWithCc1 startWithA
    (m.md.compileCount ≤ maxTrackedDescendants ∧ m.md.compileCount < 2) ∧
      ∃ m', exitDetection [] 1001 2 0 m = some m' ∧
        m'.md.compileCount = (m.md.entries.filter fun d => alive [] d.pid).length ∧
        m'.md.entries = m.md.entries.filter (fun d => alive [] d.pid) ∧
        m'.trace = m.trace ++
          ((m.md.entries.filter fun d => !alive [] d.pid &&
              decide (0 ≤ d.profileIdx ∧ (0 < d.peakMb ∨ 0 < d.oldPeakMb))).map
            fun d => .record d.profileIdx d.peakMb true) ∧
        { m' with md := m.md } =
          (m.md.entries.filter fun d => !alive [] d.pid).foldl (recordExited 1001) m :=
  ⟨⟨by decide, by decide⟩,
    exit_detection_keeps_live_entries [] 1001 _ (by decide) 2 (by decide)⟩

end MemoryAwareMake
