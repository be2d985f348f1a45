import MemoryAwareMake.Shared.Interleave
import Mathlib.Algebra.Order.Ring.Nat

/-!
# MemoryAwareMake — calls on distinct pids under every interleaving

`interleaved_release_leaks_reservation` needs two calls of `reserve_memory_mb` on the same pid.
This module shows that it needs nothing less: when the calls in flight have pairwise distinct
nonzero pids, every interleaving of their steps (`runSchedule`, any schedule) keeps the table
well formed, and whenever no call is in flight `total_reserved_mb` is again the sum of the
table (`TableInv`, `AccountingSound`).

The invariant (`ConcInv`) holds between any two steps. Besides the table's shape it relates
`total_reserved_mb` to the table through what each call in flight still owes
(`Call.debit`, `Call.credit`): a release has subtracted its old amount before zeroing the slot,
and an overwrite has written its new amount before moving the total. Each call stays on the
slot holding its pid (`CallOk`), and a step of one call touches only free slots and slots
holding its own pid (`Touches`), so it leaves every other call's facts in place.

* `stepCall_ok` — one step of a call, from its own point of view;
* `callOk_of_touches` — the frame: a step of one call keeps the facts of every other call;
* `sum_le_of_own_slot` — calls on distinct pids hold distinct slots, so what they hold adds up
  to at most the table's sum: the arithmetic side conditions of the critical sections;
* `stepAt_inv`, `runSchedule_inv` — the step and run lemmas;
* `distinct_pids_keep_accounting` — the table is sound at every quiescent point.

Amounts are taken below `2 ^ 57`, so that the table and the amounts in flight add up within an
`unsigned long`.
-/

namespace MemoryAwareMake

/-- The bound on the amounts: `2 ^ 57`, so that `128` of them add up below `2 ^ 64`. -/
def amountBound : Nat := 144115188075855872

/-! ## What a call in flight owes the total -/

/-- What the table holds for the call and `total_reserved_mb` does not count: the old amount a
release has subtracted but not yet zeroed, or the new amount an overwrite has written but not
yet added. -/
def Call.debit (c : Call) : Nat :=
  match c.pc with
  | .zeroMb _ old => old
  | .addTotal _ _ => ulongOfLong c.mb
  | _ => 0

/-- What `total_reserved_mb` counts for the call and the table no longer holds: the old amount
an overwrite has replaced but not yet subtracted. -/
def Call.credit (c : Call) : Nat :=
  match c.pc with
  | .addTotal _ old => old
  | _ => 0

/-- The old amount a release is about to subtract from `total_reserved_mb`. -/
def Call.releasing (c : Call) : Nat :=
  match c.pc with
  | .subTotal _ old => old
  | _ => 0

/-- What a call knows of the table at each point of its body. -/
def CallOk (sd : SharedMemoryData) (c : Call) : Prop :=
  match c.pc with
  | .start => True
  | .scan i => ∀ j, (sd.reservations j).pid = c.pid → i ≤ j.val ∧ j.val < c.count
  | .allocate => ∀ j, (sd.reservations j).pid ≠ c.pid
  | .readOld s => (sd.reservations s).pid = c.pid
  | .subTotal s old | .zeroMb s old =>
    (sd.reservations s).pid = c.pid ∧ (sd.reservations s).reservedMb = old ∧ c.mb ≤ 0
  | .testPid s _ | .clearPid s _ =>
    (sd.reservations s).pid = c.pid ∧ (sd.reservations s).reservedMb = 0
  | .writeMb s old =>
    (sd.reservations s).pid = c.pid ∧ (sd.reservations s).reservedMb = old ∧ 0 < c.mb
  | .addTotal s old =>
    (sd.reservations s).pid = c.pid ∧ (sd.reservations s).reservedMb = ulongOfLong c.mb ∧
      0 < c.mb ∧ old < amountBound
  | .done _ => True

/-- The invariant of the interleaved execution. -/
structure ConcInv (sd : SharedMemoryData) (calls : List Call) : Prop where
  shape : TableShape sd
  amount_lt : ∀ i, (sd.reservations i).reservedMb < amountBound
  balance : sd.totalReservedMb + (calls.map Call.debit).sum =
    reservedSum sd + (calls.map Call.credit).sum
  pids_nodup : (calls.map Call.pid).Nodup
  call_ok : ∀ c ∈ calls, c.pid ≠ 0 ∧ c.mb < amountBound ∧ CallOk sd c

/-! ## Steps that touch only the caller's slots -/

/-- `sd'` differs from `sd` only in slots that are free or hold `pid`, before and after. -/
def Touches (pid : Int) (sd sd' : SharedMemoryData) : Prop :=
  ∀ j, sd'.reservations j ≠ sd.reservations j →
    ((sd.reservations j).pid = 0 ∨ (sd.reservations j).pid = pid) ∧
      ((sd'.reservations j).pid = 0 ∨ (sd'.reservations j).pid = pid)

section Touches

variable {p q : Int} {sd sd' : SharedMemoryData}

theorem touches_of_reservations (h : sd'.reservations = sd.reservations) : Touches p sd sd' :=
  fun j hj => absurd (congrFun h j) hj

/-- Writing slot `s`, which is free or holds `p`, with a record that is free or holds `p`. -/
theorem touches_update {s : Fin maxReservations} {r : PidReservation}
    (h : sd'.reservations = Function.update sd.reservations s r)
    (hs : (sd.reservations s).pid = 0 ∨ (sd.reservations s).pid = p)
    (hr : r.pid = 0 ∨ r.pid = p) :
    Touches p sd sd' := by
  intro j hj
  rw [h] at hj ⊢
  by_cases hjs : j = s
  · subst hjs
    simpa using And.intro hs hr
  · exact absurd (Function.update_noteq hjs r sd.reservations) hj

/-- A slot of another nonzero pid `q` is left as it is. -/
theorem Touches.slot_eq (ht : Touches p sd sd') (hq0 : q ≠ 0) (hqp : q ≠ p)
    {j : Fin maxReservations} (hj : (sd.reservations j).pid = q) :
    sd'.reservations j = sd.reservations j := by
  by_contra hne
  rcases (ht j hne).1 with h | h <;> rw [hj] at h
  · exact hq0 h
  · exact hqp h

/-- No slot gains or loses another nonzero pid `q`. -/
theorem Touches.pid_eq_iff (ht : Touches p sd sd') (hq0 : q ≠ 0) (hqp : q ≠ p)
    (j : Fin maxReservations) :
    (sd'.reservations j).pid = q ↔ (sd.reservations j).pid = q := by
  by_cases hne : sd'.reservations j = sd.reservations j
  · rw [hne]
  · have ⟨h1, h2⟩ := ht j hne
    constructor <;> intro h <;> subst h
    · rcases h2 with h | h <;> contradiction
    · rcases h1 with h | h <;> contradiction

end Touches

/-- **The frame.** A step of the call on `p` keeps what every call on another nonzero pid knows
of the table. -/
theorem callOk_of_touches {p : Int} {sd sd' : SharedMemoryData} {d : Call} (ht : Touches p sd sd')
    (hd0 : d.pid ≠ 0) (hdp : d.pid ≠ p) (h : CallOk sd d) : CallOk sd' d := by
  obtain ⟨pid, mb, count, pc⟩ := d
  have heq := ht.pid_eq_iff hd0 hdp
  cases pc with
  | start | done => trivial
  | scan i => exact fun j hj => h j ((heq j).1 hj)
  | allocate => exact fun j hj => h j ((heq j).1 hj)
  | readOld s => exact (heq s).2 h
  | subTotal s old | zeroMb s old | testPid s old | clearPid s old | writeMb s old
    | addTotal s old => simp only [CallOk, ht.slot_eq hd0 hdp h.1] at h ⊢; exact h

/-! ## Writes that keep the bound on the amounts -/

section Shape

variable {sd : SharedMemoryData} {s : Fin maxReservations} {r : PidReservation}

theorem TableShape.of_reservations {sd' : SharedMemoryData} (h : TableShape sd)
    (hr : sd'.reservations = sd.reservations) (hc : sd'.reservationCount = sd.reservationCount) :
    TableShape sd' := by
  obtain ⟨h1, h2, h3, h4⟩ := h
  exact ⟨hr ▸ h1, hc ▸ h2, hr ▸ hc ▸ h3, hr ▸ h4⟩

theorem amount_lt_update (h : ∀ i, (sd.reservations i).reservedMb < amountBound)
    (hr : r.reservedMb < amountBound) :
    ∀ i, (Function.update sd.reservations s r i).reservedMb < amountBound := by
  intro i
  by_cases his : i = s
  · subst his; simpa using hr
  · rw [Function.update_noteq his]; exact h i

/-- A positive amount below the bound is written as itself. -/
theorem ulongOfLong_lt_amountBound {mb : Int} (h0 : 0 ≤ mb) (h : mb < amountBound) :
    ulongOfLong mb < amountBound := by
  rw [ulongOfLong_of_nonneg h0 (by unfold ulongSize; unfold amountBound at h; omega)]
  omega

end Shape

/-! ## One step of one call -/

/-- What one step of call `c` does, seen from the rest of the system: it touches only free
slots and slots of its own pid, keeps the table's shape and the bound on the amounts, moves the
balance by what the call owes, and keeps the call's own facts. -/
structure StepOk (sd : SharedMemoryData) (c : Call) (sd' : SharedMemoryData) (c' : Call) :
    Prop where
  touches : Touches c.pid sd sd'
  shape : TableShape sd'
  amount_lt : ∀ i, (sd'.reservations i).reservedMb < amountBound
  balance : sd'.totalReservedMb + c'.debit + reservedSum sd + c.credit =
    sd.totalReservedMb + c.debit + reservedSum sd' + c'.credit
  call_ok : CallOk sd' c'

/-- A step that leaves the region alone and owes nothing. -/
theorem StepOk.of_local {sd : SharedMemoryData} {c c' : Call} (hs : TableShape sd)
    (hamt : ∀ i, (sd.reservations i).reservedMb < amountBound) (hd : c'.debit = c.debit)
    (hcr : c'.credit = c.credit) (hok : CallOk sd c') : StepOk sd c sd c' :=
  ⟨touches_of_reservations rfl, hs, hamt, by omega, hok⟩

/-- A step never changes a call's arguments. -/
theorem stepCall_args (sd : SharedMemoryData) (c : Call) :
    (stepCall sd c).2.pid = c.pid ∧ (stepCall sd c).2.mb = c.mb := by
  obtain ⟨pid, mb, count, pc⟩ := c
  cases pc <;> simp only [stepCall] <;> (try split) <;> (try split) <;> simp

section Own

variable {sd : SharedMemoryData} (hs : TableShape sd)
  (hamt : ∀ i, (sd.reservations i).reservedMb < amountBound)
include hs hamt

/-- **One step of a call**, from its own point of view. The two critical sections on
`total_reserved_mb` need the total to be large enough for what they subtract and small enough
for what they add; `sum_le_of_own_slot` gives both. -/
theorem stepCall_ok {c : Call} (hpid : c.pid ≠ 0) (hmb : c.mb < amountBound) (hc : CallOk sd c)
    (hsub : ∀ s old, c.pc = .subTotal s old →
      old ≤ sd.totalReservedMb ∧ sd.totalReservedMb < ulongSize)
    (hadd : ∀ s old, c.pc = .addTotal s old →
      old ≤ sd.totalReservedMb ∧ sd.totalReservedMb + ulongOfLong c.mb < ulongSize) :
    StepOk sd c (stepCall sd c).1 (stepCall sd c).2 := by
  obtain ⟨pid, mb, count, pc⟩ := c
  simp only at hpid hmb hsub hadd
  cases pc with
  | start =>
    exact .of_local hs hamt rfl rfl fun j hj => ⟨Nat.zero_le _, hs.owned_lt j (hj ▸ hpid)⟩
  | scan i =>
    simp only [CallOk] at hc
    simp only [stepCall]
    split_ifs with h1 h2 h3 <;> dsimp only
    · exact .of_local hs hamt rfl rfl h2
    · -- slot `i` holds another pid
      refine .of_local hs hamt rfl rfl fun j hj => ⟨?_, (hc j hj).2⟩
      have hji : j.val ≠ i := fun hji => h2 ((Fin.ext hji : j = ⟨i, h1.2⟩) ▸ hj)
      have := (hc j hj).1
      omega
    · exact .of_local hs hamt rfl rfl trivial
    · -- the loop ends with `pid` found nowhere
      refine .of_local hs hamt rfl rfl fun j hj => h1 ?_
      have := hc j hj
      have := j.isLt
      omega
  | allocate =>
    simp only [CallOk] at hc
    simp only [stepCall]
    split
    · -- the first free slot `e` is claimed
      rename_i e he
      have hfree := findEmptySlot_some he
      have hsum := reservedSum_update (claimSlot_reservations sd e pid)
      simp only [hs.free_zero e hfree] at hsum
      refine ⟨touches_update (claimSlot_reservations sd e pid) (.inl hfree) (.inr rfl),
        hs.claimSlot hpid hc, amount_lt_update hamt (show 0 < amountBound by decide), ?_,
        by simp [CallOk]⟩
      simp only [Call.debit, Call.credit, claimSlot_totalReservedMb]
      omega
    · exact .of_local hs hamt rfl rfl trivial
  | readOld s =>
    simp only [CallOk] at hc
    simp only [stepCall]
    split_ifs with h
    · exact .of_local hs hamt rfl rfl ⟨hc, rfl, h⟩
    · exact .of_local hs hamt rfl rfl ⟨hc, rfl, lt_of_not_le h⟩
  | subTotal s old =>
    obtain ⟨hle, hlt⟩ := hsub s old rfl
    refine ⟨touches_of_reservations rfl, hs.of_reservations rfl rfl, hamt, ?_, hc⟩
    simp only [stepCall, Call.debit, Call.credit, reservedSum, ulongSub_of_le hle hlt]
    omega
  | zeroMb s old =>
    -- `res->reserved_mb = 0;`, after the total
    obtain ⟨hown, hold, -⟩ := hc
    have hsum := reservedSum_setSlot sd s { sd.reservations s with reservedMb := 0 }
    dsimp only [stepCall] at hsum ⊢
    rw [hold] at hsum
    refine ⟨touches_update rfl (.inr hown) (.inr hown), hs.update_own rfl rfl (hown ▸ hpid) rfl,
      amount_lt_update hamt (show 0 < amountBound by decide), ?_, ⟨by simp [hown], by simp⟩⟩
    simp only [Call.debit, Call.credit, SharedMemoryData.setSlot_totalReservedMb]
    omega
  | testPid s old =>
    simp only [CallOk] at hc
    simp only [stepCall]
    split_ifs
    · exact .of_local hs hamt rfl rfl hc
    · exact .of_local hs hamt rfl rfl trivial
  | clearPid s old =>
    -- `res->pid = 0;` on a slot that holds `0`
    obtain ⟨hown, hzero⟩ := hc
    have hsum := reservedSum_setSlot sd s { sd.reservations s with pid := 0 }
    dsimp only [stepCall] at hsum ⊢
    refine ⟨touches_update rfl (.inr hown) (.inl rfl), hs.update_free rfl rfl rfl hzero,
      amount_lt_update hamt (hamt s), ?_, trivial⟩
    simp only [Call.debit, Call.credit, SharedMemoryData.setSlot_totalReservedMb]
    omega
  | writeMb s old =>
    -- `res->reserved_mb = (unsigned long)mb;`, before the total
    simp only [CallOk] at hc
    obtain ⟨hown, hold, hpos⟩ := hc
    have hm := ulongOfLong_lt_amountBound hpos.le hmb
    have hsum := reservedSum_setSlot sd s { sd.reservations s with reservedMb := ulongOfLong mb }
    dsimp only [stepCall] at hsum ⊢
    rw [hold] at hsum
    refine ⟨touches_update rfl (.inr hown) (.inr hown), hs.update_own rfl rfl (hown ▸ hpid) rfl,
      amount_lt_update hamt hm, ?_, ⟨by simp [hown], by simp, hpos, hold ▸ hamt s⟩⟩
    simp only [Call.debit, Call.credit, SharedMemoryData.setSlot_totalReservedMb]
    omega
  | addTotal s old =>
    -- the critical section that moves the total by the difference
    obtain ⟨hle, hlt⟩ := hadd s old rfl
    dsimp only [stepCall]
    refine ⟨touches_of_reservations rfl, hs.of_reservations rfl rfl, hamt, ?_, trivial⟩
    simp only [Call.debit, Call.credit, reservedSum, adjustTotal]
    split_ifs
    · rw [Nat.mod_eq_of_lt (by omega)]; omega
    · omega
    · omega
  | done r => exact .of_local hs hamt rfl rfl trivial

end Own

/-! ## What the calls in flight hold -/

/-- **Calls on distinct pids hold distinct slots.** When every call of nonzero weight has a
slot of its own pid worth at least its weight, the weights add up to at most the slots' worth. -/
theorem sum_le_of_own_slot (f : Fin maxReservations → PidReservation) (g : Call → Nat) :
    ∀ (calls : List Call) (w : Fin maxReservations → Nat), (calls.map Call.pid).Nodup →
      (∀ c ∈ calls, g c ≠ 0 → ∃ s, (f s).pid = c.pid ∧ g c ≤ w s) →
      (calls.map g).sum ≤ ∑ s, w s
  | [], _, _, _ => Nat.zero_le _
  | c :: cs, w, hnd, h => by
    rw [List.map_cons, List.nodup_cons] at hnd
    simp only [List.map_cons, List.sum_cons]
    by_cases hc : g c = 0
    · rw [hc, Nat.zero_add]
      exact sum_le_of_own_slot f g cs w hnd.2 fun d hd => h d (List.mem_cons_of_mem _ hd)
    · obtain ⟨s0, hs0, hle⟩ := h c (List.mem_cons_self _ _) hc
      -- the other calls hold slots other than `s0`
      have hrest := sum_le_of_own_slot f g cs (Function.update w s0 0) hnd.2 fun d hd hgd => by
        obtain ⟨s, hs, hle'⟩ := h d (List.mem_cons_of_mem _ hd) hgd
        have hne : s ≠ s0 := fun hss => hnd.1 (by
          rw [← hs0, ← hss, hs]
          exact List.mem_map_of_mem Call.pid hd)
        exact ⟨s, hs, by rwa [Function.update_noteq hne]⟩
      rw [Finset.sum_update_of_mem (Finset.mem_univ s0), Nat.zero_add] at hrest
      rw [Finset.sum_eq_add_sum_diff_singleton (Finset.mem_univ s0) w]
      omega

/-- `64 * (2 ^ 57 - 1)`: what 64 slots of amounts below the bound can hold. -/
theorem sum_amountBound :
    ∑ _s : Fin maxReservations, (amountBound - 1) = 9223372036854775744 := by
  rw [Finset.sum_const, Finset.card_fin, smul_eq_mul]; rfl

/-- Amounts below the bound add up below `2 ^ 63`. -/
theorem reservedSum_le_of_amount_lt {sd : SharedMemoryData}
    (h : ∀ i, (sd.reservations i).reservedMb < amountBound) :
    reservedSum sd ≤ 9223372036854775744 :=
  sum_amountBound ▸ Finset.sum_le_sum fun i _ => Nat.le_pred_of_lt (h i)

section Bounds

variable {sd : SharedMemoryData} {calls : List Call} (h : ConcInv sd calls)
include h

theorem ConcInv.reservedSum_le : reservedSum sd ≤ 9223372036854775744 :=
  reservedSum_le_of_amount_lt h.amount_lt

/-- What the calls hold of their own slots adds up to at most the table's sum. -/
theorem ConcInv.held_le : (calls.map fun c => c.debit + c.releasing).sum ≤ reservedSum sd := by
  refine sum_le_of_own_slot sd.reservations _ calls _ h.pids_nodup fun c hc hne => ?_
  obtain ⟨-, -, hok⟩ := h.call_ok c hc
  obtain ⟨pid, mb, count, pc⟩ := c
  cases pc
  case subTotal s old | zeroMb s old | addTotal s old =>
    exact ⟨s, hok.1, by simp [Call.debit, Call.releasing, hok.2.1]⟩
  all_goals exact absurd rfl hne

/-- What the overwrites in flight still have to subtract adds up below `2 ^ 63`. -/
theorem ConcInv.credit_le : (calls.map Call.credit).sum ≤ 9223372036854775744 := by
  refine sum_amountBound ▸ sum_le_of_own_slot sd.reservations _ calls _ h.pids_nodup
    fun c hc hne => ?_
  obtain ⟨-, -, hok⟩ := h.call_ok c hc
  obtain ⟨pid, mb, count, pc⟩ := c
  cases pc
  case addTotal s old => exact ⟨s, hok.1, Nat.le_pred_of_lt hok.2.2.2⟩
  all_goals exact absurd rfl hne

/-- The release's critical section subtracts no more than the total holds. -/
theorem ConcInv.sub_ok {c : Call} (hc : c ∈ calls) {s : Fin maxReservations} {old : Nat}
    (hpc : c.pc = .subTotal s old) :
    old ≤ sd.totalReservedMb ∧ sd.totalReservedMb < ulongSize := by
  have hheld := h.held_le
  rw [List.sum_map_add] at hheld
  have hold : c.releasing ≤ (calls.map Call.releasing).sum :=
    List.le_sum_of_mem (List.mem_map_of_mem _ hc)
  simp only [Call.releasing, hpc] at hold
  have := h.balance
  have := h.credit_le
  have := h.reservedSum_le
  unfold ulongSize
  omega

/-- The overwrite's critical section neither goes below zero nor wraps. -/
theorem ConcInv.add_ok {c : Call} (hc : c ∈ calls) {s : Fin maxReservations} {old : Nat}
    (hpc : c.pc = .addTotal s old) :
    old ≤ sd.totalReservedMb ∧ sd.totalReservedMb + ulongOfLong c.mb < ulongSize := by
  have hheld := h.held_le
  rw [List.sum_map_add] at hheld
  have hold : c.credit ≤ (calls.map Call.credit).sum :=
    List.le_sum_of_mem (List.mem_map_of_mem _ hc)
  have hm : c.debit ≤ (calls.map Call.debit).sum :=
    List.le_sum_of_mem (List.mem_map_of_mem _ hc)
  simp only [Call.credit, Call.debit, hpc] at hold hm
  have := h.balance
  have := h.credit_le
  have := h.reservedSum_le
  unfold ulongSize
  omega

end Bounds

/-! ## Steps and runs -/

section Lists

variable {l : List Call} {k : Nat}

theorem sum_map_eq_zero {f : Call → Nat} (h : ∀ c ∈ l, f c = 0) : (l.map f).sum = 0 :=
  List.sum_eq_zero fun x hx => by
    obtain ⟨c, hc, rfl⟩ := List.mem_map.mp hx
    exact h c hc

/-- Replacing element `k` trades its weight for the new element's. -/
theorem sum_map_set (f : Call → Nat) :
    ∀ (l : List Call) (k : Nat) (x : Call) (hk : k < l.length),
      ((l.set k x).map f).sum + f l[k] = (l.map f).sum + f x
  | [], _, _, hk => absurd hk (Nat.not_lt_zero _)
  | a :: l, 0, x, _ => by simp only [List.set_cons_zero, List.map_cons, List.sum_cons,
      List.getElem_cons_zero]; omega
  | a :: l, k + 1, x, hk => by
    have := sum_map_set f l k x (by simpa using hk)
    simp only [List.set_cons_succ, List.map_cons, List.sum_cons, List.getElem_cons_succ]
    omega

/-- A step keeps the call's pid, so the list of pids. -/
theorem map_pid_set (hk : k < l.length) {x : Call} (hx : x.pid = l[k].pid) :
    (l.set k x).map Call.pid = l.map Call.pid := by
  apply List.ext_getElem (by simp)
  intro j h1 h2
  simp only [List.getElem_map, List.getElem_set]
  split_ifs with hkj
  · subst hkj; exact hx
  · rfl

/-- After call `k` steps, every call is the stepped one or another call, on another pid. -/
theorem mem_set_of_pids_nodup (hk : k < l.length) (hnd : (l.map Call.pid).Nodup) {x d : Call}
    (hd : d ∈ l.set k x) : d = x ∨ (d ∈ l ∧ d.pid ≠ l[k].pid) := by
  obtain ⟨j, hj, rfl⟩ := List.mem_iff_getElem.mp hd
  rw [List.getElem_set]
  split_ifs with hkj
  · exact .inl rfl
  · have hj' : j < l.length := by simpa using hj
    refine .inr ⟨List.getElem_mem hj', fun heq => hkj ?_⟩
    have hinj := List.nodup_iff_injective_get.mp hnd
    have := hinj (show (l.map Call.pid).get ⟨j, by simpa using hj'⟩ =
      (l.map Call.pid).get ⟨k, by simpa using hk⟩ by simpa using heq)
    exact (Fin.mk.inj_iff.mp this).symm

end Lists

/-- **Step lemma.** A step of any call keeps the invariant. -/
theorem stepAt_inv {sd : SharedMemoryData} {calls : List Call} (h : ConcInv sd calls) (k : Nat) :
    ConcInv (stepAt sd calls k).1 (stepAt sd calls k).2 := by
  unfold stepAt
  split
  · rename_i c hget
    dsimp only
    obtain ⟨hk, rfl⟩ := List.getElem?_eq_some_iff.mp hget
    have hmem := List.getElem_mem hk
    obtain ⟨hpid, hmb, hok⟩ := h.call_ok _ hmem
    have hstep := stepCall_ok h.shape h.amount_lt hpid hmb hok
      (fun _ _ hpc => h.sub_ok hmem hpc) (fun _ _ hpc => h.add_ok hmem hpc)
    refine ⟨hstep.shape, hstep.amount_lt, ?_, ?_, fun d hd => ?_⟩
    · -- the balance moves by what the stepped call owes
      have := sum_map_set Call.debit calls k (stepCall sd calls[k]).2 hk
      have := sum_map_set Call.credit calls k (stepCall sd calls[k]).2 hk
      have := hstep.balance
      have := h.balance
      omega
    · rw [map_pid_set hk (stepCall_args _ _).1]
      exact h.pids_nodup
    · rcases mem_set_of_pids_nodup hk h.pids_nodup hd with rfl | ⟨hd, hne⟩
      · obtain ⟨hp, hm⟩ := stepCall_args sd calls[k]
        exact ⟨hp ▸ hpid, hm ▸ hmb, hstep.call_ok⟩
      · -- another call: the frame
        obtain ⟨hd0, hdmb, hdok⟩ := h.call_ok d hd
        exact ⟨hd0, hdmb, callOk_of_touches hstep.touches hd0 hne hdok⟩
  · exact h

/-- **Run lemma.** Every schedule keeps the invariant. -/
theorem runSchedule_inv {sd : SharedMemoryData} {calls : List Call} (h : ConcInv sd calls) :
    ∀ sched, ConcInv (runSchedule sd calls sched).1 (runSchedule sd calls sched).2
  | [] => h
  | k :: ks => runSchedule_inv (stepAt_inv h k) ks

/-! ## Before and after -/

/-- Calls that have not started, on distinct nonzero pids, over a well-formed table. -/
theorem ConcInv.init {sd : SharedMemoryData} {reqs : List ReserveCall} (h : TableInv sd)
    (hamt : ∀ i, (sd.reservations i).reservedMb < amountBound)
    (hpids : (reqs.map ReserveCall.pid).Nodup)
    (hreq : ∀ r ∈ reqs, r.pid ≠ 0 ∧ r.mb < amountBound) :
    ConcInv sd (reqs.map fun r => Call.init r.pid r.mb) := by
  refine ⟨h.shape, hamt, ?_, ?_, ?_⟩
  · -- no call owes anything yet
    have hinit : ∀ c ∈ reqs.map fun r => Call.init r.pid r.mb, c.pc = .start := by
      simp [Call.init]
    rw [sum_map_eq_zero fun c hc => by simp [Call.debit, hinit c hc],
      sum_map_eq_zero fun c hc => by simp [Call.credit, hinit c hc], h.total_eq]
  · simpa [Call.init] using hpids
  · simp only [List.mem_map]
    rintro _ ⟨r, hr, rfl⟩
    exact ⟨(hreq r hr).1, (hreq r hr).2, trivial⟩

/-- When no call is in flight the table is well formed. -/
theorem ConcInv.tableInv {sd : SharedMemoryData} {calls : List Call} (h : ConcInv sd calls)
    (hq : Quiescent calls) : TableInv sd := by
  -- a returned call owes nothing
  have hzero : ∀ c ∈ calls, c.debit = 0 ∧ c.credit = 0 := by
    intro c hc
    have := hq c hc
    obtain ⟨pid, mb, count, pc⟩ := c
    cases pc <;> simp_all [Pc.isDone, Call.debit, Call.credit]
  have hd := sum_map_eq_zero fun c hc => (hzero c hc).1
  have hc := sum_map_eq_zero fun c hc => (hzero c hc).2
  have := h.balance
  have := h.reservedSum_le
  exact h.shape.toTableInv (by omega) (by unfold ulongSize; omega)

/-- A well-formed table is sound in the sense of `AccountingSound`. -/
theorem accountingSound_of_tableInv {sd : SharedMemoryData} (h : TableInv sd) :
    AccountingSound sd := by
  refine ⟨?_, h.free_zero⟩
  rw [h.total_eq, reservedSum]
  refine Finset.sum_congr rfl fun i _ => ?_
  by_cases hp : (sd.reservations i).pid = 0
  · simp [hp, h.free_zero i hp]
  · simp [hp]

/-- **No lost update on distinct pids.** From a well-formed table, calls of
`reserve_memory_mb` on pairwise distinct nonzero pids, interleaved by any schedule, keep the
table's shape after every step (a free slot holds `0`, occupied slots lie below
`reservation_count`, no pid holds two slots), and leave the table well formed and
`total_reserved_mb` equal to the sum over the occupied slots whenever no call is in flight.
Amounts are below `2 ^ 57`. -/
theorem distinct_pids_keep_accounting (sd : SharedMemoryData) (reqs : List ReserveCall)
    (sched : List Nat) (h : TableInv sd)
    (hamt : ∀ i, (sd.reservations i).reservedMb < amountBound)
    (hpids : (reqs.map ReserveCall.pid).Nodup)
    (hreq : ∀ r ∈ reqs, r.pid ≠ 0 ∧ r.mb < amountBound) :
    (∀ n, TableShape (runSchedule sd (reqs.map fun r => Call.init r.pid r.mb) (sched.take n)).1) ∧
      (Quiescent (runSchedule sd (reqs.map fun r => Call.init r.pid r.mb) sched).2 →
        TableInv (runSchedule sd (reqs.map fun r => Call.init r.pid r.mb) sched).1 ∧
          AccountingSound (runSchedule sd (reqs.map fun r => Call.init r.pid r.mb) sched).1) :=
  have h0 := ConcInv.init h hamt hpids hreq
  ⟨fun n => (runSchedule_inv h0 (sched.take n)).shape, fun hq =>
    have hinv := (runSchedule_inv h0 sched).tableInv hq
    ⟨hinv, accountingSound_of_tableInv hinv⟩⟩

/-- The calls of `interleaved_release_leaks_reservation`, the release made for another pid. -/
def distinctCalls : List ReserveCall := [⟨7, 100⟩, ⟨8, -100⟩]

/-- The schedule of `interleaved_release_leaks_reservation`, run until both calls return. -/
def leakSchedule : List Nat := [0, 0, 0, 1, 1, 1, 1, 1, 1, 1, 0, 0, 0, 1, 1]

/-- The interleaving that leaks on one pid keeps the accounting on two. -/
theorem distinct_pids_keep_accounting_run :
    (TableInv .zero ∧ (∀ i, (SharedMemoryData.zero.reservations i).reservedMb < amountBound) ∧
      (distinctCalls.map ReserveCall.pid).Nodup ∧
      (∀ r ∈ distinctCalls, r.pid ≠ 0 ∧ r.mb < amountBound)) ∧
    Quiescent (runSchedule .zero (distinctCalls.map fun r => Call.init r.pid r.mb)
        leakSchedule).2 ∧
      TableInv (runSchedule .zero (distinctCalls.map fun r => Call.init r.pid r.mb)
        leakSchedule).1 ∧
      AccountingSound (runSchedule .zero (distinctCalls.map fun r => Call.init r.pid r.mb)
        leakSchedule).1 :=
  have hq : Quiescent (runSchedule .zero (distinctCalls.map fun r => Call.init r.pid r.mb)
      leakSchedule).2 := by decide
  ⟨⟨zero_inv, by decide, by decide, by decide⟩, hq,
    (distinct_pids_keep_accounting _ _ leakSchedule zero_inv (by decide) (by decide)
      (by decide)).2 hq⟩

end MemoryAwareMake
