import Mathlib.Data.List.Basic

/-!
# MemoryAwareMake — the 300 ms gate of the status line

`display_memory_status` keeps two statics, `last_display` (a `struct timeval`, first `{0, 0}`)
and `skip_count`. A call returns at once when the display is off. Otherwise it reads the clock
and, unless `force` is set, computes

```c
elapsed_ms = (now.tv_sec - last_display.tv_sec) * 1000 +
             (now.tv_usec - last_display.tv_usec) / 1000;
```

in `long`, returns when `elapsed_ms < 300` (writing `[SKIP%d:elapsed=%ldms]` on every hundredth
skip in a row), and else draws the line and sets `last_display = now`. The `/` truncates toward
zero, so when the microseconds wrap the difference is rounded up, and the gate lets a call
through as early as 299.001 ms after the last draw.

* `tdiv_thousand_mul_near` — C's `/ 1000` is within 999 of the exact quotient, on either side;
* `displayGate_draw_iff`, `displayGate_lastDisplay` — what one call does to the clock;
* `gateRun_spaced`, `gateRun_lastDisplay` — over every run, each unforced draw comes at least
  299001 µs after the draw before it, and `last_display` is the time of the last draw;
* `display_gate_paces_draws` — the whole run, and that after any run a call at least 300 ms
  past the last draw is drawn.

`skip_count` is an `int` that only a draw resets; the model counts it on `Nat`, which differs
from the code only after 2^31 skips in a row.
-/

namespace MemoryAwareMake

/-- A `struct timeval` as `gettimeofday` fills it. -/
structure Timeval where
  sec : Int
  usec : Int
deriving DecidableEq, Repr

/-- The instant a `timeval` stands for, in microseconds. -/
def Timeval.toUsec (t : Timeval) : Int := t.sec * 1000000 + t.usec

/-- `elapsed_ms`: whole seconds times 1000 plus the microsecond difference divided by 1000, with
C's division, which truncates toward zero. -/
def elapsedMs (last now : Timeval) : Int :=
  (now.sec - last.sec) * 1000 + Int.tdiv (now.usec - last.usec) 1000

/-- The statics of `display_memory_status` that the gate reads and writes. -/
structure DisplayClock where
  lastDisplay : Timeval
  skipCount : Nat
deriving DecidableEq, Repr

/-- `static struct timeval last_display = {0, 0}` and `static int skip_count = 0`. -/
def DisplayClock.init : DisplayClock := ⟨⟨0, 0⟩, 0⟩

/-- One call: whether the display is on (`memory_aware_flag` set and `disable_memory_display`
clear), what `gettimeofday` returns, and the call's `force`. -/
structure DisplayCall where
  enabled : Bool
  now : Timeval
  force : Bool
deriving DecidableEq, Repr

/-- How a call leaves the gate: at once (display off), skipped with the debug text it writes, or
on to draw the line. -/
inductive GateOutcome where
  | off
  | skip (debug : Option String)
  | draw
deriving DecidableEq, Repr

/-- The debug text of a skip, `"[SKIP%d:elapsed=%ldms]"`. -/
def skipMessage (skipCount : Nat) (elapsed : Int) : String :=
  "[SKIP" ++ toString skipCount ++ ":elapsed=" ++ toString elapsed ++ "ms]"

/-- The gate at the head of `display_memory_status`. -/
def displayGate (c : DisplayClock) (call : DisplayCall) : DisplayClock × GateOutcome :=
  if !call.enabled then (c, .off)
  else if !call.force && elapsedMs c.lastDisplay call.now < 300 then
    ({ c with skipCount := c.skipCount + 1 },
      .skip (if (c.skipCount + 1) % 100 = 0 then
        some (skipMessage (c.skipCount + 1) (elapsedMs c.lastDisplay call.now)) else none))
  else (⟨call.now, if call.force then c.skipCount else 0⟩, .draw)

/-- The calls in order, from clock `c`: the clock after them, and the calls that draw. -/
def gateRun : DisplayClock → List DisplayCall → DisplayClock × List DisplayCall
  | c, [] => (c, [])
  | c, call :: calls =>
    let r := gateRun (displayGate c call).1 calls
    (r.1, if (displayGate c call).2 = .draw then call :: r.2 else r.2)

/-- Every unforced call of the list comes at least `gap` µs after the one before it, the first
after the instant `t`. -/
def Spaced (gap : Int) : Int → List DisplayCall → Prop
  | _, [] => True
  | t, d :: ds => (d.force = false → t + gap ≤ d.now.toUsec) ∧ Spaced gap d.now.toUsec ds

/-! ## C's division by 1000 -/

/-- C's `x / 1000`, times 1000, is within 999 of `x` on either side. -/
theorem tdiv_thousand_mul_near (x : Int) :
    x - 999 ≤ Int.tdiv x 1000 * 1000 ∧ Int.tdiv x 1000 * 1000 ≤ x + 999 := by
  by_cases hx : 0 ≤ x
  · rw [Int.tdiv_eq_ediv hx (by decide)]
    omega
  · have h := Int.neg_tdiv (-x) 1000
    rw [Int.neg_neg, Int.tdiv_eq_ediv (show 0 ≤ -x by omega) (by decide)] at h
    rw [h]
    omega

/-- `elapsed_ms` reaches 300 only 299001 µs after `last` … -/
theorem toUsec_add_le_of_elapsedMs {last now : Timeval} (h : 300 ≤ elapsedMs last now) :
    last.toUsec + 299001 ≤ now.toUsec := by
  have := (tdiv_thousand_mul_near (now.usec - last.usec)).2
  simp only [elapsedMs, Timeval.toUsec] at *
  omega

/-- … and always reaches it 300 ms after. -/
theorem le_elapsedMs_of_toUsec {last now : Timeval} (h : last.toUsec + 300000 ≤ now.toUsec) :
    300 ≤ elapsedMs last now := by
  have := (tdiv_thousand_mul_near (now.usec - last.usec)).1
  simp only [elapsedMs, Timeval.toUsec] at *
  omega

/-! ## One call -/

theorem displayGate_draw_iff (c : DisplayClock) (call : DisplayCall) :
    (displayGate c call).2 = .draw ↔
      call.enabled = true ∧ (call.force = true ∨ 300 ≤ elapsedMs c.lastDisplay call.now) := by
  unfold displayGate
  cases call.enabled <;> cases call.force <;> simp [apply_ite Prod.snd, Int.not_lt]

/-- A draw sets `last_display` to the call's time; every other call leaves it. -/
theorem displayGate_lastDisplay (c : DisplayClock) (call : DisplayCall) :
    (displayGate c call).1.lastDisplay =
      if (displayGate c call).2 = .draw then call.now else c.lastDisplay := by
  unfold displayGate
  split_ifs <;> simp_all

/-! ## Whole runs -/

/-- `last_display` after a run is the time of its last draw, or the clock's own if none. -/
theorem gateRun_lastDisplay (c : DisplayClock) (calls : List DisplayCall) :
    (gateRun c calls).1.lastDisplay = ((gateRun c calls).2.map DisplayCall.now).getLastD
      c.lastDisplay := by
  induction calls generalizing c with
  | nil => rfl
  | cons call calls ih =>
    simp only [gateRun, ih, displayGate_lastDisplay]
    split_ifs
    · rw [List.map_cons, List.getLastD_cons]
    · rfl

theorem gateRun_spaced (c : DisplayClock) (calls : List DisplayCall) :
    Spaced 299001 c.lastDisplay.toUsec (gateRun c calls).2 := by
  induction calls generalizing c with
  | nil => trivial
  | cons call calls ih =>
    have hc := displayGate_lastDisplay c call
    simp only [gateRun]
    split_ifs at hc ⊢ with hd
    · refine ⟨fun hf => ?_, hc ▸ ih _⟩
      rw [displayGate_draw_iff, hf] at hd
      exact toUsec_add_le_of_elapsedMs (hd.2.resolve_left Bool.false_ne_true)
    · exact hc ▸ ih _

/-- **The gate paces the status line.** Over every run of calls from any clock, each unforced
draw comes at least 299001 µs after the draw before it (the first after `last_display`), and
`last_display` is left at the time of the last draw; after any run, a call made while the display
is on at least 300 ms after that time is drawn. -/
theorem display_gate_paces_draws (c : DisplayClock) (calls : List DisplayCall) :
    Spaced 299001 c.lastDisplay.toUsec (gateRun c calls).2 ∧
      (gateRun c calls).1.lastDisplay =
        ((gateRun c calls).2.map DisplayCall.now).getLastD c.lastDisplay ∧
      ∀ call : DisplayCall, call.enabled = true →
        (gateRun c calls).1.lastDisplay.toUsec + 300000 ≤ call.now.toUsec →
          (displayGate (gateRun c calls).1 call).2 = .draw :=
  ⟨gateRun_spaced c calls, gateRun_lastDisplay c calls, fun _ he ht =>
    (displayGate_draw_iff _ _).2 ⟨he, .inr (le_elapsedMs_of_toUsec ht)⟩⟩

/-- The bound is reached: from the start, a call at 0.999999 s draws, and one at 1.299 s, only
299001 µs later, draws too; a call at 1.599 s then draws as well. -/
theorem display_gate_paces_draws_wrapped_usec :
    (gateRun DisplayClock.init [⟨true, ⟨0, 999999⟩, false⟩, ⟨true, ⟨1, 299000⟩, false⟩]).2 =
        [⟨true, ⟨0, 999999⟩, false⟩, ⟨true, ⟨1, 299000⟩, false⟩] ∧
      (⟨1, 299000⟩ : Timeval).toUsec - (⟨0, 999999⟩ : Timeval).toUsec = 299001 ∧
      (displayGate (gateRun DisplayClock.init
        [⟨true, ⟨0, 999999⟩, false⟩, ⟨true, ⟨1, 299000⟩, false⟩]).1
          ⟨true, ⟨1, 599000⟩, false⟩).2 = .draw :=
  ⟨by decide, by decide, (display_gate_paces_draws DisplayClock.init
    [⟨true, ⟨0, 999999⟩, false⟩, ⟨true, ⟨1, 299000⟩, false⟩]).2.2 _ rfl (by decide)⟩

end MemoryAwareMake
