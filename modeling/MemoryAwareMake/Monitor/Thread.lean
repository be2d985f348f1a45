import Mathlib.Data.List.Basic

/-!
# MemoryAwareMake — starting and stopping the monitor thread

The monitor thread lives from `start_memory_monitor` to `stop_memory_monitor`:

* `main` registers `stop_memory_monitor_atexit` under `if (makelevel == 0)`, before `makelevel`
  is read from the environment, so every make registers it; it calls `init_memory_monitoring_env`
  and then `start_memory_monitor` when `memory_aware_flag && makelevel == 0`;
* `start_memory_monitor` starts once (`already_started`), sets `monitor_thread_running` and
  creates the thread; when `pthread_create` fails it clears `memory_aware_flag` instead;
* the thread loops while `monitor_thread_running`, and clears it itself when the terminal is gone
  (`EPIPE`/`EBADF` in `display_memory_status`); it also returns, leaving `monitor_thread_running`
  set, when `get_memory_stats` gives `mem_percent == 0`;
* `stop_memory_monitor (immediate)` does nothing unless `memory_aware_flag` and
  `monitor_thread_running`; it clears `monitor_thread_running` and, unless `immediate`, joins the
  thread.

`memory_aware_flag` is also written by every `decode_switches` run (`--memory-aware`,
`--no-memory-aware`), which happen after the start too, when the makefiles' `MAKEFLAGS` are read.
Each of these is one `LifeEvent`, in any order.

* `monitor_thread_joined_safely` — when `pthread_create` succeeds, no order of events joins a
  thread that was never created or was joined before, the thread is created at most once, and a
  sub-make never creates it;
* `failed_create_joins_missing_thread` — when it fails, every later order of events without a
  stop keeps `monitor_thread_running` set with no thread, so the exit handler joins a thread that
  does not exist whenever a later `decode_switches` has set `memory_aware_flag` again.
-/

namespace MemoryAwareMake

/-- Where the monitor thread is. -/
inductive MonitorThread
  | notCreated | looping | returned | joined
  deriving DecidableEq, Repr

/-- The globals of the monitor's lifecycle in one make process. `creates` counts the successful
calls of `pthread_create`; it is not a variable of the program. `makelevel` is set before any of
these events and never written by them, so it is a parameter of each. -/
structure Lifecycle where
  memoryAwareFlag : Int
  alreadyStarted : Bool
  monitorThreadRunning : Bool
  statusLineShown : Bool
  thread : MonitorThread
  creates : Nat
  deriving DecidableEq, Repr

/-- The globals' initial values: `memory_aware_flag = -1`, `already_started = 0`,
`monitor_thread_running = 0`, `status_line_shown = 0`. -/
def initialLifecycle : Lifecycle :=
  ⟨-1, false, false, false, .notCreated, 0⟩

/-- `init_memory_monitoring_env`: when no switch set `memory_aware_flag`, `MAKE_MEMORY_AWARE`
decides, and its absence means on. -/
def initMemoryMonitoringEnv (env : Option (List Char)) (s : Lifecycle) : Lifecycle :=
  if s.memoryAwareFlag = -1 then
    { s with memoryAwareFlag :=
        match env with
        | some e => if e ≠ "0".toList ∧ e ≠ "no".toList ∧ e ≠ "false".toList then 1 else 0
        | none => 1 }
  else s

/-- `start_memory_monitor ()`, with whether `pthread_create` succeeds. Loading the profiles and
registering `terminal_cleanup_atexit` do not touch these globals. -/
def startMemoryMonitor (makelevel : Nat) (createOk : Bool) (s : Lifecycle) : Lifecycle :=
  if s.memoryAwareFlag = 0 ∨ 0 < makelevel ∨ s.alreadyStarted then s
  else if createOk then
    { s with alreadyStarted := true, monitorThreadRunning := true, thread := .looping,
             creates := s.creates + 1 }
  else { s with alreadyStarted := true, monitorThreadRunning := true, memoryAwareFlag := 0 }

/-- `pthread_join (memory_monitor_thread, NULL)`: it waits for the thread to return. Joining a
thread that was never created, or was joined before, is undefined (`none`). -/
def pthreadJoin (s : Lifecycle) : Option Lifecycle :=
  match s.thread with
  | .looping | .returned => some { s with thread := .joined }
  | .notCreated | .joined => none

/-- `stop_memory_monitor (immediate)`. Resetting the terminal is output only. -/
def stopMemoryMonitor (immediate : Bool) (s : Lifecycle) : Option Lifecycle :=
  if s.memoryAwareFlag = 0 ∨ s.monitorThreadRunning = false then some s
  else
    let s := { s with monitorThreadRunning := false }
    (if immediate then some s else pthreadJoin s).map fun s => { s with statusLineShown := false }

/-- What can happen to the monitor's globals. -/
inductive LifeEvent
  /-- a `decode_switches` run writes `memory_aware_flag` -/
  | decodeFlag (v : Int)
  /-- `init_memory_monitoring_env ()`, with `getenv ("MAKE_MEMORY_AWARE")` -/
  | initEnv (env : Option (List Char))
  /-- `if (memory_aware_flag && makelevel == 0) start_memory_monitor ();` -/
  | start (createOk : Bool)
  /-- `stop_memory_monitor (immediate)`: `stop_memory_monitor_atexit` at exit, or a caller that
  must not wait -/
  | stop (immediate : Bool)
  /-- the thread finds `monitor_thread_running` clear and returns -/
  | threadReturns
  /-- `get_memory_stats` in the thread gives `mem_percent == 0`, and the thread returns with
  `monitor_thread_running` still set -/
  | statsFail
  /-- `display_memory_status` in the thread writes the status line -/
  | statusShown
  /-- `display_memory_status` in the thread gets `EPIPE` or `EBADF` -/
  | brokenPipe
  deriving DecidableEq, Repr

section Events
variable (makelevel : Nat)

/-- One event; `none` is undefined behaviour. -/
def lifeStep (s : Lifecycle) : LifeEvent → Option Lifecycle
  | .decodeFlag v => some { s with memoryAwareFlag := v }
  | .initEnv env => some (initMemoryMonitoringEnv env s)
  | .start createOk =>
    some (if s.memoryAwareFlag ≠ 0 ∧ makelevel = 0 then startMemoryMonitor makelevel createOk s
      else s)
  | .stop immediate => stopMemoryMonitor immediate s
  | .threadReturns =>
    some (if s.thread = .looping ∧ s.monitorThreadRunning = false then
      { s with thread := .returned } else s)
  | .statsFail => some (if s.thread = .looping then { s with thread := .returned } else s)
  | .statusShown =>
    some (if s.thread = .looping then { s with statusLineShown := true } else s)
  | .brokenPipe =>
    some (if s.thread = .looping then
      { s with monitorThreadRunning := false, statusLineShown := false } else s)

/-- A sequence of events. -/
def lifeRun (s : Lifecycle) : List LifeEvent → Option Lifecycle
  | [] => some s
  | e :: es => (lifeStep makelevel s e).bind fun s => lifeRun s es

/-! ## The invariant -/

/-- Before the start there is no thread and nothing runs; after it there is one thread, created
once; `monitor_thread_running` is set only while the thread loops or after it has returned on its
own; a sub-make never starts. -/
structure LifeInv (s : Lifecycle) : Prop where
  before : s.alreadyStarted = false →
    s.thread = .notCreated ∧ s.monitorThreadRunning = false ∧ s.creates = 0
  after : s.alreadyStarted = true → s.thread ≠ .notCreated ∧ s.creates = 1
  running : s.monitorThreadRunning = true → s.thread = .looping ∨ s.thread = .returned
  topLevel : 0 < makelevel → s.alreadyStarted = false

variable {makelevel}

theorem LifeInv.alreadyStarted_of_thread {s : Lifecycle} (hi : LifeInv makelevel s)
    (ht : s.thread ≠ .notCreated) : s.alreadyStarted = true := by
  cases h : s.alreadyStarted
  · exact absurd (hi.before h).1 ht
  · rfl

theorem startMemoryMonitor_inv {s : Lifecycle} (hi : LifeInv makelevel s) :
    LifeInv makelevel (startMemoryMonitor makelevel true s) := by
  unfold startMemoryMonitor
  split_ifs with hs hok
  · exact hi
  · simp only [not_or, not_lt, Nat.le_zero, Bool.not_eq_true] at hs
    obtain ⟨-, -, hc⟩ := hi.before hs.2.2
    exact ⟨by simp, by simp [hc], by simp, by simp [hs.2.1]⟩
  · exact absurd rfl hok

theorem stopMemoryMonitor_inv {s : Lifecycle} (hi : LifeInv makelevel s) (immediate : Bool) :
    ∃ s', stopMemoryMonitor immediate s = some s' ∧ LifeInv makelevel s' := by
  unfold stopMemoryMonitor
  by_cases hs : s.memoryAwareFlag = 0 ∨ s.monitorThreadRunning = false
  · exact ⟨s, if_pos hs, hi⟩
  -- the thread loops or has returned, so joining it is defined
  have hl := hi.running (by simpa using (not_or.mp hs).2)
  have ha := hi.alreadyStarted_of_thread (by rcases hl with hl | hl <;> simp [hl])
  refine ⟨{ s with thread := if immediate then s.thread else .joined,
                   monitorThreadRunning := false, statusLineShown := false }, ?_, by simp [ha],
    by cases immediate <;> simp [ha, hi.after ha], by simp,
    fun h => absurd (hi.topLevel h) (by simp [ha])⟩
  cases immediate <;> rcases hl with hl | hl <;> simp [hs, pthreadJoin, hl]

/-- **Every event keeps the invariant** when `pthread_create` succeeds. -/
theorem lifeStep_inv {s : Lifecycle} (hi : LifeInv makelevel s) {e : LifeEvent}
    (he : e ≠ .start false) : ∃ s', lifeStep makelevel s e = some s' ∧ LifeInv makelevel s' := by
  cases e with
  | decodeFlag v => exact ⟨_, rfl, hi.before, hi.after, hi.running, hi.topLevel⟩
  | initEnv env =>
    refine ⟨_, rfl, ?_⟩
    unfold initMemoryMonitoringEnv
    split_ifs
    · exact ⟨hi.before, hi.after, hi.running, hi.topLevel⟩
    · exact hi
  | start createOk =>
    cases createOk
    · exact absurd rfl he
    · refine ⟨_, rfl, ?_⟩
      split_ifs
      · exact startMemoryMonitor_inv hi
      · exact hi
  | stop immediate => exact stopMemoryMonitor_inv hi immediate
  | threadReturns =>
    refine ⟨_, rfl, ?_⟩
    split_ifs with hs
    · have ha := hi.alreadyStarted_of_thread (by simp [hs.1])
      exact ⟨by simp [ha], by simp [(hi.after ha).2], by simp [hs.2], hi.topLevel⟩
    · exact hi
  | statsFail =>
    refine ⟨_, rfl, ?_⟩
    split_ifs with hs
    · have ha := hi.alreadyStarted_of_thread (by simp [hs])
      exact ⟨by simp [ha], by simp [(hi.after ha).2], by simp, hi.topLevel⟩
    · exact hi
  | statusShown =>
    refine ⟨_, rfl, ?_⟩
    split_ifs
    · exact ⟨hi.before, hi.after, hi.running, hi.topLevel⟩
    · exact hi
  | brokenPipe =>
    refine ⟨_, rfl, ?_⟩
    split_ifs with hs
    · have ha := hi.alreadyStarted_of_thread (by simp [hs])
      exact ⟨by simp [ha], by simpa using hi.after, by simp, hi.topLevel⟩
    · exact hi

theorem lifeRun_inv : ∀ (es : List LifeEvent) {s : Lifecycle}, LifeInv makelevel s →
    (∀ e ∈ es, e ≠ .start false) → ∃ s', lifeRun makelevel s es = some s' ∧ LifeInv makelevel s'
  | [], s, hi, _ => ⟨s, rfl, hi⟩
  | e :: es, _, hi, hc => by
    obtain ⟨s₁, h₁, hi₁⟩ := lifeStep_inv hi (hc e (List.mem_cons_self e es))
    obtain ⟨s₂, h₂, hi₂⟩ := lifeRun_inv es hi₁ fun e' he' => hc e' (List.mem_cons_of_mem e he')
    exact ⟨s₂, by simp [lifeRun, h₁, h₂], hi₂⟩

/-- **The monitor thread is joined safely.** From the globals a make process starts with, when
every `pthread_create` succeeds, no order of switch decoding, environment reading, starts, stops,
status-line writes, broken pipes, failed memory readings and thread returns joins a thread that was never created or was
joined before; the thread is created at most once, and never in a sub-make. -/
theorem monitor_thread_joined_safely (s : Lifecycle) (es : List LifeEvent)
    (hinit : s.alreadyStarted = false ∧ s.monitorThreadRunning = false ∧
      s.thread = .notCreated ∧ s.creates = 0)
    (hcreate : ∀ e ∈ es, e ≠ .start false) :
    ∃ s', lifeRun makelevel s es = some s' ∧ s'.creates ≤ 1 ∧
      (0 < makelevel → s'.thread = .notCreated) := by
  obtain ⟨ha, hr, ht, hc⟩ := hinit
  have hi : LifeInv makelevel s :=
    ⟨fun _ => ⟨ht, hr, hc⟩, fun h => absurd h (by simp [ha]), fun h => absurd h (by simp [hr]),
      fun _ => ha⟩
  obtain ⟨s', hrun, hi'⟩ := lifeRun_inv es hi hcreate
  refine ⟨s', hrun, ?_, fun hl => (hi'.before (hi'.topLevel hl)).1⟩
  cases h : s'.alreadyStarted
  · simp [(hi'.before h).2.2]
  · simp [(hi'.after h).2]

/-- A top-level make that starts the monitor twice and stops it at exit. -/
def startTwiceEvents : List LifeEvent := [.initEnv none, .start true, .start true, .stop false]

/-- Where `startTwiceEvents` ends: the thread was created once and joined. -/
def startTwiceAfter : Lifecycle := ⟨1, true, false, false, .joined, 1⟩

theorem monitor_thread_joined_safely_twice :
    lifeRun 0 initialLifecycle startTwiceEvents = some startTwiceAfter ∧
      startTwiceAfter.creates ≤ 1 :=
  have hrun : lifeRun 0 initialLifecycle startTwiceEvents = some startTwiceAfter := by decide
  have ⟨_, h, hc, _⟩ :=
    monitor_thread_joined_safely initialLifecycle startTwiceEvents ⟨rfl, rfl, rfl, rfl⟩ (by decide)
  ⟨hrun, Option.some.inj (hrun.symm.trans h) ▸ hc⟩

/-! ## A failed start -/

/-- After a failed `pthread_create`: the start is done, `monitor_thread_running` is set, and there
is no thread. -/
structure FailedStart (s : Lifecycle) : Prop where
  started : s.alreadyStarted = true
  no_thread : s.thread = .notCreated
  running : s.monitorThreadRunning = true

/-- No event but a stop leaves the state of a failed start: a second start finds
`already_started`, and the thread's own events need a thread. -/
theorem lifeStep_failedStart {s : Lifecycle} (hf : FailedStart s) {e : LifeEvent}
    (he : ∀ b, e ≠ .stop b) : ∃ s', lifeStep makelevel s e = some s' ∧ FailedStart s' := by
  have ⟨hs, ht, hr⟩ := hf
  cases e with
  | decodeFlag v => exact ⟨_, rfl, hs, ht, hr⟩
  | initEnv env =>
    refine ⟨_, rfl, ?_⟩
    unfold initMemoryMonitoringEnv
    split_ifs
    exacts [⟨hs, ht, hr⟩, hf]
  | start createOk => exact ⟨_, rfl, by split_ifs <;> simp [startMemoryMonitor, hs, hf]⟩
  | stop b => exact absurd rfl (he b)
  | threadReturns | statsFail | statusShown | brokenPipe =>
    exact ⟨_, rfl, by simp [ht, hf]⟩

theorem lifeRun_failedStart : ∀ (es : List LifeEvent) {s : Lifecycle}, FailedStart s →
    (∀ e ∈ es, ∀ b, e ≠ .stop b) → ∃ s', lifeRun makelevel s es = some s' ∧ FailedStart s'
  | [], s, hf, _ => ⟨s, rfl, hf⟩
  | e :: es, _, hf, hc => by
    obtain ⟨s₁, h₁, hf₁⟩ : ∃ s', lifeStep makelevel _ e = some s' ∧ FailedStart s' :=
      lifeStep_failedStart hf (hc e (List.mem_cons_self e es))
    obtain ⟨s₂, h₂, hf₂⟩ := lifeRun_failedStart es hf₁ fun e' he' => hc e' (List.mem_cons_of_mem e he')
    exact ⟨s₂, by simp [lifeRun, h₁, h₂], hf₂⟩

/-- **A failed thread creation leaves a join of nothing behind.** When `pthread_create` fails in
a top-level make, `start_memory_monitor` clears `memory_aware_flag` but leaves
`monitor_thread_running` set; after any events but a stop, there is still no thread and
`monitor_thread_running` is still set, so the exit handler's `stop_memory_monitor (0)` joins a
thread that was never created exactly when a `decode_switches` run (`--memory-aware` in the
makefiles' `MAKEFLAGS`) has set `memory_aware_flag` again. -/
theorem failed_create_joins_missing_thread (s : Lifecycle)
    (hinit : s.alreadyStarted = false ∧ s.thread = .notCreated) (hflag : s.memoryAwareFlag ≠ 0)
    (es : List LifeEvent) (hstop : ∀ e ∈ es, ∀ b, e ≠ .stop b) :
    ∃ s', lifeRun 0 s (.start false :: es) = some s' ∧ s'.thread = .notCreated ∧
      s'.monitorThreadRunning = true ∧
      (lifeStep 0 s' (.stop false) = none ↔ s'.memoryAwareFlag ≠ 0) := by
  have h₁ : lifeStep 0 s (.start false) = some (startMemoryMonitor 0 false s) := by
    simp [lifeStep, hflag]
  have hf₁ : FailedStart (startMemoryMonitor 0 false s) := by
    refine ⟨?_, ?_, ?_⟩ <;> simp [startMemoryMonitor, hinit, hflag]
  obtain ⟨s', h₂, hf⟩ : ∃ s', lifeRun 0 (startMemoryMonitor 0 false s) es = some s' ∧
      FailedStart s' := lifeRun_failedStart es hf₁ hstop
  refine ⟨s', by simp [lifeRun, h₁, h₂], hf.no_thread, hf.running, ?_⟩
  simp [lifeStep, stopMemoryMonitor, pthreadJoin, hf.no_thread, hf.running]

/-- Where a failed start followed by `--memory-aware` ends. -/
def failedStartAfter : Lifecycle := ⟨1, true, true, false, .notCreated, 0⟩

theorem failed_create_joins_missing_thread_initial :
    lifeRun 0 (initMemoryMonitoringEnv none initialLifecycle) [.start false, .decodeFlag 1] =
        some failedStartAfter ∧ lifeStep 0 failedStartAfter (.stop false) = none := by
  have hrun : lifeRun 0 (initMemoryMonitoringEnv none initialLifecycle)
      [.start false, .decodeFlag 1] = some failedStartAfter := by decide
  obtain ⟨s', h, -, -, hstop⟩ :=
    failed_create_joins_missing_thread (initMemoryMonitoringEnv none initialLifecycle) ⟨rfl, rfl⟩
      (by decide) [.decodeFlag 1] (by decide)
  obtain rfl : s' = failedStartAfter := Option.some.inj (h.symm.trans hrun)
  exact ⟨hrun, hstop.2 (by decide)⟩

end Events

end MemoryAwareMake
