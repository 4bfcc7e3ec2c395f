import Mathlib.Data.List.Basic

/-! `RecurrentTask` of base/include/aemu/base/async/RecurrentTask.h. Client threads call
`start`, `stopAsync` and `stopAndWait`, each under `mMutex`. The looper thread fires `mTimer` and
runs `taskCallback`, which reads `inFlight()` under the lock, calls `mFunction` outside it, and
takes the lock again to re-arm the timer or to leave flight. A state records `mInFlight`,
whether the timer is armed, where the looper stands in `taskCallback`, and how many callbacks
have passed the `inFlight()` check, each of which calls `mFunction` once. Delays are left out: an
armed timer fires at some later step, whatever its delay.

Over every interleaving of the threads: after a stop, until the next `start`, no callback passes
the check and the timer stays stopped, though a callback that passed it before runs on
(`stopAndWait` does not wait for it); a `start` made while `mFunction` runs is lost when that call
returns false; and while nothing stops the task it stays in flight, with its timer armed whenever
the looper is outside the callback. -/

set_option autoImplicit false

namespace Asg.Base

/-- Where the looper thread stands in `taskCallback`. -/
inductive Callback
  /-- outside it -/
  | idle
  /-- the timer fired, `inFlight()` not read yet -/
  | fired
  /-- `inFlight()` read true: `mFunction` runs, outside the lock -/
  | running
  deriving DecidableEq, Repr

/-- A `RecurrentTask` as its threads see it: `mInFlight`, whether `mTimer` is armed, the looper's
place in `taskCallback`, and the callbacks that passed the `inFlight()` check. The constructor
leaves it out of flight, with the timer created but not started. -/
structure RecurrentTask where
  inFlight : Bool := false
  armed : Bool := false
  callback : Callback := .idle
  calls : Nat := 0
  deriving DecidableEq, Repr

namespace RecurrentTask

/-- `start`: under the lock, in flight, and `mTimer->startRelative` arms the timer. `start(bool)`
only picks the delay. -/
def start (t : RecurrentTask) : RecurrentTask := { t with inFlight := true, armed := true }

/-- `stopAsync`: under the lock, out of flight, and `mTimer->stop` disarms the timer. -/
def stopAsync (t : RecurrentTask) : RecurrentTask := { t with inFlight := false, armed := false }

/-- `stopAndWait` calls `stopAsync` and nothing else. -/
def stopAndWait (t : RecurrentTask) : RecurrentTask := t.stopAsync

/-- The looper fires the armed timer, which disarms it, and enters `taskCallback`. -/
def fire (t : RecurrentTask) : RecurrentTask := { t with armed := false, callback := .fired }

/-- `if (inFlight())`: in flight, the callback goes on to call `mFunction`; otherwise it returns. -/
def checkInFlight (t : RecurrentTask) : RecurrentTask :=
  if t.inFlight then { t with callback := .running, calls := t.calls + 1 }
  else { t with callback := .idle }

/-- `mFunction` returned `more`. Under the lock, true re-arms the timer if the task is still in
flight, and false takes it out of flight; the callback returns. -/
def finish (more : Bool) (t : RecurrentTask) : RecurrentTask :=
  if more then
    if t.inFlight then { t with armed := true, callback := .idle } else { t with callback := .idle }
  else { t with inFlight := false, callback := .idle }

inductive Event
  | start
  | stopAsync
  | stopAndWait
  | fire
  | checkInFlight
  | finish (more : Bool)
  deriving DecidableEq, Repr

/-- One step: a client's call, always possible, or the looper's next move in `taskCallback`. The
looper fires only an armed timer, and only from outside a callback. -/
def step (t : RecurrentTask) : Event → Option RecurrentTask
  | .start => some t.start
  | .stopAsync => some t.stopAsync
  | .stopAndWait => some t.stopAndWait
  | .fire => if t.armed = true ∧ t.callback = .idle then some t.fire else none
  | .checkInFlight => if t.callback = .fired then some t.checkInFlight else none
  | .finish more => if t.callback = .running then some (t.finish more) else none

def run (t : RecurrentTask) : List Event → Option RecurrentTask
  | [] => some t
  | e :: es => (t.step e).bind fun t' => t'.run es

theorem run_cons_eq_some {t t' : RecurrentTask} {e : Event} {es : List Event} :
    t.run (e :: es) = some t' ↔ ∃ t₁, t.step e = some t₁ ∧ t₁.run es = some t' :=
  Option.bind_eq_some

/-- What every step of some kinds keeps holds after every interleaving of such steps. -/
theorem run_preserves (Q : RecurrentTask → Prop) (allowed : Event → Prop)
    (keeps : ∀ {t t' e}, allowed e → Q t → t.step e = some t' → Q t') :
    ∀ {es : List Event} {t t' : RecurrentTask}, (∀ e ∈ es, allowed e) → Q t →
      t.run es = some t' → Q t' := by
  intro es
  induction es with
  | nil => intro t t' _ holds ok; exact Option.some.inj ok ▸ holds
  | cons e es ih =>
    intro t t' every holds ok
    obtain ⟨t₁, stepped, rest⟩ := run_cons_eq_some.1 ok
    exact ih (fun e' member => every e' (List.mem_cons_of_mem _ member))
      (keeps (every e (List.mem_cons_self _ _)) holds stepped) rest

theorem step_out_of_flight {t t' : RecurrentTask} {e : Event} (out : t.inFlight = false)
    (notStart : e ≠ .start) (ok : t.step e = some t') :
    t'.inFlight = false ∧ t'.calls = t.calls ∧ (t'.armed = true → t.armed = true) ∧
      (t'.callback = .running → t.callback = .running ∧ t'.armed = false) := by
  cases e with
  | start => exact absurd rfl notStart
  | stopAsync | stopAndWait =>
    cases ok
    simp [stopAndWait, stopAsync]
  | fire =>
    simp only [step, Option.ite_none_right_eq_some, Option.some.injEq] at ok
    obtain ⟨⟨armed, -⟩, rfl⟩ := ok
    simp [fire, out, armed]
  | checkInFlight =>
    simp only [step, Option.ite_none_right_eq_some, Option.some.injEq] at ok
    obtain ⟨-, rfl⟩ := ok
    simp [checkInFlight, out]
  | finish more =>
    simp only [step, Option.ite_none_right_eq_some, Option.some.injEq] at ok
    obtain ⟨-, rfl⟩ := ok
    cases more <;> simp [finish, out]

structure Stopped (c : Nat) (t : RecurrentTask) : Prop where
  out : t.inFlight = false
  disarmed : t.armed = false
  calls : t.calls = c

theorem Stopped.step {c : Nat} {t t' : RecurrentTask} {e : Event} (stopped : Stopped c t)
    (notStart : e ≠ .start) (ok : t.step e = some t') : Stopped c t' := by
  obtain ⟨out, calls, arms, -⟩ := step_out_of_flight stopped.out notStart ok
  refine ⟨out, ?_, calls.trans stopped.calls⟩
  cases armed : t'.armed
  · rfl
  · simpa [stopped.disarmed] using arms armed

/-- After `stopAsync` or `stopAndWait`, over every interleaving with no `start`: the task stays out
of flight, its timer stays stopped, and no callback passes the `inFlight()` check, so `mFunction`
is called again only by a callback that had passed it before the stop. -/
theorem stop_is_final (t : RecurrentTask) {stop : Event} (es : List Event)
    (stopping : stop = .stopAsync ∨ stop = .stopAndWait)
    (noStart : .start ∉ es) {t' : RecurrentTask} (ok : t.run (stop :: es) = some t') :
    t'.inFlight = false ∧ t'.armed = false ∧ t'.calls = t.calls := by
  obtain ⟨t₁, stepped, rest⟩ := run_cons_eq_some.1 ok
  have stopped : Stopped t.calls t₁ := by
    rcases stopping with rfl | rfl <;> cases stepped <;> exact ⟨rfl, rfl, rfl⟩
  have final := run_preserves (Stopped t.calls) (· ≠ .start) (fun notStart stopped ok =>
    stopped.step notStart ok) (fun e member same => noStart (same ▸ member)) stopped rest
  exact ⟨final.out, final.disarmed, final.calls⟩

theorem stop_is_final_midCall :
    ({ inFlight := true, callback := .running, calls := 1 } : RecurrentTask).run
        [.stopAndWait, .finish true] = some { calls := 1 } ∧
      (({ calls := 1 } : RecurrentTask).inFlight = false ∧ ({ calls := 1 } : RecurrentTask).armed = false ∧
        ({ calls := 1 } : RecurrentTask).calls = 1) :=
  ⟨rfl, stop_is_final { inFlight := true, callback := .running, calls := 1 } [.finish true]
    (.inr rfl) (by decide) rfl⟩

structure Dormant (c : Nat) (t : RecurrentTask) : Prop where
  out : t.inFlight = false
  calls : t.calls = c
  quiet : t.armed = true → t.callback ≠ .running

theorem Dormant.step {c : Nat} {t t' : RecurrentTask} {e : Event} (dormant : Dormant c t)
    (notStart : e ≠ .start) (ok : t.step e = some t') : Dormant c t' := by
  obtain ⟨out, calls, arms, running⟩ := step_out_of_flight dormant.out notStart ok
  refine ⟨out, calls.trans dormant.calls, fun armed isRunning => ?_⟩
  simp [(running isRunning).2] at armed

/-- A `start` made while `mFunction` runs is lost when that call returns false: through every
interleaving with no later `start`, the task stays out of flight and no callback passes the
`inFlight()` check again. -/
theorem start_lost_midCall (t : RecurrentTask) (es : List Event) (noStart : .start ∉ es)
    {t' : RecurrentTask} (ok : t.run (.start :: .finish false :: es) = some t') :
    t'.inFlight = false ∧ t'.calls = t.calls := by
  obtain ⟨t₁, started, rest⟩ := run_cons_eq_some.1 ok
  obtain ⟨t₂, finished, rest⟩ := run_cons_eq_some.1 rest
  cases started
  simp only [step, Option.ite_none_right_eq_some, Option.some.injEq] at finished
  obtain ⟨-, rfl⟩ := finished
  have lost : Dormant t.calls (t.start.finish false) := ⟨rfl, rfl, fun _ => by simp [finish]⟩
  have final := run_preserves (Dormant t.calls) (· ≠ .start) (fun notStart dormant ok =>
    dormant.step notStart ok) (fun e member same => noStart (same ▸ member)) lost rest
  exact ⟨final.out, final.calls⟩

theorem start_lost_midCall_refired :
    ({ inFlight := true, callback := .running, calls := 1 } : RecurrentTask).run
        [.start, .finish false, .fire, .checkInFlight] = some { calls := 1 } ∧
      (({ calls := 1 } : RecurrentTask).inFlight = false ∧ ({ calls := 1 } : RecurrentTask).calls = 1) :=
  ⟨rfl, start_lost_midCall { inFlight := true, callback := .running, calls := 1 }
    [.fire, .checkInFlight] (by decide) rfl⟩

structure Live (t : RecurrentTask) : Prop where
  inFlight : t.inFlight = true
  armed : t.callback = .idle → t.armed = true

theorem Live.step {t t' : RecurrentTask} {e : Event} (live : Live t)
    (going : e ≠ .stopAsync ∧ e ≠ .stopAndWait ∧ e ≠ .finish false) (ok : t.step e = some t') :
    Live t' := by
  cases e with
  | start => cases ok; exact ⟨rfl, fun _ => rfl⟩
  | stopAsync => exact absurd rfl going.1
  | stopAndWait => exact absurd rfl going.2.1
  | fire =>
    simp only [RecurrentTask.step, Option.ite_none_right_eq_some, Option.some.injEq] at ok
    obtain ⟨-, rfl⟩ := ok
    exact ⟨live.inFlight, fun fired => by simp [fire] at fired⟩
  | checkInFlight =>
    simp only [RecurrentTask.step, Option.ite_none_right_eq_some, Option.some.injEq] at ok
    obtain ⟨-, rfl⟩ := ok
    exact ⟨by simp [checkInFlight, live.inFlight], by simp [checkInFlight, live.inFlight]⟩
  | finish more =>
    simp only [RecurrentTask.step, Option.ite_none_right_eq_some, Option.some.injEq] at ok
    obtain ⟨-, rfl⟩ := ok
    cases more
    · exact absurd rfl going.2.2
    · exact ⟨by simp [finish, live.inFlight], by simp [finish, live.inFlight]⟩

/-- After `start`, through every interleaving with no stop and no call of `mFunction` returning
false: the task stays in flight, and whenever the looper is outside `taskCallback` the timer is
armed, so the looper always has a callback to run and each passes the check. -/
theorem start_keeps_running (t : RecurrentTask) (es : List Event)
    (going : ∀ e ∈ es, e ≠ .stopAsync ∧ e ≠ .stopAndWait ∧ e ≠ .finish false)
    {t' : RecurrentTask} (ok : t.run (.start :: es) = some t') :
    t'.inFlight = true ∧ (t'.callback = .idle → t'.armed = true) := by
  obtain ⟨t₁, started, rest⟩ := run_cons_eq_some.1 ok
  cases started
  have final := run_preserves Live _ (fun going live ok => live.step going ok) going
    ⟨rfl, fun _ => rfl⟩ rest
  exact ⟨final.inFlight, final.armed⟩

theorem start_keeps_running_twice :
    (∀ e ∈ [Event.fire, .checkInFlight, .finish true, .fire, .checkInFlight],
        e ≠ .stopAsync ∧ e ≠ .stopAndWait ∧ e ≠ .finish false) ∧
      ({} : RecurrentTask).run [.start, .fire, .checkInFlight, .finish true, .fire, .checkInFlight] =
        some { inFlight := true, callback := .running, calls := 2 } ∧
      (({ inFlight := true, callback := .running, calls := 2 } : RecurrentTask).inFlight = true ∧
        (({ inFlight := true, callback := .running, calls := 2 } : RecurrentTask).callback = .idle →
          ({ inFlight := true, callback := .running, calls := 2 } : RecurrentTask).armed = true)) :=
  ⟨by decide, rfl, start_keeps_running {} [.fire, .checkInFlight, .finish true, .fire, .checkInFlight]
    (by decide) rfl⟩

end RecurrentTask

end Asg.Base
