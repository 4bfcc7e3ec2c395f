import Asg.Context.Basic

/-! `AddressSpaceGraphicsContext::onUnavailableRead`, which the consumer calls each time it finds
the ring empty: it counts such reads and, at the eighth in a row or once the context is exiting,
waits on the consumer channel. A call that blocks in `receive` on an empty channel does not
return; the model gives `none` with the state it waits in. -/

set_option autoImplicit false

namespace Asg

def kMaxUnavailableReads : UInt32 := 8

/-- The wait from the `sleep:` label on: the host state is set to `NEED_NOTIFY` and a command
received, a `Sleep` going back to the label. -/
def sleepWait (ctx : Context) : List ConsumerCommand → Option Int × Context
  | [] => (none, { ctx with hostState := .needNotify, consumerMessages := [] })
  | .sleep :: rest => sleepWait ctx rest
  | .wakeup :: rest => (some 1, { ctx with hostState := .canConsume, consumerMessages := rest })
  | .exit :: rest => (some (-1), { ctx with hostState := .exit, consumerMessages := rest })
  | .pausePreSnapshot :: rest =>
    (some (-2), { ctx with hostState := .needNotify, consumerMessages := rest })
  | .resumePostSnapshot :: rest =>
    (some (-3), { ctx with hostState := .needNotify, consumerMessages := rest })

def onUnavailableRead (ctx : Context) : Option Int × Context :=
  let count := if ctx.exiting ≠ 0 then kMaxUnavailableReads else ctx.unavailableReadCount + 1
  if count ≥ kMaxUnavailableReads then
    sleepWait { ctx with unavailableReadCount := 0 } ctx.consumerMessages
  else (some 0, { ctx with unavailableReadCount := count })

/-- What a wait returns for the command that ends it. -/
def commandResult : ConsumerCommand → Int
  | .wakeup => 1
  | .exit => -1
  | .sleep => 0
  | .pausePreSnapshot => -2
  | .resumePostSnapshot => -3

/-- The host state a wait leaves for the command that ends it. -/
def commandHostState : ConsumerCommand → HostState
  | .wakeup => .canConsume
  | .exit => .exit
  | _ => .needNotify

theorem count_succ_toNat {c : UInt32} (small : c.toNat < 7) : (c + 1).toNat = c.toNat + 1 := by
  simp only [UInt32.toNat, UInt32.add_def, BitVec.toNat_add, UInt32.toBitVec_ofNat,
    BitVec.toNat_ofNat] at *
  omega

theorem count_succ_ge_iff (c : UInt32) (small : c.toNat < 8) :
    kMaxUnavailableReads ≤ c + 1 ↔ c.toNat = 7 := by
  simp only [kMaxUnavailableReads, UInt32.le_def, UInt32.add_def, UInt32.toNat, BitVec.le_def,
    BitVec.toNat_add, UInt32.toBitVec_ofNat, BitVec.toNat_ofNat] at *
  omega

theorem onUnavailableRead_quiet {ctx : Context} (staying : ctx.exiting = 0)
    (below : ctx.unavailableReadCount.toNat < 7) :
    onUnavailableRead ctx = (some 0, { ctx with unavailableReadCount := ctx.unavailableReadCount + 1 }) := by
  have quiet : ¬kMaxUnavailableReads ≤ ctx.unavailableReadCount + 1 := fun reached =>
    absurd ((count_succ_ge_iff _ (by omega)).1 reached) (by omega)
  simp [onUnavailableRead, staying, quiet]

theorem onUnavailableRead_wait {ctx : Context}
    (due : ctx.exiting ≠ 0 ∨ ctx.unavailableReadCount.toNat = 7) :
    onUnavailableRead ctx =
      sleepWait { ctx with unavailableReadCount := 0 } ctx.consumerMessages := by
  unfold onUnavailableRead
  rcases due with exiting | seventh
  · simp [exiting, kMaxUnavailableReads]
  · by_cases exiting : ctx.exiting = 0
    · simp [exiting, (count_succ_ge_iff _ (by omega)).2 seventh]
    · simp [exiting, kMaxUnavailableReads]

theorem sleepWait_sleeps (ctx : Context) (n : Nat) {cmd : ConsumerCommand}
    (woken : cmd ≠ .sleep) (rest : List ConsumerCommand) :
    sleepWait ctx (List.replicate n .sleep ++ cmd :: rest) =
      (some (commandResult cmd),
        { ctx with hostState := commandHostState cmd, consumerMessages := rest }) := by
  induction n with
  | zero => cases cmd <;> first | exact absurd rfl woken | rfl
  | succ n ih => simpa [List.replicate_succ] using ih

theorem sleepWait_blocked (ctx : Context) (n : Nat) :
    sleepWait ctx (List.replicate n .sleep) =
      (none, { ctx with hostState := .needNotify, consumerMessages := [] }) := by
  induction n with
  | zero => rfl
  | succ n ih => simpa [List.replicate_succ] using ih

theorem sleepWait_ne_zero (ctx : Context) (channel : List ConsumerCommand) :
    (sleepWait ctx channel).1 ≠ some 0 := by
  induction channel with
  | nil => simp [sleepWait]
  | cons cmd rest ih => cases cmd <;> simp_all [sleepWait]

theorem sleepWait_exiting (ctx : Context) (channel : List ConsumerCommand) :
    (sleepWait ctx channel).2.exiting = ctx.exiting ∧
      (sleepWait ctx channel).2.unavailableReadCount = ctx.unavailableReadCount := by
  induction channel with
  | nil => simp [sleepWait]
  | cons cmd rest ih => cases cmd <;> simp_all [sleepWait]

/-- Calls of `onUnavailableRead` one after another, the other threads leaving `channel` in the
consumer channel before each; what each call returned. A call that blocks ends the run. -/
def unavailableReads (ctx : Context) : List (List ConsumerCommand) → List (Option Int)
  | [] => []
  | channel :: later =>
    match onUnavailableRead { ctx with consumerMessages := channel } with
    | (none, _) => [none]
    | (some r, next) => some r :: unavailableReads next later

theorem unavailableReads_waits (channels : List (List ConsumerCommand)) :
    ∀ ctx : Context, ctx.exiting = 0 → ctx.unavailableReadCount.toNat < 8 →
      ∀ i r, (unavailableReads ctx channels)[i]? = some r →
        (r ≠ some 0 ↔ (ctx.unavailableReadCount.toNat + i + 1) % 8 = 0) := by
  induction channels with
  | nil => intro ctx _ _ i r call; simp [unavailableReads] at call
  | cons channel later ih =>
    intro ctx staying below i r call
    simp only [unavailableReads] at call
    generalize called : ({ ctx with consumerMessages := channel } : Context) = c at call
    have exitingC : c.exiting = 0 := by rw [← called]; exact staying
    have countC : c.unavailableReadCount = ctx.unavailableReadCount := by rw [← called]
    by_cases seventh : ctx.unavailableReadCount.toNat = 7
    · -- this call waits, and the count starts again from 0
      rw [onUnavailableRead_wait (.inr (countC ▸ seventh))] at call
      have kept := sleepWait_exiting { c with unavailableReadCount := 0 } c.consumerMessages
      have never := sleepWait_ne_zero { c with unavailableReadCount := 0 } c.consumerMessages
      generalize sleepWait _ c.consumerMessages = result at call kept never
      obtain ⟨_ | returned, next⟩ := result
      · obtain ⟨rfl, rfl⟩ : i = 0 ∧ r = none := by cases i <;> simp_all
        simp [seventh]
      · dsimp only at kept never
        cases i with
        | zero =>
          obtain rfl : some returned = r := by simpa using call
          simpa [seventh] using never
        | succ k =>
          have next := ih next (kept.1.trans exitingC) (by simp [kept.2]) k r (by simpa using call)
          simp only [kept.2, UInt32.toNat_zero, Nat.zero_add] at next
          rw [next, seventh]
          omega
    · -- this call counts the read and returns 0
      have below7 : c.unavailableReadCount.toNat < 7 := by rw [countC]; omega
      rw [onUnavailableRead_quiet exitingC below7] at call
      have counted := count_succ_toNat below7
      cases i with
      | zero => simp only [List.getElem?_cons_zero, Option.some.injEq] at call; subst call; simp; omega
      | succ k =>
        have next := ih { c with unavailableReadCount := c.unavailableReadCount + 1 } exitingC
          (by simp only [counted]; omega) k r (by simpa using call)
        rw [countC, count_succ_toNat (by omega)] at next
        rw [next]
        omega

theorem onUnavailableRead_waits_every_eighth :
    (∀ ctx : Context, ctx.exiting = 0 → ctx.unavailableReadCount.toNat < 7 →
      onUnavailableRead ctx =
        (some 0, { ctx with unavailableReadCount := ctx.unavailableReadCount + 1 })) ∧
    (∀ ctx : Context, ctx.exiting ≠ 0 ∨ ctx.unavailableReadCount.toNat = 7 →
      onUnavailableRead ctx =
        sleepWait { ctx with unavailableReadCount := 0 } ctx.consumerMessages) ∧
    (∀ (ctx : Context) n (cmd : ConsumerCommand) rest, cmd ≠ .sleep →
      sleepWait ctx (List.replicate n .sleep ++ cmd :: rest) =
        (some (commandResult cmd),
          { ctx with hostState := commandHostState cmd, consumerMessages := rest })) ∧
    (∀ (ctx : Context) n, sleepWait ctx (List.replicate n .sleep) =
      (none, { ctx with hostState := .needNotify, consumerMessages := [] })) ∧
    (∀ ctx channel, (sleepWait ctx channel).1 ≠ some 0) ∧
    ∀ channels (ctx : Context), ctx.exiting = 0 → ctx.unavailableReadCount.toNat < 8 →
      ∀ i r, (unavailableReads ctx channels)[i]? = some r →
        (r ≠ some 0 ↔ (ctx.unavailableReadCount.toNat + i + 1) % 8 = 0) :=
  ⟨fun _ staying below => onUnavailableRead_quiet staying below,
    fun _ due => onUnavailableRead_wait due, fun ctx n _ rest woken => sleepWait_sleeps ctx n woken rest,
    sleepWait_blocked, sleepWait_ne_zero, unavailableReads_waits⟩

/-- From a fresh count, seven empty reads return 0 and the eighth waits for the `Wakeup` the
channel holds. -/
theorem onUnavailableRead_waits_every_eighth_start :
    ({} : Context).exiting = 0 ∧ ({} : Context).unavailableReadCount.toNat < 8 ∧
    (unavailableReads {} (List.replicate 8 [.wakeup]))[7]? = some (some 1) ∧
    (some 1 ≠ some (0 : Int) ↔ (({} : Context).unavailableReadCount.toNat + 7 + 1) % 8 = 0) :=
  ⟨rfl, by decide, by decide,
    onUnavailableRead_waits_every_eighth.2.2.2.2.2 (List.replicate 8 [.wakeup]) {} rfl (by decide) 7
      (some 1) (by decide)⟩

end Asg
