import Asg.Snapshot.Restore

/-! The consumer interface across runs of the device. A consumer is created by a constructor
that starts a render thread, by `ASG_SET_VERSION`, and by a load that finds one saved; it is
destroyed only by the destructor, which destroys the context's current one. In every state of a
run that also clears and restores, every consumer destroyed had been created and none is
destroyed twice, and each live context's current consumer is alive and held by no other. -/

set_option autoImplicit false

namespace Asg

def ConsumerEvent.destroyedHandle : ConsumerEvent → Option Nat
  | .destroy handle => some handle
  | .create .. => none

def Consumers.destroyed (c : Consumers) : List Nat :=
  c.log.filterMap ConsumerEvent.destroyedHandle

@[simp] theorem Consumers.create_fst (c : Consumers) (fromLoad : Bool) (contextId capsetId : UInt32)
    (name : Option (List UInt8)) : (c.create fromLoad contextId capsetId name).1 = c.created := rfl

@[simp] theorem Consumers.create_created (c : Consumers) (fromLoad : Bool)
    (contextId capsetId : UInt32) (name : Option (List UInt8)) :
    (c.create fromLoad contextId capsetId name).2.created = c.created + 1 := rfl

@[simp] theorem Consumers.create_destroyed (c : Consumers) (fromLoad : Bool)
    (contextId capsetId : UInt32) (name : Option (List UInt8)) :
    (c.create fromLoad contextId capsetId name).2.destroyed = c.destroyed := by
  simp [Consumers.create, Consumers.destroyed, ConsumerEvent.destroyedHandle]

@[simp] theorem Consumers.destroy_created (c : Consumers) (handle : Nat) :
    (c.destroy handle).created = c.created := rfl

@[simp] theorem Consumers.destroy_destroyed (c : Consumers) (handle : Nat) :
    (c.destroy handle).destroyed = c.destroyed ++ [handle] := by
  simp [Consumers.destroy, Consumers.destroyed, ConsumerEvent.destroyedHandle]

/-- A call that leaves a context's consumer as it was and the interface untouched, or gives the
context a consumer just created. -/
def KeptOrFresh (c c' : Consumers) (old new : Option Nat) : Prop :=
  new = old ∧ c' = c ∨ new = some c.created ∧ c'.created = c.created + 1 ∧ c'.destroyed = c.destroyed

/-- What the consumer interface has seen, against the live contexts: every consumer destroyed had
been created, none twice; each live context's current consumer is alive, and no two share one. -/
structure ConsumerInv (c : Consumers) (ctxs : List Context) : Prop where
  created : ∀ h ∈ c.destroyed, h < c.created
  once : c.destroyed.Nodup
  alive : ∀ h ∈ ctxs.filterMap Context.currentConsumer, h < c.created ∧ h ∉ c.destroyed
  own : (ctxs.filterMap Context.currentConsumer).Nodup

section
variable {c c' : Consumers} {ctxs : List Context}

theorem ConsumerInv.fresh (inv : ConsumerInv c ctxs)
    (grown : c'.created = c.created + 1 ∧ c'.destroyed = c.destroyed) :
    (∀ h ∈ c'.destroyed, h < c'.created) ∧ c'.destroyed.Nodup ∧
      (∀ h ∈ c.created :: ctxs.filterMap Context.currentConsumer, h < c'.created ∧
        h ∉ c'.destroyed) ∧
      (c.created :: ctxs.filterMap Context.currentConsumer).Nodup := by
  obtain ⟨created, destroyed⟩ := grown
  rw [created, destroyed]
  refine ⟨fun h gone => Nat.lt_succ_of_lt (inv.created h gone), inv.once, fun h member => ?_,
    List.nodup_cons.2 ⟨fun member => Nat.lt_irrefl _ (inv.alive _ member).1, inv.own⟩⟩
  rcases List.mem_cons.1 member with rfl | old
  · exact ⟨Nat.lt_succ_self _, fun gone => Nat.lt_irrefl _ (inv.created _ gone)⟩
  · exact ⟨Nat.lt_succ_of_lt (inv.alive h old).1, (inv.alive h old).2⟩

theorem ConsumerInv.set (inv : ConsumerInv c ctxs) {i : Nat} {ctx ctx' : Context}
    (slot : ctxs[i]? = some ctx) (step : KeptOrFresh c c' ctx.currentConsumer ctx'.currentConsumer) :
    ConsumerInv c' (ctxs.set i ctx') := by
  have perm := filterMap_set_perm Context.currentConsumer slot ctx'
  rcases step with ⟨same, rfl⟩ | ⟨fresh, grown⟩
  · rw [same] at perm
    have perm := (List.perm_append_right_iff _).1 perm
    exact ⟨inv.created, inv.once, fun h member => inv.alive h (perm.subset member),
      perm.nodup_iff.2 inv.own⟩
  · obtain ⟨created, once, alive, own⟩ := inv.fresh grown
    rw [fresh] at perm
    have perm := perm.trans (List.perm_append_singleton _ _)
    exact ⟨created, once, fun h member => alive h (perm.subset (List.mem_append_left _ member)),
      (List.nodup_append.1 (perm.nodup_iff.2 own)).1⟩

theorem ConsumerInv.cons (inv : ConsumerInv c ctxs) {ctx : Context}
    (step : KeptOrFresh c c' none ctx.currentConsumer) : ConsumerInv c' (ctx :: ctxs) := by
  rcases step with ⟨none, rfl⟩ | ⟨fresh, grown⟩
  · have same : (ctx :: ctxs).filterMap Context.currentConsumer =
        ctxs.filterMap Context.currentConsumer := by simp [List.filterMap_cons, none]
    exact ⟨inv.created, inv.once, same ▸ inv.alive, same ▸ inv.own⟩
  · have grownList : (ctx :: ctxs).filterMap Context.currentConsumer =
        c.created :: ctxs.filterMap Context.currentConsumer := by simp [List.filterMap_cons, fresh]
    obtain ⟨created, once, alive, own⟩ := inv.fresh grown
    exact ⟨created, once, grownList ▸ alive, grownList ▸ own⟩

theorem ConsumerInv.erase (inv : ConsumerInv c ctxs) {ctx : Context} (member : ctx ∈ ctxs)
    (created : c'.created = c.created)
    (destroyed : c'.destroyed = c.destroyed ++ ctx.currentConsumer.toList) :
    ConsumerInv c' (ctxs.erase ctx) := by
  have perm : (ctxs.filterMap Context.currentConsumer).Perm
      (ctx.currentConsumer.toList ++ (ctxs.erase ctx).filterMap Context.currentConsumer) := by
    simpa [filterMap_cons_toList] using (List.perm_cons_erase member).filterMap Context.currentConsumer
  have own := perm.nodup_iff.1 inv.own
  have current : ∀ h ∈ ctx.currentConsumer.toList, h < c.created ∧ h ∉ c.destroyed :=
    fun h here => inv.alive h (perm.symm.subset (List.mem_append_left _ here))
  refine ⟨fun h gone => ?_, ?_, fun h member => ?_, (List.nodup_append.1 own).2.1⟩
  · rw [destroyed] at gone
    rw [created]
    rcases List.mem_append.1 gone with old | here
    · exact inv.created h old
    · exact (current h here).1
  · rw [destroyed]
    refine List.nodup_append.2 ⟨inv.once, Option.toList_nodup _, ?_⟩
    intro h old here
    exact (current h here).2 old
  · have alive := inv.alive h (perm.symm.subset (List.mem_append_right _ member))
    refine ⟨created ▸ alive.1, fun gone => ?_⟩
    rw [destroyed] at gone
    rcases List.mem_append.1 gone with old | here
    · exact alive.2 old
    · exact (List.nodup_append.1 own).2.2 here member

theorem ConsumerInv.cons_older (inv : ConsumerInv c ctxs) {ctx : Context}
    (older : ∀ h ∈ ctx.currentConsumer, (h < c.created ∧ h ∉ c.destroyed) ∧
      h ∉ ctxs.filterMap Context.currentConsumer) :
    ConsumerInv c (ctx :: ctxs) := by
  refine ⟨inv.created, inv.once, fun h member => ?_, ?_⟩
  · rw [filterMap_cons_toList] at member
    rcases List.mem_append.1 member with here | old
    · exact (older h (Option.mem_toList.1 here)).1
    · exact inv.alive h old
  · rw [filterMap_cons_toList]
    refine List.nodup_append.2 ⟨Option.toList_nodup _, inv.own, ?_⟩
    intro h here old
    exact (older h (Option.mem_toList.1 here)).2 old

end

section
variable {σ η : Type} {P : Platform σ η} {env : ContextEnv}

theorem sleepWait_currentConsumer (ctx : Context) (channel : List ConsumerCommand) :
    (sleepWait ctx channel).2.currentConsumer = ctx.currentConsumer := by
  induction channel with
  | nil => rfl
  | cons cmd rest ih => cases cmd <;> first | exact ih | rfl

theorem onUnavailableRead_currentConsumer (ctx : Context) :
    (onUnavailableRead ctx).2.currentConsumer = ctx.currentConsumer := by
  unfold onUnavailableRead
  dsimp only
  split_ifs
  all_goals first | exact sleepWait_currentConsumer _ _ | rfl

theorem Context.create_keptOrFresh {create : AddressSpaceCreateInfo} {w w' : World σ η}
    {ctx : Context} (ok : Context.create P env create w = .ok (ctx, w')) :
    KeptOrFresh w.consumers w'.consumers none ctx.currentConsumer := by
  unfold Context.create at ok
  cases fresh : create.fromSnapshot
  case true =>
    simp only [fresh, if_true, Except.ok.injEq, Prod.mk.injEq] at ok
    obtain ⟨rfl, rfl⟩ := ok
    exact .inl ⟨rfl, rfl⟩
  simp only [fresh, Bool.false_eq_true, if_false, bind_eq_ok] at ok
  obtain ⟨⟨ring, buffer, combined, g, h⟩, -, built⟩ := ok
  split at built
  · cases built
  split at built
  · cases built
  split at built <;> simp only [Except.ok.injEq, Prod.mk.injEq] at built <;>
    obtain ⟨rfl, rfl⟩ := built
  · exact .inr ⟨rfl, by simp [createConsumer], by simp [createConsumer]⟩
  · exact .inl ⟨rfl, rfl⟩

theorem Context.perform_keptOrFresh (ctx : Context) (info : PingInfo) (c : Consumers) :
    KeptOrFresh c (ctx.perform env info c).2.2 ctx.currentConsumer
      (ctx.perform env info c).1.currentConsumer := by
  unfold Context.perform
  split
  case h_3 => exact .inr ⟨rfl, by simp [createConsumer], by simp [createConsumer]⟩
  all_goals exact .inl ⟨rfl, rfl⟩

theorem Context.destroy_consumers {ctx ctx' : Context} {w w' : World σ η}
    (ok : ctx.destroy P w = .ok (ctx', w')) :
    w'.consumers.created = w.consumers.created ∧
      w'.consumers.destroyed = w.consumers.destroyed ++ ctx.currentConsumer.toList := by
  unfold Context.destroy at ok
  cases current : ctx.currentConsumer <;>
  · simp only [current, bind_eq_ok, map_eq_ok, Prod.mk.injEq] at ok
    obtain ⟨⟨g₁, h₁⟩, -, ⟨g₂, h₂⟩, -, ⟨g₃, h₃⟩, -, -, rfl⟩ := ok
    simp

theorem Context.load_keptOrFresh (g : Globals σ) (ctx : Context) (c : Consumers)
    (s : List UInt8) :
    KeptOrFresh c (ctx.load P env g c s).2.1 ctx.currentConsumer
      (ctx.load P env g c s).1.currentConsumer := by
  unfold Context.load
  dsimp only
  split
  · exact .inr ⟨rfl, by simp [createConsumer], by simp [createConsumer]⟩
  · exact .inl ⟨rfl, rfl⟩

theorem KeptOrFresh.of_none {c c' : Consumers} {new : Option Nat}
    (step : KeptOrFresh c c' none new) :
    c'.destroyed = c.destroyed ∧ c.created ≤ c'.created ∧
      ∀ h ∈ new, h = c.created ∧ h < c'.created := by
  rcases step with ⟨rfl, rfl⟩ | ⟨rfl, created, destroyed⟩
  · simp
  · simp [created, destroyed]

theorem ConsumerInv.nil {c : Consumers} (created : ∀ h ∈ c.destroyed, h < c.created)
    (once : c.destroyed.Nodup) : ConsumerInv c [] :=
  ⟨created, once, fun _ member => by simp at member, List.nodup_nil⟩

theorem loadContexts_consumerInv (g : Globals σ) :
    ∀ (n : Nat) {c : Consumers} (s : List UInt8), ConsumerInv c [] →
      ConsumerInv (loadContexts P env g n c s).2.1 (loadContexts P env g n c s).1 ∧
        c.created ≤ (loadContexts P env g n c s).2.1.created ∧
        (loadContexts P env g n c s).2.1.destroyed = c.destroyed ∧
        ∀ h ∈ (loadContexts P env g n c s).1.filterMap Context.currentConsumer, c.created ≤ h := by
  intro n
  induction n with
  | zero => exact fun s inv => ⟨inv, le_refl _, rfl, fun _ member => by simp [loadContexts] at member⟩
  | succ n ih =>
    intro c s inv
    have step := @Context.load_keptOrFresh σ η P env g (snapshotContext env) c s
    simp only [loadContexts]
    generalize (snapshotContext env).load P env g c s = first at step ⊢
    obtain ⟨ctx₁, c₁, s₁⟩ := first
    obtain ⟨destroyed₁, grown₁, fresh₁⟩ := KeptOrFresh.of_none step
    obtain ⟨inv', grown', destroyed', older⟩ := ih s₁ (.nil
      (fun h member => (inv.created h (destroyed₁ ▸ member)).trans_le grown₁)
      (destroyed₁ ▸ inv.once))
    refine ⟨inv'.cons_older fun h member => ?_, grown₁.trans grown', destroyed'.trans destroyed₁,
      fun h member => ?_⟩
    · obtain ⟨rfl, below⟩ := fresh₁ h member
      refine ⟨⟨below.trans_le grown', fun gone => ?_⟩, fun later => ?_⟩
      · rw [destroyed', destroyed₁] at gone
        exact lt_irrefl _ (inv.created _ gone)
      · exact lt_irrefl _ (below.trans_le (older _ later))
    · rw [filterMap_cons_toList] at member
      rcases List.mem_append.1 member with here | rest
      · exact ((fresh₁ h (Option.mem_toList.1 here)).1).ge
      · exact grown₁.trans (older h rest)

theorem ConsumerInv.step {d d' : Device σ η} (inv : ConsumerInv d.world.consumers d.contexts)
    (step : DeviceStep P env d d') : ConsumerInv d'.world.consumers d'.contexts := by
  cases step with
  | create _ ok => exact inv.cons (Context.create_keptOrFresh ok)
  | perform info slot => exact inv.set slot (Context.perform_keptOrFresh _ info _)
  | @unavailableRead _ ctx _ _ slot read =>
    have kept := onUnavailableRead_currentConsumer ctx
    rw [read] at kept
    exact inv.set slot (.inl ⟨kept, rfl⟩)
  | destroy member ok =>
    obtain ⟨created, destroyed⟩ := Context.destroy_consumers ok
    exact inv.erase member created destroyed

theorem RestoreRun.consumerInv {h₀ : η} {d : Device σ η} (run : RestoreRun P env h₀ d) :
    ConsumerInv d.world.consumers d.contexts := by
  induction run with
  | init => exact .nil (fun _ member => by simp [Consumers.destroyed] at member) List.nodup_nil
  | step _ step inv => exact inv.step step
  | clear _ idle inv => exact idle ▸ inv
  | restore _ idle _ _ _ _ _ inv => exact (loadContexts_consumerInv _ _ _ (idle ▸ inv)).1

/-- In every state of a run that also clears the pools and restores snapshots: every consumer
destroyed had been created and none is destroyed twice, and each live context's current consumer
is alive and held by no other live context. -/
theorem restore_run_consumers_destroyed_once {h₀ : η} {d : Device σ η}
    (run : RestoreRun P env h₀ d) :
    (∀ h ∈ d.world.consumers.destroyed, h < d.world.consumers.created) ∧
      d.world.consumers.destroyed.Nodup ∧
      (∀ h ∈ d.contexts.filterMap Context.currentConsumer,
        h < d.world.consumers.created ∧ h ∉ d.world.consumers.destroyed) ∧
      (d.contexts.filterMap Context.currentConsumer).Nodup :=
  let inv := run.consumerInv
  ⟨inv.created, inv.once, inv.alive, inv.own⟩

end

set_option maxRecDepth 10000 in
/-- Two contexts with render threads constructed, `ASG_SET_VERSION` given to the second and the
first destroyed: three consumers created, the first destroyed, the third current. -/
theorem restore_run_consumers_churn : ∃ d, RestoreRun referencePlatform referenceEnv {} d ∧
    d.world.consumers.created = 3 ∧ d.world.consumers.destroyed = [0] ∧
    d.contexts.filterMap Context.currentConsumer = [2] ∧
    (∀ h ∈ d.world.consumers.destroyed, h < d.world.consumers.created) ∧
      d.world.consumers.destroyed.Nodup ∧
      (∀ h ∈ d.contexts.filterMap Context.currentConsumer,
        h < d.world.consumers.created ∧ h ∉ d.world.consumers.destroyed) ∧
      (d.contexts.filterMap Context.currentConsumer).Nodup :=
  have run := (DeviceRun.step (DeviceRun.step (DeviceRun.step (DeviceRun.step
      (.init : DeviceRun referencePlatform referenceEnv ({} : Outstanding) _)
      (@DeviceStep.create _ _ referencePlatform referenceEnv _ { createRenderThread := true } _ _
        rfl rfl))
      (@DeviceStep.create _ _ referencePlatform referenceEnv _ { createRenderThread := true } _ _
        rfl rfl))
      (@DeviceStep.perform _ _ referencePlatform referenceEnv _ 0 _ { metadata := 2, size := 1 } rfl))
      (@DeviceStep.destroy _ _ referencePlatform referenceEnv _ _ _ _
        (List.mem_cons_of_mem _ (List.mem_singleton_self _)) rfl)).restoreRun
  ⟨_, run, rfl, rfl, rfl, restore_run_consumers_destroyed_once run⟩

end Asg
