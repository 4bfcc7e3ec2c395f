import Asg.Pool.Run
import Asg.Context.Lifecycle
import Asg.Context.UnavailableRead

/-! Runs of the device: contexts constructed, given pings and unavailable reads, and destroyed,
all over one pool. The allocations the live contexts hold are the pool's live allocations: each
device step is at most two calls of the pool's entry points, up to the order the allocations are
listed in. So `PoolInv` holds in every state of such a run, and a virtio context's ring and
buffer stay views of its combined allocation. -/

set_option autoImplicit false

namespace Asg

variable {σ η : Type} (P : Platform σ η) (env : ContextEnv)

/-- The allocations a context holds in pool `p`: a virtio context its combined one, any other
its ring and its buffer. -/
def Context.holds (ctx : Context) : Pool → List Allocation
  | .ring => if ctx.virtioGpuInfo.isSome then [] else [ctx.ringAllocation]
  | .buffer => if ctx.virtioGpuInfo.isSome then [] else [ctx.bufferAllocation]
  | .combined => if ctx.virtioGpuInfo.isSome then [ctx.combinedAllocation] else []

def liveOf (ctxs : List Context) (p : Pool) : List Allocation :=
  ctxs.flatMap fun ctx => ctx.holds p

/-- How a context's allocations lie: a virtio context's ring and buffer are views of its
combined allocation, which has room for both; any other holds no combined allocation. -/
def Context.Shaped (ctx : Context) : Prop :=
  if ctx.virtioGpuInfo.isSome then
    ctx.ringAllocation = allocRingViewIntoCombined P ctx.combinedAllocation ∧
      ctx.bufferAllocation = allocBufferViewIntoCombined P ctx.combinedAllocation ∧
      P.ringStorageSize + P.perContextBufferSize ≤ ctx.combinedAllocation.size
  else ctx.combinedAllocation = {}

structure Context.SameStorage (ctx ctx' : Context) : Prop where
  virtioGpuInfo : ctx'.virtioGpuInfo = ctx.virtioGpuInfo
  ringAllocation : ctx'.ringAllocation = ctx.ringAllocation
  bufferAllocation : ctx'.bufferAllocation = ctx.bufferAllocation
  combinedAllocation : ctx'.combinedAllocation = ctx.combinedAllocation

/-- The device: the pool, the host and the consumer interface, and the live contexts. -/
structure Device (σ η : Type) where
  world : World σ η
  contexts : List Context

/-- One call on the device: a context constructed (one made for a snapshot is given to `load`
at once, and is not a step of its own), given a ping or an unavailable read that returns, or
destroyed. -/
inductive DeviceStep : Device σ η → Device σ η → Prop
  | create {d : Device σ η} {create : AddressSpaceCreateInfo} {ctx : Context} {w : World σ η} :
    create.fromSnapshot = false → Context.create P env create d.world = .ok (ctx, w) →
    DeviceStep d ⟨w, ctx :: d.contexts⟩
  | perform {d : Device σ η} {i : Nat} {ctx : Context} (info : PingInfo) :
    d.contexts[i]? = some ctx →
    DeviceStep d ⟨{ d.world with consumers := (ctx.perform env info d.world.consumers).2.2 },
      d.contexts.set i (ctx.perform env info d.world.consumers).1⟩
  | unavailableRead {d : Device σ η} {i : Nat} {ctx ctx' : Context} {result : Int} :
    d.contexts[i]? = some ctx → onUnavailableRead ctx = (some result, ctx') →
    DeviceStep d ⟨d.world, d.contexts.set i ctx'⟩
  | destroy {d : Device σ η} {ctx ctx' : Context} {w : World σ η} :
    ctx ∈ d.contexts → ctx.destroy P d.world = .ok (ctx', w) →
    DeviceStep d ⟨w, d.contexts.erase ctx⟩

/-- A run of the device from an empty pool, a host in state `h₀` and no context. -/
inductive DeviceRun (h₀ : η) : Device σ η → Prop
  | init : DeviceRun h₀ ⟨⟨{}, h₀, {}⟩, []⟩
  | step {d d' : Device σ η} : DeviceRun h₀ d → DeviceStep P env d d' → DeviceRun h₀ d'

section
variable {P env}

@[simp] theorem liveOf_nil (p : Pool) : liveOf [] p = [] := rfl

@[simp] theorem liveOf_cons (ctx : Context) (ctxs : List Context) (p : Pool) :
    liveOf (ctx :: ctxs) p = ctx.holds p ++ liveOf ctxs p := rfl

theorem Context.SameStorage.holds {ctx ctx' : Context} (same : ctx.SameStorage ctx') :
    ctx'.holds = ctx.holds := by
  funext p
  cases p <;> simp [Context.holds, same.virtioGpuInfo, same.ringAllocation,
    same.bufferAllocation, same.combinedAllocation]

theorem Context.SameStorage.shaped {ctx ctx' : Context} (same : ctx.SameStorage ctx')
    (shaped : ctx.Shaped P) : ctx'.Shaped P := by
  simpa only [Context.Shaped, same.virtioGpuInfo, same.ringAllocation, same.bufferAllocation,
    same.combinedAllocation] using shaped

theorem Context.perform_sameStorage (ctx : Context) (info : PingInfo) (c : Consumers) :
    ctx.SameStorage (ctx.perform env info c).1 := by
  unfold Context.perform
  split <;> exact ⟨rfl, rfl, rfl, rfl⟩

theorem sleepWait_sameStorage (ctx : Context) (channel : List ConsumerCommand) :
    ctx.SameStorage (sleepWait ctx channel).2 := by
  induction channel with
  | nil => exact ⟨rfl, rfl, rfl, rfl⟩
  | cons cmd rest ih => cases cmd <;> first | exact ih | exact ⟨rfl, rfl, rfl, rfl⟩

theorem onUnavailableRead_sameStorage (ctx : Context) :
    ctx.SameStorage (onUnavailableRead ctx).2 := by
  have wait := sleepWait_sameStorage { ctx with unavailableReadCount := 0 } ctx.consumerMessages
  simp only [onUnavailableRead]
  split_ifs <;> first | exact ⟨wait.1, wait.2, wait.3, wait.4⟩ | exact ⟨rfl, rfl, rfl, rfl⟩

theorem liveOf_set {ctxs : List Context} {i : Nat} {ctx ctx' : Context}
    (slot : ctxs[i]? = some ctx) (same : ctx'.holds = ctx.holds) :
    liveOf (ctxs.set i ctx') = liveOf ctxs := by
  funext p
  induction ctxs generalizing i with
  | nil => simp at slot
  | cons c ctxs ih =>
    cases i with
    | zero =>
      obtain rfl : c = ctx := by simpa using slot
      simp [same]
    | succ i => simp [ih (by simpa using slot)]

theorem liveOf_erase {ctxs : List Context} {ctx : Context} (member : ctx ∈ ctxs) (p : Pool) :
    (liveOf ctxs p).Perm (ctx.holds p ++ liveOf (ctxs.erase ctx) p) :=
  (List.perm_cons_erase member).flatMap_right _

theorem liveOf_erase_one {ctxs : List Context} {ctx : Context} (member : ctx ∈ ctxs) {p : Pool}
    {a : Allocation} (one : ctx.holds p = [a]) :
    ((liveOf ctxs p).erase a).Perm (liveOf (ctxs.erase ctx) p) := by
  simpa [one] using (liveOf_erase member p).erase a

theorem liveOf_erase_none {ctxs : List Context} {ctx : Context} (member : ctx ∈ ctxs) {p : Pool}
    (none : ctx.holds p = []) : (liveOf ctxs p).Perm (liveOf (ctxs.erase ctx) p) := by
  simpa [none] using liveOf_erase member p

@[simp] theorem freeIn_view {p : Pool} {alloc : Allocation} {g : Globals σ} {h : η}
    (view : alloc.isView = true) : freeIn P p alloc g h = .ok (g, h) := by
  simp [freeIn, view]

theorem deleteIn_null {p : Pool} {alloc : Allocation} {g : Globals σ} {h : η}
    (null : alloc.buffer = 0) : deleteIn P p alloc g h = .ok (g, h) := by
  cases p <;> simp [deleteIn, null, Except.map, Globals.setBlocks, Globals.blocks]

variable (sc : P.subAllocator.Contract) (hc : P.host.Contract) (base : Outstanding)

/-- What every state of a device run satisfies: the pool's invariant over the allocations the
live contexts hold, and each context's allocations lying as the constructor laid them. -/
structure DeviceInv (d : Device σ η) : Prop where
  pool : PoolInv sc hc base ⟨d.world.globals, d.world.host, liveOf d.contexts⟩
  shaped : ∀ ctx ∈ d.contexts, ctx.Shaped P

variable {sc hc base}

theorem DeviceInv.replace {d : Device σ η} {i : Nat} {ctx ctx' : Context} {w : World σ η}
    (inv : DeviceInv sc hc base d) (slot : d.contexts[i]? = some ctx) (same : ctx.SameStorage ctx')
    (globals : w.globals = d.world.globals) (host : w.host = d.world.host) :
    DeviceInv sc hc base ⟨w, d.contexts.set i ctx'⟩ := by
  refine ⟨?_, fun c member => ?_⟩
  · simpa only [globals, host, liveOf_set slot same.holds] using inv.pool
  · rcases List.mem_or_eq_of_mem_set member with old | rfl
    · exact inv.shaped c old
    · exact same.shaped (inv.shaped ctx (List.getElem?_mem slot))

theorem DeviceInv.create_plain (wf : P.Wf) {d : Device σ η} {create : AddressSpaceCreateInfo}
    {ctx : Context} {w : World σ η} (inv : DeviceInv sc hc base d) (fresh : create.fromSnapshot = false)
    (plain : create.isVirtio = false) (ok : Context.create P env create d.world = .ok (ctx, w)) :
    DeviceInv sc hc base ⟨w, ctx :: d.contexts⟩ := by
  obtain ⟨taken, -, -, virtio⟩ := Context.create_spec fresh ok
  simp only [allocateStorage, plain, Bool.false_eq_true, if_false, bind_eq_ok, map_eq_ok,
    Prod.mk.injEq] at taken
  obtain ⟨⟨ring, g₁, h₁⟩, first, ⟨buffer, g₂, h₂⟩, second, rfl, rfl, combined, rfl, rfl⟩ := taken
  have pool := (inv.pool.step wf (.allocRingStorage first)).step wf (.allocBuffer second)
  have held : ctx.holds = fun p => match p with
      | .ring => [ctx.ringAllocation] | .buffer => [ctx.bufferAllocation] | .combined => [] := by
    funext p; cases p <;> simp [Context.holds, plain ▸ virtio]
  refine ⟨?_, fun c member => ?_⟩
  · refine pool.perm fun p => ?_
    cases p <;> simp [held]
  · rcases List.mem_cons.1 member with rfl | old
    · simp [Context.Shaped, plain ▸ virtio, combined]
    · exact inv.shaped c old

theorem DeviceInv.create_virtio (wf : P.Wf) {d : Device σ η} {create : AddressSpaceCreateInfo}
    {ctx : Context} {w : World σ η} (inv : DeviceInv sc hc base d) (fresh : create.fromSnapshot = false)
    (virtio : create.isVirtio = true) (ok : Context.create P env create d.world = .ok (ctx, w)) :
    DeviceInv sc hc base ⟨w, ctx :: d.contexts⟩ := by
  obtain ⟨taken, -, -, info⟩ := Context.create_spec fresh ok
  obtain ⟨dedicated, ring, buffer⟩ := allocateStorage_virtio virtio taken
  have pool := inv.pool.step wf (.allocRingAndBufferStorageDedicated create dedicated)
  obtain ⟨-, create', handle, -, room, -, combined⟩ := allocRingAndBufferStorageDedicated_ok dedicated
  obtain ⟨blocks', new, -⟩ := allocIn_ok combined
  obtain ⟨j, B₁, off, B', -, -, -, -, carved, -⟩ := inv.pool.newAllocation_combined (by simp [handle])
    (by have := wf.ringStorage_pos; omega) new
  have held : ctx.holds = fun p => match p with
      | .ring => [] | .buffer => [] | .combined => [ctx.combinedAllocation] := by
    funext p; cases p <;> simp [Context.holds, virtio ▸ info]
  refine ⟨?_, fun c member => ?_⟩
  · refine pool.perm fun p => ?_
    cases p <;> simp [held]
  · rcases List.mem_cons.1 member with rfl | old
    · simpa [Context.Shaped, virtio ▸ info, ring, buffer, carved, Allocation.carved] using room
    · exact inv.shaped c old

theorem DeviceInv.destroy {d : Device σ η} {ctx ctx' : Context} {w : World σ η}
    (inv : DeviceInv sc hc base d) (member : ctx ∈ d.contexts)
    (ok : ctx.destroy P d.world = .ok (ctx', w)) :
    DeviceInv sc hc base ⟨w, d.contexts.erase ctx⟩ := by
  obtain ⟨⟨g₁, h₁, g₂, h₂, first, second, third⟩, -⟩ := Context.destroy_spec ok
  have live : ∀ p, ∀ a ∈ ctx.holds p, a ∈ liveOf d.contexts p := fun p a held =>
    List.mem_flatMap.2 ⟨ctx, member, held⟩
  have shaped := inv.shaped ctx member
  refine ⟨?_, fun c kept => inv.shaped c (List.mem_of_mem_erase kept)⟩
  unfold Context.Shaped at shaped
  split at shaped
  case isTrue virtio =>
    obtain ⟨ring, buffer, -⟩ := shaped
    rw [buffer, freeBuffer, freeIn_view rfl, Except.ok.injEq, Prod.mk.injEq] at first
    obtain ⟨rfl, rfl⟩ := first
    rw [ring, freeRingStorage, freeIn_view rfl, Except.ok.injEq, Prod.mk.injEq] at second
    obtain ⟨rfl, rfl⟩ := second
    have held : ctx.holds .combined = [ctx.combinedAllocation] := by simp [Context.holds, virtio]
    refine (inv.pool.deleteCombined (live _ _ (by simp [held])) third).perm fun p => ?_
    cases p
    case combined => simpa using liveOf_erase_one member held
    all_goals simpa using liveOf_erase_none member (by simp [Context.holds, virtio])
  case isFalse plain =>
    rw [freeRingAndBuffer, deleteIn_null (by simp [shaped]), Except.ok.injEq, Prod.mk.injEq] at third
    obtain ⟨rfl, rfl⟩ := third
    have ringHeld : ctx.holds .ring = [ctx.ringAllocation] := by simp [Context.holds, plain]
    have bufferHeld : ctx.holds .buffer = [ctx.bufferAllocation] := by simp [Context.holds, plain]
    have liveBuffer := live .buffer ctx.bufferAllocation (by simp [bufferHeld])
    have liveRing := live .ring ctx.ringAllocation (by simp [ringHeld])
    obtain ⟨B, -, -, placedBuffer⟩ := (inv.pool.slots .buffer).placed _ liveBuffer
    obtain ⟨R, -, -, placedRing⟩ := (inv.pool.slots .ring).placed _ liveRing
    rw [freeBuffer, freeIn_not_view placedBuffer.notView] at first
    rw [freeRingStorage, freeIn_not_view placedRing.notView] at second
    have pool := (inv.pool.deleteShared (by decide) liveBuffer first).deleteShared (by decide)
      (by simpa using liveRing) second
    refine pool.perm fun p => ?_
    cases p
    case ring => simpa using liveOf_erase_one member ringHeld
    case buffer => simpa using liveOf_erase_one member bufferHeld
    case combined => simpa using liveOf_erase_none member (by simp [Context.holds, plain])

theorem DeviceInv.step (wf : P.Wf) {d d' : Device σ η} (inv : DeviceInv sc hc base d)
    (step : DeviceStep P env d d') : DeviceInv sc hc base d' := by
  cases step with
  | @create create _ _ fresh ok =>
    cases virtio : create.isVirtio
    · exact inv.create_plain wf fresh virtio ok
    · exact inv.create_virtio wf fresh virtio ok
  | perform info slot =>
    exact inv.replace slot (Context.perform_sameStorage _ info _) rfl rfl
  | @unavailableRead _ ctx _ _ slot read =>
    exact inv.replace slot (by simpa only [read] using onUnavailableRead_sameStorage ctx) rfl rfl
  | destroy member ok => exact inv.destroy member ok

theorem DeviceInv.init (h₀ : η) :
    DeviceInv sc hc (hc.outstanding h₀) (⟨⟨{}, h₀, {}⟩, []⟩ : Device σ η) :=
  ⟨PoolInv.init h₀, fun _ member => by simp at member⟩

theorem DeviceRun.inv (wf : P.Wf) {h₀ : η} {d : Device σ η} (run : DeviceRun P env h₀ d) :
    DeviceInv sc hc (hc.outstanding h₀) d := by
  induction run with
  | init => exact DeviceInv.init h₀
  | step _ step inv => exact inv.step wf step

end

/-- The device once one context, with neither virtio nor a render thread, is constructed on the
reference platform. -/
def referenceDevice : Device (Nat × List (Nat × Nat)) Outstanding :=
  match Context.create referencePlatform referenceEnv {} ⟨{}, {}, {}⟩ with
  | .ok (ctx, w) => ⟨w, [ctx]⟩
  | .error _ => ⟨⟨{}, {}, {}⟩, []⟩

theorem referenceDevice_run : DeviceRun referencePlatform referenceEnv {} referenceDevice :=
  .step .init (@DeviceStep.create _ _ referencePlatform referenceEnv _ {} _ _ rfl rfl)

end Asg
