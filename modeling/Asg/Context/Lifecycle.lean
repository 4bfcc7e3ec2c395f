import Asg.Context.Basic
import Asg.Pool.Reference

/-! The constructor, `perform` and the destructor of `AddressSpaceGraphicsContext`. A context
takes a ring and a buffer from the pool, or for virtio a dedicated allocation seen through two
views; `ASG_SET_VERSION` creates a consumer, and the destructor destroys the current one before
giving the allocations back. -/

set_option autoImplicit false

namespace Asg

variable {σ η : Type} (P : Platform σ η) (env : ContextEnv)

/-- The ring header of a new context, as the constructor writes it over `asg_context_create`. -/
def freshRingConfig : RingConfig where
  bufferSize := P.perContextBufferSize.toUInt32
  flushInterval := env.writeStepSize
  hostConsumedPos := 0
  guestWritePos := 0
  transferMode := 1
  transferSize := 0
  inError := 0

def virtioGpuInfoOf (create : AddressSpaceCreateInfo) : VirtioGpuInfo where
  contextId := create.virtioGpuContextId
  capsetId := create.virtioGpuCapsetId
  name := if create.contextName.isEmpty then none else some create.contextName

/-- The ring, buffer and combined allocations the constructor takes. -/
def allocateStorage (create : AddressSpaceCreateInfo) (g : Globals σ) (h : η) :
    Except String (Allocation × Allocation × Allocation × Globals σ × η) :=
  if create.isVirtio then
    (allocRingAndBufferStorageDedicated P create g h).map fun (combined, g, h) =>
      (allocRingViewIntoCombined P combined, allocBufferViewIntoCombined P combined, combined, g, h)
  else
    (allocRingStorage P g h).bind fun (ring, g, h) =>
      (allocBuffer P g h).map fun (buffer, g, h) => (ring, buffer, {}, g, h)

/-- `mConsumerInterface.create` with this context's virtio identity. -/
def createConsumer (info : Option VirtioGpuInfo) (fromLoad : Bool) (c : Consumers) :
    Nat × Consumers :=
  c.create fromLoad ((info.map VirtioGpuInfo.contextId).getD 0)
    ((info.map VirtioGpuInfo.capsetId).getD 0) (info.bind VirtioGpuInfo.name)

/-- The context the constructor leaves for `load` when it is made from a snapshot. -/
def snapshotContext : Context := { version := env.version, hostState := env.createdHostState }

/-- The constructor. A context made for a snapshot is left to `load`. -/
def Context.create (create : AddressSpaceCreateInfo) (w : World σ η) :
    Except String (Context × World σ η) :=
  if create.fromSnapshot then .ok (snapshotContext env, w)
  else
    let info := if create.isVirtio then some (virtioGpuInfoOf create) else none
    (allocateStorage P create w.globals w.host).bind fun (ring, buffer, combined, g, h) =>
      if ring.buffer = 0 then .error "Failed to allocate ring for ASG context"
      else if buffer.buffer = 0 then .error "Failed to allocate buffer for ASG context"
      else
        let ctx : Context :=
          { virtioGpuInfo := info
            ringAllocation := ring
            bufferAllocation := buffer
            combinedAllocation := combined
            ringConfig := freshRingConfig P env
            hostState := env.createdHostState
            savedConfig := freshRingConfig P env
            version := env.version }
        if create.createRenderThread then
          let (consumer, consumers) := createConsumer info false w.consumers
          .ok ({ ctx with currentConsumer := some consumer }, ⟨g, h, consumers⟩)
        else .ok (ctx, ⟨g, h, w.consumers⟩)

/-- `perform` on one ping: the context, the ping as the guest reads it back, and the consumer
interface. -/
def Context.perform (ctx : Context) (info : PingInfo) (c : Consumers) :
    Context × PingInfo × Consumers :=
  match env.command info.metadata with
  | some .getRing =>
    (ctx, { info with
      metadata := ctx.ringAllocation.offsetIntoPhys.toUInt64
      size := ctx.ringAllocation.size.toUInt64 }, c)
  | some .getBuffer =>
    (ctx, { info with
      metadata := ctx.bufferAllocation.offsetIntoPhys.toUInt64
      size := ctx.bufferAllocation.size.toUInt64 }, c)
  | some .setVersion =>
    let guestVersion := info.size.toUInt32
    let size := (if ctx.version > guestVersion then guestVersion else ctx.version).toUInt64
    let (consumer, c) := createConsumer none false c
    let metadata :=
      if ctx.virtioGpuInfo.isSome then ctx.combinedAllocation.hostmemId.toUInt64 else info.metadata
    ({ ctx with version := size.toUInt32, currentConsumer := some consumer },
      { metadata := metadata, size := size }, c)
  | some .notifyAvailable =>
    ({ ctx with consumerMessages := trySend env ctx.consumerMessages .wakeup },
      { info with metadata := 0 }, c)
  | some .getConfig =>
    ({ ctx with ringConfig := ctx.savedConfig }, { info with metadata := 0 }, c)
  | none => (ctx, info, c)

/-- The destructor: a current consumer finds the context exiting, its host state `EXIT` and an
`Exit` sent (a blocking `send`, which the consumer drains), and is destroyed; then the three
allocations go back to the pool, a view and a null allocation being passed over. The context is
returned as the consumer last saw it. -/
def Context.destroy (ctx : Context) (w : World σ η) : Except String (Context × World σ η) :=
  let (ctx, consumers) := match ctx.currentConsumer with
    | some consumer =>
      ({ ctx with
          exiting := 1
          hostState := .exit
          consumerMessages := ctx.consumerMessages ++ [ConsumerCommand.exit] },
        w.consumers.destroy consumer)
    | none => (ctx, w.consumers)
  (freeBuffer P ctx.bufferAllocation w.globals w.host).bind fun (g, h) =>
    (freeRingStorage P ctx.ringAllocation g h).bind fun (g, h) =>
      (freeRingAndBuffer P ctx.combinedAllocation g h).map fun (g, h) => (ctx, ⟨g, h, consumers⟩)

/-- A context's life: constructed, given `pings` in order, destroyed. -/
def Context.lifetime (create : AddressSpaceCreateInfo) (pings : List PingInfo) (w : World σ η) :
    Except String (World σ η) :=
  (Context.create P env create w).bind fun (ctx, w) =>
    let (ctx, consumers) := pings.foldl (fun (ctx, c) ping =>
      let (ctx, _, c) := ctx.perform env ping c
      (ctx, c)) (ctx, w.consumers)
    (ctx.destroy P { w with consumers := consumers }).map Prod.snd

section
variable {P env}

theorem perform_setVersion {ctx : Context} {info : PingInfo} (c : Consumers)
    (command : env.command info.metadata = some .setVersion) :
    ((ctx.perform env info c).1.currentConsumer = some c.created) ∧
      (ctx.perform env info c).2.2 =
        { created := c.created + 1, log := c.log ++ [.create c.created false 0 0 none] } := by
  simp [Context.perform, command, createConsumer, Consumers.create]

theorem Context.destroy_spec {ctx ctx' : Context} {w w' : World σ η}
    (ok : ctx.destroy P w = .ok (ctx', w')) :
    (∃ g₁ h₁ g₂ h₂, freeBuffer P ctx.bufferAllocation w.globals w.host = .ok (g₁, h₁) ∧
      freeRingStorage P ctx.ringAllocation g₁ h₁ = .ok (g₂, h₂) ∧
      freeRingAndBuffer P ctx.combinedAllocation g₂ h₂ = .ok (w'.globals, w'.host)) ∧
    w'.consumers.log = w.consumers.log ++ (ctx.currentConsumer.map ConsumerEvent.destroy).toList := by
  unfold Context.destroy at ok
  cases current : ctx.currentConsumer <;>
  · simp only [current, bind_eq_ok, map_eq_ok, Prod.mk.injEq] at ok
    obtain ⟨⟨g₁, h₁⟩, first, ⟨g₂, h₂⟩, second, ⟨g₃, h₃⟩, third, -, rfl⟩ := ok
    exact ⟨⟨g₁, h₁, g₂, h₂, first, second, third⟩, by simp [Consumers.destroy]⟩

theorem allocateStorage_virtio {create : AddressSpaceCreateInfo} {g g' : Globals σ} {h h' : η}
    {ring buffer combined : Allocation} (virtio : create.isVirtio = true)
    (ok : allocateStorage P create g h = .ok (ring, buffer, combined, g', h')) :
    allocRingAndBufferStorageDedicated P create g h = .ok (combined, g', h') ∧
      ring = allocRingViewIntoCombined P combined ∧
      buffer = allocBufferViewIntoCombined P combined := by
  simp only [allocateStorage, virtio, if_true, map_eq_ok] at ok
  obtain ⟨⟨combined₀, g₀, h₀⟩, taken, same⟩ := ok
  simp only [Prod.mk.injEq] at same
  obtain ⟨rfl, rfl, rfl, rfl, rfl⟩ := same
  exact ⟨taken, rfl, rfl⟩

theorem Context.create_spec {create : AddressSpaceCreateInfo} {w w' : World σ η} {ctx : Context}
    (fresh : create.fromSnapshot = false) (ok : Context.create P env create w = .ok (ctx, w')) :
    allocateStorage P create w.globals w.host =
        .ok (ctx.ringAllocation, ctx.bufferAllocation, ctx.combinedAllocation, w'.globals, w'.host) ∧
      ctx.ringAllocation.buffer ≠ 0 ∧ ctx.bufferAllocation.buffer ≠ 0 ∧
      ctx.virtioGpuInfo.isSome = create.isVirtio := by
  simp only [Context.create, fresh, Bool.false_eq_true, if_false, bind_eq_ok] at ok
  obtain ⟨⟨ring, buffer, combined, g, h⟩, taken, built⟩ := ok
  split at built
  · cases built
  split at built
  · cases built
  case isFalse ringOk bufferOk =>
  split at built <;> simp only [Except.ok.injEq, Prod.mk.injEq] at built <;>
    obtain ⟨rfl, rfl⟩ := built <;> exact ⟨taken, ringOk, bufferOk, by cases create.isVirtio <;> rfl⟩

theorem create_virtio_views {create : AddressSpaceCreateInfo} {w w' : World σ η} {ctx : Context}
    (virtio : create.isVirtio = true) (fresh : create.fromSnapshot = false)
    (ok : Context.create P env create w = .ok (ctx, w')) :
    ctx.bufferAllocation.buffer = ctx.ringAllocation.buffer + P.ringStorageSize ∧
      ctx.bufferAllocation.offsetIntoPhys = ctx.ringAllocation.offsetIntoPhys ∧
      ctx.ringAllocation.offsetIntoPhys = ctx.combinedAllocation.offsetIntoPhys := by
  obtain ⟨taken, -, -, -⟩ := Context.create_spec fresh ok
  obtain ⟨-, ring, buffer⟩ := allocateStorage_virtio virtio taken
  rw [ring, buffer]
  exact ⟨rfl, rfl, rfl⟩

end

/-- `asg_command` numbered as the guest numbers it: `ASG_GET_RING` 0 to `ASG_GET_CONFIG` 4. -/
def referenceCommand (metadata : UInt64) : Option AsgCommand :=
  match metadata.toNat with
  | 0 => some .getRing
  | 1 => some .getBuffer
  | 2 => some .setVersion
  | 3 => some .notifyAvailable
  | 4 => some .getConfig
  | _ => none

def referenceEnv : ContextEnv where
  version := 1
  writeStepSize := 4096
  channelCapacity := 4
  createdHostState := .canConsume
  command := referenceCommand
  consumerSave := leb128
  consumerLoad s := (readLeb128 s).2

/-- A context with a render thread, one `ASG_SET_VERSION`, then destroyed: two consumers are
created and only the second is destroyed. -/
theorem setVersion_leaks_consumer :
    (Context.lifetime referencePlatform referenceEnv { createRenderThread := true }
      [{ metadata := 2, size := 1 }] ⟨{}, {}, {}⟩).toOption.map (fun w => w.consumers.log) =
      some [.create 0 false 0 0 none, .create 1 false 0 0 none, .destroy 1] := by
  decide

/-- A virtio context over 48 bytes at address 4096: `ASG_GET_RING` and `ASG_GET_BUFFER` both
answer physical offset 0, for 16 and 32 bytes, while the buffer view starts 16 bytes in. -/
theorem virtio_buffer_view_offset :
    (Context.create referencePlatform referenceEnv
      { handle := 1, isVirtio := true, externalAddr := 4096, externalAddrSize := 48 }
      ⟨{}, {}, {}⟩).toOption.map (fun (ctx, _) =>
        ((ctx.perform referenceEnv { metadata := 0 } {}).2.1,
          (ctx.perform referenceEnv { metadata := 1 } {}).2.1,
          ctx.bufferAllocation.buffer - ctx.ringAllocation.buffer)) =
      some ({ metadata := 0, size := 16 }, { metadata := 0, size := 32 }, 16) := by
  decide

end Asg
