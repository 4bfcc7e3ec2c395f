import Asg.Snapshot.Globals
import Asg.Context.Lifecycle

/-! `AddressSpaceGraphicsContext::save` and `load`. A save writes the virtio identity, the
version, the exiting flag, the count of unavailable reads, the three allocations as index,
physical offset, size and view flag, the saved ring config, and the consumer. A load reads them
back into a context the constructor made for a snapshot, points the allocations back into the
loaded pools with `fillAllocFromLoad` (for virtio, the combined one and its two views), and
creates a consumer over the stream where one was saved. -/

set_option autoImplicit false

namespace Asg

def saveAllocation (alloc : Allocation) : List UInt8 :=
  putBe64 alloc.blockIndex ++ putBe64 alloc.offsetIntoPhys ++ putBe64 alloc.size ++
    putBe32 (if alloc.isView then 1 else 0)

def loadAllocation (alloc : Allocation) (s : List UInt8) : Allocation × List UInt8 :=
  let blockIndex := getBe64 s
  let offsetIntoPhys := getBe64 blockIndex.2
  let size := getBe64 offsetIntoPhys.2
  let isView := getBe32 size.2
  ({ alloc with
      blockIndex := blockIndex.1
      offsetIntoPhys := offsetIntoPhys.1
      size := size.1
      isView := isView.1 != 0 }, isView.2)

def saveRingConfig (config : RingConfig) : List UInt8 :=
  putBe32 config.bufferSize.toNat ++ putBe32 config.flushInterval.toNat ++
    putBe32 config.hostConsumedPos.toNat ++ putBe32 config.guestWritePos.toNat ++
    putBe32 config.transferMode.toNat ++ putBe32 config.transferSize.toNat ++
    putBe32 config.inError.toNat

def loadRingConfig (s : List UInt8) : RingConfig × List UInt8 :=
  let bufferSize := getBe32 s
  let flushInterval := getBe32 bufferSize.2
  let hostConsumedPos := getBe32 flushInterval.2
  let guestWritePos := getBe32 hostConsumedPos.2
  let transferMode := getBe32 guestWritePos.2
  let transferSize := getBe32 transferMode.2
  let inError := getBe32 transferSize.2
  ({ bufferSize := bufferSize.1.toUInt32
     flushInterval := flushInterval.1.toUInt32
     hostConsumedPos := hostConsumedPos.1.toUInt32
     guestWritePos := guestWritePos.1.toUInt32
     transferMode := transferMode.1.toUInt32
     transferSize := transferSize.1.toUInt32
     inError := inError.1.toUInt32 }, inError.2)

def putVirtioGpuInfo (info : VirtioGpuInfo) : List UInt8 :=
  putBe32 info.contextId.toNat ++ putBe32 info.capsetId.toNat ++
    match info.name with
    | some name => putBe32 1 ++ putString name
    | none => putBe32 0

def saveVirtioGpuInfo : Option VirtioGpuInfo → List UInt8
  | some info => putBe32 1 ++ putVirtioGpuInfo info
  | none => putBe32 0

def loadVirtioGpuInfo (s : List UInt8) : VirtioGpuInfo × List UInt8 :=
  let contextId := getBe32 s
  let capsetId := getBe32 contextId.2
  let hasName := getBe32 capsetId.2
  let name : Option (List UInt8) × List UInt8 :=
    if hasName.1 = 1 then (some (getString hasName.2).1, (getString hasName.2).2)
    else (none, hasName.2)
  ({ contextId := contextId.1.toUInt32, capsetId := capsetId.1.toUInt32, name := name.1 }, name.2)

/-- The fields `save` writes of a context, up to the flag of its consumer. -/
structure SavedContext where
  virtioGpuInfo : Option VirtioGpuInfo
  version : UInt32
  exiting : UInt32
  unavailableReadCount : UInt32
  ringAllocation : Allocation
  bufferAllocation : Allocation
  combinedAllocation : Allocation
  savedConfig : RingConfig
  hasConsumer : Bool

def Context.saved (ctx : Context) : SavedContext :=
  ⟨ctx.virtioGpuInfo, ctx.version, ctx.exiting, ctx.unavailableReadCount, ctx.ringAllocation,
    ctx.bufferAllocation, ctx.combinedAllocation, ctx.savedConfig, ctx.currentConsumer.isSome⟩

def putSavedContext (r : SavedContext) : List UInt8 :=
  saveVirtioGpuInfo r.virtioGpuInfo ++ putBe32 r.version.toNat ++ putBe32 r.exiting.toNat ++
    putBe32 r.unavailableReadCount.toNat ++ saveAllocation r.ringAllocation ++
    saveAllocation r.bufferAllocation ++ saveAllocation r.combinedAllocation ++
    saveRingConfig r.savedConfig ++ putBe32 (if r.hasConsumer then 1 else 0)

/-- The virtio identity `load` reads: the saved one where its flag is set, else `current`. -/
def getVirtioGpuInfo (current : Option VirtioGpuInfo) (s : List UInt8) :
    Option VirtioGpuInfo × List UInt8 :=
  let hasVirtioGpuInfo := getBe32 s
  if hasVirtioGpuInfo.1 = 1 then
    (some (loadVirtioGpuInfo hasVirtioGpuInfo.2).1, (loadVirtioGpuInfo hasVirtioGpuInfo.2).2)
  else (current, hasVirtioGpuInfo.2)

def getSavedContext (ctx : Context) (s : List UInt8) : SavedContext × List UInt8 :=
  let virtioGpuInfo := getVirtioGpuInfo ctx.virtioGpuInfo s
  let version := getBe32 virtioGpuInfo.2
  let exiting := getBe32 version.2
  let unavailableReadCount := getBe32 exiting.2
  let ring := loadAllocation ctx.ringAllocation unavailableReadCount.2
  let buffer := loadAllocation ctx.bufferAllocation ring.2
  let combined := loadAllocation ctx.combinedAllocation buffer.2
  let savedConfig := loadRingConfig combined.2
  let hasConsumer := getBe32 savedConfig.2
  (⟨virtioGpuInfo.1, version.1.toUInt32, exiting.1.toUInt32, unavailableReadCount.1.toUInt32,
    ring.1, buffer.1, combined.1, savedConfig.1, hasConsumer.1 = 1⟩, hasConsumer.2)

variable {σ η : Type} (P : Platform σ η) (env : ContextEnv)

def Context.save (ctx : Context) : List UInt8 :=
  putSavedContext ctx.saved ++
    match ctx.currentConsumer with
    | some consumer => env.consumerSave consumer
    | none => []

/-- The allocations a load points back into the pools: a virtio context's ring and buffer are
views of its combined allocation. -/
def attachAllocations (g : Globals σ) (virtio : Bool) (ring buffer combined : Allocation) :
    Allocation × Allocation × Allocation :=
  if virtio then
    let combined := g.fillAllocFromLoad combined .combined
    (allocRingViewIntoCombined P combined, allocBufferViewIntoCombined P combined, combined)
  else (g.fillAllocFromLoad ring .ring, g.fillAllocFromLoad buffer .buffer, combined)

/-- `load` into `ctx`, over the pools `g` that `Globals::load` left. The ring header keeps the
fields of `ctx` but the two the load writes: the live header is in the ring storage's bytes. -/
def Context.load (g : Globals σ) (ctx : Context) (c : Consumers) (s : List UInt8) :
    Context × Consumers × List UInt8 :=
  let saved := getSavedContext ctx s
  let attached := attachAllocations P g saved.1.virtioGpuInfo.isSome saved.1.ringAllocation
    saved.1.bufferAllocation saved.1.combinedAllocation
  let loaded := { ctx with
    virtioGpuInfo := saved.1.virtioGpuInfo
    version := saved.1.version
    exiting := saved.1.exiting
    unavailableReadCount := saved.1.unavailableReadCount
    ringAllocation := attached.1
    bufferAllocation := attached.2.1
    combinedAllocation := attached.2.2
    ringConfig := { ctx.ringConfig with
      bufferSize := P.perContextBufferSize.toUInt32
      flushInterval := env.writeStepSize }
    savedConfig := saved.1.savedConfig }
  if saved.1.hasConsumer then
    let consumer := createConsumer saved.1.virtioGpuInfo true c
    ({ loaded with currentConsumer := some consumer.1 }, consumer.2, env.consumerLoad saved.2)
  else (loaded, c, saved.2)

def saveContexts (ctxs : List Context) : List UInt8 :=
  ctxs.flatMap (Context.save env)

/-- The device's load of `n` contexts in order, each made by the constructor for a snapshot and
then given the stream. -/
def loadContexts (g : Globals σ) : Nat → Consumers → List UInt8 →
    List Context × Consumers × List UInt8
  | 0, c, s => ([], c, s)
  | n + 1, c, s =>
    let first := (snapshotContext env).load P env g c s
    let rest := loadContexts g n first.2.1 first.2.2
    (first.1 :: rest.1, rest.2)

/-- What `loadAllocation` reads back into a fresh allocation from the save of `a`: its index,
offset and size, each cut to its 64-bit field, and its view flag. -/
def Allocation.reread (a : Allocation) : Allocation :=
  { blockIndex := a.blockIndex % 2 ^ 64
    offsetIntoPhys := a.offsetIntoPhys % 2 ^ 64
    size := a.size % 2 ^ 64
    isView := a.isView }

theorem loadAllocation_saveAllocation (a : Allocation) (rest : List UInt8) :
    loadAllocation {} (saveAllocation a ++ rest) = (a.reread, rest) := by
  cases view : a.isView <;>
    simp [loadAllocation, saveAllocation, Allocation.reread, view, List.append_assoc,
      getBe64_putBe64, getBe32_putBe32]

@[simp] theorem toUInt32_toNat (v : UInt32) : v.toNat.toUInt32 = v :=
  UInt32.toNat.inj (UInt32.toNat_ofNat_of_lt v.toNat_lt_size)

theorem getBe32_putBe32_toNat (v : UInt32) (rest : List UInt8) :
    getBe32 (putBe32 v.toNat ++ rest) = (v.toNat, rest) :=
  getBe32_putBe32_of_lt v.toNat_lt_size rest

theorem loadRingConfig_saveRingConfig (config : RingConfig) (rest : List UInt8) :
    loadRingConfig (saveRingConfig config ++ rest) = (config, rest) := by
  simp only [loadRingConfig, saveRingConfig, List.append_assoc, getBe32_putBe32_toNat,
    toUInt32_toNat]

theorem loadVirtioGpuInfo_putVirtioGpuInfo {info : VirtioGpuInfo}
    (named : ∀ name ∈ info.name, name.length < 2 ^ 32) (rest : List UInt8) :
    loadVirtioGpuInfo (putVirtioGpuInfo info ++ rest) = (info, rest) := by
  obtain ⟨contextId, capsetId, _ | name⟩ := info
  · simp [loadVirtioGpuInfo, putVirtioGpuInfo, List.append_assoc, getBe32_putBe32_toNat,
      getBe32_putBe32_of_lt (show 0 < 2 ^ 32 by decide)]
  · have short : name.length < 2 ^ 32 := named name rfl
    simp [loadVirtioGpuInfo, putVirtioGpuInfo, List.append_assoc, getBe32_putBe32_toNat,
      getBe32_putBe32_of_lt (show 1 < 2 ^ 32 by decide), getString_putString short]

theorem getVirtioGpuInfo_saveVirtioGpuInfo {info : Option VirtioGpuInfo}
    (named : ∀ i ∈ info, ∀ name ∈ i.name, name.length < 2 ^ 32) (rest : List UInt8) :
    getVirtioGpuInfo none (saveVirtioGpuInfo info ++ rest) = (info, rest) := by
  cases info with
  | none => simp [getVirtioGpuInfo, saveVirtioGpuInfo, getBe32_putBe32_of_lt (show 0 < 2 ^ 32 by decide)]
  | some i =>
    simp [getVirtioGpuInfo, saveVirtioGpuInfo, List.append_assoc,
      getBe32_putBe32_of_lt (show 1 < 2 ^ 32 by decide),
      loadVirtioGpuInfo_putVirtioGpuInfo (named i rfl)]

theorem getSavedContext_putSavedContext (env : ContextEnv) {r : SavedContext}
    (named : ∀ info ∈ r.virtioGpuInfo, ∀ name ∈ info.name, name.length < 2 ^ 32)
    (rest : List UInt8) :
    getSavedContext (snapshotContext env) (putSavedContext r ++ rest) =
      ({ r with
          ringAllocation := r.ringAllocation.reread
          bufferAllocation := r.bufferAllocation.reread
          combinedAllocation := r.combinedAllocation.reread }, rest) := by
  cases consumer : r.hasConsumer <;>
    simp [getSavedContext, putSavedContext, snapshotContext, List.append_assoc, consumer,
      getVirtioGpuInfo_saveVirtioGpuInfo named, getBe32_putBe32_toNat, loadAllocation_saveAllocation,
      loadRingConfig_saveRingConfig, getBe32_putBe32_of_lt (show 1 < 2 ^ 32 by decide),
      getBe32_putBe32_of_lt (show 0 < 2 ^ 32 by decide)]

theorem Context.load_of_saved (g : Globals σ) (c : Consumers) {ctx : Context} {s s' : List UInt8}
    {r : SavedContext} (read : getSavedContext ctx s = (r, s')) :
    let attached := attachAllocations P g r.virtioGpuInfo.isSome r.ringAllocation
      r.bufferAllocation r.combinedAllocation
    let loaded := { ctx with
      virtioGpuInfo := r.virtioGpuInfo
      version := r.version
      exiting := r.exiting
      unavailableReadCount := r.unavailableReadCount
      ringAllocation := attached.1
      bufferAllocation := attached.2.1
      combinedAllocation := attached.2.2
      ringConfig := { ctx.ringConfig with
        bufferSize := P.perContextBufferSize.toUInt32
        flushInterval := env.writeStepSize }
      savedConfig := r.savedConfig }
    ctx.load P env g c s =
      if r.hasConsumer then
        ({ loaded with currentConsumer := some (createConsumer r.virtioGpuInfo true c).1 },
          (createConsumer r.virtioGpuInfo true c).2, env.consumerLoad s')
      else (loaded, c, s') := by
  simp only [Context.load, read]

theorem Context.load_save
    (restores : ∀ consumer rest, env.consumerLoad (env.consumerSave consumer ++ rest) = rest)
    {ctx : Context} (named : ∀ info ∈ ctx.virtioGpuInfo, ∀ name ∈ info.name, name.length < 2 ^ 32)
    (g : Globals σ) (c : Consumers) (rest : List UInt8) :
    let loaded := (snapshotContext env).load P env g c (ctx.save env ++ rest)
    loaded.2.2 = rest ∧ loaded.1.virtioGpuInfo = ctx.virtioGpuInfo ∧
      loaded.1.version = ctx.version ∧ loaded.1.exiting = ctx.exiting ∧
      loaded.1.unavailableReadCount = ctx.unavailableReadCount ∧
      loaded.1.savedConfig = ctx.savedConfig ∧
      loaded.1.currentConsumer.isSome = ctx.currentConsumer.isSome ∧
      (loaded.1.ringAllocation, loaded.1.bufferAllocation, loaded.1.combinedAllocation) =
        attachAllocations P g ctx.virtioGpuInfo.isSome ctx.ringAllocation.reread
          ctx.bufferAllocation.reread ctx.combinedAllocation.reread ∧
      loaded.2.1 =
        if ctx.currentConsumer.isSome then (createConsumer ctx.virtioGpuInfo true c).2 else c := by
  intro loaded
  have read := getSavedContext_putSavedContext env
    (show ∀ info ∈ ctx.saved.virtioGpuInfo, ∀ name ∈ info.name, name.length < 2 ^ 32 from named)
  cases current : ctx.currentConsumer with
  | none =>
    have unfolded := Context.load_of_saved P env g c (read rest)
    dsimp only at unfolded
    simp only [loaded, Context.save, current, List.append_nil, unfolded]
    simp [Context.saved, current, snapshotContext]
  | some consumer =>
    have unfolded := Context.load_of_saved P env g c
      (read (env.consumerSave consumer ++ rest))
    dsimp only at unfolded
    simp only [loaded, Context.save, current, List.append_assoc, unfolded]
    simp [Context.saved, current, restores]

end Asg
