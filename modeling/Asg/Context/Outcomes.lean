import Asg.Snapshot.Restore

/-! What the constructor and the destructor can die of. The first-fit loop of `newAllocation`
never runs out of slots for a ring or buffer request: it dies only for a request larger than a
block, or when the host refuses a region. So in every state of a run, a constructor of a
non-virtio context dies of nothing else, and its own null checks never fire. A virtio context
given no external memory is never constructed: the dedicated request it makes is one
`fillBlockLocked` refuses. And the destructor of a live context never dies: each allocation it
frees is live in its pool, or a view or null, which the frees pass over. -/

set_option autoImplicit false

namespace Asg

theorem bind_eq_error {ε α β : Type} {x : Except ε α} {f : α → Except ε β} {e : ε} :
    x.bind f = .error e ↔ x = .error e ∨ ∃ a, x = .ok a ∧ f a = .error e := by
  cases x <;> simp [Except.bind]

theorem map_eq_error {ε α β : Type} {x : Except ε α} {f : α → β} {e : ε} :
    x.map f = .error e ↔ x = .error e := by
  cases x <;> simp [Except.map]

variable {σ η : Type} {P : Platform σ η}

section
variable {create : AllocationCreateInfo} (shared : create.dedicatedContextHandle = none)
  (plain : create.virtioGpu = false)
include shared plain

theorem fillBlockLocked_shared_error {block : Block σ} {h : η} {e : String}
    (died : fillBlockLocked P create block h = .error e) :
    create.fromLoad = false ∧ e = "Failed to allocate physical address graphics backing memory." := by
  simp only [fillBlockLocked, shared, plain, Bool.false_eq_true, if_false, map_eq_error,
    physRegion] at died
  cases load : create.fromLoad
  · cases region : P.host.allocSharedHostRegionLocked h P.blockSize <;>
      simp only [load, region, Bool.false_eq_true, if_false, reduceCtorEq, Except.error.injEq] at died
    exact ⟨rfl, died.symm⟩
  · simp [load] at died

theorem scanBlocks_shared_error {index : Nat} {blocks : List (Block σ)} {h : η} {e : String}
    (died : scanBlocks P create index blocks h = .error e) :
    create.fromLoad = false ∧ e = "Failed to allocate physical address graphics backing memory." := by
  induction blocks generalizing index h with
  | nil => cases died
  | cons C rest ih =>
    rcases bind_eq_error.1 died with visit | ⟨⟨C₁, h₁⟩, -, tail⟩
    · cases empty : C.isEmpty
      · simp [fillIfEmpty_of_not_isEmpty empty] at visit
      · rw [fillIfEmpty_of_isEmpty empty] at visit
        exact fillBlockLocked_shared_error shared plain visit
    · cases attempt : tryAlloc P create C₁ with
      | some r => simp [attempt] at tail
      | none =>
        simp only [attempt] at tail
        exact ih (map_eq_error.1 tail)

theorem newAllocation_shared_error (serves : FreshServes P create) {blocks : List (Block σ)}
    {h : η} {e : String} (died : newAllocation P create blocks h = .error e) :
    P.blockSize < create.size ∧ e = "wanted size 0x%llx which is greater than block size 0x%llx" ∨
      create.fromLoad = false ∧
        e = "Failed to allocate physical address graphics backing memory." := by
  unfold newAllocation at died
  split at died
  case isTrue large => exact .inl ⟨large, (Except.error.inj died).symm⟩
  rcases bind_eq_error.1 died with scan | ⟨⟨found, blocks₁, h₁⟩, -, rest⟩
  · exact .inr (scanBlocks_shared_error shared plain scan)
  cases found with
  | some a => cases rest
  | none =>
    rcases bind_eq_error.1 rest with fill | ⟨⟨N, h₂⟩, filled, carve⟩
    · exact .inr (fillBlockLocked_shared_error shared plain fill)
    · obtain ⟨⟨off, s⟩, served⟩ := Option.isSome_iff_exists.1 serves
      have fresh : N.alloc P.subAllocator create.size = some (off, { N with subAlloc := some s }) := by
        simp [Block.alloc, (fillBlockLocked_filled filled).2.2, served]
      simp [fresh] at carve

end

section
variable {create : AllocationCreateInfo} (dedicated : create.dedicatedContextHandle.isSome)
  (virtio : create.virtioGpu = true) (unbacked : create.externalAddr = 0)
include dedicated virtio unbacked

theorem fillBlockLocked_unbacked (block : Block σ) (h : η) :
    fillBlockLocked P create block h =
      .error "Cannot use dedicated allocation without virtio-gpu hostmem id" := by
  obtain ⟨handle, some⟩ := Option.isSome_iff_exists.1 dedicated
  simp [fillBlockLocked, some, virtio, unbacked]

theorem scanBlocks_unbacked {blocks : List (Block σ)}
    (refuses : ∀ C ∈ blocks, C.isEmpty = false → tryAlloc P create C = none) (index : Nat)
    (h : η) :
    scanBlocks P create index blocks h =
        .error "Cannot use dedicated allocation without virtio-gpu hostmem id" ∨
      scanBlocks P create index blocks h = .ok (none, blocks, h) := by
  induction blocks generalizing index with
  | nil => exact .inr rfl
  | cons C rest ih =>
    cases empty : C.isEmpty
    · have passed := refuses C (List.mem_cons_self _ _) empty
      rcases ih (fun D member => refuses D (List.mem_cons_of_mem _ member)) (index + 1) with
        died | tail
      · exact .inl (by simp [scanBlocks, empty, fillIfEmpty, passed, died, Except.bind, Except.map])
      · exact .inr (by simp [scanBlocks, empty, fillIfEmpty, passed, tail, Except.bind, Except.map])
    · exact .inl (by
        simp [scanBlocks, fillIfEmpty_of_isEmpty empty,
          fillBlockLocked_unbacked dedicated virtio unbacked, Except.bind])

theorem newAllocation_unbacked {blocks : List (Block σ)}
    (refuses : ∀ C ∈ blocks, C.isEmpty = false → tryAlloc P create C = none) (h : η) :
    newAllocation P create blocks h = .error
      (if P.blockSize < create.size then "wanted size 0x%llx which is greater than block size 0x%llx"
      else "Cannot use dedicated allocation without virtio-gpu hostmem id") := by
  unfold newAllocation
  split
  case isTrue large => simp [large]
  case isFalse =>
    rcases scanBlocks_unbacked dedicated virtio unbacked refuses 0 h with died | passed
    · rw [died]; rfl
    · simp [passed, Except.bind, fillBlockLocked_unbacked dedicated virtio unbacked]

end

section
variable {env : ContextEnv}

/-- In every state of a run that also clears the pools and restores snapshots, a constructor of
a non-virtio context dies only inside the pool: for a ring storage or per-context buffer larger
than a block, or when the host refuses a region. Its checks for a null ring or buffer never fire,
and no request fails for want of a slot. -/
theorem restore_run_create_plain_dies_in_pool (wf : P.Wf) (fits : P.Fits)
    (sc : P.subAllocator.Contract) (hc : P.host.Contract) (loads : P.subAllocator.LoadsSaved)
    (restores : ∀ consumer rest, env.consumerLoad (env.consumerSave consumer ++ rest) = rest)
    (grants : GrantsFree hc) (servesRing : FreshServes P { size := P.ringStorageSize })
    (servesBuffer : FreshServes P { size := P.perContextBufferSize }) {h₀ : η} {d : Device σ η}
    (run : RestoreRun P env h₀ d) {create : AddressSpaceCreateInfo}
    (fresh : create.fromSnapshot = false) (plain : create.isVirtio = false) {e : String}
    (died : Context.create P env create d.world = .error e) :
    (P.blockSize < P.ringStorageSize ∨ P.blockSize < P.perContextBufferSize) ∧
        e = "wanted size 0x%llx which is greater than block size 0x%llx" ∨
      e = "Failed to allocate physical address graphics backing memory." := by
  have inv : DeviceInv sc hc (hc.outstanding h₀) d := run.inv wf fits loads restores grants
  simp only [Context.create, fresh, Bool.false_eq_true, if_false] at died
  rcases bind_eq_error.1 died with taken | ⟨⟨ring, buffer, combined, g, h⟩, taken, checks⟩
  · simp only [allocateStorage, plain, Bool.false_eq_true, if_false] at taken
    rcases bind_eq_error.1 taken with first | ⟨⟨ring, g₁, h₁⟩, -, second⟩
    · simp only [allocRingStorage, allocIn, map_eq_error] at first
      rcases newAllocation_shared_error rfl rfl servesRing first with ⟨large, rfl⟩ | ⟨-, rfl⟩
      · exact .inl ⟨.inl large, rfl⟩
      · exact .inr rfl
    · simp only [allocBuffer, allocIn, map_eq_error] at second
      rcases newAllocation_shared_error rfl rfl servesBuffer second with ⟨large, rfl⟩ | ⟨-, rfl⟩
      · exact .inl ⟨.inr large, rfl⟩
      · exact .inr rfl
  · simp only [allocateStorage, plain, Bool.false_eq_true, if_false, bind_eq_ok, map_eq_ok,
      Prod.mk.injEq] at taken
    obtain ⟨⟨ring, g₁, h₁⟩, first, ⟨buffer, g₂, h₂⟩, second, rfl, rfl, -, rfl, rfl⟩ := taken
    have pool := inv.pool.step wf (.allocRingStorage first)
    have ringLive := @PoolInv.nonnull _ _ _ _ _ _ _ .ring ring pool (by simp)
    have bufferLive :=
      @PoolInv.nonnull _ _ _ _ _ _ _ .buffer buffer (pool.step wf (.allocBuffer second)) (by simp)
    simp only [ringLive, bufferLive, if_false] at checks
    split at checks <;> cases checks

/-- A host with the top of the 64-bit window taken refuses the reference platform its first
region. -/
theorem restore_run_create_plain_dies_in_pool_fullHost :
    FreshServes referencePlatform { size := referencePlatform.ringStorageSize } ∧
      FreshServes referencePlatform { size := referencePlatform.perContextBufferSize } ∧
      Context.create referencePlatform referenceEnv {} ⟨{}, { regions := [2 ^ 64 - 1] }, {}⟩ =
        .error "Failed to allocate physical address graphics backing memory." ∧
      ((referencePlatform.blockSize < referencePlatform.ringStorageSize ∨
          referencePlatform.blockSize < referencePlatform.perContextBufferSize) ∧
          "Failed to allocate physical address graphics backing memory." =
            "wanted size 0x%llx which is greater than block size 0x%llx" ∨
        "Failed to allocate physical address graphics backing memory." =
          "Failed to allocate physical address graphics backing memory.") :=
  have died : Context.create referencePlatform referenceEnv {} ⟨{}, { regions := [2 ^ 64 - 1] }, {}⟩ =
      .error "Failed to allocate physical address graphics backing memory." := rfl
  ⟨rfl, rfl, died, restore_run_create_plain_dies_in_pool referencePlatform_wf
    referencePlatform_fits wholeAllocator.contract listHost.contract wholeAllocator_loadsSaved
    referenceEnv_restores listHost_grantsFree rfl rfl .init rfl rfl died⟩

/-- In every state of a run that also clears the pools and restores snapshots, a virtio context
given no external memory is never constructed: the constructor dies for want of a handle, for a
ring and buffer larger than a block, or else in fillBlockLocked, which refuses a dedicated block
without external memory. -/
theorem restore_run_create_virtio_unbacked (wf : P.Wf) (fits : P.Fits)
    (sc : P.subAllocator.Contract) (hc : P.host.Contract) (loads : P.subAllocator.LoadsSaved)
    (restores : ∀ consumer rest, env.consumerLoad (env.consumerSave consumer ++ rest) = rest)
    (grants : GrantsFree hc) {h₀ : η} {d : Device σ η} (run : RestoreRun P env h₀ d)
    {create : AddressSpaceCreateInfo} (fresh : create.fromSnapshot = false)
    (virtio : create.isVirtio = true) (unbacked : create.externalAddr = 0) :
    Context.create P env create d.world = .error
      (if create.handle = 0 then "Dedicated ASG allocation requested without dedicated handle.\n"
      else if P.blockSize < P.ringStorageSize + P.perContextBufferSize then
        "wanted size 0x%llx which is greater than block size 0x%llx"
      else "Cannot use dedicated allocation without virtio-gpu hostmem id") := by
  have inv : DeviceInv sc hc (hc.outstanding h₀) d := run.inv wf fits loads restores grants
  have positive : 0 < P.ringStorageSize + P.perContextBufferSize := by
    have := wf.ringStorage_pos
    omega
  simp only [Context.create, fresh, Bool.false_eq_true, if_false, allocateStorage, virtio, if_true,
    allocRingAndBufferStorageDedicated, unbacked]
  by_cases handle : create.handle = 0
  · simp only [if_pos handle]
    rfl
  · have refuses : ∀ C ∈ d.world.globals.blocks .combined, C.isEmpty = false →
        tryAlloc P { size := P.ringStorageSize + P.perContextBufferSize
                     dedicatedContextHandle := some create.handle.toNat
                     virtioGpu := true } C = none :=
      fun C member filled => inv.pool.combined_refuses member filled positive
    simp only [if_neg handle, allocIn]
    rw [newAllocation_unbacked (by rfl) (by rfl) (by rfl) refuses]
    rfl

theorem restore_run_create_virtio_unbacked_reference :
    RestoreRun referencePlatform referenceEnv {} referenceRestored ∧
      Context.create referencePlatform referenceEnv { handle := 1, isVirtio := true }
          referenceRestored.world =
        .error "Cannot use dedicated allocation without virtio-gpu hostmem id" :=
  ⟨referenceRestored_run, restore_run_create_virtio_unbacked referencePlatform_wf
    referencePlatform_fits wholeAllocator.contract listHost.contract wholeAllocator_loadsSaved
    referenceEnv_restores listHost_grantsFree referenceRestored_run rfl rfl rfl⟩

theorem PoolInv.deleteIn_ok {sc : P.subAllocator.Contract} {hc : P.host.Contract}
    {base : Outstanding} {s : PoolState σ η} (inv : PoolInv sc hc base s) {p : Pool}
    {a : Allocation} (live : a ∈ s.live p) :
    ∃ g h, deleteIn P p a s.globals s.host = .ok (g, h) := by
  obtain ⟨blocks', h', ok⟩ := inv.deleteAllocation_ok live
  exact ⟨s.globals.setBlocks p blocks', h', by simp [deleteIn, ok, Except.map]⟩

/-- In every state of a run that also clears the pools and restores snapshots, the destructor
of a live context does not die: the buffer, the ring and the combined allocation it frees are
each live in their pool, or a view or the null allocation, which the frees pass over. -/
theorem restore_run_destroy_succeeds (wf : P.Wf) (fits : P.Fits) (sc : P.subAllocator.Contract)
    (hc : P.host.Contract) (loads : P.subAllocator.LoadsSaved)
    (restores : ∀ consumer rest, env.consumerLoad (env.consumerSave consumer ++ rest) = rest)
    (grants : GrantsFree hc) {h₀ : η} {d : Device σ η} (run : RestoreRun P env h₀ d)
    {ctx : Context} (member : ctx ∈ d.contexts) :
    ∃ ctx' w, ctx.destroy P d.world = .ok (ctx', w) := by
  have inv : DeviceInv sc hc (hc.outstanding h₀) d := run.inv wf fits loads restores grants
  have live : ∀ p, ∀ a ∈ ctx.holds p, a ∈ liveOf d.contexts p := fun p a held =>
    List.mem_flatMap.2 ⟨ctx, member, held⟩
  suffices frees : ∃ g₁ h₁ g₂ h₂ g₃ h₃,
      freeBuffer P ctx.bufferAllocation d.world.globals d.world.host = .ok (g₁, h₁) ∧
      freeRingStorage P ctx.ringAllocation g₁ h₁ = .ok (g₂, h₂) ∧
      freeRingAndBuffer P ctx.combinedAllocation g₂ h₂ = .ok (g₃, h₃) by
    obtain ⟨g₁, h₁, g₂, h₂, g₃, h₃, first, second, third⟩ := frees
    unfold Context.destroy
    cases ctx.currentConsumer <;> simp [first, second, third, Except.bind, Except.map]
  have shaped := inv.shaped ctx member
  unfold Context.Shaped at shaped
  split at shaped
  case isTrue virtio =>
    obtain ⟨ring, buffer, -⟩ := shaped
    obtain ⟨g₃, h₃, third⟩ :=
      inv.pool.deleteIn_ok (live .combined ctx.combinedAllocation (by simp [Context.holds, virtio]))
    exact ⟨_, _, _, _, g₃, h₃, by rw [buffer, freeBuffer, freeIn_view rfl],
      by rw [ring, freeRingStorage, freeIn_view rfl], third⟩
  case isFalse plain =>
    have liveBuffer := live .buffer ctx.bufferAllocation (by simp [Context.holds, plain])
    have liveRing := live .ring ctx.ringAllocation (by simp [Context.holds, plain])
    obtain ⟨B, -, -, placedBuffer⟩ := (inv.pool.slots .buffer).placed _ liveBuffer
    obtain ⟨R, -, -, placedRing⟩ := (inv.pool.slots .ring).placed _ liveRing
    obtain ⟨g₁, h₁, first⟩ := inv.pool.deleteIn_ok liveBuffer
    obtain ⟨g₂, h₂, second⟩ := @PoolInv.deleteIn_ok _ _ _ _ _ _ _ (inv.pool.delete liveBuffer first)
      .ring ctx.ringAllocation (by simpa using liveRing)
    exact ⟨g₁, h₁, g₂, h₂, g₂, h₂, by rwa [freeBuffer, freeIn_not_view placedBuffer.notView],
      by rwa [freeRingStorage, freeIn_not_view placedRing.notView],
      by rw [freeRingAndBuffer, deleteIn_null (by simp [shaped])]⟩

theorem restore_run_destroy_succeeds_reference :
    RestoreRun referencePlatform referenceEnv {} referenceDevice ∧
      referenceDevice.contexts.getD 0 {} ∈ referenceDevice.contexts ∧
      ∃ ctx' w, (referenceDevice.contexts.getD 0 {}).destroy referencePlatform
        referenceDevice.world = .ok (ctx', w) :=
  have member : referenceDevice.contexts.getD 0 {} ∈ referenceDevice.contexts := by decide
  ⟨referenceDevice_run.restoreRun, member, restore_run_destroy_succeeds referencePlatform_wf
    referencePlatform_fits wholeAllocator.contract listHost.contract wholeAllocator_loadsSaved
    referenceEnv_restores listHost_grantsFree referenceDevice_run.restoreRun member⟩

end

end Asg
