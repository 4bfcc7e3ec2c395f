import Asg.Pool.Slots
import Asg.Pool.Resources

/-! Runs of the pool's entry points from an empty `Globals`: `allocRingStorage`, `allocBuffer`,
`allocRingAndBufferStorageDedicated`, and the three frees, each given an allocation that is
live. `PoolInv` holds in every state of such a run, whatever the host had outstanding before. -/

set_option autoImplicit false

namespace Asg

variable {σ η : Type} (P : Platform σ η)

/-- The sizes as the source fixes them: a ring storage takes at least one byte. -/
structure Platform.Wf : Prop where
  ringStorage_pos : 0 < P.ringStorageSize

/-- A block of the ring or buffer pool is never dedicated; filled, it is an internal block of
the whole block size inside the 64-bit window. -/
def SharedShape (B : Block σ) : Prop :=
  B.dedicatedContextHandle = none ∧ B.external = false ∧ B.usesVirtioGpuHostmem = false ∧
    B.hostmemId = 0 ∧ (B.isEmpty = false →
      B.bufferSize = P.blockSize ∧ B.buffer ≠ 0 ∧ B.offsetIntoPhys + P.blockSize ≤ 2 ^ 64)

/-- A filled block of the combined pool is dedicated caller memory, its size and handle within
their 64- and 32-bit fields. -/
def CombinedShape (B : Block σ) : Prop :=
  B.isEmpty = false → B.external = true ∧ B.usesVirtioGpuHostmem = true ∧
    B.dedicatedContextHandle.isSome ∧ B.offsetIntoPhys = 0 ∧ B.buffer ≠ 0 ∧ 0 < B.bufferSize ∧
    B.bufferSize < 2 ^ 64 ∧ B.hostmemId = 0 ∧ ∀ handle ∈ B.dedicatedContextHandle, handle < 2 ^ 32

def Shape : Pool → Block σ → Prop
  | .combined => CombinedShape
  | _ => SharedShape P

theorem shape_shared {p : Pool} (shared : p ≠ .combined) (B : Block σ) :
    Shape P p B = SharedShape P B := by
  cases p <;> first | rfl | exact absurd rfl shared

/-- The pool, the host, and the allocations each pool has returned and not yet freed. -/
structure PoolState (σ η : Type) where
  globals : Globals σ
  host : η
  live : Pool → List Allocation

/-- One call of an entry point of the pool; a free is given a live allocation. -/
inductive PoolStep : PoolState σ η → PoolState σ η → Prop
  | allocRingStorage {s : PoolState σ η} {a : Allocation} {g : Globals σ} {h : η} :
    allocRingStorage P s.globals s.host = .ok (a, g, h) →
    PoolStep s ⟨g, h, Function.update s.live .ring (a :: s.live .ring)⟩
  | allocBuffer {s : PoolState σ η} {a : Allocation} {g : Globals σ} {h : η} :
    allocBuffer P s.globals s.host = .ok (a, g, h) →
    PoolStep s ⟨g, h, Function.update s.live .buffer (a :: s.live .buffer)⟩
  | allocRingAndBufferStorageDedicated {s : PoolState σ η} {a : Allocation} {g : Globals σ}
      {h : η} (asgCreate : AddressSpaceCreateInfo) :
    allocRingAndBufferStorageDedicated P asgCreate s.globals s.host = .ok (a, g, h) →
    PoolStep s ⟨g, h, Function.update s.live .combined (a :: s.live .combined)⟩
  | freeRingStorage {s : PoolState σ η} {a : Allocation} {g : Globals σ} {h : η} :
    a ∈ s.live .ring → freeRingStorage P a s.globals s.host = .ok (g, h) →
    PoolStep s ⟨g, h, Function.update s.live .ring ((s.live .ring).erase a)⟩
  | freeBuffer {s : PoolState σ η} {a : Allocation} {g : Globals σ} {h : η} :
    a ∈ s.live .buffer → freeBuffer P a s.globals s.host = .ok (g, h) →
    PoolStep s ⟨g, h, Function.update s.live .buffer ((s.live .buffer).erase a)⟩
  | freeRingAndBuffer {s : PoolState σ η} {a : Allocation} {g : Globals σ} {h : η} :
    a ∈ s.live .combined → freeRingAndBuffer P a s.globals s.host = .ok (g, h) →
    PoolStep s ⟨g, h, Function.update s.live .combined ((s.live .combined).erase a)⟩

/-- A run of entry points from an empty `Globals` and a host in state `h₀`, with the largest
number of allocations of each pool live at once so far. -/
inductive PoolRun (h₀ : η) : PoolState σ η → (Pool → Nat) → Prop
  | init : PoolRun h₀ ⟨{}, h₀, fun _ => []⟩ fun _ => 0
  | step {s s' : PoolState σ η} {peak : Pool → Nat} : PoolRun h₀ s peak → PoolStep P s s' →
    PoolRun h₀ s' fun p => max (peak p) (s'.live p).length

section
variable {P} (sc : P.subAllocator.Contract) (hc : P.host.Contract) (base : Outstanding)

theorem shape_getD {p : Pool} {blocks : List (Block σ)} (shapes : ∀ B ∈ blocks, Shape P p B)
    (vacant : Shape P p {}) (j : Nat) : Shape P p (blocks.getD j {}) := by
  rw [List.getD_eq_getElem?_getD]
  cases slot : blocks[j]? with
  | none => exact vacant
  | some B => exact shapes B (List.getElem?_mem slot)

theorem shape_vacant (p : Pool) : Shape P p ({} : Block σ) := by
  cases p <;> simp [Shape, SharedShape, CombinedShape]

theorem fillIfEmpty_shared {n : Nat} {old B₁ : Block σ} {h h' : η} (oldShape : SharedShape P old)
    (visit : fillIfEmpty P { size := n } old h = .ok (B₁, h')) :
    SharedShape P B₁ ∧ B₁.isEmpty = false ∧ (B₁ = old ∧ h' = h ∨ old.isEmpty = true ∧
      hc.outstanding h' = (hc.outstanding h).hold P (B₁.offsetIntoPhys, B₁.buffer) ∧
      ∀ r ∈ (hc.outstanding h).regions, Apart B₁.offsetIntoPhys P.blockSize r P.blockSize) := by
  cases empty : old.isEmpty
  · rw [fillIfEmpty_of_not_isEmpty empty, Except.ok.injEq, Prod.mk.injEq] at visit
    obtain ⟨rfl, rfl⟩ := visit
    exact ⟨oldShape, empty, .inl ⟨rfl, rfl⟩⟩
  · rw [fillIfEmpty_of_isEmpty empty] at visit
    obtain ⟨host, bound, nonnull, apart, -⟩ := fillBlockLocked_fresh_outstanding hc rfl rfl visit
    obtain ⟨-, o, h₁, buf, h₂, -, -, -, rfl⟩ := fillBlockLocked_shared rfl visit
    obtain ⟨handle, internal, plain, hostmem, -⟩ := oldShape
    exact ⟨⟨handle, internal, plain, hostmem, fun _ => ⟨rfl, nonnull, bound⟩⟩, rfl,
      .inr ⟨rfl, host, apart⟩⟩

/-- What every state of a run satisfies; `base` is what the host had outstanding at its start. -/
structure PoolInv (s : PoolState σ η) : Prop where
  slots : ∀ p, SlotInv sc (s.globals.blocks p) (s.live p)
  shape : ∀ p, ∀ B ∈ s.globals.blocks p, Shape P p B
  whole : ∀ i B, (s.globals.blocks .combined)[i]? = some B → B.isEmpty = false →
    ∃ a, inSlot (s.live .combined) i = [a] ∧ a.size = B.bufferSize
  balanced : (hc.outstanding s.host).Equiv (base.holding P (heldBy s.globals))
  separate : Separated P base (heldBy s.globals)

variable {sc hc base}

theorem PoolInv.change {s : PoolState σ η} {p : Pool} {blocks : List (Block σ)}
    {allocs : List Allocation} {h : η} (inv : PoolInv sc hc base s)
    (slots : SlotInv sc blocks allocs) (shape : ∀ B ∈ blocks, Shape P p B)
    (whole : p = .combined → ∀ i B, blocks[i]? = some B → B.isEmpty = false →
      ∃ a, inSlot allocs i = [a] ∧ a.size = B.bufferSize)
    (balanced : (hc.outstanding h).Equiv (base.holding P (heldBy (s.globals.setBlocks p blocks))))
    (separate : Separated P base (heldBy (s.globals.setBlocks p blocks))) :
    PoolInv sc hc base ⟨s.globals.setBlocks p blocks, h, Function.update s.live p allocs⟩ := by
  refine ⟨fun q => ?_, fun q => ?_, ?_, balanced, separate⟩
  · by_cases same : q = p
    · subst same; simpa using slots
    · simpa [same] using inv.slots q
  · by_cases same : q = p
    · subst same; simpa using shape
    · simpa [same] using inv.shape q
  · by_cases combined : p = .combined
    · subst combined; simpa using whole rfl
    · simpa [Ne.symm combined] using inv.whole

theorem PoolInv.sharedShape {s : PoolState σ η} {p : Pool} (inv : PoolInv sc hc base s)
    (shared : p ≠ .combined) : ∀ B ∈ s.globals.blocks p, SharedShape P B := fun B member => by
  simpa only [shape_shared P shared] using inv.shape p B member

theorem PoolInv.held_outstanding {s : PoolState σ η} (inv : PoolInv sc hc base s)
    {r : Nat × Nat} (member : r ∈ heldBy s.globals) : r.1 ∈ (hc.outstanding s.host).regions :=
  inv.balanced.1.symm.subset (List.mem_append_left _ (List.mem_map_of_mem _ member))

theorem PoolInv.base_outstanding {s : PoolState σ η} (inv : PoolInv sc hc base s) {o : Nat}
    (member : o ∈ base.regions) : o ∈ (hc.outstanding s.host).regions :=
  inv.balanced.1.symm.subset (List.mem_append_right _ member)

/-- `newAllocation_spec` in a ring or buffer pool, its assumptions discharged: a filled block
there carves the whole block size, so one that refuses a request refuses it for good. -/
theorem PoolInv.newAllocation_shared {s : PoolState σ η} {p : Pool} {n : Nat} {a : Allocation}
    {blocks' : List (Block σ)} {h : η} (inv : PoolInv sc hc base s) (shared : p ≠ .combined)
    (new : newAllocation P { size := n } (s.globals.blocks p) s.host = .ok (a, blocks', h)) :
    ∃ j B₁ off B', j ≤ (s.globals.blocks p).length ∧
      (∀ k < j, ∀ C, (s.globals.blocks p)[k]? = some C → C.isEmpty = false) ∧
      fillIfEmpty P { size := n } ((s.globals.blocks p).getD j {}) s.host = .ok (B₁, h) ∧
      tryAlloc P { size := n } B₁ = some (off, B') ∧
      a = Allocation.carved { size := n } j B₁ off ∧
      blocks' = placeAt (s.globals.blocks p) j B' := by
  have shapes := inv.sharedShape shared
  have monotone : ¬FreshServes P { size := n } → ∀ C ∈ s.globals.blocks p, C.isEmpty = false →
      tryAlloc P { size := n } C = none := by
    intro refused C member filled
    obtain ⟨i, slot⟩ := List.mem_iff_getElem?.1 member
    obtain ⟨sC, sub, total, -⟩ := (inv.slots p).linked i C slot filled
    have whole : sc.total sC = P.blockSize := total.trans ((shapes C member).2.2.2.2 filled).1
    have fresh : P.subAllocator.alloc (P.subAllocator.create (sc.total sC)) n = none := by
      simpa [FreshServes, fillTotal, whole] using refused
    simp [tryAlloc, Block.alloc, sub, sc.alloc_fresh fresh]
  obtain ⟨-, j, B₁, off, B', within, before, visit, attempt, carved, placed⟩ :=
    newAllocation_spec (fun C member _ _ => (shapes C member).1) monotone new
  exact ⟨j, B₁, off, B', within, fun k below C slot => (before k below C slot).1, visit, attempt,
    carved, placed⟩

theorem PoolInv.allocShared {s : PoolState σ η} {p : Pool} {n : Nat} {a : Allocation}
    {g : Globals σ} {h : η} (inv : PoolInv sc hc base s) (shared : p ≠ .combined)
    (ok : allocIn P p { size := n } s.globals s.host = .ok (a, g, h)) :
    PoolInv sc hc base ⟨g, h, Function.update s.live p (a :: s.live p)⟩ := by
  obtain ⟨blocks', new, rfl⟩ := allocIn_ok ok
  obtain ⟨j, B₁, off, B', within, -, visit, attempt, rfl, rfl⟩ :=
    inv.newAllocation_shared shared new
  have shapes := inv.sharedShape shared
  have oldShape : SharedShape P ((s.globals.blocks p).getD j {}) := by
    simpa only [shape_shared P shared] using shape_getD (inv.shape p) (shape_vacant p) j
  obtain ⟨shape₁, filled₁, reuse⟩ := fillIfEmpty_shared hc oldShape visit
  have slots := (inv.slots p).newAllocation sc within visit attempt shape₁.2.2.2.1.symm
  obtain ⟨-, s₁, s', -, -, rfl⟩ := tryAlloc_some attempt
  have placed : ∀ B ∈ placeAt (s.globals.blocks p) j { B₁ with subAlloc := some s' },
      Shape P p B := fun B member => by
    rw [shape_shared P shared]
    rcases mem_placeAt member with rfl | old
    · exact shape₁
    · exact shapes B old
  rcases reuse with ⟨rfl, rfl⟩ | ⟨empty, host, apart⟩
  · -- a filled block reused: the host and what the blocks hold are unchanged
    have same := heldBy_place_same within { (s.globals.blocks p).getD j {} with
      subAlloc := some s' } rfl
    exact inv.change slots placed (fun combined => absurd combined shared)
      (inv.balanced.trans (base.holding_perm P same.symm))
      (inv.separate.perm same.symm)
  · -- an empty slot filled: one more region and buffer, held by the new block
    have fresh := heldBy_place_fresh within { B₁ with subAlloc := some s' } (held_of_isEmpty empty)
      ((held_subAlloc B₁ _).trans (held_of_filled filled₁ shape₁.2.1))
    refine inv.change slots placed (fun combined => absurd combined shared) ?_ ?_
    · rw [host]
      exact (inv.balanced.hold P _).trans (base.holding_perm P fresh.symm)
    · exact (inv.separate.cons (fun r member => apart r.1 (inv.held_outstanding member))
        fun o member => apart o (inv.base_outstanding member)).perm fresh.symm

/-- A filled block of the combined pool is taken whole by its one allocation, so it refuses
every request of positive size. -/
theorem PoolInv.combined_refuses {s : PoolState σ η} (inv : PoolInv sc hc base s) {C : Block σ}
    (member : C ∈ s.globals.blocks .combined) (filled : C.isEmpty = false)
    {create : AllocationCreateInfo} (positive : 0 < create.size) : tryAlloc P create C = none := by
  obtain ⟨i, slot⟩ := List.mem_iff_getElem?.1 member
  obtain ⟨sC, sub, total, linked⟩ := (inv.slots .combined).linked i C slot filled
  obtain ⟨a, only, size⟩ := inv.whole i C slot filled
  have placed := (inv.slots .combined).placed_inSlot sc slot (only ▸ List.mem_singleton_self a)
  have range : (a.buffer - C.buffer, a.size) ∈ sc.live sC :=
    linked.symm.subset (by simp [only, ranges])
  have refused : C.alloc P.subAllocator create.size = none := by
    cases served : P.subAllocator.alloc sC create.size with
    | none => simp [Block.alloc, sub, served]
    | some r =>
      have within := sc.alloc_within served
      have apart := (sc.alloc_apart served _ range).2
      have start := placed.start
      have fits := placed.within
      unfold Apart at apart
      omega
  simp [tryAlloc, refused]

theorem PoolInv.newAllocation_combined {s : PoolState σ η} {create : AllocationCreateInfo}
    {a : Allocation} {blocks' : List (Block σ)} {h : η} (inv : PoolInv sc hc base s)
    (dedicated : create.dedicatedContextHandle.isSome) (positive : 0 < create.size)
    (new : newAllocation P create (s.globals.blocks .combined) s.host = .ok (a, blocks', h)) :
    ∃ j B₁ off B', j ≤ (s.globals.blocks .combined).length ∧
      (∀ k < j, ∀ C, (s.globals.blocks .combined)[k]? = some C → C.isEmpty = false) ∧
      fillIfEmpty P create ((s.globals.blocks .combined).getD j {}) s.host = .ok (B₁, h) ∧
      tryAlloc P create B₁ = some (off, B') ∧
      a = Allocation.carved create j B₁ off ∧
      blocks' = placeAt (s.globals.blocks .combined) j B' := by
  have compatible : ∀ C ∈ s.globals.blocks .combined, C.isEmpty = true →
      create.dedicatedContextHandle = none → C.dedicatedContextHandle = none :=
    fun _ _ _ shared => by simp [shared] at dedicated
  obtain ⟨-, j, B₁, off, B', within, before, visit, attempt, carved, placed⟩ :=
    newAllocation_spec compatible (fun _ C member filled => inv.combined_refuses member filled
      positive) new
  exact ⟨j, B₁, off, B', within, fun k below C slot => (before k below C slot).1, visit, attempt,
    carved, placed⟩

theorem PoolInv.allocCombined {s : PoolState σ η} {create : AllocationCreateInfo}
    {a : Allocation} {g : Globals σ} {h : η} {handle : Nat} (inv : PoolInv sc hc base s)
    (dedicated : create.dedicatedContextHandle = some handle) (positive : 0 < create.size)
    (fits : create.externalAddr ≠ 0 → create.size < 2 ^ 64) (hostmem : create.hostmemId = 0)
    (small : handle < 2 ^ 32) (ok : allocIn P .combined create s.globals s.host = .ok (a, g, h)) :
    PoolInv sc hc base ⟨g, h, Function.update s.live .combined (a :: s.live .combined)⟩ := by
  obtain ⟨blocks', new, rfl⟩ := allocIn_ok ok
  obtain ⟨j, B₁, off, B', within, -, visit, attempt, rfl, rfl⟩ :=
    inv.newAllocation_combined (by simp [dedicated]) positive new
  have empty : ((s.globals.blocks .combined).getD j {}).isEmpty = true := by
    cases filled : ((s.globals.blocks .combined).getD j {}).isEmpty
    · rw [fillIfEmpty_of_not_isEmpty filled, Except.ok.injEq, Prod.mk.injEq] at visit
      obtain ⟨rfl, -⟩ := visit
      rw [inv.combined_refuses (List.getElem?_mem (getElem?_of_getD_filled filled)) filled
        positive] at attempt
      cases attempt
    · rfl
  have vacant : inSlot (s.live .combined) j = [] :=
    (inv.slots .combined).inSlot_vacant sc fun C slot => by
      simpa [List.getD_eq_getElem?_getD, slot] using empty
  have slots := (inv.slots .combined).newAllocation sc within visit attempt
  rw [fillIfEmpty_of_isEmpty empty] at visit
  obtain ⟨-, null, rfl, rfl⟩ := fillBlockLocked_dedicated dedicated visit
  obtain ⟨-, s₁, s', -, -, rfl⟩ := tryAlloc_some attempt
  have same := heldBy_place_same within { (s.globals.blocks .combined).getD j {} with
    external := true
    buffer := create.externalAddr
    bufferSize := create.size
    subAlloc := some s'
    offsetIntoPhys := 0
    isEmpty := false
    usesVirtioGpuHostmem := true
    hostmemId := create.hostmemId
    dedicatedContextHandle := some handle } (by rw [held_of_isEmpty empty]; rfl)
  refine inv.change (slots rfl) (fun B member => ?_) (fun _ i B slot filled => ?_)
    (inv.balanced.trans (base.holding_perm P same.symm))
    (inv.separate.perm same.symm)
  · rcases mem_placeAt member with rfl | old
    · exact fun _ => ⟨rfl, rfl, rfl, rfl, null, positive, fits null, hostmem, by simpa using small⟩
    · exact inv.shape .combined B old
  · rw [getElem?_placeAt within] at slot
    by_cases here : i = j
    · subst here
      simp only [if_true, Option.some.injEq] at slot
      subst slot
      simp [vacant, Allocation.carved]
    · simp only [here, if_false] at slot
      obtain ⟨b, only, size⟩ := inv.whole i B slot filled
      exact ⟨b, by simp [Allocation.carved, Ne.symm here, only], size⟩

theorem shape_set {p : Pool} {blocks : List (Block σ)} (shapes : ∀ B ∈ blocks, Shape P p B)
    {E : Block σ} (shape : Shape P p E) (i : Nat) : ∀ B ∈ blocks.set i E, Shape P p B :=
  fun B member => (List.mem_or_eq_of_mem_set member).elim (shapes B) fun same => same ▸ shape

theorem PoolInv.nonnull {s : PoolState σ η} {p : Pool} {a : Allocation}
    (inv : PoolInv sc hc base s) (live : a ∈ s.live p) : a.buffer ≠ 0 := by
  obtain ⟨B, slot, filled, placed⟩ := (inv.slots p).placed a live
  have shape := inv.shape p B (List.getElem?_mem slot)
  have start := placed.start
  have buffer : B.buffer ≠ 0 := by
    cases p
    · exact (shape.2.2.2.2 filled).2.1
    · exact (shape.2.2.2.2 filled).2.1
    · exact (shape filled).2.2.2.2.1
  omega

theorem PoolInv.deleteShared {s : PoolState σ η} {p : Pool} {a : Allocation} {g : Globals σ}
    {h : η} (inv : PoolInv sc hc base s) (shared : p ≠ .combined) (live : a ∈ s.live p)
    (ok : deleteIn P p a s.globals s.host = .ok (g, h)) :
    PoolInv sc hc base ⟨g, h, Function.update s.live p ((s.live p).erase a)⟩ := by
  obtain ⟨blocks', del, rfl⟩ := deleteIn_ok ok
  obtain ⟨B, B₂, slot, rfl, branch⟩ := deleteAllocation_spec (inv.nonnull live) del
  obtain ⟨B₀, slot₀, filled, -⟩ := (inv.slots p).placed a live
  obtain rfl : B = B₀ := Option.some.inj (slot.symm.trans slot₀)
  have shape := inv.sharedShape shared B (List.getElem?_mem slot)
  rcases branch with ⟨external, -⟩ | ⟨-, B₁, freed, result⟩
  · simp [shape.2.1] at external
  obtain ⟨s₀, s', sub, released, rfl⟩ := Block.free_some freed
  cases drained : P.subAllocator.empty s'
  · -- the block keeps other allocations: only its sub-allocator changes
    simp only [shouldDestryBlockLocked_subAlloc, drained, Bool.false_eq_true, if_false,
      Prod.mk.injEq] at result
    obtain ⟨rfl, rfl⟩ := result
    have same := heldBy_set_same slot _ (held_subAlloc B (some s'))
    exact inv.change ((inv.slots p).release_keep sc live slot filled sub released drained)
      (shape_set (inv.shape p) (by rw [shape_shared P shared]; exact shape) _)
      (fun combined => absurd combined shared)
      (inv.balanced.trans (base.holding_perm P same.symm))
      (inv.separate.perm same.symm)
  · -- the last allocation of the block: the block is destroyed and its resources given back
    simp only [shouldDestryBlockLocked_subAlloc, drained, if_true] at result
    obtain rfl : B₂ = _ := congrArg Prod.fst result
    obtain rfl : h = _ := congrArg Prod.snd result
    have release := heldBy_set_release slot
      (destroyBlockLocked P { B with subAlloc := some s' } s.host).1 (held_of_filled filled shape.2.1)
      (by simp)
    obtain ⟨handle, internal, plain, hostmem, -⟩ := shape
    refine inv.change ((inv.slots p).release_empty sc live slot filled sub released drained rfl)
      (shape_set (inv.shape p) (by
        rw [shape_shared P shared]; exact ⟨handle, internal, plain, hostmem, by simp⟩) _)
      (fun combined => absurd combined shared) ?_
      (inv.separate.perm release).of_cons
    exact destroyBlockLocked_outstanding hc internal plain
      (inv.balanced.trans (base.holding_perm P release))

theorem PoolInv.deleteCombined {s : PoolState σ η} {a : Allocation} {g : Globals σ} {h : η}
    (inv : PoolInv sc hc base s) (live : a ∈ s.live .combined)
    (ok : deleteIn P .combined a s.globals s.host = .ok (g, h)) :
    PoolInv sc hc base ⟨g, h, Function.update s.live .combined ((s.live .combined).erase a)⟩ := by
  obtain ⟨blocks', del, rfl⟩ := deleteIn_ok ok
  obtain ⟨B, B₂, slot, rfl, branch⟩ := deleteAllocation_spec (inv.nonnull live) del
  obtain ⟨B₀, slot₀, filled, -⟩ := (inv.slots .combined).placed a live
  obtain rfl : B = B₀ := Option.some.inj (slot.symm.trans slot₀)
  have external := (inv.shape .combined B (List.getElem?_mem slot) filled).1
  rcases branch with ⟨-, result⟩ | ⟨internal, -⟩
  swap
  · simp [external] at internal
  obtain rfl : B₂ = _ := congrArg Prod.fst result
  obtain rfl : h = s.host := (congrArg Prod.snd result).trans (destroyBlockLocked_external external)
  obtain ⟨b, only, -⟩ := inv.whole _ B slot filled
  have alone : (inSlot (s.live .combined) a.blockIndex).erase a = [] := by
    obtain rfl : a = b := by simpa [only] using mem_inSlot.2 ⟨live, rfl⟩
    simp [only]
  have same := heldBy_set_same slot (destroyBlockLocked P B s.host).1
    (by simp [held_of_external external])
  refine inv.change ((inv.slots .combined).vacate sc slot alone rfl)
    (shape_set (inv.shape .combined) (fun nonempty => by simp at nonempty) _)
    (fun _ i C slotC filledC => ?_)
    (inv.balanced.trans (base.holding_perm P same.symm))
    (inv.separate.perm same.symm)
  rcases getElem?_set_eq_some (List.getElem?_eq_some_iff.1 slot).1 slotC with
    ⟨rfl, rfl⟩ | ⟨here, slotC⟩
  · simp at filledC
  · rw [inSlot_erase_of_ne (Ne.symm here)]
    exact inv.whole i C slotC filledC

theorem PoolInv.perm {g : Globals σ} {h : η} {live live' : Pool → List Allocation}
    (inv : PoolInv sc hc base ⟨g, h, live⟩) (perm : ∀ p, (live p).Perm (live' p)) :
    PoolInv sc hc base ⟨g, h, live'⟩ := by
  refine ⟨fun p => (inv.slots p).perm sc (perm p), inv.shape, fun i B slot filled => ?_,
    inv.balanced, inv.separate⟩
  obtain ⟨a, only, size⟩ := inv.whole i B slot filled
  exact ⟨a, List.perm_singleton.1 (((perm .combined).filter _).symm.trans (only ▸ .refl _)), size⟩

theorem PoolInv.vacant {h : η} (balanced : (hc.outstanding h).Equiv base) :
    PoolInv sc hc base ⟨{}, h, fun _ => []⟩ := by
  have vacant : ∀ p, ({} : Globals σ).blocks p = [] := fun p => by cases p <;> rfl
  refine ⟨fun p => ⟨by simp, ?_, ?_, .nil⟩, fun p => ?_, ?_, balanced,
    by simp [Separated, heldBy, Globals.allBlocks]⟩
  all_goals simp [vacant]

theorem PoolInv.init (h₀ : η) : PoolInv sc hc (hc.outstanding h₀) ⟨{}, h₀, fun _ => []⟩ :=
  PoolInv.vacant ⟨.refl _, .refl _, .refl _⟩

theorem PoolInv.step (wf : P.Wf) {s s' : PoolState σ η} (inv : PoolInv sc hc base s)
    (step : PoolStep P s s') : PoolInv sc hc base s' := by
  cases step with
  | allocRingStorage ok => exact inv.allocShared (by decide) ok
  | allocBuffer ok => exact inv.allocShared (by decide) ok
  | allocRingAndBufferStorageDedicated asgCreate ok =>
    obtain ⟨-, create, dedicated, hostmem, size, external, ok⟩ :=
      allocRingAndBufferStorageDedicated_ok ok
    have fits : create.externalAddr ≠ 0 → create.size < 2 ^ 64 := fun given =>
      external.elim (absurd · given) fun ⟨_, caller⟩ => caller ▸ asgCreate.externalAddrSize.toNat_lt_size
    exact inv.allocCombined dedicated (by have := wf.ringStorage_pos; omega) fits hostmem
      asgCreate.handle.toNat_lt_size ok
  | freeRingStorage live ok =>
    obtain ⟨B, -, -, placed⟩ := (inv.slots .ring).placed _ live
    exact inv.deleteShared (by decide) live (by rwa [freeRingStorage, freeIn_not_view placed.notView] at ok)
  | freeBuffer live ok =>
    obtain ⟨B, -, -, placed⟩ := (inv.slots .buffer).placed _ live
    exact inv.deleteShared (by decide) live (by rwa [freeBuffer, freeIn_not_view placed.notView] at ok)
  | freeRingAndBuffer live ok => exact inv.deleteCombined live ok

theorem PoolRun.inv (wf : P.Wf) {h₀ : η} {s : PoolState σ η} {peak : Pool → Nat}
    (run : PoolRun P h₀ s peak) : PoolInv sc hc (hc.outstanding h₀) s := by
  induction run with
  | init => exact PoolInv.init h₀
  | step _ step inv => exact inv.step wf step

theorem PoolInv.length_place {s : PoolState σ η} {q : Pool} {j : Nat} {B' : Block σ}
    {a : Allocation} (inv : PoolInv sc hc base s) (within : j ≤ (s.globals.blocks q).length)
    (full : ∀ k < j, ∀ C, (s.globals.blocks q)[k]? = some C → C.isEmpty = false) (p : Pool) :
    ((s.globals.setBlocks q (placeAt (s.globals.blocks q) j B')).blocks p).length ≤
      max (s.globals.blocks p).length (Function.update s.live q (a :: s.live q) p).length := by
  by_cases same : p = q
  · subst same
    simp only [Globals.blocks_setBlocks_self, length_placeAt, Function.update_same,
      List.length_cons]
    split
    · exact le_max_left _ _
    · have slots := (inv.slots p).length_le sc fun k below => full k (by omega)
      omega
  · simp only [Globals.blocks_setBlocks_ne _ _ same, Function.update_noteq same]
    exact le_max_left _ _

theorem length_setBlocks_set (g : Globals σ) (q : Pool) (i : Nat) (B : Block σ) (p : Pool) :
    ((g.setBlocks q ((g.blocks q).set i B)).blocks p).length = (g.blocks p).length := by
  by_cases same : p = q
  · subst same; simp
  · simp [same]

theorem PoolInv.length_delete {s : PoolState σ η} {q : Pool} {a : Allocation} {g : Globals σ}
    {h : η} (inv : PoolInv sc hc base s) (live : a ∈ s.live q)
    (ok : deleteIn P q a s.globals s.host = .ok (g, h)) (p : Pool) :
    (g.blocks p).length = (s.globals.blocks p).length := by
  obtain ⟨blocks', del, rfl⟩ := deleteIn_ok ok
  obtain ⟨B, B₂, -, rfl, -⟩ := deleteAllocation_spec (inv.nonnull live) del
  exact length_setBlocks_set _ _ _ _ _

theorem PoolInv.length_step (wf : P.Wf) {s s' : PoolState σ η} (inv : PoolInv sc hc base s)
    (step : PoolStep P s s') (p : Pool) :
    (s'.globals.blocks p).length ≤ max (s.globals.blocks p).length (s'.live p).length := by
  cases step with
  | allocRingStorage ok =>
    obtain ⟨blocks', new, rfl⟩ := allocIn_ok ok
    obtain ⟨j, -, -, -, within, full, -, -, -, rfl⟩ := inv.newAllocation_shared (by decide) new
    exact inv.length_place within full p
  | allocBuffer ok =>
    obtain ⟨blocks', new, rfl⟩ := allocIn_ok ok
    obtain ⟨j, -, -, -, within, full, -, -, -, rfl⟩ := inv.newAllocation_shared (by decide) new
    exact inv.length_place within full p
  | allocRingAndBufferStorageDedicated asgCreate ok =>
    obtain ⟨-, create, dedicated, -, size, -, ok⟩ := allocRingAndBufferStorageDedicated_ok ok
    obtain ⟨blocks', new, rfl⟩ := allocIn_ok ok
    obtain ⟨j, -, -, -, within, full, -, -, -, rfl⟩ := inv.newAllocation_combined
      (by simp [dedicated]) (by have := wf.ringStorage_pos; omega) new
    exact inv.length_place within full p
  | freeRingStorage live ok =>
    obtain ⟨B, -, -, placed⟩ := (inv.slots .ring).placed _ live
    rw [freeRingStorage, freeIn_not_view placed.notView] at ok
    exact (inv.length_delete live ok p).le.trans (le_max_left _ _)
  | freeBuffer live ok =>
    obtain ⟨B, -, -, placed⟩ := (inv.slots .buffer).placed _ live
    rw [freeBuffer, freeIn_not_view placed.notView] at ok
    exact (inv.length_delete live ok p).le.trans (le_max_left _ _)
  | freeRingAndBuffer live ok => exact (inv.length_delete live ok p).le.trans (le_max_left _ _)

end

end Asg
