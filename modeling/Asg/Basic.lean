import Mathlib.Data.List.Perm.Subperm
import Mathlib.Data.List.Pairwise
import Mathlib.Algebra.Order.BigOperators.Group.List
import Mathlib.Algebra.Order.Ring.Nat

/-! The records of the address-space graphics pool (`Block`, `Allocation`, the create infos)
and the collaborators it calls: the sub-allocator that carves a block, and the host's
physical window, memory mappings and aligned buffers.

Pointers and unsigned quantities are natural numbers, zero standing for a null pointer.
Collaborators are parameters; their contracts are stated over what they have handed out.
-/

set_option autoImplicit false

namespace Asg

/-- Byte ranges `[a, a + n)` and `[b, b + m)` share no byte. -/
def Apart (a n b m : Nat) : Prop := a + n ≤ b ∨ b + m ≤ a ∨ n = 0 ∨ m = 0

instance (a n b m : Nat) : Decidable (Apart a n b m) :=
  inferInstanceAs (Decidable (_ ∨ _ ∨ _ ∨ _))

theorem Apart.symm {a n b m : Nat} (apart : Apart a n b m) : Apart b m a n := by
  unfold Apart at *; omega

theorem bind_eq_ok {ε α β : Type} {x : Except ε α} {f : α → Except ε β} {b : β} :
    x.bind f = .ok b ↔ ∃ a, x = .ok a ∧ f a = .ok b := by
  cases x <;> simp [Except.bind]

theorem map_eq_ok {ε α β : Type} {x : Except ε α} {f : α → β} {b : β} :
    x.map f = .ok b ↔ ∃ a, x = .ok a ∧ f a = b := by
  cases x <;> simp [Except.map]

/-- Modelled from the spec: the `Allocation` record of address_space_graphics.h, which is not
among the sources. Its fields are the ones the pool and the context read and write. -/
structure Allocation where
  buffer : Nat := 0
  blockIndex : Nat := 0
  offsetIntoPhys : Nat := 0
  size : Nat := 0
  dedicatedContextHandle : Option Nat := none
  hostmemId : Nat := 0
  isView : Bool := false
  deriving DecidableEq, Repr

/-- A block of the pool; `subAlloc` is `none` where the source's pointer is null or deleted. -/
structure Block (σ : Type) where
  buffer : Nat := 0
  bufferSize : Nat := 0
  subAlloc : Option σ := none
  offsetIntoPhys : Nat := 0
  isEmpty : Bool := true
  dedicatedContextHandle : Option Nat := none
  usesVirtioGpuHostmem : Bool := false
  hostmemId : Nat := 0
  external : Bool := false
  deriving DecidableEq, Repr

structure AllocationCreateInfo where
  virtioGpu : Bool := false
  fromLoad : Bool := false
  size : Nat := 0
  hostmemId : Nat := 0
  externalAddr : Nat := 0
  dedicatedContextHandle : Option Nat := none
  deriving DecidableEq, Repr

/-- Modelled from the spec: the `AddressSpaceCreateInfo` of address_space_device.h, which is
not among the sources, with the fields address_space_graphics.cpp reads. A handle and the
context and capset ids are 32-bit, an external size 64-bit; `isVirtio` stands for a `type` of
`VirtioGpuGraphics`, and `contextName` for the `contextNameSize` bytes at `contextName`. -/
structure AddressSpaceCreateInfo where
  handle : UInt32 := 0
  externalAddr : Nat := 0
  externalAddrSize : UInt64 := 0
  isVirtio : Bool := false
  fromSnapshot : Bool := false
  virtioGpuContextId : UInt32 := 0
  virtioGpuCapsetId : UInt32 := 0
  contextName : List UInt8 := []
  createRenderThread : Bool := false
  deriving DecidableEq, Repr

/-- The calls the pool makes on a `SubAllocator` (its header is not among the sources). The
state is relative to the buffer it carves: `alloc` answers with the offset `getOffset` gives
for the returned pointer, `none` for a null pointer, and `free` takes that offset. -/
structure SubAllocator (σ : Type) where
  create : Nat → σ
  alloc : σ → Nat → Option (Nat × σ)
  free : σ → Nat → Option σ
  empty : σ → Bool
  save : σ → List UInt8
  load : σ → List UInt8 → σ × List UInt8

/-- What the pool relies on from a sub-allocator, over the ranges it has handed out (`live`,
as offset and size) and the size of the buffer it carves (`total`). A request it cannot serve
when fresh it cannot serve later. -/
structure SubAllocator.Contract {σ : Type} (sa : SubAllocator σ) where
  live : σ → List (Nat × Nat)
  total : σ → Nat
  live_create : ∀ n, live (sa.create n) = []
  total_create : ∀ n, total (sa.create n) = n
  alloc_live : ∀ {s n off s'}, sa.alloc s n = some (off, s') → live s' = (off, n) :: live s
  alloc_total : ∀ {s n off s'}, sa.alloc s n = some (off, s') → total s' = total s
  alloc_within : ∀ {s n off s'}, sa.alloc s n = some (off, s') → off + n ≤ total s
  alloc_apart : ∀ {s n off s'}, sa.alloc s n = some (off, s') →
    ∀ r ∈ live s, r.1 ≠ off ∧ Apart off n r.1 r.2
  alloc_fresh : ∀ {s n}, sa.alloc (sa.create (total s)) n = none → sa.alloc s n = none
  free_live : ∀ {s off s'}, sa.free s off = some s' →
    ∃ n, (live s).Perm ((off, n) :: live s') ∧ total s' = total s
  free_isSome : ∀ {s off n}, (off, n) ∈ live s → (sa.free s off).isSome
  empty_iff : ∀ s, sa.empty s = true ↔ live s = []

/-- The host services the pool calls: the address-space device's hw funcs
(`allocSharedHostRegion[Fixed]Locked`, `freeSharedHostRegionLocked`,
`getPhysAddrStartLocked`), its control ops (`add/remove_memory_mapping`,
`hostmem_unregister`), and `aligned_buf_alloc/free`. -/
structure HostOps (η : Type) where
  allocSharedHostRegionLocked : η → Nat → Option (Nat × η)
  allocSharedHostRegionFixedLocked : η → Nat → Nat → Option η
  freeSharedHostRegionLocked : η → Nat → η
  getPhysAddrStartLocked : Nat
  addMemoryMapping : η → Nat → Nat → Nat → η
  removeMemoryMapping : η → Nat → Nat → Nat → η
  hostmemUnregister : η → Nat → η
  alignedBufAlloc : η → Nat → Nat → Nat × η
  alignedBufFree : η → Nat → η

/-- The resources a host has handed out and not yet taken back. -/
structure Outstanding where
  regions : List Nat := []
  mappings : List (Nat × Nat × Nat) := []
  alignedBufs : List Nat := []
  deriving DecidableEq, Repr

/-- The host's contract, over what it has outstanding. A fresh region of `n` bytes is apart
from every outstanding one taken at the same size, as every region of the pool is. Taking
back a resource is specified only for one that is outstanding. -/
structure HostOps.Contract {η : Type} (host : HostOps η) where
  outstanding : η → Outstanding
  region_alloc : ∀ {h n o h'}, host.allocSharedHostRegionLocked h n = some (o, h') →
    outstanding h' = { outstanding h with regions := o :: (outstanding h).regions } ∧
      o + n ≤ 2 ^ 64 ∧ ∀ r ∈ (outstanding h).regions, Apart o n r n
  region_fixed : ∀ {h n o h'}, host.allocSharedHostRegionFixedLocked h n o = some h' →
    outstanding h' = { outstanding h with regions := o :: (outstanding h).regions } ∧
      o + n ≤ 2 ^ 64 ∧ ∀ r ∈ (outstanding h).regions, Apart o n r n
  region_free : ∀ {h o}, o ∈ (outstanding h).regions → ∃ rest,
    (outstanding h).regions.Perm (o :: rest) ∧
      outstanding (host.freeSharedHostRegionLocked h o) = { outstanding h with regions := rest }
  mapping_add : ∀ h p b n, outstanding (host.addMemoryMapping h p b n) =
    { outstanding h with mappings := (p, b, n) :: (outstanding h).mappings }
  mapping_remove : ∀ {h p b n}, (p, b, n) ∈ (outstanding h).mappings → ∃ rest,
    (outstanding h).mappings.Perm ((p, b, n) :: rest) ∧
      outstanding (host.removeMemoryMapping h p b n) = { outstanding h with mappings := rest }
  hostmem_unregister : ∀ h id, outstanding (host.hostmemUnregister h id) = outstanding h
  buf_alloc : ∀ {h a n p h'}, host.alignedBufAlloc h a n = (p, h') →
    outstanding h' = { outstanding h with alignedBufs := p :: (outstanding h).alignedBufs } ∧
      p ≠ 0 ∧ ∀ q ∈ (outstanding h).alignedBufs, Apart p n q n
  buf_free : ∀ {h p}, p ∈ (outstanding h).alignedBufs → ∃ rest,
    (outstanding h).alignedBufs.Perm (p :: rest) ∧
      outstanding (host.alignedBufFree h p) = { outstanding h with alignedBufs := rest }

inductive Pool
  | ring
  | buffer
  | combined
  deriving DecidableEq, Repr

/-- The pools of `Globals`; its lock, control ops and consumer interface are parameters. -/
structure Globals (σ : Type) where
  ringBlocks : List (Block σ) := []
  bufferBlocks : List (Block σ) := []
  combinedBlocks : List (Block σ) := []
  deriving DecidableEq, Repr

namespace Globals

variable {σ : Type}

def blocks (g : Globals σ) : Pool → List (Block σ)
  | .ring => g.ringBlocks
  | .buffer => g.bufferBlocks
  | .combined => g.combinedBlocks

def setBlocks (g : Globals σ) : Pool → List (Block σ) → Globals σ
  | .ring, blocks => { g with ringBlocks := blocks }
  | .buffer, blocks => { g with bufferBlocks := blocks }
  | .combined, blocks => { g with combinedBlocks := blocks }

@[simp] theorem blocks_setBlocks_self (g : Globals σ) (p : Pool) (blocks : List (Block σ)) :
    (g.setBlocks p blocks).blocks p = blocks := by
  cases p <;> rfl

@[simp] theorem blocks_setBlocks_ne (g : Globals σ) {p q : Pool} (blocks : List (Block σ))
    (other : q ≠ p) : (g.setBlocks p blocks).blocks q = g.blocks q := by
  cases p <;> cases q <;> first | rfl | exact absurd rfl other

end Globals

/-- What the pool is built over: the build-time sizes (`ADDRESS_SPACE_GRAPHICS_BLOCK_SIZE`,
`ADDRESS_SPACE_GRAPHICS_PAGE_SIZE`, `sizeof(struct asg_ring_storage)`), the per-context buffer
size read from the hardware configuration, the sub-allocator and the host. -/
structure Platform (σ η : Type) where
  blockSize : Nat
  pageSize : Nat
  ringStorageSize : Nat
  perContextBufferSize : Nat
  subAllocator : SubAllocator σ
  host : HostOps η

end Asg
