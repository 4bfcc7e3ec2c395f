import Asg.Basic

/-! `Globals` of address_space_graphics.cpp: filling and destroying blocks, the first-fit
`newAllocation`, `deleteAllocation`, the entry points of the three pools, and `clear`.
A `crashhandler_die` is an `Except.error` carrying its message. -/

set_option autoImplicit false

namespace Asg

variable {σ η : Type} (P : Platform σ η)

/-- The physical region a block that is not dedicated takes in `fillBlockLocked`: the one its
snapshot recorded on load, a failure there being disregarded, a fresh one otherwise. -/
def physRegion (create : AllocationCreateInfo) (block : Block σ) (h : η) :
    Except String (Nat × η) :=
  if create.fromLoad then
    .ok (block.offsetIntoPhys,
      (P.host.allocSharedHostRegionFixedLocked h P.blockSize block.offsetIntoPhys).getD h)
  else
    match P.host.allocSharedHostRegionLocked h P.blockSize with
    | some taken => .ok taken
    | none => .error "Failed to allocate physical address graphics backing memory."

def fillBlockLocked (create : AllocationCreateInfo) (block : Block σ) (h : η) :
    Except String (Block σ × η) :=
  match create.dedicatedContextHandle with
  | some _ =>
    if !create.virtioGpu then
      .error "Cannot use dedicated allocation without virtio-gpu hostmem id"
    else if create.externalAddr = 0 then
      .error "Cannot use dedicated allocation without virtio-gpu hostmem id"
    else
      .ok ({ block with
        external := true
        buffer := create.externalAddr
        bufferSize := create.size
        subAlloc := some (P.subAllocator.create create.size)
        offsetIntoPhys := 0
        isEmpty := false
        usesVirtioGpuHostmem := create.virtioGpu
        hostmemId := create.hostmemId
        dedicatedContextHandle := create.dedicatedContextHandle }, h)
  | none =>
    if create.virtioGpu then
      .error "Only dedicated allocation allowed in virtio-gpu hostmem id path"
    else
      (physRegion P create block h).map fun (offsetIntoPhys, h) =>
        let (buf, h) := P.host.alignedBufAlloc h P.pageSize P.blockSize
        let h := P.host.addMemoryMapping h (P.host.getPhysAddrStartLocked + offsetIntoPhys) buf
          P.blockSize
        ({ block with
          buffer := buf
          bufferSize := P.blockSize
          subAlloc := some (P.subAllocator.create P.blockSize)
          offsetIntoPhys := offsetIntoPhys
          isEmpty := false }, h)

def destroyBlockLocked (block : Block σ) (h : η) : Block σ × η :=
  let h :=
    if block.usesVirtioGpuHostmem && !block.external then
      P.host.hostmemUnregister h block.hostmemId
    else if !block.external then
      P.host.freeSharedHostRegionLocked
        (P.host.removeMemoryMapping h (P.host.getPhysAddrStartLocked + block.offsetIntoPhys)
          block.buffer P.blockSize) block.offsetIntoPhys
    else h
  let h := if !block.external then P.host.alignedBufFree h block.buffer else h
  ({ block with subAlloc := none, isEmpty := true }, h)

def shouldDestryBlockLocked (block : Block σ) : Bool :=
  match block.subAlloc with
  | some s => P.subAllocator.empty s
  | none => false

/-- `block.subAlloc->alloc(size)`, with the block's sub-allocator advanced. -/
def Block.alloc (sa : SubAllocator σ) (block : Block σ) (size : Nat) : Option (Nat × Block σ) :=
  block.subAlloc.bind fun s =>
    (sa.alloc s size).map fun (off, s) => (off, { block with subAlloc := some s })

/-- `block.subAlloc->free(ptr)` for the pointer `off` bytes into the block. -/
def Block.free (sa : SubAllocator σ) (block : Block σ) (off : Nat) : Option (Block σ) :=
  block.subAlloc.bind fun s => (sa.free s off).map fun s => { block with subAlloc := some s }

/-- The allocation `newAllocation` returns for the range at `off` in the block at `index`. -/
def Allocation.carved (create : AllocationCreateInfo) (index : Nat) (block : Block σ)
    (off : Nat) : Allocation where
  buffer := block.buffer + off
  blockIndex := index
  offsetIntoPhys := (block.offsetIntoPhys + off) % 2 ^ 64
  size := create.size
  dedicatedContextHandle := create.dedicatedContextHandle
  hostmemId := create.hostmemId

/-- `if (block.isEmpty) fillBlockLocked(block, create);` at the head of the first-fit loop. -/
def fillIfEmpty (create : AllocationCreateInfo) (block : Block σ) (h : η) :
    Except String (Block σ × η) :=
  if block.isEmpty then fillBlockLocked P create block h else .ok (block, h)

/-- The loop's attempt on one slot: `none` where it `continue`s, for a handle that differs or a
sub-allocator that refuses. -/
def tryAlloc (create : AllocationCreateInfo) (block : Block σ) : Option (Nat × Block σ) :=
  if block.dedicatedContextHandle = create.dedicatedContextHandle then
    block.alloc P.subAllocator create.size
  else none

/-- The first-fit loop of `newAllocation` from slot `index` on. An empty slot is filled for
the request before its handle is compared, as the source does. -/
def scanBlocks (create : AllocationCreateInfo) :
    Nat → List (Block σ) → η → Except String (Option Allocation × List (Block σ) × η)
  | _, [], h => .ok (none, [], h)
  | index, block :: rest, h =>
    (fillIfEmpty P create block h).bind fun (block, h) =>
      match tryAlloc P create block with
      | some (off, carved) =>
        .ok (some (Allocation.carved create index block off), carved :: rest, h)
      | none =>
        (scanBlocks create (index + 1) rest h).map fun (found, rest, h) =>
          (found, block :: rest, h)

def newAllocation (create : AllocationCreateInfo) (existingBlocks : List (Block σ)) (h : η) :
    Except String (Allocation × List (Block σ) × η) :=
  if create.size > P.blockSize then
    .error "wanted size 0x%llx which is greater than block size 0x%llx"
  else
    (scanBlocks P create 0 existingBlocks h).bind fun (found, existingBlocks, h) =>
      match found with
      | some res => .ok (res, existingBlocks, h)
      | none =>
        (fillBlockLocked P create {} h).bind fun (newBlock, h) =>
          match newBlock.alloc P.subAllocator create.size with
          | none => .error "failed to allocate size 0x%llx (no free slots or out of host memory)"
          | some (off, carved) =>
            .ok (Allocation.carved create existingBlocks.length newBlock off,
              existingBlocks ++ [carved], h)

def deleteAllocation (alloc : Allocation) (existingBlocks : List (Block σ)) (h : η) :
    Except String (List (Block σ) × η) :=
  if alloc.buffer = 0 then .ok (existingBlocks, h)
  else
    match existingBlocks[alloc.blockIndex]? with
    | none => .error "should be a block at index %zu but it is not found"
    | some block =>
      if block.external then
        let (block, h) := destroyBlockLocked P block h
        .ok (existingBlocks.set alloc.blockIndex block, h)
      else
        match block.free P.subAllocator (alloc.buffer - block.buffer) with
        | none => .error "failed to free %p (block start: %p)"
        | some block =>
          let (block, h) :=
            if shouldDestryBlockLocked P block then destroyBlockLocked P block h else (block, h)
          .ok (existingBlocks.set alloc.blockIndex block, h)

def allocIn (pool : Pool) (create : AllocationCreateInfo) (g : Globals σ) (h : η) :
    Except String (Allocation × Globals σ × η) :=
  (newAllocation P create (g.blocks pool) h).map fun (res, blocks, h) =>
    (res, g.setBlocks pool blocks, h)

def deleteIn (pool : Pool) (alloc : Allocation) (g : Globals σ) (h : η) :
    Except String (Globals σ × η) :=
  (deleteAllocation P alloc (g.blocks pool) h).map fun (blocks, h) => (g.setBlocks pool blocks, h)

/-- The free entry points of the ring and buffer pools, which pass over a view. -/
def freeIn (pool : Pool) (alloc : Allocation) (g : Globals σ) (h : η) :
    Except String (Globals σ × η) :=
  if alloc.isView then .ok (g, h) else deleteIn P pool alloc g h

def allocRingStorage : Globals σ → η → Except String (Allocation × Globals σ × η) :=
  allocIn P .ring { size := P.ringStorageSize }

def freeRingStorage : Allocation → Globals σ → η → Except String (Globals σ × η) :=
  freeIn P .ring

def allocBuffer : Globals σ → η → Except String (Allocation × Globals σ × η) :=
  allocIn P .buffer { size := P.perContextBufferSize }

def freeBuffer : Allocation → Globals σ → η → Except String (Globals σ × η) :=
  freeIn P .buffer

def allocRingAndBufferStorageDedicated (asgCreate : AddressSpaceCreateInfo) (g : Globals σ)
    (h : η) : Except String (Allocation × Globals σ × η) :=
  if asgCreate.handle = 0 then
    .error "Dedicated ASG allocation requested without dedicated handle.\n"
  else
    let create : AllocationCreateInfo :=
      { size := P.ringStorageSize + P.perContextBufferSize
        dedicatedContextHandle := some asgCreate.handle.toNat
        virtioGpu := true }
    if asgCreate.externalAddr = 0 then allocIn P .combined create g h
    else if asgCreate.externalAddrSize.toNat < create.size then
      .error "External address size too small\n"
    else
      allocIn P .combined
        { create with externalAddr := asgCreate.externalAddr, size := asgCreate.externalAddrSize.toNat }
        g h

def allocRingViewIntoCombined (alloc : Allocation) : Allocation :=
  { alloc with size := P.ringStorageSize, isView := true }

def allocBufferViewIntoCombined (alloc : Allocation) : Allocation :=
  { alloc with
    buffer := alloc.buffer + P.ringStorageSize
    size := P.perContextBufferSize
    isView := true }

/-- Unlike `freeRingStorage` and `freeBuffer`, this one does not pass over a view. -/
def freeRingAndBuffer : Allocation → Globals σ → η → Except String (Globals σ × η) :=
  deleteIn P .combined

/-- The loop of `clear` over one pool: every filled block is destroyed. -/
def destroyBlocks : List (Block σ) → η → η
  | [], h => h
  | block :: rest, h =>
    destroyBlocks rest (if block.isEmpty then h else (destroyBlockLocked P block h).2)

def clear (g : Globals σ) (h : η) : Globals σ × η :=
  let h := destroyBlocks P g.ringBlocks h
  let h := destroyBlocks P g.bufferBlocks h
  ({}, destroyBlocks P g.combinedBlocks h)

end Asg
