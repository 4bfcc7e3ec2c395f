import Asg.Globals
import Asg.Snapshot.Stream

/-! `Globals::save` and `Globals::load` of address_space_graphics.cpp, and `fillAllocFromLoad`.
A save writes the three pool sizes, then each block: a filled flag and, for a filled block, its
size, physical offset, dedicated handle, virtio flag, hostmem id, its sub-allocator and, unless
it is external, its bytes. A load clears the pools and refills each block through
`fillBlockLocked` with `fromLoad` set: a block that is not dedicated asks for its old physical
region back, a dedicated one takes the memory the load resources give for its handle. -/

set_option autoImplicit false

namespace Asg

/-- `AddressSpaceDeviceLoadResources::ExternalMemory`. -/
structure ExternalMemory where
  externalAddress : Nat := 0
  externalAddressSize : UInt64 := 0
  deriving DecidableEq, Repr

/-- `AddressSpaceDeviceLoadResources`: the external memory given for each dedicated handle. -/
structure LoadResources where
  contextExternalMemoryMap : Nat → Option ExternalMemory

variable {σ η : Type} (P : Platform σ η)

/-- The fields `saveBlockLocked` writes of a filled block before its sub-allocator. -/
structure SavedBlock where
  bufferSize : Nat
  offsetIntoPhys : Nat
  dedicatedContextHandle : Option Nat
  usesVirtioGpuHostmem : Bool
  hostmemId : Nat
  deriving DecidableEq, Repr

def Block.saved (block : Block σ) : SavedBlock :=
  ⟨block.bufferSize, block.offsetIntoPhys, block.dedicatedContextHandle,
    block.usesVirtioGpuHostmem, block.hostmemId⟩

def putSavedBlock (b : SavedBlock) : List UInt8 :=
  putBe64 b.bufferSize ++ putBe64 b.offsetIntoPhys ++
    (match b.dedicatedContextHandle with
      | some handle => putBe32 1 ++ putBe32 handle
      | none => putBe32 0) ++
    putBe32 (if b.usesVirtioGpuHostmem then 1 else 0) ++ putBe64 b.hostmemId

/-- The fields read back. Here and in the other loads each `let` holds a value read and the
stream after it. -/
def getSavedBlock (s : List UInt8) : SavedBlock × List UInt8 :=
  let size := getBe64 s
  let offsetIntoPhys := getBe64 size.2
  let hasHandle := getBe32 offsetIntoPhys.2
  let handle : Option Nat × List UInt8 :=
    if hasHandle.1 = 1 then (some (getBe32 hasHandle.2).1, (getBe32 hasHandle.2).2)
    else (none, hasHandle.2)
  let virtioGpu := getBe32 handle.2
  let hostmemId := getBe64 virtioGpu.2
  (⟨size.1, offsetIntoPhys.1, handle.1, virtioGpu.1 != 0, hostmemId.1⟩, hostmemId.2)

def saveBlockLocked (mem : Memory) (block : Block σ) : List UInt8 :=
  if block.isEmpty then putBe32 0
  else
    putBe32 1 ++ putSavedBlock block.saved ++ (block.subAlloc.map P.subAllocator.save).getD [] ++
      if block.external then [] else readBytes mem block.buffer block.bufferSize

def saveBlocks (mem : Memory) (blocks : List (Block σ)) : List UInt8 :=
  blocks.flatMap (saveBlockLocked P mem)

def Globals.save (mem : Memory) (g : Globals σ) : List UInt8 :=
  putBe64 g.ringBlocks.length ++ putBe64 g.bufferBlocks.length ++
    putBe64 g.combinedBlocks.length ++ saveBlocks P mem g.ringBlocks ++
    saveBlocks P mem g.bufferBlocks ++ saveBlocks P mem g.combinedBlocks

/-- The external address `loadBlockLocked` gives a block it reads back: a virtio block must
carry a handle that the resources map to memory; any other takes none. -/
def externalAddressFor (resources : Option LoadResources) (virtioGpu : Bool)
    (handle : Option Nat) : Except String Nat :=
  if virtioGpu then
    match handle with
    | none => .error ("Failed to load ASG context global block: " ++
        "Virtio GPU backed blocks are expected to have dedicated context.\n")
    | some handle =>
      match resources with
      | none => .error ("Failed to load ASG context global block: " ++
          "Virtio GPU backed blocks need external memory resources for loading.\n")
      | some resources =>
        match resources.contextExternalMemoryMap handle with
        | none => .error ("Failed to load ASG context global block: " ++
            "Virtio GPU backed blocks an need external memory replacement.\n")
        | some externalMemory => .ok externalMemory.externalAddress
  else .ok 0

/-- `block.subAlloc->load(stream)`. -/
def Block.loadSubAlloc (sa : SubAllocator σ) (block : Block σ) (s : List UInt8) :
    Block σ × List UInt8 :=
  match block.subAlloc with
  | some sub => ({ block with subAlloc := some (sa.load sub s).1 }, (sa.load sub s).2)
  | none => (block, s)

/-- What `loadBlockLocked` reads once the block is filled: its sub-allocator, then its bytes
unless it is external. -/
def loadBlockContents (sa : SubAllocator σ) (block : Block σ) (mem : Memory) (s : List UInt8) :
    Block σ × Memory × List UInt8 :=
  let loaded := block.loadSubAlloc sa s
  if loaded.1.external then (loaded.1, mem, loaded.2)
  else (loaded.1, writeBytes mem loaded.1.buffer (loaded.2.take loaded.1.bufferSize),
    loaded.2.drop loaded.1.bufferSize)

/-- `loadBlockLocked`. The source checks a virtio block's handle and resources before it reads
the hostmem id; the checks read nothing, so the model reads the saved fields first. -/
def loadBlockLocked (resources : Option LoadResources) (block : Block σ) (h : η) (mem : Memory)
    (s : List UInt8) : Except String (Block σ × η × Memory × List UInt8) :=
  let filled := getBe32 s
  if filled.1 = 0 then .ok ({ block with isEmpty := true }, h, mem, filled.2)
  else
    let saved := getSavedBlock filled.2
    (externalAddressFor resources saved.1.usesVirtioGpuHostmem saved.1.dedicatedContextHandle).bind
      fun externalAddr =>
        let create : AllocationCreateInfo :=
          { virtioGpu := saved.1.usesVirtioGpuHostmem
            fromLoad := true
            size := saved.1.bufferSize
            hostmemId := saved.1.hostmemId
            externalAddr := externalAddr
            dedicatedContextHandle := saved.1.dedicatedContextHandle }
        (fillBlockLocked P create
          { block with isEmpty := false, offsetIntoPhys := saved.1.offsetIntoPhys } h).map
          fun refilled =>
            let contents := loadBlockContents P.subAllocator refilled.1 mem saved.2
            (contents.1, refilled.2, contents.2)

def loadBlocks (resources : Option LoadResources) :
    List (Block σ) → η → Memory → List UInt8 →
      Except String (List (Block σ) × η × Memory × List UInt8)
  | [], h, mem, s => .ok ([], h, mem, s)
  | block :: rest, h, mem, s =>
    (loadBlockLocked P resources block h mem s).bind fun first =>
      (loadBlocks resources rest first.2.1 first.2.2.1 first.2.2.2).map fun others =>
        (first.1 :: others.1, others.2)

/-- `Globals::load`: after `clear`, each pool is resized to its saved count of vacant slots and
every slot read back. -/
def Globals.load (resources : Option LoadResources) (g : Globals σ) (h : η) (mem : Memory)
    (s : List UInt8) : Except String (Globals σ × η × Memory × List UInt8) :=
  let cleared := (clear P g h).2
  let ringBlockCount := getBe64 s
  let bufferBlockCount := getBe64 ringBlockCount.2
  let combinedBlockCount := getBe64 bufferBlockCount.2
  (loadBlocks P resources (List.replicate ringBlockCount.1 {}) cleared mem
    combinedBlockCount.2).bind fun ring =>
  (loadBlocks P resources (List.replicate bufferBlockCount.1 {}) ring.2.1 ring.2.2.1
    ring.2.2.2).bind fun buffer =>
  (loadBlocks P resources (List.replicate combinedBlockCount.1 {}) buffer.2.1 buffer.2.2.1
    buffer.2.2.2).map fun combined =>
      ({ ringBlocks := ring.1, bufferBlocks := buffer.1, combinedBlocks := combined.1 },
        combined.2)

/-- `fillAllocFromLoad(block, alloc)`: the allocation's pointer is the block's, moved by the
difference of the two physical offsets in 64-bit unsigned arithmetic. Addresses are unbounded
numbers in this model, so the `char*` sum itself is not reduced: it differs from the source only
where that sum passes 2^64, as it does for a stream whose allocation lies below its block's
physical offset. -/
def Block.fillAllocFromLoad (block : Block σ) (alloc : Allocation) : Allocation :=
  { alloc with
    buffer := block.buffer + (alloc.offsetIntoPhys + 2 ^ 64 - block.offsetIntoPhys) % 2 ^ 64
    dedicatedContextHandle := block.dedicatedContextHandle
    hostmemId := block.hostmemId }

/-- `Globals::fillAllocFromLoad`: an allocation whose index lies past its pool is left as it
was. -/
def Globals.fillAllocFromLoad (g : Globals σ) (alloc : Allocation) (allocType : Pool) :
    Allocation :=
  match (g.blocks allocType)[alloc.blockIndex]? with
  | some block => block.fillAllocFromLoad alloc
  | none => alloc

end Asg
