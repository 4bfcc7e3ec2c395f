import Asg.Snapshot.Globals
import Asg.Pool.Run
import Asg.Pool.Reference

/-! What `loadBlockLocked` makes of the bytes `saveBlockLocked` wrote, for each shape of block a
pool holds: a vacant slot comes back vacant, a filled block with every field but its buffer. A
block of the ring or buffer pool gets a new aligned buffer holding the saved bytes, and asks for
its old physical region back; a dedicated block gets the memory the resources give for its
handle, whatever its size. -/

set_option autoImplicit false

namespace Asg

variable {σ η : Type} (P : Platform σ η)

/-- The block size fits the 64-bit field a snapshot writes it to. -/
structure Platform.Fits : Prop where
  blockSize_pos : 0 < P.blockSize
  blockSize_lt : P.blockSize < 2 ^ 64

/-- A sub-allocator whose `load`, on a fresh one, reads back exactly what `save` wrote. -/
def SubAllocator.LoadsSaved (sa : SubAllocator σ) : Prop :=
  ∀ n s rest, sa.load (sa.create n) (sa.save s ++ rest) = (s, rest)

variable {P}

theorem getSavedBlock_putSavedBlock {b : SavedBlock} (size : b.bufferSize < 2 ^ 64)
    (offset : b.offsetIntoPhys < 2 ^ 64) (hostmem : b.hostmemId < 2 ^ 64)
    (handle : ∀ k ∈ b.dedicatedContextHandle, k < 2 ^ 32) (rest : List UInt8) :
    getSavedBlock (putSavedBlock b ++ rest) = (b, rest) := by
  obtain ⟨n, o, k, v, id⟩ := b
  have one : (1 : Nat) < 2 ^ 32 := by decide
  have zero : (0 : Nat) < 2 ^ 32 := by decide
  cases k <;> cases v <;>
    simp_all [getSavedBlock, putSavedBlock, List.append_assoc, getBe64_putBe64, getBe32_putBe32,
      Nat.mod_eq_of_lt]

@[simp] theorem loadBlockLocked_vacant (resources : Option LoadResources) (block : Block σ) (h : η)
    (mem : Memory) (rest : List UInt8) :
    loadBlockLocked P resources block h mem (putBe32 0 ++ rest) =
      .ok ({ block with isEmpty := true }, h, mem, rest) := by
  simp [loadBlockLocked, getBe32_putBe32]

theorem saveBlockLocked_vacant {B : Block σ} (empty : B.isEmpty = true) (mem : Memory) :
    saveBlockLocked P mem B = putBe32 0 := by
  simp [saveBlockLocked, empty]

theorem loadSubAlloc_save {sa : SubAllocator σ} (loads : sa.LoadsSaved) {block : Block σ} {n : Nat}
    (fresh : block.subAlloc = some (sa.create n)) (sub : σ) (rest : List UInt8) :
    block.loadSubAlloc sa (sa.save sub ++ rest) = ({ block with subAlloc := some sub }, rest) := by
  simp [Block.loadSubAlloc, fresh, loads n sub rest]

theorem loadBlockContents_internal {sa : SubAllocator σ} (loads : sa.LoadsSaved) {block : Block σ}
    {n : Nat} (fresh : block.subAlloc = some (sa.create n)) (internal : block.external = false)
    (sub : σ) (mem : Memory) {bytes : List UInt8} (size : bytes.length = block.bufferSize)
    (rest : List UInt8) :
    loadBlockContents sa block mem (sa.save sub ++ (bytes ++ rest)) =
      ({ block with subAlloc := some sub }, writeBytes mem block.buffer bytes, rest) := by
  simp [loadBlockContents, loadSubAlloc_save loads fresh, internal, ← size]

theorem loadBlockContents_external {sa : SubAllocator σ} (loads : sa.LoadsSaved) {block : Block σ}
    {n : Nat} (fresh : block.subAlloc = some (sa.create n)) (external : block.external = true)
    (sub : σ) (mem : Memory) (rest : List UInt8) :
    loadBlockContents sa block mem (sa.save sub ++ rest) = ({ block with subAlloc := some sub }, mem, rest) := by
  simp [loadBlockContents, loadSubAlloc_save loads fresh, external]

theorem fillBlockLocked_load_shared {create : AllocationCreateInfo} {block : Block σ} {h h₂ : η}
    {o buf : Nat} (shared : create.dedicatedContextHandle = none) (plain : create.virtioGpu = false)
    (fromLoad : create.fromLoad = true)
    (taken : P.host.alignedBufAlloc
      ((P.host.allocSharedHostRegionFixedLocked h P.blockSize o).getD h) P.pageSize P.blockSize =
        (buf, h₂))
    (recorded : block.offsetIntoPhys = o) :
    fillBlockLocked P create block h =
      .ok ({ block with
          buffer := buf
          bufferSize := P.blockSize
          subAlloc := some (P.subAllocator.create P.blockSize)
          isEmpty := false },
        P.host.addMemoryMapping h₂ (P.host.getPhysAddrStartLocked + o) buf P.blockSize) := by
  subst recorded
  simp [fillBlockLocked, shared, plain, physRegion, fromLoad, taken, Except.map]

theorem fillBlockLocked_load_dedicated {create : AllocationCreateInfo} {block : Block σ} {h : η}
    {handle : Nat} (dedicated : create.dedicatedContextHandle = some handle)
    (virtio : create.virtioGpu = true) (nonnull : create.externalAddr ≠ 0) :
    fillBlockLocked P create block h =
      .ok ({ block with
          external := true
          buffer := create.externalAddr
          bufferSize := create.size
          subAlloc := some (P.subAllocator.create create.size)
          offsetIntoPhys := 0
          isEmpty := false
          usesVirtioGpuHostmem := true
          hostmemId := create.hostmemId
          dedicatedContextHandle := some handle }, h) := by
  simp [fillBlockLocked, dedicated, virtio, nonnull]

theorem loadBlockLocked_saveBlockLocked_shared (fits : P.Fits) (loads : P.subAllocator.LoadsSaved)
    {B : Block σ} {sub : σ} (shape : SharedShape P B) (filled : B.isEmpty = false)
    (linked : B.subAlloc = some sub) (resources : Option LoadResources) {h h₂ : η} {buf : Nat}
    (taken : P.host.alignedBufAlloc
      ((P.host.allocSharedHostRegionFixedLocked h P.blockSize B.offsetIntoPhys).getD h)
      P.pageSize P.blockSize = (buf, h₂))
    (mem memSaved : Memory) (rest : List UInt8) :
    loadBlockLocked P resources {} h mem (saveBlockLocked P memSaved B ++ rest) =
      .ok ({ B with buffer := buf },
        P.host.addMemoryMapping h₂ (P.host.getPhysAddrStartLocked + B.offsetIntoPhys) buf
          P.blockSize,
        writeBytes mem buf (readBytes memSaved B.buffer P.blockSize), rest) := by
  obtain ⟨handle, internal, plain, hostmem, size⟩ := shape
  obtain ⟨size, -, bound⟩ := size filled
  have saved : ∀ rest, getSavedBlock (putSavedBlock B.saved ++ rest) = (B.saved, rest) :=
    getSavedBlock_putSavedBlock (by simpa [Block.saved, size] using fits.blockSize_lt)
      (by have := fits.blockSize_pos; simp [Block.saved]; omega) (by simp [Block.saved, hostmem])
      (by simp [Block.saved, handle])
  simp only [saveBlockLocked, filled, Bool.false_eq_true, if_false, linked, Option.map_some',
    Option.getD_some, internal, List.append_assoc, size, loadBlockLocked,
    getBe32_putBe32_of_lt (show 1 < 2 ^ 32 by decide), Nat.one_ne_zero, saved]
  simp only [Block.saved, plain, handle, externalAddressFor, Bool.false_eq_true, if_false,
    Except.bind]
  rewrite [fillBlockLocked_load_shared rfl rfl rfl taken ?recorded, Except.map,
    loadBlockContents_internal loads rfl rfl sub mem (by simp) rest]
  case recorded => rfl
  cases B
  simp_all

theorem loadBlockLocked_saveBlockLocked_dedicated (loads : P.subAllocator.LoadsSaved)
    {B : Block σ} {sub : σ} {handle : Nat} {resources : LoadResources} {m : ExternalMemory}
    (shape : CombinedShape B) (filled : B.isEmpty = false) (linked : B.subAlloc = some sub)
    (named : B.dedicatedContextHandle = some handle)
    (supplied : resources.contextExternalMemoryMap handle = some m)
    (nonnull : m.externalAddress ≠ 0) (h : η) (mem memSaved : Memory) (rest : List UInt8) :
    loadBlockLocked P (some resources) {} h mem (saveBlockLocked P memSaved B ++ rest) =
      .ok ({ B with buffer := m.externalAddress }, h, mem, rest) := by
  obtain ⟨external, virtio, -, offset, -, -, size, hostmem, small⟩ := shape filled
  have saved : ∀ rest, getSavedBlock (putSavedBlock B.saved ++ rest) = (B.saved, rest) :=
    getSavedBlock_putSavedBlock size (by simp [Block.saved, offset]) (by simp [Block.saved, hostmem])
      small
  simp only [saveBlockLocked, filled, Bool.false_eq_true, if_false, linked, Option.map_some',
    Option.getD_some, external, if_true, List.append_nil, List.append_assoc, loadBlockLocked,
    getBe32_putBe32_of_lt (show 1 < 2 ^ 32 by decide), Nat.one_ne_zero, saved]
  simp only [Block.saved, virtio, named, externalAddressFor, if_true, supplied, Except.bind]
  rewrite [fillBlockLocked_load_dedicated rfl rfl nonnull, Except.map,
    loadBlockContents_external loads rfl rfl sub mem rest]
  cases B
  simp_all

/-- A dedicated block over 48 bytes at 4096, read back over the 16 bytes at 8192 the resources
give for its handle: the load takes that memory for all 48 bytes, while a fresh request for the
same memory dies for its size. -/
theorem load_ignores_external_size :
    ((allocRingAndBufferStorageDedicated referencePlatform
        { handle := 7, isVirtio := true, externalAddr := 4096, externalAddrSize := 48 } {}
        ({} : Outstanding)).toOption.bind fun (_, g, h) =>
      (Globals.load referencePlatform
          (some ⟨fun _ => some { externalAddress := 8192, externalAddressSize := 16 }⟩) g h
          (fun _ => 0) (Globals.save referencePlatform (fun _ => 0) g)).toOption.map
        fun (g', _) => g'.combinedBlocks.map fun B => (B.isEmpty, B.buffer, B.bufferSize)) =
      some [(false, 8192, 48)] ∧
    allocRingAndBufferStorageDedicated referencePlatform
        { handle := 7, isVirtio := true, externalAddr := 8192, externalAddrSize := 16 } {}
        ({} : Outstanding) =
      .error "External address size too small\n" :=
  ⟨by decide, rfl⟩

end Asg
