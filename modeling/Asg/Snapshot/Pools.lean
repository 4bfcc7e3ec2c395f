import Asg.Snapshot.Blocks

/-! `Globals::load` over what `Globals::save` wrote. Every pool comes back with as many slots;
a filled block with every field but its buffer, an empty one as a vacant slot. The buffers a
load fills are new aligned buffers, each apart from every one outstanding before it, so the
bytes written into one survive the ones written after it. -/

set_option autoImplicit false

namespace Asg

variable {σ η : Type} {P : Platform σ η}

/-- What a load makes of the block `B` a save wrote: a filled block comes back with every field
but its buffer, an empty one as a vacant slot. -/
def Reloaded (B B' : Block σ) : Prop :=
  if B.isEmpty then B' = {} else B' = { B with buffer := B'.buffer }

/-- The memory the resources give a dedicated block on load, at a non-null address. -/
def Supplied (resources : Option LoadResources) (B : Block σ) : Prop :=
  ∃ r handle m, resources = some r ∧ B.dedicatedContextHandle = some handle ∧
    r.contextExternalMemoryMap handle = some m ∧ m.externalAddress ≠ 0

/-- A saved block of pool `p` that a load can read back: of the pool's shape, and if filled, with
a sub-allocator and, if external, memory to go over. -/
def Loadable (P : Platform σ η) (resources : Option LoadResources) (p : Pool) (B : Block σ) : Prop :=
  Shape P p B ∧ (B.isEmpty = false → B.subAlloc.isSome ∧ (B.external = true → Supplied resources B))

/-- The buffers a load has filled so far, with the bytes each must hold: each is outstanding on
the host, of the block size, and holds them. -/
def Kept (hc : P.host.Contract) (h : η) (mem : Memory) (written : List (Nat × List UInt8)) :
    Prop :=
  ∀ w ∈ written, w.1 ∈ (hc.outstanding h).alignedBufs ∧ w.2.length = P.blockSize ∧
    readBytes mem w.1 P.blockSize = w.2

/-- What a pool's slots come back as, and where the bytes of its internal blocks went. -/
def ReloadedInto (P : Platform σ η) (memSaved : Memory) (written : List (Nat × List UInt8))
    (B B' : Block σ) : Prop :=
  Reloaded B B' ∧ (B.isEmpty = false → B'.buffer ≠ 0 ∧
    (B.external = false → (B'.buffer, readBytes memSaved B.buffer P.blockSize) ∈ written))

/-- What a load makes of block `B`, with memory `mem'` after it: `B` reloaded, a filled one over
a non-null buffer that, for an internal block, holds the bytes the saved one held. -/
def Restored (P : Platform σ η) (memSaved mem' : Memory) (B B' : Block σ) : Prop :=
  Reloaded B B' ∧ (B.isEmpty = false → B'.buffer ≠ 0 ∧
    (B.external = false → readBytes mem' B'.buffer P.blockSize = readBytes memSaved B.buffer P.blockSize))

variable (hc : P.host.Contract)

theorem alignedBufs_fixed (h : η) (n o : Nat) :
    (hc.outstanding ((P.host.allocSharedHostRegionFixedLocked h n o).getD h)).alignedBufs =
      (hc.outstanding h).alignedBufs := by
  cases granted : P.host.allocSharedHostRegionFixedLocked h n o with
  | none => rfl
  | some h' => simp [(hc.region_fixed granted).1]

theorem Kept.fill {h h₁ h₂ : η} {mem : Memory} {written : List (Nat × List UInt8)} {buf : Nat}
    (kept : Kept hc h mem written)
    (same : (hc.outstanding h₁).alignedBufs = (hc.outstanding h).alignedBufs)
    (taken : P.host.alignedBufAlloc h₁ P.pageSize P.blockSize = (buf, h₂)) (p b : Nat)
    {bytes : List UInt8} (size : bytes.length = P.blockSize) :
    Kept hc (P.host.addMemoryMapping h₂ p b P.blockSize) (writeBytes mem buf bytes)
      ((buf, bytes) :: written) := by
  obtain ⟨host, -, apart⟩ := hc.buf_alloc taken
  have bufs : (hc.outstanding (P.host.addMemoryMapping h₂ p b P.blockSize)).alignedBufs =
      buf :: (hc.outstanding h).alignedBufs := by
    rw [hc.mapping_add, host, same]
  intro w member
  rw [bufs]
  rcases List.mem_cons.1 member with rfl | old
  · exact ⟨List.mem_cons_self _ _, size, by rw [← size, readBytes_writeBytes]⟩
  · obtain ⟨outstanding, length, holds⟩ := kept w old
    refine ⟨List.mem_cons_of_mem _ outstanding, length, ?_⟩
    rw [← holds]
    refine readBytes_congr fun i below => writeBytes_outside _ _ _ ?_
    have := apart w.1 (same ▸ outstanding)
    unfold Apart at this
    omega

theorem ReloadedInto.holds {memSaved : Memory} {h : η} {mem : Memory}
    {written written' : List (Nat × List UInt8)} (kept : Kept hc h mem written') (grown : written ⊆ written')
    {B B' : Block σ} (reloaded : ReloadedInto P memSaved written B B') : Restored P memSaved mem B B' :=
  ⟨reloaded.1, fun filled => ⟨(reloaded.2 filled).1,
    fun internal => (kept _ (grown ((reloaded.2 filled).2 internal))).2.2⟩⟩

theorem ReloadedInto.mono {memSaved : Memory} {written written' : List (Nat × List UInt8)}
    {B B' : Block σ} (reloaded : ReloadedInto P memSaved written B B') (grown : written ⊆ written') :
    ReloadedInto P memSaved written' B B' :=
  ⟨reloaded.1, fun filled => ⟨(reloaded.2 filled).1, fun internal => grown ((reloaded.2 filled).2 internal)⟩⟩

variable (fits : P.Fits) (loads : P.subAllocator.LoadsSaved) (resources : Option LoadResources)
  (memSaved : Memory)
include hc fits loads

theorem loadBlockLocked_saved {p : Pool} {B : Block σ} (loadable : Loadable P resources p B)
    {h : η} {mem : Memory} {written : List (Nat × List UInt8)} (kept : Kept hc h mem written)
    (rest : List UInt8) :
    ∃ B' h' mem' written',
      loadBlockLocked P resources {} h mem (saveBlockLocked P memSaved B ++ rest) =
        .ok (B', h', mem', rest) ∧ Kept hc h' mem' written' ∧ written ⊆ written' ∧
      ReloadedInto P memSaved written' B B' := by
  obtain ⟨shape, ready⟩ := loadable
  cases empty : B.isEmpty
  case true =>
    refine ⟨_, h, mem, written, by rw [saveBlockLocked_vacant empty, loadBlockLocked_vacant], kept,
      List.Subset.refl _, by simp [Reloaded, empty], fun filled => by simp [empty] at filled⟩
  case false =>
  obtain ⟨sub, linked⟩ := Option.isSome_iff_exists.1 (ready empty).1
  by_cases combined : p = .combined
  · -- a dedicated block goes back over the memory the resources give
    subst combined
    have external := (shape empty).1
    obtain ⟨r, handle, m, rfl, named, supplied, nonnull⟩ := (ready empty).2 external
    exact ⟨_, h, mem, written, loadBlockLocked_saveBlockLocked_dedicated loads shape empty linked
      named supplied nonnull h mem memSaved rest, kept, List.Subset.refl _,
      by simp [Reloaded, empty], fun _ => ⟨nonnull, fun internal => by simp [external] at internal⟩⟩
  · -- a block of the ring or buffer pool gets a new buffer holding its bytes
    rw [shape_shared P combined] at shape
    generalize taken : P.host.alignedBufAlloc
      ((P.host.allocSharedHostRegionFixedLocked h P.blockSize B.offsetIntoPhys).getD h)
      P.pageSize P.blockSize = result
    obtain ⟨buf, h₂⟩ := result
    exact ⟨_, _, _, _, loadBlockLocked_saveBlockLocked_shared fits loads shape empty linked
      resources taken mem memSaved rest,
      kept.fill hc (alignedBufs_fixed hc h _ _) taken _ _ (length_readBytes _ _ _),
      List.subset_cons_self _ _, by simp [Reloaded, empty],
      fun _ => ⟨(hc.buf_alloc taken).2.1, fun _ => List.mem_cons_self _ _⟩⟩

theorem loadBlocks_saveBlocks {p : Pool} (blocks : List (Block σ))
    (loadable : ∀ B ∈ blocks, Loadable P resources p B) {h : η} {mem : Memory}
    {written : List (Nat × List UInt8)} (kept : Kept hc h mem written) (rest : List UInt8) :
    ∃ blocks' h' mem' written',
      loadBlocks P resources (List.replicate blocks.length {}) h mem
        (saveBlocks P memSaved blocks ++ rest) = .ok (blocks', h', mem', rest) ∧
      Kept hc h' mem' written' ∧ written ⊆ written' ∧
      List.Forall₂ (ReloadedInto P memSaved written') blocks blocks' := by
  induction blocks generalizing h mem written with
  | nil => exact ⟨[], h, mem, written, rfl, kept, List.Subset.refl _, .nil⟩
  | cons B blocks ih =>
    obtain ⟨B', h₁, mem₁, written₁, first, kept₁, grown₁, reloaded⟩ :=
      loadBlockLocked_saved hc fits loads resources memSaved (loadable B (List.mem_cons_self _ _))
        kept (saveBlocks P memSaved blocks ++ rest)
    obtain ⟨blocks', h', mem', written', others, kept', grown', reloadedRest⟩ :=
      ih (fun C member => loadable C (List.mem_cons_of_mem _ member)) kept₁
    refine ⟨B' :: blocks', h', mem', written', ?_, kept', grown₁.trans grown',
      .cons (reloaded.mono grown') reloadedRest⟩
    simp only [saveBlocks, List.flatMap_cons, List.length_cons, List.replicate_succ,
      List.append_assoc] at first others ⊢
    simp [loadBlocks, first, others, Except.bind, Except.map]

theorem Globals.load_save {g : Globals σ}
    (loadable : ∀ p, ∀ B ∈ g.blocks p, Loadable P resources p B)
    (sizes : ∀ p, (g.blocks p).length < 2 ^ 64) (g₁ : Globals σ) (h₁ : η) (mem₁ : Memory)
    (rest : List UInt8) :
    ∃ g' h' mem', Globals.load P resources g₁ h₁ mem₁ (Globals.save P memSaved g ++ rest) =
        .ok (g', h', mem', rest) ∧
      ∀ p, List.Forall₂ (Restored P memSaved mem') (g.blocks p) (g'.blocks p) := by
  have start : Kept hc (clear P g₁ h₁).2 mem₁ [] := fun _ member => by simp at member
  obtain ⟨ring', h₂, mem₂, written₂, ringOk, kept₂, -, ringBack⟩ :=
    loadBlocks_saveBlocks hc fits loads resources memSaved g.ringBlocks (loadable .ring) start
      (saveBlocks P memSaved g.bufferBlocks ++ (saveBlocks P memSaved g.combinedBlocks ++ rest))
  obtain ⟨buffer', h₃, mem₃, written₃, bufferOk, kept₃, grown₃, bufferBack⟩ :=
    loadBlocks_saveBlocks hc fits loads resources memSaved g.bufferBlocks (loadable .buffer) kept₂
      (saveBlocks P memSaved g.combinedBlocks ++ rest)
  obtain ⟨combined', h₄, mem₄, written₄, combinedOk, kept₄, grown₄, combinedBack⟩ :=
    loadBlocks_saveBlocks hc fits loads resources memSaved g.combinedBlocks (loadable .combined)
      kept₃ rest
  refine ⟨⟨ring', buffer', combined'⟩, h₄, mem₄, ?_, fun p => ?_⟩
  · have ring : g.ringBlocks.length < 2 ^ 64 := sizes .ring
    have buffer : g.bufferBlocks.length < 2 ^ 64 := sizes .buffer
    have combined : g.combinedBlocks.length < 2 ^ 64 := sizes .combined
    simp only [Globals.save, Globals.load, List.append_assoc, getBe64_putBe64_of_lt ring,
      getBe64_putBe64_of_lt buffer, getBe64_putBe64_of_lt combined, ringOk, bufferOk, combinedOk, Except.bind,
      Except.map]
  · cases p
    · exact ringBack.imp fun _ _ reloaded => reloaded.holds hc kept₄ (grown₃.trans grown₄)
    · exact bufferBack.imp fun _ _ reloaded => reloaded.holds hc kept₄ grown₄
    · exact combinedBack.imp fun _ _ reloaded => reloaded.holds hc kept₄ (List.Subset.refl _)

end Asg
