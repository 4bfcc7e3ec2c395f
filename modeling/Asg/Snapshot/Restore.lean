import Asg.Snapshot.Device

/-! What the host has outstanding across `clear` and `Globals::load`. `clear` gives back every
region, mapping and buffer the blocks hold. A load asks for each saved region again at its old
offset and disregards a refusal, so over a stream of its own making it can leave two blocks on
one region; over a host that grants a free region, a snapshot of a state a run reaches takes back
exactly what that state's blocks held. A device run that also clears the pools and restores
such snapshots, each while no context is live, keeps the device invariant in every state. -/

set_option autoImplicit false

namespace Asg

variable {σ η : Type} {P : Platform σ η}

/-- A host that grants a region at a fixed offset whenever it lies inside the 64-bit window and
apart from every region outstanding. -/
def GrantsFree (hc : P.host.Contract) : Prop :=
  ∀ h o, o + P.blockSize ≤ 2 ^ 64 →
    (∀ r ∈ (hc.outstanding h).regions, Apart o P.blockSize r P.blockSize) →
    (P.host.allocSharedHostRegionFixedLocked h P.blockSize o).isSome

theorem listHost_grantsFree : @GrantsFree _ _ referencePlatform listHost.contract :=
  fun h o window apart => by
    have granted : o + 64 ≤ 2 ^ 64 ∧ ∀ r ∈ h.regions, Apart o 64 r 64 := ⟨window, apart⟩
    simp only [referencePlatform, listHost]
    rw [if_pos granted]
    rfl

theorem loadBlockContents_fst (sa : SubAllocator σ) (block : Block σ) (mem : Memory)
    (s : List UInt8) : ∃ sub, (loadBlockContents sa block mem s).1 = { block with subAlloc := sub } := by
  cases linked : block.subAlloc <;> simp only [loadBlockContents, Block.loadSubAlloc, linked] <;>
    split <;> exact ⟨_, rfl⟩

theorem loadBlockLocked_host {resources : Option LoadResources} {h h' : η} {mem mem' : Memory}
    {s s' : List UInt8} {B' : Block σ}
    (ok : loadBlockLocked P resources {} h mem s = .ok (B', h', mem', s')) :
    held B' = none ∧ h' = h ∨ B'.isEmpty = false ∧ B'.external = false ∧ ∃ h₂,
      P.host.alignedBufAlloc ((P.host.allocSharedHostRegionFixedLocked h P.blockSize
        B'.offsetIntoPhys).getD h) P.pageSize P.blockSize = (B'.buffer, h₂) ∧
      h' = P.host.addMemoryMapping h₂ (P.host.getPhysAddrStartLocked + B'.offsetIntoPhys)
        B'.buffer P.blockSize := by
  simp only [loadBlockLocked] at ok
  split at ok
  case isTrue =>
    simp only [Except.ok.injEq, Prod.mk.injEq] at ok
    obtain ⟨rfl, rfl, -, -⟩ := ok
    exact .inl ⟨held_of_isEmpty rfl, rfl⟩
  case isFalse =>
    obtain ⟨addr, -, filled⟩ := bind_eq_ok.1 ok
    obtain ⟨⟨B₁, h₁⟩, fill, result⟩ := map_eq_ok.1 filled
    obtain ⟨sub, contents⟩ := loadBlockContents_fst P.subAllocator B₁ mem
      (getSavedBlock (getBe32 s).2).2
    simp only [contents, Prod.mk.injEq] at result
    obtain ⟨rfl, rfl, -⟩ := result
    cases dedicated : (getSavedBlock (getBe32 s).2).1.dedicatedContextHandle with
    | some handle =>
      obtain ⟨-, -, rfl, rfl⟩ := fillBlockLocked_dedicated dedicated fill
      exact .inl ⟨held_of_external rfl, rfl⟩
    | none =>
      obtain ⟨-, o, h₁, buf, h₂, region, aligned, rfl, rfl⟩ := fillBlockLocked_shared dedicated fill
      simp only [physRegion, if_true, Except.ok.injEq, Prod.mk.injEq] at region
      obtain ⟨rfl, rfl⟩ := region
      exact .inr ⟨rfl, rfl, h₂, aligned, rfl⟩

section
variable {sc : P.subAllocator.Contract} {hc : P.host.Contract} {base : Outstanding}

theorem PoolInv.plain {s : PoolState σ η} (inv : PoolInv sc hc base s) (p : Pool) :
    ∀ B ∈ s.globals.blocks p, B.isEmpty = false → B.external = false →
      B.usesVirtioGpuHostmem = false := by
  intro B member filled internal
  cases p
  case combined =>
    have shape : CombinedShape B := inv.shape .combined B member
    simp [(shape filled).1] at internal
  all_goals exact (inv.shape _ B member : SharedShape P B).2.2.1

theorem PoolInv.clear {s : PoolState σ η} (inv : PoolInv sc hc base s) :
    (hc.outstanding (clear P s.globals s.host).2).Equiv base := by
  have balanced : (hc.outstanding s.host).Equiv (base.holding P
      (s.globals.ringBlocks.filterMap held ++ (s.globals.bufferBlocks.filterMap held ++
        (s.globals.combinedBlocks.filterMap held ++ [])))) := by
    simpa [heldBy, Globals.allBlocks, List.filterMap_append] using inv.balanced
  exact destroyBlocks_outstanding hc (inv.plain .combined) (destroyBlocks_outstanding hc
    (inv.plain .buffer) (destroyBlocks_outstanding hc (inv.plain .ring) balanced))

theorem PoolInv.held_window {s : PoolState σ η} (inv : PoolInv sc hc base s) {r : Nat × Nat}
    (member : r ∈ heldBy s.globals) : r.1 + P.blockSize ≤ 2 ^ 64 := by
  unfold heldBy at member
  obtain ⟨B, member, holds⟩ := List.mem_filterMap.1 member
  obtain ⟨filled, internal, same⟩ := held_eq_some holds
  rw [same]
  simp only [Globals.allBlocks, List.mem_append] at member
  rcases member with (ring | buffer) | combined
  · exact ((inv.shape .ring B ring : SharedShape P B).2.2.2.2 filled).2.2
  · exact ((inv.shape .buffer B buffer : SharedShape P B).2.2.2.2 filled).2.2
  · have shape : CombinedShape B := inv.shape .combined B combined
    simp [(shape filled).1] at internal

variable (hc)

theorem loadBlocks_host (grants : GrantsFree hc) {resources : Option LoadResources} {n : Nat}
    {h h' : η} {mem mem' : Memory} {s s' : List UInt8} {blocks : List (Block σ)}
    (ok : loadBlocks P resources (List.replicate n {}) h mem s = .ok (blocks, h', mem', s'))
    {l : List (Nat × Nat)} (balanced : (hc.outstanding h).Equiv (base.holding P l))
    (separate : Separated P base (blocks.filterMap held ++ l))
    (window : ∀ r ∈ blocks.filterMap held, r.1 + P.blockSize ≤ 2 ^ 64) :
    (hc.outstanding h').Equiv (base.holding P (blocks.filterMap held ++ l)) := by
  induction n generalizing h mem s blocks l with
  | zero =>
    simp only [List.replicate_zero, loadBlocks, Except.ok.injEq, Prod.mk.injEq] at ok
    obtain ⟨rfl, rfl, -, -⟩ := ok
    simpa using balanced
  | succ n ih =>
    simp only [List.replicate_succ, loadBlocks] at ok
    obtain ⟨⟨B, h₁, mem₁, s₁⟩, first, rest⟩ := bind_eq_ok.1 ok
    obtain ⟨⟨others, h₂, mem₂, s₂⟩, restOk, result⟩ := map_eq_ok.1 rest
    simp only [Prod.mk.injEq] at result
    obtain ⟨rfl, rfl, rfl, rfl⟩ := result
    rcases loadBlockLocked_host first with ⟨vacant, rfl⟩ | ⟨filled, internal, h₃, aligned, rfl⟩
    · simp only [List.filterMap_cons, vacant] at separate window ⊢
      exact ih restOk balanced separate window
    · simp only [List.filterMap_cons, held_of_filled filled internal, List.cons_append,
        List.mem_cons, forall_eq_or_imp] at separate window ⊢
      have free : ∀ r ∈ (hc.outstanding h).regions,
          Apart B.offsetIntoPhys P.blockSize r P.blockSize := by
        intro r member
        rcases List.mem_append.1 (balanced.1.subset member) with fromHeld | fromBase
        · obtain ⟨r', member', rfl⟩ := List.mem_map.1 fromHeld
          exact List.rel_of_pairwise_cons separate.1 (List.mem_append_right _ member')
        · exact separate.2 _ (List.mem_cons_self _ _) r fromBase
      obtain ⟨h₄, granted⟩ := Option.isSome_iff_exists.1 (grants h _ window.1 free)
      rw [granted, Option.getD_some] at aligned
      have host : hc.outstanding (P.host.addMemoryMapping h₃
          (P.host.getPhysAddrStartLocked + B.offsetIntoPhys) B.buffer P.blockSize) =
          (hc.outstanding h).hold P (B.offsetIntoPhys, B.buffer) := by
        simp [hc.mapping_add, (hc.buf_alloc aligned).1, (hc.region_fixed granted).1,
          Outstanding.hold]
      have later := ih restOk (host ▸ balanced.hold P _) (separate.perm List.perm_middle.symm)
        window.2
      exact later.trans (base.holding_perm P List.perm_middle)

theorem Globals.load_host (grants : GrantsFree hc) {resources : Option LoadResources}
    {g g' : Globals σ} {h h' : η} {mem mem' : Memory} {s s' : List UInt8}
    (ok : Globals.load P resources g h mem s = .ok (g', h', mem', s'))
    (cleared : (hc.outstanding (clear P g h).2).Equiv base)
    (separate : Separated P base (heldBy g'))
    (window : ∀ r ∈ heldBy g', r.1 + P.blockSize ≤ 2 ^ 64) :
    (hc.outstanding h').Equiv (base.holding P (heldBy g')) := by
  simp only [Globals.load] at ok
  obtain ⟨⟨ring, h₁, mem₁, s₁⟩, ringOk, rest⟩ := bind_eq_ok.1 ok
  obtain ⟨⟨buffer, h₂, mem₂, s₂⟩, bufferOk, rest⟩ := bind_eq_ok.1 rest
  obtain ⟨⟨combined, h₃, mem₃, s₃⟩, combinedOk, result⟩ := map_eq_ok.1 rest
  simp only [Prod.mk.injEq] at result
  obtain ⟨rfl, rfl, rfl, rfl⟩ := result
  have full : (combined.filterMap held ++ (buffer.filterMap held ++ (ring.filterMap held ++ []))).Perm
      (heldBy ⟨ring, buffer, combined⟩) := by
    rw [List.perm_iff_count]
    intro v
    simp only [heldBy, Globals.allBlocks, List.filterMap_append, List.count_append, List.append_nil]
    omega
  have bufferSub : (buffer.filterMap held ++ (ring.filterMap held ++ [])).Subperm
      (heldBy ⟨ring, buffer, combined⟩) :=
    (List.sublist_append_right _ _).subperm.trans full.subperm
  have ringSub : (ring.filterMap held ++ []).Subperm (heldBy ⟨ring, buffer, combined⟩) :=
    (List.sublist_append_right _ _).subperm.trans bufferSub
  have start : (hc.outstanding (clear P g h).2).Equiv (base.holding P []) := cleared
  have inWindow : ∀ {l l' : List (Nat × Nat)}, (l ++ l').Subperm (heldBy ⟨ring, buffer, combined⟩) →
      ∀ r ∈ l, r.1 + P.blockSize ≤ 2 ^ 64 := fun sub r member =>
    window r (sub.subset (List.mem_append_left _ member))
  have first := loadBlocks_host hc grants ringOk start (separate.subperm ringSub) (inWindow ringSub)
  have second := loadBlocks_host hc grants bufferOk first (separate.subperm bufferSub)
    (inWindow bufferSub)
  have third := loadBlocks_host hc grants combinedOk second (separate.subperm full.subperm)
    (inWindow full.subperm)
  exact third.trans (base.holding_perm P full)

end

set_option maxRecDepth 10000 in
/-- A stream that saves two ring blocks at physical offset 0, loaded from empty pools on the
reference host: the second request for region 0 is refused and disregarded, and both blocks hold
region 0, which the host has outstanding once. -/
theorem load_disregards_refused_region :
    let block := putBe32 1 ++ putSavedBlock ⟨64, 0, none, false, 0⟩ ++ wholeAllocator.save (64, []) ++
      List.replicate 64 0
    ((Globals.load referencePlatform none {} ({} : Outstanding) (fun _ => 0)
      (putBe64 2 ++ putBe64 0 ++ putBe64 0 ++ block ++ block)).toOption.map
      fun (g, h, _) => ((heldBy g).map Prod.fst, h.regions)) = some ([0, 0], [0]) := by
  decide

/-! ### The invariant across a restore -/

theorem held_reloaded {B B' : Block σ} (reloaded : Reloaded B B') :
    (held B').map Prod.fst = (held B).map Prod.fst := by
  unfold Reloaded at reloaded
  split at reloaded
  case isTrue empty => simp [reloaded, held_of_isEmpty empty]
  case isFalse =>
    rw [reloaded]
    by_cases c : (B.isEmpty || B.external) = true <;> simp [held, c]

theorem regions_reloaded {l l' : List (Block σ)} (back : List.Forall₂ Reloaded l l') :
    (l'.filterMap held).map Prod.fst = (l.filterMap held).map Prod.fst := by
  simp only [List.map_filterMap]
  induction back with
  | nil => rfl
  | cons reloaded _ ih => simp only [List.filterMap_cons, held_reloaded reloaded, ih]

theorem heldBy_regions {g g' : Globals σ}
    (back : ∀ p, List.Forall₂ Reloaded (g.blocks p) (g'.blocks p)) :
    (heldBy g').map Prod.fst = (heldBy g).map Prod.fst := by
  have ring : List.Forall₂ Reloaded g.ringBlocks g'.ringBlocks := back .ring
  have buffer : List.Forall₂ Reloaded g.bufferBlocks g'.bufferBlocks := back .buffer
  have combined : List.Forall₂ Reloaded g.combinedBlocks g'.combinedBlocks := back .combined
  simp only [heldBy, Globals.allBlocks, List.filterMap_append, List.map_append,
    regions_reloaded ring, regions_reloaded buffer, regions_reloaded combined]

theorem Reloaded.of_filled {B B' : Block σ} (reloaded : Reloaded B B') (filled : B'.isEmpty = false) :
    B.isEmpty = false ∧ B' = { B with buffer := B'.buffer } := by
  unfold Reloaded at reloaded
  split at reloaded
  case isTrue => subst reloaded; simp at filled
  case isFalse empty => exact ⟨by simpa using empty, reloaded⟩

theorem Reloaded.shape {p : Pool} {B B' : Block σ} (shape : Shape P p B) (reloaded : Reloaded B B')
    (nonnull : B.isEmpty = false → B'.buffer ≠ 0) : Shape P p B' := by
  unfold Reloaded at reloaded
  split at reloaded
  case isTrue => subst reloaded; exact shape_vacant p
  case isFalse empty =>
  have filled : B.isEmpty = false := by simpa using empty
  rw [reloaded]
  by_cases combined : p = .combined
  · subst combined
    obtain ⟨external, virtio, handle, offset, -, rest⟩ := (shape : CombinedShape B) filled
    exact fun _ => ⟨external, virtio, handle, offset, nonnull filled, rest⟩
  · rw [shape_shared P combined] at shape ⊢
    obtain ⟨handle, internal, plain, hostmem, sized⟩ := shape
    exact ⟨handle, internal, plain, hostmem, fun _ =>
      ⟨(sized filled).1, nonnull filled, (sized filled).2.2⟩⟩

theorem Moved.fields {g g' : Globals σ} {p : Pool} {a a' : Allocation} (moved : Moved g g' p a a') :
    a'.blockIndex = a.blockIndex ∧ a'.size = a.size := by
  obtain ⟨-, -, -, -, -, -, -, -, rfl⟩ := moved
  exact ⟨rfl, rfl⟩

theorem Placed.reload {B : Block σ} {a : Allocation} (placed : Placed B a) (buf : Nat) :
    Placed { B with buffer := buf } { a with buffer := buf + (a.buffer - B.buffer) } := by
  obtain ⟨notView, start, within, phys, handle, hostmem⟩ := placed
  exact ⟨notView, Nat.le_add_right _ _, by simp only; omega, by simpa using phys, handle, hostmem⟩

theorem inSlot_map {allocs : List Allocation} {f : Allocation → Allocation}
    (index : ∀ a ∈ allocs, (f a).blockIndex = a.blockIndex) (i : Nat) :
    inSlot (allocs.map f) i = (inSlot allocs i).map f := by
  simp only [inSlot, List.filter_map]
  exact congrArg _ (List.filter_congr fun a member => by simp [index a member])

section
variable {sc : P.subAllocator.Contract}

theorem SlotInv.reload {g g' : Globals σ} {p : Pool} {allocs : List Allocation}
    (inv : SlotInv sc (g.blocks p) allocs) (back : List.Forall₂ Reloaded (g.blocks p) (g'.blocks p))
    {f : Allocation → Allocation} (moved : ∀ a ∈ allocs, Moved g g' p a (f a)) :
    SlotInv sc (g'.blocks p) (allocs.map f) := by
  have index : ∀ a ∈ allocs, (f a).blockIndex = a.blockIndex := fun a live => (moved a live).fields.1
  have back' : List.Forall₂ (flip Reloaded) (g'.blocks p) (g.blocks p) := List.Forall₂.flip back
  refine ⟨fun a' member => ?_, fun i B' slot' filled' => ?_, fun i B' slot' filled' => ?_, ?_⟩
  · obtain ⟨a, live, rfl⟩ := List.mem_map.1 member
    obtain ⟨B, B', slot, slot', filled, reloaded, -, -, shifted⟩ := moved a live
    have placed := inv.placed_inSlot sc slot (mem_inSlot.2 ⟨live, rfl⟩)
    have reloaded' : B' = { B with buffer := B'.buffer } := by simpa [Reloaded, filled] using reloaded
    refine ⟨B', by rw [shifted]; exact slot', by rw [reloaded']; exact filled, ?_⟩
    rw [shifted, reloaded']
    exact placed.reload _
  · obtain ⟨B, slot, reloaded⟩ := forall₂_getElem? back' slot'
    obtain ⟨filled, reloaded'⟩ := Reloaded.of_filled reloaded filled'
    obtain ⟨s, linked, total, live⟩ := inv.linked i B slot filled
    refine ⟨s, by rw [reloaded']; exact linked, by rw [reloaded']; exact total, ?_⟩
    have same : ranges B' ((inSlot allocs i).map f) = ranges B (inSlot allocs i) := by
      simp only [ranges, List.map_map]
      refine List.map_congr_left fun a member => ?_
      obtain ⟨live', here⟩ := mem_inSlot.1 member
      obtain ⟨C, C', slotC, slotC', -, -, -, -, shifted⟩ := moved a live'
      rw [here, slot] at slotC
      rw [here, slot'] at slotC'
      cases slotC
      cases slotC'
      simp [shifted]
    rw [inSlot_map index, same]
    exact live
  · obtain ⟨B, slot, reloaded⟩ := forall₂_getElem? back' slot'
    have occupied := inv.occupied i B slot (Reloaded.of_filled reloaded filled').1
    simpa [inSlot_map index] using occupied
  · refine List.pairwise_map.2 (inv.apart.imp_of_mem fun {a b} liveA liveB apart same => ?_)
    obtain ⟨B, B', slotA, slotA', -, -, -, startA, shiftedA⟩ := moved a liveA
    obtain ⟨C, C', slotB, slotB', -, -, -, startB, shiftedB⟩ := moved b liveB
    rw [shiftedA, shiftedB] at same ⊢
    rw [same] at slotA slotA'
    cases slotA.symm.trans slotB
    cases slotA'.symm.trans slotB'
    obtain ⟨differ, overlap⟩ := apart same
    simp only [Apart] at overlap ⊢
    exact ⟨by omega, by omega⟩

variable {hc : P.host.Contract} {base : Outstanding}

theorem PoolInv.reload {s : PoolState σ η} (inv : PoolInv sc hc base s) (fits : P.Fits)
    (sizes : ∀ p, (s.globals.blocks p).length < 2 ^ 64) {g' : Globals σ} {h' : η}
    {memSaved mem' : Memory}
    (back : ∀ p, List.Forall₂ (Restored P memSaved mem') (s.globals.blocks p) (g'.blocks p))
    (balanced : (hc.outstanding h').Equiv (base.holding P (heldBy g'))) :
    PoolInv sc hc base ⟨g', h', fun p => (s.live p).map fun a => g'.fillAllocFromLoad a.reread p⟩ := by
  have reloaded : ∀ p, List.Forall₂ Reloaded (s.globals.blocks p) (g'.blocks p) := fun p =>
    (back p).imp fun _ _ restored => restored.1
  have moved : ∀ p, ∀ a ∈ s.live p, Moved s.globals g' p a (g'.fillAllocFromLoad a.reread p) :=
    fun p a live => inv.moved fits sizes back live
  refine ⟨fun p => (inv.slots p).reload (reloaded p) (moved p), fun p B' member => ?_,
    fun i B' slot' filled' => ?_, balanced, inv.separate.of_regions (heldBy_regions reloaded)⟩
  · obtain ⟨B, member, restored⟩ := forall₂_mem_right (back p) member
    exact Reloaded.shape (inv.shape p B member) restored.1 fun filled => (restored.2 filled).1
  · have back' : List.Forall₂ (flip Reloaded) (g'.blocks .combined) (s.globals.blocks .combined) :=
      List.Forall₂.flip (reloaded .combined)
    obtain ⟨B, slot, reloadedB⟩ := forall₂_getElem? back' slot'
    obtain ⟨filled, reloaded'⟩ := Reloaded.of_filled reloadedB filled'
    obtain ⟨a, only, size⟩ := inv.whole i B slot filled
    have live : a ∈ s.live .combined := (mem_inSlot.1 (only ▸ List.mem_singleton_self a)).1
    refine ⟨_, by rw [inSlot_map (fun a live => (moved _ a live).fields.1), only]; rfl, ?_⟩
    rw [(moved _ a live).fields.2, size, reloaded']

end

variable {env : ContextEnv}

theorem ContextReread.holds {g : Globals σ} {ctx ctx' : Context} (reread : ContextReread P g ctx ctx')
    (p : Pool) : ctx'.holds p = (ctx.holds p).map fun a => g.fillAllocFromLoad a.reread p := by
  have attached := reread.attached
  cases virtio : ctx.virtioGpuInfo.isSome
  · simp only [attachAllocations, virtio, Bool.false_eq_true, if_false, Prod.mk.injEq] at attached
    cases p <;> simp [Context.holds, reread.virtioGpuInfo, virtio, attached.1, attached.2.1]
  · simp only [attachAllocations, virtio, if_true, Prod.mk.injEq] at attached
    cases p <;> simp [Context.holds, reread.virtioGpuInfo, virtio, attached.2.2]

theorem liveOf_reread {g : Globals σ} {ctxs ctxs' : List Context}
    (reread : List.Forall₂ (ContextReread P g) ctxs ctxs') (p : Pool) :
    liveOf ctxs' p = (liveOf ctxs p).map fun a => g.fillAllocFromLoad a.reread p := by
  induction reread with
  | nil => rfl
  | cons first _ ih => simp [first.holds p, ih]

theorem ContextReread.shaped {g₀ g : Globals σ} {ctx ctx' : Context}
    (reread : ContextReread P g ctx ctx') (shaped : ctx.Shaped P)
    (moved : ctx.virtioGpuInfo.isSome → Moved g₀ g .combined ctx.combinedAllocation
      (g.fillAllocFromLoad ctx.combinedAllocation.reread .combined)) :
    ctx'.Shaped P := by
  have attached := reread.attached
  unfold Context.Shaped at shaped ⊢
  rw [reread.virtioGpuInfo]
  split at shaped
  case isTrue virtio =>
    simp only [attachAllocations, virtio, if_true, Prod.mk.injEq] at attached
    obtain ⟨ring, buffer, combined⟩ := attached
    rw [if_pos virtio, ring, buffer, combined, (moved virtio).fields.2]
    exact ⟨rfl, rfl, shaped.2.2⟩
  case isFalse plain =>
    rw [Bool.not_eq_true] at plain
    simp only [attachAllocations, plain, Bool.false_eq_true, if_false, Prod.mk.injEq] at attached
    rw [if_neg (by simp [plain]), attached.2.2, shaped]
    rfl

section
variable {sc : P.subAllocator.Contract} {hc : P.host.Contract} {base : Outstanding}

theorem DeviceInv.clear {d : Device σ η} (inv : DeviceInv sc hc base d) :
    DeviceInv sc hc base ⟨{ d.world with
      globals := (clear P d.world.globals d.world.host).1
      host := (clear P d.world.globals d.world.host).2 }, []⟩ :=
  ⟨PoolInv.vacant inv.pool.clear, fun _ member => by simp at member⟩

theorem DeviceInv.restore (grants : GrantsFree hc) (fits : P.Fits)
    (loads : P.subAllocator.LoadsSaved)
    (restores : ∀ consumer rest, env.consumerLoad (env.consumerSave consumer ++ rest) = rest)
    {d saved : Device σ η} (now : DeviceInv sc hc base d) (inv : DeviceInv sc hc base saved)
    {resources : Option LoadResources}
    (supplied : ∀ B ∈ saved.world.globals.blocks .combined, B.isEmpty = false → Supplied resources B)
    (sizes : ∀ p, (saved.world.globals.blocks p).length < 2 ^ 64)
    (named : ∀ ctx ∈ saved.contexts, ∀ info ∈ ctx.virtioGpuInfo, ∀ name ∈ info.name,
      name.length < 2 ^ 32)
    {memSaved mem mem' : Memory} {g' : Globals σ} {h' : η} {s : List UInt8}
    (ok : Globals.load P resources d.world.globals d.world.host mem
      (Globals.save P memSaved saved.world.globals ++ saveContexts env saved.contexts) =
        .ok (g', h', mem', s)) :
    DeviceInv sc hc base
      ⟨⟨g', h', (loadContexts P env g' saved.contexts.length d.world.consumers s).2.1⟩,
        (loadContexts P env g' saved.contexts.length d.world.consumers s).1⟩ := by
  obtain ⟨g₁, h₁, mem₁, loaded, back⟩ := Globals.load_save hc fits loads resources memSaved
    (inv.pool.loadable supplied) sizes d.world.globals d.world.host mem (saveContexts env saved.contexts)
  rw [loaded, Except.ok.injEq, Prod.mk.injEq, Prod.mk.injEq, Prod.mk.injEq] at ok
  obtain ⟨rfl, rfl, rfl, rfl⟩ := ok
  obtain ⟨-, reread⟩ := loadContexts_saveContexts P env restores named g₁ d.world.consumers []
  rw [List.append_nil] at reread
  have regions := heldBy_regions fun p => (back p).imp fun _ _ restored => restored.1
  have balanced := Globals.load_host hc grants loaded now.pool.clear
    (inv.pool.separate.of_regions regions) fun r member => by
      obtain ⟨r₀, member₀, same⟩ := List.mem_map.1 (regions ▸ List.mem_map_of_mem Prod.fst member)
      exact same ▸ inv.pool.held_window member₀
  refine ⟨?_, fun ctx' member => ?_⟩
  · rw [show liveOf _ = _ from funext (liveOf_reread reread)]
    exact inv.pool.reload fits sizes back balanced
  · obtain ⟨ctx, member, rereadCtx⟩ := forall₂_mem_right reread member
    exact rereadCtx.shaped (inv.shaped ctx member) fun virtio =>
      inv.pool.moved fits sizes back (List.mem_flatMap.2 ⟨ctx, member, by simp [Context.holds, virtio]⟩)

end

variable (P env)

/-- A device run in which, while no context is live, the pools may also be cleared or a snapshot
restored: the stream that `Globals::save` and the contexts' saves wrote in a state the run
reached, read back by `Globals::load` over the pools and the host as they are, and by a `load` of
as many contexts made for a snapshot. -/
inductive RestoreRun (h₀ : η) : Device σ η → Prop
  | init : RestoreRun h₀ ⟨⟨{}, h₀, {}⟩, []⟩
  | step {d d' : Device σ η} : RestoreRun h₀ d → DeviceStep P env d d' → RestoreRun h₀ d'
  | clear {d : Device σ η} : RestoreRun h₀ d → d.contexts = [] →
    RestoreRun h₀ ⟨{ d.world with
      globals := (clear P d.world.globals d.world.host).1
      host := (clear P d.world.globals d.world.host).2 }, []⟩
  | restore {d saved : Device σ η} {resources : Option LoadResources} {memSaved mem mem' : Memory}
      {g' : Globals σ} {h' : η} {s : List UInt8} :
    RestoreRun h₀ d → d.contexts = [] → RestoreRun h₀ saved →
    (∀ B ∈ saved.world.globals.blocks .combined, B.isEmpty = false → Supplied resources B) →
    (∀ p, (saved.world.globals.blocks p).length < 2 ^ 64) →
    (∀ ctx ∈ saved.contexts, ∀ info ∈ ctx.virtioGpuInfo, ∀ name ∈ info.name,
      name.length < 2 ^ 32) →
    Globals.load P resources d.world.globals d.world.host mem
      (Globals.save P memSaved saved.world.globals ++ saveContexts env saved.contexts) =
        .ok (g', h', mem', s) →
    RestoreRun h₀ ⟨⟨g', h', (loadContexts P env g' saved.contexts.length d.world.consumers s).2.1⟩,
      (loadContexts P env g' saved.contexts.length d.world.consumers s).1⟩

variable {P env}

theorem DeviceRun.restoreRun {h₀ : η} {d : Device σ η} (run : DeviceRun P env h₀ d) :
    RestoreRun P env h₀ d := by
  induction run with
  | init => exact .init
  | step _ step run => exact .step run step

theorem RestoreRun.inv (wf : P.Wf) (fits : P.Fits) {sc : P.subAllocator.Contract}
    {hc : P.host.Contract} (loads : P.subAllocator.LoadsSaved)
    (restores : ∀ consumer rest, env.consumerLoad (env.consumerSave consumer ++ rest) = rest)
    (grants : GrantsFree hc) {h₀ : η} {d : Device σ η} (run : RestoreRun P env h₀ d) :
    DeviceInv sc hc (hc.outstanding h₀) d := by
  induction run with
  | init => exact DeviceInv.init h₀
  | step _ step inv => exact inv.step wf step
  | clear _ _ inv => exact inv.clear
  | restore _ _ _ supplied sizes named ok now inv =>
    exact now.restore grants fits loads restores inv supplied sizes named ok

/-- In every state of a run that also clears the pools and restores snapshots, each while no
context is live, on a host that grants free regions: the host has outstanding what it had before
the run and, on top, one region, one mapping and one buffer for each block that holds one; those
regions are apart from each other and from what the host had; and `clear` gives back all of
them. -/
theorem restore_run_balanced (wf : P.Wf) (fits : P.Fits) (sc : P.subAllocator.Contract)
    (hc : P.host.Contract) (loads : P.subAllocator.LoadsSaved)
    (restores : ∀ consumer rest, env.consumerLoad (env.consumerSave consumer ++ rest) = rest)
    (grants : GrantsFree hc) {h₀ : η} {d : Device σ η} (run : RestoreRun P env h₀ d) :
    (hc.outstanding d.world.host).Equiv ((hc.outstanding h₀).holding P (heldBy d.world.globals)) ∧
      Separated P (hc.outstanding h₀) (heldBy d.world.globals) ∧
      (hc.outstanding (clear P d.world.globals d.world.host).2).Equiv (hc.outstanding h₀) := by
  have inv : DeviceInv sc hc (hc.outstanding h₀) d := run.inv wf fits loads restores grants
  exact ⟨inv.pool.balanced, inv.pool.separate, inv.pool.clear⟩

/-- The reference device's snapshot restored over an empty device. -/
def referenceRestored : Device (Nat × List (Nat × Nat)) Outstanding :=
  match Globals.load referencePlatform none {} {} (fun _ => 0)
      (Globals.save referencePlatform (fun _ => 0) referenceDevice.world.globals ++
        saveContexts referenceEnv referenceDevice.contexts) with
  | .ok (g', h', _, s) =>
    ⟨⟨g', h', (loadContexts referencePlatform referenceEnv g' referenceDevice.contexts.length {}
      s).2.1⟩, (loadContexts referencePlatform referenceEnv g' referenceDevice.contexts.length {} s).1⟩
  | .error _ => ⟨⟨{}, {}, {}⟩, []⟩

set_option maxRecDepth 10000 in
theorem referenceRestored_run : RestoreRun referencePlatform referenceEnv {} referenceRestored :=
  @RestoreRun.restore _ _ referencePlatform referenceEnv {} ⟨⟨{}, {}, {}⟩, []⟩ referenceDevice none
    (fun _ => 0) (fun _ => 0) _ _ _ _ .init rfl referenceDevice_run.restoreRun referenceDevice_supplied
    referenceDevice_sizes referenceDevice_named rfl

theorem restore_run_balanced_reference :
    RestoreRun referencePlatform referenceEnv {} referenceRestored ∧
    (listHost.contract.outstanding referenceRestored.world.host).Equiv
        ((listHost.contract.outstanding {}).holding referencePlatform
          (heldBy referenceRestored.world.globals)) ∧
      Separated referencePlatform (listHost.contract.outstanding {})
        (heldBy referenceRestored.world.globals) ∧
      (listHost.contract.outstanding (clear referencePlatform referenceRestored.world.globals
        referenceRestored.world.host).2).Equiv (listHost.contract.outstanding {}) :=
  ⟨referenceRestored_run, restore_run_balanced referencePlatform_wf referencePlatform_fits
    wholeAllocator.contract listHost.contract wholeAllocator_loadsSaved referenceEnv_restores
    listHost_grantsFree referenceRestored_run⟩

end Asg
