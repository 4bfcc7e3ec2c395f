import Asg.Pool.Spec

/-! The slots of one pool and the allocations live in it: each allocation sits inside a filled
block, a filled block's sub-allocator has handed out exactly the ranges of the allocations in
it, a filled block holds at least one, and two allocations of a block do not overlap.
`SlotInv.carve` and the `SlotInv.release` lemmas keep this across one allocation and one free. -/

set_option autoImplicit false

namespace Asg

variable {σ : Type} {sa : SubAllocator σ} (sc : sa.Contract)

/-- Where a live allocation sits in block `B`. -/
structure Placed (B : Block σ) (a : Allocation) : Prop where
  notView : a.isView = false
  start : B.buffer ≤ a.buffer
  within : a.buffer + a.size ≤ B.buffer + B.bufferSize
  phys : a.offsetIntoPhys = (B.offsetIntoPhys + (a.buffer - B.buffer)) % 2 ^ 64
  handle : a.dedicatedContextHandle = B.dedicatedContextHandle
  hostmem : a.hostmemId = B.hostmemId

def inSlot (allocs : List Allocation) (i : Nat) : List Allocation :=
  allocs.filter fun a => a.blockIndex = i

def ranges (B : Block σ) (allocs : List Allocation) : List (Nat × Nat) :=
  allocs.map fun a => (a.buffer - B.buffer, a.size)

/-- Two allocations of one block do not overlap, and start at different bytes. -/
def SameBlockApart (a b : Allocation) : Prop :=
  a.blockIndex = b.blockIndex → a.buffer ≠ b.buffer ∧ Apart a.buffer a.size b.buffer b.size

theorem SameBlockApart.symm {a b : Allocation} (apart : SameBlockApart a b) :
    SameBlockApart b a :=
  fun same => have both := apart same.symm; ⟨both.1.symm, both.2.symm⟩

structure SlotInv (blocks : List (Block σ)) (allocs : List Allocation) : Prop where
  placed : ∀ a ∈ allocs, ∃ B, blocks[a.blockIndex]? = some B ∧ B.isEmpty = false ∧ Placed B a
  linked : ∀ i B, blocks[i]? = some B → B.isEmpty = false → ∃ s, B.subAlloc = some s ∧
    sc.total s = B.bufferSize ∧ (sc.live s).Perm (ranges B (inSlot allocs i))
  occupied : ∀ i B, blocks[i]? = some B → B.isEmpty = false → inSlot allocs i ≠ []
  apart : allocs.Pairwise SameBlockApart

theorem placed_subAlloc {B : Block σ} {a : Allocation} (s : Option σ) (placed : Placed B a) :
    Placed { B with subAlloc := s } a := by
  obtain ⟨v, st, w, p, hd, hm⟩ := placed
  exact ⟨v, st, w, p, hd, hm⟩

@[simp] theorem inSlot_cons (a : Allocation) (allocs : List Allocation) (i : Nat) :
    inSlot (a :: allocs) i = if a.blockIndex = i then a :: inSlot allocs i else inSlot allocs i := by
  simp only [inSlot, List.filter_cons, decide_eq_true_eq]

theorem mem_inSlot {allocs : List Allocation} {i : Nat} {a : Allocation} :
    a ∈ inSlot allocs i ↔ a ∈ allocs ∧ a.blockIndex = i := by
  simp [inSlot]

theorem SlotInv.inSlot_vacant {blocks : List (Block σ)} {allocs : List Allocation}
    (inv : SlotInv sc blocks allocs) {j : Nat}
    (vacant : ∀ B, blocks[j]? = some B → B.isEmpty = true) : inSlot allocs j = [] := by
  refine List.eq_nil_iff_forall_not_mem.2 fun a member => ?_
  obtain ⟨live, rfl⟩ := mem_inSlot.1 member
  obtain ⟨B, slot, filled, -⟩ := inv.placed a live
  simp [vacant B slot] at filled

theorem SlotInv.placed_inSlot {blocks : List (Block σ)} {allocs : List Allocation}
    (inv : SlotInv sc blocks allocs) {i : Nat} {B : Block σ} (slot : blocks[i]? = some B)
    {b : Allocation} (inI : b ∈ inSlot allocs i) : Placed B b := by
  obtain ⟨live, rfl⟩ := mem_inSlot.1 inI
  obtain ⟨C, slotC, -, placed⟩ := inv.placed b live
  exact Option.some.inj (slotC.symm.trans slot) ▸ placed

theorem SlotInv.carve {blocks : List (Block σ)} {allocs : List Allocation} {j : Nat}
    {B₁ : Block σ} {s s' : σ} {create : AllocationCreateInfo} {off : Nat}
    (inv : SlotInv sc blocks allocs) (within : j ≤ blocks.length)
    (filled : B₁.isEmpty = false) (total : sc.total s = B₁.bufferSize)
    (linked : (sc.live s).Perm (ranges B₁ (inSlot allocs j)))
    (keep : ∀ b ∈ inSlot allocs j, Placed B₁ b)
    (served : sa.alloc s create.size = some (off, s'))
    (handle : create.dedicatedContextHandle = B₁.dedicatedContextHandle)
    (hostmem : create.hostmemId = B₁.hostmemId) :
    SlotInv sc (placeAt blocks j { B₁ with subAlloc := some s' })
      (Allocation.carved create j B₁ off :: allocs) := by
  have bound := sc.alloc_within served
  have newPlaced : Placed { B₁ with subAlloc := some s' } (Allocation.carved create j B₁ off) :=
    ⟨rfl, by simp [Allocation.carved], by simp [Allocation.carved]; omega,
      by simp [Allocation.carved], handle, hostmem⟩
  constructor
  · intro b member
    rcases List.mem_cons.1 member with rfl | old
    · exact ⟨{ B₁ with subAlloc := some s' }, by simp [getElem?_placeAt within, Allocation.carved],
        filled, newPlaced⟩
    · obtain ⟨B, slot, nonempty, placed⟩ := inv.placed b old
      by_cases same : b.blockIndex = j
      · exact ⟨{ B₁ with subAlloc := some s' }, by simp [getElem?_placeAt within, same], filled,
          placed_subAlloc _ (keep b (mem_inSlot.2 ⟨old, same⟩))⟩
      · exact ⟨B, by simp [getElem?_placeAt within, same, slot], nonempty, placed⟩
  · intro i B slot nonempty
    rw [getElem?_placeAt within] at slot
    by_cases same : i = j
    · subst same
      obtain rfl : { B₁ with subAlloc := some s' } = B := by simpa using slot
      refine ⟨s', rfl, by rw [sc.alloc_total served, total], ?_⟩
      rw [sc.alloc_live served]
      simpa [Allocation.carved, ranges] using linked
    · simp only [same, if_false] at slot
      obtain ⟨s₀, sub₀, total₀, linked₀⟩ := inv.linked i B slot nonempty
      exact ⟨s₀, sub₀, total₀, by simpa [Allocation.carved, Ne.symm same] using linked₀⟩
  · intro i B slot nonempty
    rw [getElem?_placeAt within] at slot
    by_cases same : i = j
    · simp [same, Allocation.carved]
    · simp only [same, if_false] at slot
      simpa [Allocation.carved, Ne.symm same] using inv.occupied i B slot nonempty
  · refine List.pairwise_cons.2 ⟨fun b member sameSlot => ?_, inv.apart⟩
    have inJ : b ∈ inSlot allocs j :=
      mem_inSlot.2 ⟨member, by simpa [Allocation.carved, eq_comm] using sameSlot⟩
    have recorded : (b.buffer - B₁.buffer, b.size) ∈ sc.live s :=
      linked.symm.subset (List.mem_map_of_mem _ inJ)
    obtain ⟨differ, apart⟩ := sc.alloc_apart served _ recorded
    have start := (keep b inJ).start
    simp only [Allocation.carved]
    unfold Apart at apart ⊢
    omega

theorem inSlot_erase (allocs : List Allocation) (a : Allocation) (i : Nat) :
    inSlot (allocs.erase a) i = (inSlot allocs i).erase a :=
  (List.erase_filter _ _).symm

theorem inSlot_erase_of_ne {allocs : List Allocation} {a : Allocation} {i : Nat}
    (other : a.blockIndex ≠ i) : inSlot (allocs.erase a) i = inSlot allocs i := by
  rw [inSlot_erase, List.erase_of_not_mem]
  exact fun member => other (mem_inSlot.1 member).2

theorem SlotInv.length_le {blocks : List (Block σ)} {allocs : List Allocation}
    (inv : SlotInv sc blocks allocs)
    (full : ∀ k < blocks.length, ∀ C, blocks[k]? = some C → C.isEmpty = false) :
    blocks.length ≤ allocs.length := by
  have cover : List.range blocks.length ⊆ allocs.map Allocation.blockIndex := by
    intro k member
    have slot := List.getElem?_eq_getElem (List.mem_range.1 member)
    obtain ⟨b, inK⟩ := List.exists_mem_of_ne_nil _
      (inv.occupied k _ slot (full k (List.mem_range.1 member) _ slot))
    obtain ⟨live, same⟩ := mem_inSlot.1 inK
    exact List.mem_map.2 ⟨b, live, same⟩
  simpa using (List.subperm_of_subset (List.nodup_range _) cover).length_le

theorem SlotInv.perm {blocks : List (Block σ)} {allocs allocs' : List Allocation}
    (inv : SlotInv sc blocks allocs) (perm : allocs.Perm allocs') : SlotInv sc blocks allocs' := by
  have slot : ∀ i, (inSlot allocs i).Perm (inSlot allocs' i) := fun i => perm.filter _
  refine ⟨fun a live => inv.placed a (perm.mem_iff.2 live), fun i B found filled => ?_,
    fun i B found filled vacant => inv.occupied i B found filled ((slot i).trans (vacant ▸ .refl _)).eq_nil,
    inv.apart.perm perm SameBlockApart.symm⟩
  obtain ⟨s, sub, total, linked⟩ := inv.linked i B found filled
  exact ⟨s, sub, total, linked.trans ((slot i).map _)⟩

theorem SlotInv.update {blocks : List (Block σ)} {allocs : List Allocation} {a : Allocation}
    {B B' : Block σ} (inv : SlotInv sc blocks allocs) (slot : blocks[a.blockIndex]? = some B)
    (stays : ∀ b ∈ (inSlot allocs a.blockIndex).erase a, B'.isEmpty = false ∧ Placed B' b)
    (linked : B'.isEmpty = false → ∃ s, B'.subAlloc = some s ∧ sc.total s = B'.bufferSize ∧
      (sc.live s).Perm (ranges B' ((inSlot allocs a.blockIndex).erase a)))
    (occupied : B'.isEmpty = false → (inSlot allocs a.blockIndex).erase a ≠ []) :
    SlotInv sc (blocks.set a.blockIndex B') (allocs.erase a) := by
  have within : a.blockIndex < blocks.length := (List.getElem?_eq_some_iff.1 slot).1
  have other : ∀ i, i ≠ a.blockIndex → inSlot (allocs.erase a) i = inSlot allocs i := by
    intro i differ
    rw [inSlot_erase, List.erase_of_not_mem]
    exact fun member => differ (mem_inSlot.1 member).2.symm
  constructor
  · intro b member
    by_cases same : b.blockIndex = a.blockIndex
    · have inJ : b ∈ inSlot (allocs.erase a) a.blockIndex := mem_inSlot.2 ⟨member, same⟩
      rw [inSlot_erase] at inJ
      exact ⟨B', by simp [List.getElem?_set, same, within], stays b inJ⟩
    · obtain ⟨C, slotC, filled, placed⟩ := inv.placed b (List.mem_of_mem_erase member)
      exact ⟨C, by simp [List.getElem?_set, Ne.symm same, slotC], filled, placed⟩
  · intro i C slotC filled
    rcases getElem?_set_eq_some within slotC with ⟨rfl, rfl⟩ | ⟨same, slotC⟩
    · simpa [inSlot_erase] using linked filled
    · rw [other i same]
      exact inv.linked i C slotC filled
  · intro i C slotC filled
    rcases getElem?_set_eq_some within slotC with ⟨rfl, rfl⟩ | ⟨same, slotC⟩
    · simpa [inSlot_erase] using occupied filled
    · rw [other i same]
      exact inv.occupied i C slotC filled
  · exact inv.apart.sublist (List.erase_sublist a allocs)

theorem SlotInv.vacate {blocks : List (Block σ)} {allocs : List Allocation} {a : Allocation}
    {B E : Block σ} (inv : SlotInv sc blocks allocs) (slot : blocks[a.blockIndex]? = some B)
    (gone : (inSlot allocs a.blockIndex).erase a = []) (empty : E.isEmpty = true) :
    SlotInv sc (blocks.set a.blockIndex E) (allocs.erase a) :=
  inv.update sc slot (by simp [gone]) (by simp [empty]) (by simp [empty])

/-- Freeing a live allocation's offset takes exactly its range out of its block's
sub-allocator: two allocations of a block never start at the same byte. -/
theorem SlotInv.free_range {blocks : List (Block σ)} {allocs : List Allocation}
    {a : Allocation} {B : Block σ} {s s' : σ} (inv : SlotInv sc blocks allocs)
    (member : a ∈ allocs) (slot : blocks[a.blockIndex]? = some B)
    (linked : (sc.live s).Perm (ranges B (inSlot allocs a.blockIndex)))
    (freed : sa.free s (a.buffer - B.buffer) = some s') :
    (sc.live s').Perm (ranges B ((inSlot allocs a.blockIndex).erase a)) ∧
      sc.total s' = sc.total s := by
  obtain ⟨m, split, total⟩ := sc.free_live freed
  refine ⟨?_, total⟩
  have placedIn : ∀ b ∈ inSlot allocs a.blockIndex, Placed B b := fun b => inv.placed_inSlot sc slot
  have inJ : a ∈ inSlot allocs a.blockIndex := mem_inSlot.2 ⟨member, rfl⟩
  obtain rfl : m = a.size := by
    obtain ⟨b, inB, same⟩ := List.mem_map.1 (linked.subset (split.symm.subset (List.mem_cons_self _ _)))
    simp only [Prod.mk.injEq] at same
    by_cases equal : b = a
    · subst equal; exact same.2.symm
    · obtain ⟨bLive, bSlot⟩ := mem_inSlot.1 inB
      have apart := inv.apart.forall (fun _ _ x => SameBlockApart.symm x) bLive member equal bSlot
      have startA := (placedIn a inJ).start
      have startB := (placedIn b inB).start
      exact absurd (by omega) apart.1
  have spread := (List.perm_cons_erase inJ).map fun b => (b.buffer - B.buffer, b.size)
  exact (split.symm.trans (linked.trans spread)).cons_inv

theorem SlotInv.release_keep {blocks : List (Block σ)} {allocs : List Allocation}
    {a : Allocation} {B : Block σ} {s s' : σ} (inv : SlotInv sc blocks allocs)
    (member : a ∈ allocs) (slot : blocks[a.blockIndex]? = some B) (filled : B.isEmpty = false)
    (sub : B.subAlloc = some s) (freed : sa.free s (a.buffer - B.buffer) = some s')
    (remains : sa.empty s' = false) :
    SlotInv sc (blocks.set a.blockIndex { B with subAlloc := some s' }) (allocs.erase a) := by
  obtain ⟨s₀, sub₀, total₀, linked₀⟩ := inv.linked _ B slot filled
  obtain rfl : s₀ = s := Option.some.inj (sub₀.symm.trans sub)
  obtain ⟨linked, total⟩ := inv.free_range sc member slot linked₀ freed
  refine inv.update sc slot (fun b inJ => ⟨filled, placed_subAlloc _
    (inv.placed_inSlot sc slot (List.mem_of_mem_erase inJ))⟩)
    (fun _ => ⟨s', rfl, total.trans total₀, linked⟩) (fun _ nothing => ?_)
  have empty : sc.live s' = [] := by simpa [nothing, ranges] using linked
  simp [(sc.empty_iff s').2 empty] at remains

theorem SlotInv.release_empty {blocks : List (Block σ)} {allocs : List Allocation}
    {a : Allocation} {B E : Block σ} {s s' : σ} (inv : SlotInv sc blocks allocs)
    (member : a ∈ allocs) (slot : blocks[a.blockIndex]? = some B) (filled : B.isEmpty = false)
    (sub : B.subAlloc = some s) (freed : sa.free s (a.buffer - B.buffer) = some s')
    (drained : sa.empty s' = true) (empty : E.isEmpty = true) :
    SlotInv sc (blocks.set a.blockIndex E) (allocs.erase a) := by
  obtain ⟨s₀, sub₀, -, linked₀⟩ := inv.linked _ B slot filled
  obtain rfl : s₀ = s := Option.some.inj (sub₀.symm.trans sub)
  obtain ⟨linked, -⟩ := inv.free_range sc member slot linked₀ freed
  rw [(sc.empty_iff s').1 drained] at linked
  exact inv.vacate sc slot (by simpa [ranges] using linked.symm) empty

theorem SlotInv.newAllocation {η : Type} {P : Platform σ η} (sc : P.subAllocator.Contract)
    {blocks : List (Block σ)} {allocs : List Allocation} {create : AllocationCreateInfo}
    {j off : Nat} {B₁ B' : Block σ} {h h' : η} (inv : SlotInv sc blocks allocs)
    (within : j ≤ blocks.length)
    (visit : fillIfEmpty P create (blocks.getD j {}) h = .ok (B₁, h'))
    (attempt : tryAlloc P create B₁ = some (off, B'))
    (hostmem : create.hostmemId = B₁.hostmemId) :
    SlotInv sc (placeAt blocks j B') (Allocation.carved create j B₁ off :: allocs) := by
  obtain ⟨handle, s, s', sub, served, rfl⟩ := tryAlloc_some attempt
  cases empty : (blocks.getD j {}).isEmpty
  · rw [fillIfEmpty_of_not_isEmpty empty, Except.ok.injEq, Prod.mk.injEq] at visit
    obtain ⟨rfl, rfl⟩ := visit
    have slot := getElem?_of_getD_filled empty
    obtain ⟨s₀, sub₀, total, linked⟩ := inv.linked j _ slot empty
    obtain rfl : s₀ = s := Option.some.inj (sub₀.symm.trans sub)
    exact inv.carve sc within empty total linked (fun b => inv.placed_inSlot sc slot) served
      handle.symm hostmem
  · rw [fillIfEmpty_of_isEmpty empty] at visit
    obtain ⟨filled, size, fresh⟩ := fillBlockLocked_filled visit
    obtain rfl : P.subAllocator.create (fillTotal P create) = s :=
      Option.some.inj (fresh.symm.trans sub)
    have vacant : inSlot allocs j = [] := inv.inSlot_vacant sc fun C slotC => by
      simpa [List.getD_eq_getElem?_getD, slotC] using empty
    refine inv.carve sc within filled (by rw [sc.total_create, size]) ?_
      (by simp [vacant]) served handle.symm hostmem
    simp [vacant, ranges, sc.live_create]

end Asg
