import Asg.Pool.Run
import Asg.Pool.Reference

/-! What every state of a run of the pool's entry points satisfies: where its live allocations
sit and that they do not overlap, that a slot is filled exactly while it holds a live
allocation, that freeing a live allocation passes `deleteAllocation`'s fatal checks, and that
no pool's block vector outgrows the most allocations it has had live at once. -/

set_option autoImplicit false

namespace Asg

variable {σ η : Type} {P : Platform σ η}

def slotPosition (g : Globals σ) : Pool → Nat → Nat
  | .ring, i => i
  | .buffer, i => g.ringBlocks.length + i
  | .combined, i => g.ringBlocks.length + g.bufferBlocks.length + i

theorem getElem?_allBlocks {g : Globals σ} {p : Pool} {i : Nat} {B : Block σ}
    (slot : (g.blocks p)[i]? = some B) : g.allBlocks[slotPosition g p i]? = some B := by
  have inside := (List.getElem?_eq_some_iff.1 slot).1
  cases p <;> simp only [Globals.blocks] at slot inside <;>
    simp only [Globals.allBlocks, slotPosition]
  · rw [List.getElem?_append_left (by simp; omega), List.getElem?_append_left inside, slot]
  · rw [List.getElem?_append_left (by simp; omega), List.getElem?_append_right (by omega),
      Nat.add_sub_cancel_left, slot]
  · rw [List.getElem?_append_right (by simp), List.length_append, Nat.add_sub_cancel_left, slot]

theorem slotPosition_ne {g : Globals σ} {p q : Pool} {i j : Nat} (insideI : i < (g.blocks p).length)
    (insideJ : j < (g.blocks q).length) (differ : p ≠ q ∨ i ≠ j) :
    slotPosition g p i ≠ slotPosition g q j := by
  cases p <;> cases q <;> simp only [Globals.blocks, slotPosition, ne_eq, not_true_eq_false,
    false_or, reduceCtorEq, not_false_eq_true, true_or] at insideI insideJ differ ⊢ <;> omega

theorem pairwise_of_getElem? {α : Type} {R : α → α → Prop} {l : List α} (pairwise : l.Pairwise R)
    (symm : ∀ {u v}, R u v → R v u) {x y : Nat} {u v : α} (differ : x ≠ y) (atX : l[x]? = some u)
    (atY : l[y]? = some v) : R u v := by
  obtain ⟨insideX, rfl⟩ := List.getElem?_eq_some_iff.1 atX
  obtain ⟨insideY, rfl⟩ := List.getElem?_eq_some_iff.1 atY
  rcases Nat.lt_or_gt_of_ne differ with before | after
  · exact List.pairwise_iff_getElem.1 pairwise x y insideX insideY before
  · exact symm (List.pairwise_iff_getElem.1 pairwise y x insideY insideX after)

section
variable {sc : P.subAllocator.Contract} {hc : P.host.Contract} {base : Outstanding}

theorem PoolInv.held_apart {s : PoolState σ η} (inv : PoolInv sc hc base s) {p q : Pool}
    {i j : Nat} {A B : Block σ} {r r' : Nat × Nat} (slotA : (s.globals.blocks p)[i]? = some A)
    (slotB : (s.globals.blocks q)[j]? = some B) (differ : p ≠ q ∨ i ≠ j) (holdsA : held A = some r)
    (holdsB : held B = some r') : Apart r.1 P.blockSize r'.1 P.blockSize := by
  have blocks := List.pairwise_filterMap.1 inv.separate.1
  exact pairwise_of_getElem? blocks
    (fun related _ heldU _ heldV => (related _ heldV _ heldU).symm)
    (slotPosition_ne (List.getElem?_eq_some_iff.1 slotA).1 (List.getElem?_eq_some_iff.1 slotB).1
      differ) (getElem?_allBlocks slotA) (getElem?_allBlocks slotB) r holdsA r' holdsB

theorem PoolInv.phys_eq {s : PoolState σ η} (inv : PoolInv sc hc base s) {p : Pool}
    {a : Allocation} {A : Block σ} (shared : p ≠ .combined) (live : a ∈ s.live p)
    (slot : (s.globals.blocks p)[a.blockIndex]? = some A) (positive : 0 < a.size) :
    a.offsetIntoPhys = A.offsetIntoPhys + (a.buffer - A.buffer) ∧ A.buffer ≤ a.buffer ∧
      a.buffer + a.size ≤ A.buffer + P.blockSize ∧ held A = some (A.offsetIntoPhys, A.buffer) := by
  obtain ⟨A₀, slot₀, filled, placed⟩ := (inv.slots p).placed a live
  obtain rfl : A = A₀ := Option.some.inj (slot.symm.trans slot₀)
  obtain ⟨-, internal, -, -, grown⟩ := inv.sharedShape shared A (List.getElem?_mem slot)
  obtain ⟨size, -, bound⟩ := grown filled
  have start := placed.start
  have within := placed.within
  refine ⟨?_, start, size ▸ within, held_of_filled filled internal⟩
  rw [placed.phys, Nat.mod_eq_of_lt]
  omega

theorem PoolInv.phys_apart {s : PoolState σ η} (inv : PoolInv sc hc base s) {p q : Pool}
    {a b : Allocation} (sharedP : p ≠ .combined) (sharedQ : q ≠ .combined) (liveA : a ∈ s.live p)
    (liveB : b ∈ s.live q)
    (apart : p = q ∧ a.blockIndex = b.blockIndex → Apart a.buffer a.size b.buffer b.size) :
    Apart a.offsetIntoPhys a.size b.offsetIntoPhys b.size := by
  rcases Nat.eq_zero_or_pos a.size with empty | positiveA
  · exact .inr (.inr (.inl empty))
  rcases Nat.eq_zero_or_pos b.size with empty | positiveB
  · exact .inr (.inr (.inr empty))
  obtain ⟨A, slotA, -, -⟩ := (inv.slots p).placed a liveA
  obtain ⟨B, slotB, -, -⟩ := (inv.slots q).placed b liveB
  obtain ⟨physA, startA, withinA, holdsA⟩ := inv.phys_eq sharedP liveA slotA positiveA
  obtain ⟨physB, startB, withinB, holdsB⟩ := inv.phys_eq sharedQ liveB slotB positiveB
  by_cases same : p = q ∧ a.blockIndex = b.blockIndex
  · obtain ⟨rfl, index⟩ := same
    rw [index] at slotA
    obtain rfl : A = B := Option.some.inj (slotA.symm.trans slotB)
    have host := apart ⟨rfl, index⟩
    unfold Apart at host ⊢
    omega
  · have regions := inv.held_apart slotA slotB (by tauto) holdsA holdsB
    unfold Apart at regions ⊢
    omega

theorem PoolInv.filled_iff {s : PoolState σ η} (inv : PoolInv sc hc base s) {p : Pool} {i : Nat}
    {B : Block σ} (slot : (s.globals.blocks p)[i]? = some B) :
    B.isEmpty = false ↔ ∃ a ∈ s.live p, a.blockIndex = i := by
  constructor
  · intro filled
    obtain ⟨a, inI⟩ := List.exists_mem_of_ne_nil _ ((inv.slots p).occupied i B slot filled)
    exact ⟨a, mem_inSlot.1 inI⟩
  · rintro ⟨a, live, rfl⟩
    obtain ⟨B', slot', filled, -⟩ := (inv.slots p).placed a live
    exact Option.some.inj (slot.symm.trans slot') ▸ filled

theorem PoolInv.delete {s : PoolState σ η} {p : Pool} {a : Allocation}
    {g : Globals σ} {h : η} (inv : PoolInv sc hc base s) (live : a ∈ s.live p)
    (ok : deleteIn P p a s.globals s.host = .ok (g, h)) :
    PoolInv sc hc base ⟨g, h, Function.update s.live p ((s.live p).erase a)⟩ := by
  cases p
  · exact inv.deleteShared (by decide) live ok
  · exact inv.deleteShared (by decide) live ok
  · exact inv.deleteCombined live ok

theorem PoolInv.deleteAllocation_ok {s : PoolState σ η} (inv : PoolInv sc hc base s) {p : Pool}
    {a : Allocation} (live : a ∈ s.live p) :
    ∃ blocks' h', deleteAllocation P a (s.globals.blocks p) s.host = .ok (blocks', h') := by
  obtain ⟨B, slot, filled, -⟩ := (inv.slots p).placed a live
  obtain ⟨sB, sub, -, linked⟩ := (inv.slots p).linked _ B slot filled
  have range : (a.buffer - B.buffer, a.size) ∈ sc.live sB :=
    linked.symm.subset (List.mem_map_of_mem _ (mem_inSlot.2 ⟨live, rfl⟩))
  obtain ⟨s', freed⟩ := Option.isSome_iff_exists.1 (sc.free_isSome range)
  unfold deleteAllocation
  rw [if_neg (inv.nonnull live)]
  simp only [slot]
  split
  · exact ⟨_, _, rfl⟩
  · simp only [Block.free, sub, freed, Option.some_bind, Option.map_some']
    exact ⟨_, _, rfl⟩

end

theorem referencePlatform_wf : referencePlatform.Wf := ⟨by decide⟩

theorem packedPlatform_wf : packedPlatform.Wf := ⟨by decide⟩

set_option maxRecDepth 10000 in
/-- A run on the packed platform with churn: two ring storages and a buffer allocated, the
buffer freed and allocated again into its slot, the first ring storage freed and a third
allocated. Its two live ring storages share block 0, and the buffer pool never grew past one
slot. -/
theorem packedChurn_run : ∃ s peak, PoolRun packedPlatform {} s peak ∧
    (s.live .ring).map (·.blockIndex) = [0, 0] ∧ (s.live .buffer).length = 1 ∧ peak .ring = 2 ∧
      peak .buffer = 1 ∧ (s.globals.blocks .buffer).length = 1 :=
  ⟨_, _, .step (.step (.step (.step (.step (.step (.step .init
    (.allocRingStorage rfl)) (.allocRingStorage rfl)) (.allocBuffer rfl))
    (.freeBuffer (List.mem_singleton_self _) rfl)) (.allocBuffer rfl))
    (.freeRingStorage (List.mem_cons_of_mem _ (List.mem_singleton_self _)) rfl))
    (.allocRingStorage rfl), rfl, rfl, rfl, rfl, rfl⟩

theorem pool_allocations_placed_apart (wf : P.Wf) (sc : P.subAllocator.Contract)
    (hc : P.host.Contract) {h₀ : η} {s : PoolState σ η} {peak : Pool → Nat}
    (run : PoolRun P h₀ s peak) :
    (∀ p, ∀ a ∈ s.live p, ∃ B, (s.globals.blocks p)[a.blockIndex]? = some B ∧
      B.isEmpty = false ∧ B.dedicatedContextHandle = a.dedicatedContextHandle ∧
      B.buffer ≤ a.buffer ∧ a.buffer + a.size ≤ B.buffer + B.bufferSize) ∧
    (∀ p, (s.live p).Pairwise fun a b => a.blockIndex = b.blockIndex →
      Apart a.buffer a.size b.buffer b.size) ∧
    (s.live .ring ++ s.live .buffer).Pairwise fun a b =>
      Apart a.offsetIntoPhys a.size b.offsetIntoPhys b.size := by
  have inv : PoolInv sc hc (hc.outstanding h₀) s := run.inv wf
  have inPool : ∀ p, p ≠ .combined → (s.live p).Pairwise fun a b =>
      Apart a.offsetIntoPhys a.size b.offsetIntoPhys b.size := fun p shared =>
    (inv.slots p).apart.imp_of_mem fun liveA liveB apart =>
      inv.phys_apart shared shared liveA liveB fun ⟨_, same⟩ => (apart same).2
  refine ⟨fun p a live => ?_, fun p => (inv.slots p).apart.imp fun apart same => (apart same).2,
    List.pairwise_append.2 ⟨inPool .ring (by decide), inPool .buffer (by decide), ?_⟩⟩
  · obtain ⟨B, slot, filled, placed⟩ := (inv.slots p).placed a live
    exact ⟨B, slot, filled, placed.handle.symm, placed.start, placed.within⟩
  · exact fun a liveA b liveB => inv.phys_apart (by decide) (by decide) liveA liveB
      fun ⟨differ, _⟩ => absurd differ (by decide)

theorem pool_allocations_placed_apart_churn : ∃ s peak, PoolRun packedPlatform {} s peak ∧
    (s.live .ring).map (·.blockIndex) = [0, 0] ∧
    (∀ p, ∀ a ∈ s.live p, ∃ B, (s.globals.blocks p)[a.blockIndex]? = some B ∧
      B.isEmpty = false ∧ B.dedicatedContextHandle = a.dedicatedContextHandle ∧
      B.buffer ≤ a.buffer ∧ a.buffer + a.size ≤ B.buffer + B.bufferSize) ∧
    (∀ p, (s.live p).Pairwise fun a b => a.blockIndex = b.blockIndex →
      Apart a.buffer a.size b.buffer b.size) ∧
    (s.live .ring ++ s.live .buffer).Pairwise fun a b =>
      Apart a.offsetIntoPhys a.size b.offsetIntoPhys b.size :=
  have ⟨s, peak, run, shared, _⟩ := packedChurn_run
  ⟨s, peak, run, shared, pool_allocations_placed_apart packedPlatform_wf packingAllocator.contract
    listHost.contract run⟩

theorem pool_slots_match_live (wf : P.Wf) (sc : P.subAllocator.Contract) (hc : P.host.Contract)
    {h₀ : η} {s : PoolState σ η} {peak : Pool → Nat} (run : PoolRun P h₀ s peak) :
    (∀ p i, (∃ B, (s.globals.blocks p)[i]? = some B ∧ B.isEmpty = false) ↔
      ∃ a ∈ s.live p, a.blockIndex = i) ∧
    (∀ p i B, (s.globals.blocks p)[i]? = some B → B.isEmpty = false → B.external = true →
      ∃ a, inSlot (s.live p) i = [a]) ∧
    ∀ p, ∀ a ∈ s.live p, ∃ blocks' h',
      deleteAllocation P a (s.globals.blocks p) s.host = .ok (blocks', h') ∧
      (∀ j, j ≠ a.blockIndex → blocks'[j]? = (s.globals.blocks p)[j]?) ∧
      ∃ B', blocks'[a.blockIndex]? = some B' ∧
        (B'.isEmpty = true ↔ (inSlot (s.live p) a.blockIndex).erase a = []) := by
  have inv : PoolInv sc hc (hc.outstanding h₀) s := run.inv wf
  refine ⟨fun p i => ⟨fun ⟨B, slot, filled⟩ => (inv.filled_iff slot).1 filled, ?_⟩,
    fun p i B slot filled external => ?_, fun p a live => ?_⟩
  · rintro ⟨a, live, rfl⟩
    obtain ⟨B, slot, filled, -⟩ := (inv.slots p).placed a live
    exact ⟨B, slot, filled⟩
  · cases p
    case combined => exact (inv.whole i B slot filled).imp fun _ only => only.1
    all_goals
      have internal := (inv.shape _ B (List.getElem?_mem slot) : SharedShape P B).2.1
      simp [internal] at external
  · obtain ⟨blocks', h', del⟩ := inv.deleteAllocation_ok live
    obtain ⟨B, B₂, slot, rfl, -⟩ := deleteAllocation_spec (inv.nonnull live) del
    have inside := (List.getElem?_eq_some_iff.1 slot).1
    refine ⟨_, h', del, fun j other => List.getElem?_set_ne (Ne.symm other),
      B₂, List.getElem?_set_self inside, ?_⟩
    have ok : deleteIn P p a s.globals s.host =
        .ok (s.globals.setBlocks p ((s.globals.blocks p).set a.blockIndex B₂), h') := by
      simp [deleteIn, del, Except.map]
    have slot' : ((s.globals.setBlocks p ((s.globals.blocks p).set a.blockIndex B₂)).blocks p)[
        a.blockIndex]? = some B₂ := by simpa using List.getElem?_set_self inside
    have filled := (inv.delete live ok).filled_iff slot'
    simp only [Function.update_same] at filled
    rw [← inSlot_erase, List.eq_nil_iff_forall_not_mem, ← Bool.not_eq_false, filled]
    simp [mem_inSlot]

theorem pool_slots_match_live_churn : ∃ s peak, PoolRun packedPlatform {} s peak ∧
    (s.live .ring).map (·.blockIndex) = [0, 0] ∧ (s.live .buffer).length = 1 ∧
    (∀ p i, (∃ B, (s.globals.blocks p)[i]? = some B ∧ B.isEmpty = false) ↔
      ∃ a ∈ s.live p, a.blockIndex = i) ∧
    (∀ p i B, (s.globals.blocks p)[i]? = some B → B.isEmpty = false → B.external = true →
      ∃ a, inSlot (s.live p) i = [a]) ∧
    ∀ p, ∀ a ∈ s.live p, ∃ blocks' h',
      deleteAllocation packedPlatform a (s.globals.blocks p) s.host = .ok (blocks', h') ∧
      (∀ j, j ≠ a.blockIndex → blocks'[j]? = (s.globals.blocks p)[j]?) ∧
      ∃ B', blocks'[a.blockIndex]? = some B' ∧
        (B'.isEmpty = true ↔ (inSlot (s.live p) a.blockIndex).erase a = []) :=
  have ⟨s, peak, run, shared, buffer, _⟩ := packedChurn_run
  ⟨s, peak, run, shared, buffer, pool_slots_match_live packedPlatform_wf packingAllocator.contract
    listHost.contract run⟩

theorem pool_length_le_peak (wf : P.Wf) (sc : P.subAllocator.Contract) (hc : P.host.Contract)
    {h₀ : η} {s : PoolState σ η} {peak : Pool → Nat} (run : PoolRun P h₀ s peak) (p : Pool) :
    (s.globals.blocks p).length ≤ peak p := by
  induction run with
  | init => cases p <;> exact Nat.le_refl 0
  | step run step bounded =>
    have inv : PoolInv sc hc (hc.outstanding h₀) _ := run.inv wf
    exact (inv.length_step wf step p).trans (max_le_max bounded (Nat.le_refl _))

theorem pool_length_le_peak_churn : ∃ s peak, PoolRun packedPlatform {} s peak ∧
    peak .buffer = 1 ∧ (s.globals.blocks .buffer).length = 1 ∧
    ∀ p, (s.globals.blocks p).length ≤ peak p :=
  have ⟨s, peak, run, _, _, _, buffer, length⟩ := packedChurn_run
  ⟨s, peak, run, buffer, length, pool_length_le_peak packedPlatform_wf packingAllocator.contract
    listHost.contract run⟩

end Asg
