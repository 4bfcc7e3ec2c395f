import Asg.Pool.Spec

/-! The host resources the pool holds: every filled block that is not external holds one
physical region, one mapping of it onto the block's buffer, and the buffer itself. What a
fill and a destroy do to what the host has outstanding, under its contract. -/

set_option autoImplicit false

namespace Asg

variable {σ η : Type} (P : Platform σ η)

def held (B : Block σ) : Option (Nat × Nat) :=
  if B.isEmpty || B.external then none else some (B.offsetIntoPhys, B.buffer)

/-- What the host has outstanding when blocks hold the regions and buffers `l` on top of
`base`, which the pool did not take. -/
def Outstanding.holding (base : Outstanding) (l : List (Nat × Nat)) : Outstanding where
  regions := l.map Prod.fst ++ base.regions
  mappings := l.map (fun r => (P.host.getPhysAddrStartLocked + r.1, r.2, P.blockSize)) ++
    base.mappings
  alignedBufs := l.map Prod.snd ++ base.alignedBufs

def Outstanding.Equiv (x y : Outstanding) : Prop :=
  x.regions.Perm y.regions ∧ x.mappings.Perm y.mappings ∧ x.alignedBufs.Perm y.alignedBufs

def Outstanding.hold (x : Outstanding) (r : Nat × Nat) : Outstanding where
  regions := r.1 :: x.regions
  mappings := (P.host.getPhysAddrStartLocked + r.1, r.2, P.blockSize) :: x.mappings
  alignedBufs := r.2 :: x.alignedBufs

def Globals.allBlocks {σ : Type} (g : Globals σ) : List (Block σ) :=
  g.ringBlocks ++ g.bufferBlocks ++ g.combinedBlocks

def heldBy (g : Globals σ) : List (Nat × Nat) :=
  g.allBlocks.filterMap held

/-- The regions blocks hold, `l`, are apart from each other and from those the host had
outstanding, `base`, before the pool took any. -/
def Separated (base : Outstanding) (l : List (Nat × Nat)) : Prop :=
  l.Pairwise (fun r r' => Apart r.1 P.blockSize r'.1 P.blockSize) ∧
    ∀ r ∈ l, ∀ o ∈ base.regions, Apart r.1 P.blockSize o P.blockSize

theorem Outstanding.Equiv.trans {x y z : Outstanding} (first : x.Equiv y) (second : y.Equiv z) :
    x.Equiv z :=
  ⟨first.1.trans second.1, first.2.1.trans second.2.1, first.2.2.trans second.2.2⟩

theorem Outstanding.holding_perm (base : Outstanding) {l l' : List (Nat × Nat)}
    (same : l.Perm l') : (base.holding P l).Equiv (base.holding P l') :=
  ⟨(same.map _).append_right _, (same.map _).append_right _, (same.map _).append_right _⟩

section
variable {P}

theorem Separated.perm {base : Outstanding} {l l' : List (Nat × Nat)} (apart : Separated P base l)
    (same : l.Perm l') : Separated P base l' :=
  ⟨apart.1.perm same fun related => related.symm, fun r member => apart.2 r (same.symm.subset member)⟩

theorem Separated.of_cons {base : Outstanding} {r : Nat × Nat} {l : List (Nat × Nat)}
    (apart : Separated P base (r :: l)) : Separated P base l :=
  ⟨apart.1.of_cons, fun r' member => apart.2 r' (List.mem_cons_of_mem _ member)⟩

theorem Separated.cons {base : Outstanding} {r : Nat × Nat} {l : List (Nat × Nat)}
    (apart : Separated P base l) (fromHeld : ∀ r' ∈ l, Apart r.1 P.blockSize r'.1 P.blockSize)
    (fromBase : ∀ o ∈ base.regions, Apart r.1 P.blockSize o P.blockSize) :
    Separated P base (r :: l) := by
  refine ⟨List.pairwise_cons.2 ⟨fromHeld, apart.1⟩, fun r' member => ?_⟩
  rcases List.mem_cons.1 member with rfl | old
  · exact fromBase
  · exact apart.2 r' old

theorem Separated.sublist {base : Outstanding} {l l' : List (Nat × Nat)} (apart : Separated P base l)
    (sub : l'.Sublist l) : Separated P base l' :=
  ⟨apart.1.sublist sub, fun r member => apart.2 r (sub.subset member)⟩

theorem Separated.of_regions {base : Outstanding} {l l' : List (Nat × Nat)}
    (apart : Separated P base l) (same : l'.map Prod.fst = l.map Prod.fst) : Separated P base l' := by
  have offsets : (l.map Prod.fst).Pairwise fun x y => Apart x P.blockSize y P.blockSize :=
    List.pairwise_map.2 apart.1
  rw [← same] at offsets
  refine ⟨List.pairwise_map.1 offsets, fun r member o fromBase => ?_⟩
  have region : r.1 ∈ l.map Prod.fst := same ▸ List.mem_map_of_mem Prod.fst member
  obtain ⟨r', member', first⟩ := List.mem_map.1 region
  exact first ▸ apart.2 r' member' o fromBase

theorem Separated.subperm {base : Outstanding} {l l' : List (Nat × Nat)}
    (apart : Separated P base l) (sub : l'.Subperm l) : Separated P base l' := by
  obtain ⟨l'', same, sublist⟩ := sub
  exact (apart.sublist sublist).perm same

end

@[simp] theorem Outstanding.holding_nil (base : Outstanding) : base.holding P [] = base := rfl

theorem held_eq_some {B : Block σ} {r : Nat × Nat} (holds : held B = some r) :
    B.isEmpty = false ∧ B.external = false ∧ r = (B.offsetIntoPhys, B.buffer) := by
  unfold held at holds
  cases empty : B.isEmpty <;> cases external : B.external <;> simp_all

@[simp] theorem held_of_isEmpty {B : Block σ} (empty : B.isEmpty = true) : held B = none := by
  simp [held, empty]

@[simp] theorem held_subAlloc (B : Block σ) (s : Option σ) :
    held { B with subAlloc := s } = held B := rfl

theorem filterMap_cons_toList {α β : Type} (f : α → Option β) (a : α) (l : List α) :
    (a :: l).filterMap f = (f a).toList ++ l.filterMap f := by
  cases fa : f a <;> simp [List.filterMap_cons, fa]

theorem filterMap_set_perm {α β : Type} [DecidableEq β] (f : α → Option β) {l : List α}
    {i : Nat} {x : α} (slot : l[i]? = some x) (y : α) :
    ((l.set i y).filterMap f ++ (f x).toList).Perm (l.filterMap f ++ (f y).toList) := by
  induction l generalizing i with
  | nil => simp at slot
  | cons a rest ih =>
    cases i with
    | zero =>
      obtain rfl : a = x := by simpa using slot
      rw [List.perm_iff_count]
      intro v
      simp only [List.set_cons_zero, filterMap_cons_toList, List.count_append]
      omega
    | succ k =>
      have tail := ih (by simpa using slot)
      simp only [List.set_cons_succ, filterMap_cons_toList, List.append_assoc]
      exact tail.append_left _

theorem filterMap_placeAt_perm {α : Type} [DecidableEq α] (f : Block σ → Option α) {blocks : List (Block σ)}
    {j : Nat} (within : j ≤ blocks.length) (nothing : f {} = none) (B : Block σ) :
    ((placeAt blocks j B).filterMap f ++ (f (blocks.getD j {})).toList).Perm
      (blocks.filterMap f ++ (f B).toList) := by
  unfold placeAt
  split
  · exact filterMap_set_perm f (by simp [*]) B
  · have last : j = blocks.length := by omega
    subst last
    simp [nothing, List.filterMap_append, filterMap_cons_toList]

theorem heldBy_setBlocks_perm (g : Globals σ) (p : Pool) (blocks : List (Block σ)) :
    (heldBy (g.setBlocks p blocks) ++ (g.blocks p).filterMap held).Perm
      (heldBy g ++ blocks.filterMap held) := by
  rw [List.perm_iff_count]
  intro v
  cases p <;> simp only [heldBy, Globals.allBlocks, Globals.setBlocks, Globals.blocks,
    List.filterMap_append, List.count_append] <;> omega

theorem Outstanding.Equiv.hold {x y : Outstanding} (same : x.Equiv y) (r : Nat × Nat) :
    (x.hold P r).Equiv (y.hold P r) :=
  ⟨same.1.cons _, same.2.1.cons _, same.2.2.cons _⟩

@[simp] theorem Outstanding.holding_cons (base : Outstanding) (r : Nat × Nat)
    (l : List (Nat × Nat)) : base.holding P (r :: l) = (base.holding P l).hold P r := rfl

theorem heldBy_place {g : Globals σ} {p : Pool} {j : Nat} (within : j ≤ (g.blocks p).length)
    (B : Block σ) :
    (heldBy (g.setBlocks p (placeAt (g.blocks p) j B)) ++
      (held ((g.blocks p).getD j {})).toList).Perm (heldBy g ++ (held B).toList) := by
  have outer := heldBy_setBlocks_perm g p (placeAt (g.blocks p) j B)
  have inner := filterMap_placeAt_perm held within (by simp) B
  rw [List.perm_iff_count] at outer inner ⊢
  intro v
  have first := outer v
  have second := inner v
  simp only [List.count_append] at first second ⊢
  omega

theorem heldBy_set {g : Globals σ} {p : Pool} {i : Nat} {B : Block σ}
    (slot : (g.blocks p)[i]? = some B) (B' : Block σ) :
    (heldBy (g.setBlocks p ((g.blocks p).set i B')) ++ (held B).toList).Perm
      (heldBy g ++ (held B').toList) := by
  have outer := heldBy_setBlocks_perm g p ((g.blocks p).set i B')
  have inner := filterMap_set_perm held slot B'
  rw [List.perm_iff_count] at outer inner ⊢
  intro v
  have first := outer v
  have second := inner v
  simp only [List.count_append] at first second ⊢
  omega

theorem held_of_filled {B : Block σ} (filled : B.isEmpty = false) (internal : B.external = false) :
    held B = some (B.offsetIntoPhys, B.buffer) := by
  simp [held, filled, internal]

theorem held_of_external {B : Block σ} (external : B.external = true) : held B = none := by
  simp [held, external]

theorem heldBy_place_same {g : Globals σ} {p : Pool} {j : Nat} (within : j ≤ (g.blocks p).length)
    (B : Block σ) (same : held B = held ((g.blocks p).getD j {})) :
    (heldBy (g.setBlocks p (placeAt (g.blocks p) j B))).Perm (heldBy g) := by
  have moved := heldBy_place within B
  rw [same] at moved
  exact (List.perm_append_right_iff _).1 moved

theorem heldBy_place_fresh {g : Globals σ} {p : Pool} {j : Nat} (within : j ≤ (g.blocks p).length)
    (B : Block σ) {r : Nat × Nat} (vacant : held ((g.blocks p).getD j {}) = none)
    (holds : held B = some r) :
    (heldBy (g.setBlocks p (placeAt (g.blocks p) j B))).Perm (r :: heldBy g) := by
  have moved := heldBy_place within B
  rw [vacant, holds] at moved
  simp only [Option.toList_none, Option.toList_some, List.append_nil] at moved
  exact moved.trans (List.perm_append_singleton _ _)

theorem heldBy_set_same {g : Globals σ} {p : Pool} {i : Nat} {B : Block σ}
    (slot : (g.blocks p)[i]? = some B) (B' : Block σ) (same : held B' = held B) :
    (heldBy (g.setBlocks p ((g.blocks p).set i B'))).Perm (heldBy g) := by
  have moved := heldBy_set slot B'
  rw [same] at moved
  exact (List.perm_append_right_iff _).1 moved

theorem heldBy_set_release {g : Globals σ} {p : Pool} {i : Nat} {B : Block σ}
    {r : Nat × Nat} (slot : (g.blocks p)[i]? = some B) (B' : Block σ) (holds : held B = some r)
    (vacant : held B' = none) :
    (heldBy g).Perm (r :: heldBy (g.setBlocks p ((g.blocks p).set i B'))) := by
  have moved := heldBy_set slot B'
  rw [vacant, holds] at moved
  simp only [Option.toList_none, Option.toList_some, List.append_nil] at moved
  exact moved.symm.trans (List.perm_append_singleton _ _)

section
variable {P} (hc : P.host.Contract)

theorem fillBlockLocked_fresh_outstanding {create : AllocationCreateInfo} {block B : Block σ}
    {h h' : η} (shared : create.dedicatedContextHandle = none) (fresh : create.fromLoad = false)
    (filled : fillBlockLocked P create block h = .ok (B, h')) :
    hc.outstanding h' = (hc.outstanding h).hold P (B.offsetIntoPhys, B.buffer) ∧
      B.offsetIntoPhys + P.blockSize ≤ 2 ^ 64 ∧ B.buffer ≠ 0 ∧
      (∀ r ∈ (hc.outstanding h).regions, Apart B.offsetIntoPhys P.blockSize r P.blockSize) ∧
      ∀ q ∈ (hc.outstanding h).alignedBufs, Apart B.buffer P.blockSize q P.blockSize := by
  obtain ⟨-, o, h₁, buf, h₂, region, aligned, rfl, rfl⟩ := fillBlockLocked_shared shared filled
  simp only [physRegion, fresh, Bool.false_eq_true, if_false] at region
  cases taken : P.host.allocSharedHostRegionLocked h P.blockSize with
  | none => simp [taken] at region
  | some r =>
    simp only [taken, Except.ok.injEq] at region
    subst region
    obtain ⟨first, bound, apart⟩ := hc.region_alloc taken
    obtain ⟨second, nonnull, bufApart⟩ := hc.buf_alloc aligned
    refine ⟨?_, bound, nonnull, apart, by simpa [first] using bufApart⟩
    simp [hc.mapping_add, second, first, Outstanding.hold]

theorem destroyBlockLocked_outstanding {B : Block σ} {h : η} {base : Outstanding}
    {l : List (Nat × Nat)} (internal : B.external = false) (plain : B.usesVirtioGpuHostmem = false)
    (balanced : (hc.outstanding h).Equiv (base.holding P ((B.offsetIntoPhys, B.buffer) :: l))) :
    (hc.outstanding (destroyBlockLocked P B h).2).Equiv (base.holding P l) := by
  obtain ⟨regions, mappings, bufs⟩ := balanced
  have step : (destroyBlockLocked P B h).2 = P.host.alignedBufFree
      (P.host.freeSharedHostRegionLocked (P.host.removeMemoryMapping h
        (P.host.getPhysAddrStartLocked + B.offsetIntoPhys) B.buffer P.blockSize)
        B.offsetIntoPhys) B.buffer := by
    simp [destroyBlockLocked, internal, plain]
  obtain ⟨rm, splitM, removed⟩ := hc.mapping_remove (mappings.symm.subset (List.mem_cons_self _ _))
  have memR : B.offsetIntoPhys ∈ (hc.outstanding (P.host.removeMemoryMapping h
      (P.host.getPhysAddrStartLocked + B.offsetIntoPhys) B.buffer P.blockSize)).regions := by
    rw [removed]; exact regions.symm.subset (List.mem_cons_self _ _)
  obtain ⟨rr, splitR, freed⟩ := hc.region_free memR
  rw [removed] at splitR freed
  have memB : B.buffer ∈ (hc.outstanding (P.host.freeSharedHostRegionLocked
      (P.host.removeMemoryMapping h (P.host.getPhysAddrStartLocked + B.offsetIntoPhys) B.buffer
        P.blockSize) B.offsetIntoPhys)).alignedBufs := by
    rw [freed]; exact bufs.symm.subset (List.mem_cons_self _ _)
  obtain ⟨rb, splitB, released⟩ := hc.buf_free memB
  rw [freed] at splitB released
  rw [step, released]
  exact ⟨(splitR.symm.trans regions).cons_inv, (splitM.symm.trans mappings).cons_inv,
    (splitB.symm.trans bufs).cons_inv⟩

theorem destroyBlocks_outstanding {blocks : List (Block σ)} {h : η} {base : Outstanding}
    {l : List (Nat × Nat)}
    (plain : ∀ B ∈ blocks, B.isEmpty = false → B.external = false → B.usesVirtioGpuHostmem = false)
    (balanced : (hc.outstanding h).Equiv (base.holding P (blocks.filterMap held ++ l))) :
    (hc.outstanding (destroyBlocks P blocks h)).Equiv (base.holding P l) := by
  induction blocks generalizing h with
  | nil => simpa using balanced
  | cons B rest ih =>
    refine ih (fun C member => plain C (List.mem_cons_of_mem _ member)) ?_
    cases empty : B.isEmpty
    case true => simpa [held_of_isEmpty empty, empty] using balanced
    case false =>
    cases external : B.external
    case true =>
      simpa [held_of_external external, empty, destroyBlockLocked_external external] using balanced
    case false =>
    simp only [List.filterMap_cons, held_of_filled empty external, List.cons_append] at balanced
    simpa [empty] using destroyBlockLocked_outstanding hc external
      (plain B (List.mem_cons_self _ _) empty external) balanced

end

end Asg
