import Asg.Globals

/-! What each operation of `Globals` can do, stated once: a filled block, the first-fit loop,
`newAllocation` and `deleteAllocation`. The invariants of the pool are proved from these and
never unfold the operations again. -/

set_option autoImplicit false

namespace Asg

variable {σ η : Type} (P : Platform σ η)

/-- The size a block filled for `create` has, and its sub-allocator carves. -/
def fillTotal (create : AllocationCreateInfo) : Nat :=
  if create.dedicatedContextHandle.isSome then create.size else P.blockSize

/-- A block just filled for `create` can serve it. -/
def FreshServes (create : AllocationCreateInfo) : Prop :=
  (P.subAllocator.alloc (P.subAllocator.create (fillTotal P create)) create.size).isSome

/-- The pool once slot `j` holds `block`: in place, or appended where `j` is the length. -/
def placeAt (blocks : List (Block σ)) (j : Nat) (block : Block σ) : List (Block σ) :=
  if j < blocks.length then blocks.set j block else blocks ++ [block]

section
variable {P} {create : AllocationCreateInfo} {block B : Block σ} {h h' : η}

theorem getElem?_placeAt {blocks : List (Block σ)} {j : Nat} (within : j ≤ blocks.length)
    (i : Nat) : (placeAt blocks j B)[i]? = if i = j then some B else blocks[i]? := by
  unfold placeAt
  split
  · rw [List.getElem?_set]
    by_cases same : i = j <;> simp_all [eq_comm]
  · have last : j = blocks.length := by omega
    subst last
    rcases Nat.lt_trichotomy i blocks.length with before | same | after
    · simp [List.getElem?_append_left before, Nat.ne_of_lt before]
    · simp [same]
    · simp [List.getElem?_eq_none (Nat.le_of_lt after), Nat.ne_of_gt after,
        List.getElem?_eq_none (show (blocks ++ [B]).length ≤ i by simp; omega)]

theorem getElem?_set_eq_some {blocks : List (Block σ)} {j i : Nat} {C : Block σ}
    (within : j < blocks.length) (slot : (blocks.set j B)[i]? = some C) :
    i = j ∧ C = B ∨ i ≠ j ∧ blocks[i]? = some C := by
  by_cases same : i = j
  · subst same
    exact .inl ⟨rfl, by simpa [List.getElem?_set_self within] using slot.symm⟩
  · exact .inr ⟨same, by rwa [List.getElem?_set_ne (Ne.symm same)] at slot⟩

theorem getElem?_of_getD_filled {blocks : List (Block σ)} {j : Nat}
    (filled : (blocks.getD j {}).isEmpty = false) : blocks[j]? = some (blocks.getD j {}) := by
  rw [List.getD_eq_getElem?_getD] at filled ⊢
  cases slot : blocks[j]? <;> simp_all

theorem fillBlockLocked_dedicated {handle : Nat}
    (dedicated : create.dedicatedContextHandle = some handle)
    (filled : fillBlockLocked P create block h = .ok (B, h')) :
    create.virtioGpu = true ∧ create.externalAddr ≠ 0 ∧ h' = h ∧
      B = { block with
        external := true
        buffer := create.externalAddr
        bufferSize := create.size
        subAlloc := some (P.subAllocator.create create.size)
        offsetIntoPhys := 0
        isEmpty := false
        usesVirtioGpuHostmem := true
        hostmemId := create.hostmemId
        dedicatedContextHandle := some handle } := by
  unfold fillBlockLocked at filled
  rw [dedicated] at filled
  by_cases virtio : create.virtioGpu <;> by_cases null : create.externalAddr = 0 <;>
    simp [virtio, null] at filled
  obtain ⟨rfl, rfl⟩ := filled
  exact ⟨virtio, null, rfl, by rw [← dedicated]⟩

theorem fillBlockLocked_shared (shared : create.dedicatedContextHandle = none)
    (filled : fillBlockLocked P create block h = .ok (B, h')) :
    create.virtioGpu = false ∧ ∃ o h₁ buf h₂, physRegion P create block h = .ok (o, h₁) ∧
      P.host.alignedBufAlloc h₁ P.pageSize P.blockSize = (buf, h₂) ∧
      h' = P.host.addMemoryMapping h₂ (P.host.getPhysAddrStartLocked + o) buf P.blockSize ∧
      B = { block with
        buffer := buf
        bufferSize := P.blockSize
        subAlloc := some (P.subAllocator.create P.blockSize)
        offsetIntoPhys := o
        isEmpty := false } := by
  unfold fillBlockLocked at filled
  rw [shared] at filled
  cases virtio : create.virtioGpu
  · simp only [virtio, Bool.false_eq_true, if_false] at filled
    cases region : physRegion P create block h with
    | error e => simp [region, Except.map] at filled
    | ok taken =>
      obtain ⟨o, h₁⟩ := taken
      simp only [region, Except.map, Except.ok.injEq, Prod.mk.injEq] at filled
      obtain ⟨rfl, rfl⟩ := filled
      exact ⟨rfl, o, h₁, _, _, rfl, rfl, rfl, rfl⟩
  · simp [virtio] at filled

theorem fillBlockLocked_filled (filled : fillBlockLocked P create block h = .ok (B, h')) :
    B.isEmpty = false ∧ B.bufferSize = fillTotal P create ∧
      B.subAlloc = some (P.subAllocator.create (fillTotal P create)) := by
  cases dedicated : create.dedicatedContextHandle with
  | none =>
    obtain ⟨-, o, h₁, buf, h₂, -, -, -, rfl⟩ := fillBlockLocked_shared dedicated filled
    simp [fillTotal, dedicated]
  | some handle =>
    obtain ⟨-, -, -, rfl⟩ := fillBlockLocked_dedicated dedicated filled
    simp [fillTotal, dedicated]

theorem fillBlockLocked_handle (filled : fillBlockLocked P create block h = .ok (B, h'))
    (compatible : create.dedicatedContextHandle = none → block.dedicatedContextHandle = none) :
    B.dedicatedContextHandle = create.dedicatedContextHandle := by
  cases dedicated : create.dedicatedContextHandle with
  | none =>
    obtain ⟨-, o, h₁, buf, h₂, -, -, -, rfl⟩ := fillBlockLocked_shared dedicated filled
    exact compatible dedicated
  | some handle =>
    obtain ⟨-, -, -, rfl⟩ := fillBlockLocked_dedicated dedicated filled
    rfl

theorem tryAlloc_filled (filled : fillBlockLocked P create block h = .ok (B, h'))
    (compatible : create.dedicatedContextHandle = none → block.dedicatedContextHandle = none) :
    tryAlloc P create B =
      (P.subAllocator.alloc (P.subAllocator.create (fillTotal P create)) create.size).map
        fun (off, s) => (off, { B with subAlloc := some s }) := by
  simp [tryAlloc, fillBlockLocked_handle filled compatible, Block.alloc,
    (fillBlockLocked_filled filled).2.2]

@[simp] theorem fillIfEmpty_of_not_isEmpty (filled : block.isEmpty = false) :
    fillIfEmpty P create block h = .ok (block, h) := by
  simp [fillIfEmpty, filled]

theorem fillIfEmpty_of_isEmpty (empty : block.isEmpty = true) :
    fillIfEmpty P create block h = fillBlockLocked P create block h := by
  simp [fillIfEmpty, empty]

theorem scanBlocks_spec {index : Nat} {blocks blocks' : List (Block σ)}
    {found : Option Allocation}
    (compatible : ∀ C ∈ blocks, C.isEmpty = true → create.dedicatedContextHandle = none →
      C.dedicatedContextHandle = none)
    (serves : FreshServes P create)
    (scan : scanBlocks P create index blocks h = .ok (found, blocks', h')) :
    (found = none ∧ blocks' = blocks ∧ h' = h ∧
      ∀ C ∈ blocks, C.isEmpty = false ∧ tryAlloc P create C = none) ∨
    ∃ j B₁ off B', j < blocks.length ∧
      (∀ k < j, ∀ C, blocks[k]? = some C → C.isEmpty = false ∧ tryAlloc P create C = none) ∧
      fillIfEmpty P create (blocks.getD j {}) h = .ok (B₁, h') ∧
      tryAlloc P create B₁ = some (off, B') ∧
      found = some (Allocation.carved create (index + j) B₁ off) ∧ blocks' = blocks.set j B' := by
  induction blocks generalizing index h found blocks' with
  | nil =>
    simp only [scanBlocks, Except.ok.injEq, Prod.mk.injEq] at scan
    obtain ⟨rfl, rfl, rfl⟩ := scan
    simp
  | cons C rest ih =>
    obtain ⟨⟨C₁, h₁⟩, visit, scan⟩ := bind_eq_ok.1 scan
    cases attempt : tryAlloc P create C₁ with
    | some carved =>
      obtain ⟨off, B'⟩ := carved
      simp only [attempt, Except.ok.injEq, Prod.mk.injEq] at scan
      obtain ⟨rfl, rfl, rfl⟩ := scan
      exact .inr ⟨0, C₁, off, B', by simp, by simp, by simpa using visit, attempt, by simp,
        by simp⟩
    | none =>
      have filled : C.isEmpty = false := by
        cases empty : C.isEmpty
        · rfl
        · rw [fillIfEmpty_of_isEmpty empty] at visit
          rw [tryAlloc_filled visit (compatible C (by simp) empty)] at attempt
          obtain ⟨⟨off, s⟩, served⟩ := Option.isSome_iff_exists.1 serves
          simp [served] at attempt
      rw [fillIfEmpty_of_not_isEmpty filled, Except.ok.injEq, Prod.mk.injEq] at visit
      obtain ⟨rfl, rfl⟩ := visit
      simp only [attempt] at scan
      obtain ⟨⟨found', rest', h''⟩, tail, result⟩ := map_eq_ok.1 scan
      simp only [Prod.mk.injEq] at result
      obtain ⟨rfl, rfl, rfl⟩ := result
      rcases ih (fun D member => compatible D (List.mem_cons_of_mem _ member)) tail with
        ⟨rfl, rfl, rfl, passed⟩ | ⟨j, B₁, off, B', within, before, visitJ, attemptJ, rfl, rfl⟩
      · exact .inl ⟨rfl, rfl, rfl, by simpa [filled, attempt] using passed⟩
      · refine .inr ⟨j + 1, B₁, off, B', by simpa using within, ?_, by simpa using visitJ,
          attemptJ, by congr 2; omega, rfl⟩
        intro k below D found
        cases k with
        | zero =>
          obtain rfl : C = D := by simpa using found
          exact ⟨filled, attempt⟩
        | succ k => exact before k (by omega) D (by simpa using found)

theorem tryAlloc_filled_refused (filled : fillBlockLocked P create block h = .ok (B, h'))
    (refused : ¬FreshServes P create) : tryAlloc P create B = none := by
  have none : P.subAllocator.alloc (P.subAllocator.create (fillTotal P create)) create.size =
      none := by simpa [FreshServes] using refused
  simp [tryAlloc, Block.alloc, (fillBlockLocked_filled filled).2.2, none]

theorem scanBlocks_refused {index : Nat} {blocks blocks' : List (Block σ)}
    {found : Option Allocation} (refused : ¬FreshServes P create)
    (refuses : ∀ C ∈ blocks, C.isEmpty = false → tryAlloc P create C = none)
    (scan : scanBlocks P create index blocks h = .ok (found, blocks', h')) : found = none := by
  induction blocks generalizing index h found blocks' with
  | nil =>
    simp only [scanBlocks, Except.ok.injEq, Prod.mk.injEq] at scan
    exact scan.1.symm
  | cons C rest ih =>
    obtain ⟨⟨C₁, h₁⟩, visit, scan⟩ := bind_eq_ok.1 scan
    have attempt : tryAlloc P create C₁ = none := by
      cases empty : C.isEmpty
      · rw [fillIfEmpty_of_not_isEmpty empty, Except.ok.injEq, Prod.mk.injEq] at visit
        obtain ⟨rfl, rfl⟩ := visit
        exact refuses C (by simp) empty
      · rw [fillIfEmpty_of_isEmpty empty] at visit
        exact tryAlloc_filled_refused visit refused
    simp only [attempt] at scan
    obtain ⟨⟨found', rest', h''⟩, tail, result⟩ := map_eq_ok.1 scan
    simp only [Prod.mk.injEq] at result
    obtain ⟨rfl, -, rfl⟩ := result
    exact ih (fun D member => refuses D (List.mem_cons_of_mem _ member)) tail

theorem newAllocation_spec {blocks blocks' : List (Block σ)} {a : Allocation}
    (compatible : ∀ C ∈ blocks, C.isEmpty = true → create.dedicatedContextHandle = none →
      C.dedicatedContextHandle = none)
    (monotone : ¬FreshServes P create → ∀ C ∈ blocks, C.isEmpty = false →
      tryAlloc P create C = none)
    (ok : newAllocation P create blocks h = .ok (a, blocks', h')) :
    create.size ≤ P.blockSize ∧ ∃ j B₁ off B', j ≤ blocks.length ∧
      (∀ k < j, ∀ C, blocks[k]? = some C → C.isEmpty = false ∧ tryAlloc P create C = none) ∧
      fillIfEmpty P create (blocks.getD j {}) h = .ok (B₁, h') ∧
      tryAlloc P create B₁ = some (off, B') ∧
      a = Allocation.carved create j B₁ off ∧ blocks' = placeAt blocks j B' := by
  unfold newAllocation at ok
  by_cases large : create.size > P.blockSize
  · simp [large] at ok
  simp only [large, if_false] at ok
  refine ⟨by omega, ?_⟩
  obtain ⟨⟨found, blocks₁, h₁⟩, scan, rest⟩ := bind_eq_ok.1 ok
  by_cases serves : FreshServes P create
  · rcases scanBlocks_spec compatible serves scan with
      ⟨rfl, rfl, rfl, passed⟩ | ⟨j, B₁, off, B', within, before, visit, attempt, rfl, rfl⟩
    · obtain ⟨⟨N, h₂⟩, filled, fresh⟩ := bind_eq_ok.1 rest
      cases carve : N.alloc P.subAllocator create.size with
      | none => simp [carve] at fresh
      | some c =>
        obtain ⟨off, N'⟩ := c
        simp only [carve, Except.ok.injEq, Prod.mk.injEq] at fresh
        obtain ⟨rfl, rfl, rfl⟩ := fresh
        refine ⟨blocks₁.length, N, off, N', le_refl _,
          fun k _ C found => passed C (List.getElem?_mem found), by simpa using filled, ?_,
          rfl, by simp [placeAt]⟩
        simp [tryAlloc, fillBlockLocked_handle filled (fun _ => rfl), carve]
    · simp only [Except.ok.injEq, Prod.mk.injEq] at rest
      obtain ⟨rfl, rfl, rfl⟩ := rest
      exact ⟨j, B₁, off, B', le_of_lt within, before, visit, attempt, by simp,
        by simp [placeAt, within]⟩
  · obtain rfl := scanBlocks_refused serves (monotone serves) scan
    obtain ⟨⟨N, h₂⟩, filled, fresh⟩ := bind_eq_ok.1 rest
    have none : N.alloc P.subAllocator create.size = none := by
      simpa [tryAlloc, fillBlockLocked_handle filled (fun _ => rfl)] using
        tryAlloc_filled_refused filled serves
    simp [none] at fresh

theorem allocIn_ok {p : Pool} {g g' : Globals σ} {a : Allocation}
    (ok : allocIn P p create g h = .ok (a, g', h')) :
    ∃ blocks', newAllocation P create (g.blocks p) h = .ok (a, blocks', h') ∧
      g' = g.setBlocks p blocks' := by
  obtain ⟨⟨a', blocks', h''⟩, new, result⟩ := map_eq_ok.1 ok
  simp only [Prod.mk.injEq] at result
  obtain ⟨rfl, rfl, rfl⟩ := result
  exact ⟨blocks', new, rfl⟩

theorem deleteIn_ok {p : Pool} {g g' : Globals σ} {a : Allocation}
    (ok : deleteIn P p a g h = .ok (g', h')) :
    ∃ blocks', deleteAllocation P a (g.blocks p) h = .ok (blocks', h') ∧
      g' = g.setBlocks p blocks' := by
  obtain ⟨⟨blocks', h''⟩, del, result⟩ := map_eq_ok.1 ok
  simp only [Prod.mk.injEq] at result
  obtain ⟨rfl, rfl⟩ := result
  exact ⟨blocks', del, rfl⟩

theorem tryAlloc_some {B B' : Block σ} {off : Nat} (attempt : tryAlloc P create B = some (off, B')) :
    B.dedicatedContextHandle = create.dedicatedContextHandle ∧ ∃ s s', B.subAlloc = some s ∧
      P.subAllocator.alloc s create.size = some (off, s') ∧ B' = { B with subAlloc := some s' } := by
  unfold tryAlloc at attempt
  split at attempt
  case isFalse => simp at attempt
  case isTrue handle =>
  refine ⟨handle, ?_⟩
  cases sub : B.subAlloc with
  | none => simp [Block.alloc, sub] at attempt
  | some s =>
    cases served : P.subAllocator.alloc s create.size with
    | none => simp [Block.alloc, sub, served] at attempt
    | some r =>
      simp only [Block.alloc, sub, served, Option.some_bind, Option.map_some', Option.some.injEq,
        Prod.mk.injEq] at attempt
      exact ⟨s, r.2, rfl, by rw [← attempt.1, served], attempt.2.symm⟩

theorem mem_placeAt {blocks : List (Block σ)} {j : Nat} {C : Block σ}
    (member : C ∈ placeAt blocks j B) : C = B ∨ C ∈ blocks := by
  unfold placeAt at member
  split at member
  · exact (List.mem_or_eq_of_mem_set member).symm
  · simpa [or_comm] using member

theorem length_placeAt (blocks : List (Block σ)) (j : Nat) :
    (placeAt blocks j B).length = if j < blocks.length then blocks.length else blocks.length + 1 := by
  unfold placeAt
  split <;> simp

@[simp] theorem destroyBlockLocked_fst (block : Block σ) (h : η) :
    (destroyBlockLocked P block h).1 = { block with subAlloc := none, isEmpty := true } := rfl

@[simp] theorem deleteAllocation_null {alloc : Allocation} {blocks : List (Block σ)}
    (null : alloc.buffer = 0) : deleteAllocation P alloc blocks h = .ok (blocks, h) := by
  simp [deleteAllocation, null]

theorem deleteAllocation_spec {alloc : Allocation} {blocks blocks' : List (Block σ)}
    (nonnull : alloc.buffer ≠ 0) (ok : deleteAllocation P alloc blocks h = .ok (blocks', h')) :
    ∃ B B₂, blocks[alloc.blockIndex]? = some B ∧ blocks' = blocks.set alloc.blockIndex B₂ ∧
      (B.external = true ∧ (B₂, h') = destroyBlockLocked P B h ∨
        B.external = false ∧ ∃ B₁, B.free P.subAllocator (alloc.buffer - B.buffer) = some B₁ ∧
          (B₂, h') = if shouldDestryBlockLocked P B₁ then destroyBlockLocked P B₁ h else (B₁, h)) := by
  unfold deleteAllocation at ok
  rw [if_neg nonnull] at ok
  cases slot : blocks[alloc.blockIndex]? with
  | none => simp [slot] at ok
  | some B =>
    simp only [slot] at ok
    cases external : B.external
    · simp only [external, Bool.false_eq_true, if_false] at ok
      cases freed : B.free P.subAllocator (alloc.buffer - B.buffer) with
      | none => simp [freed] at ok
      | some B₁ =>
        simp only [freed, Except.ok.injEq, Prod.mk.injEq] at ok
        obtain ⟨rfl, rfl⟩ := ok
        exact ⟨B, _, rfl, rfl, .inr ⟨external, B₁, freed, rfl⟩⟩
    · simp only [external, if_true, Except.ok.injEq, Prod.mk.injEq] at ok
      obtain ⟨rfl, rfl⟩ := ok
      exact ⟨B, _, rfl, rfl, .inl ⟨external, rfl⟩⟩

theorem allocRingAndBufferStorageDedicated_ok {asgCreate : AddressSpaceCreateInfo}
    {g g' : Globals σ} {a : Allocation}
    (ok : allocRingAndBufferStorageDedicated P asgCreate g h = .ok (a, g', h')) :
    asgCreate.handle ≠ 0 ∧ ∃ create : AllocationCreateInfo,
      create.dedicatedContextHandle = some asgCreate.handle.toNat ∧ create.hostmemId = 0 ∧
      P.ringStorageSize + P.perContextBufferSize ≤ create.size ∧
      (create.externalAddr = 0 ∨ create.externalAddr = asgCreate.externalAddr ∧
        create.size = asgCreate.externalAddrSize.toNat) ∧
      allocIn P .combined create g h = .ok (a, g', h') := by
  unfold allocRingAndBufferStorageDedicated at ok
  split at ok
  case isTrue => simp at ok
  case isFalse handle =>
  refine ⟨handle, ?_⟩
  split at ok
  case isTrue null => exact ⟨_, rfl, rfl, le_refl _, .inl rfl, ok⟩
  case isFalse =>
  dsimp only at ok
  split at ok
  case isTrue => simp at ok
  case isFalse large => exact ⟨_, rfl, rfl, Nat.le_of_not_lt large, .inr ⟨rfl, rfl⟩, ok⟩

theorem Block.free_some {sa : SubAllocator σ} {B B₁ : Block σ} {off : Nat}
    (freed : B.free sa off = some B₁) :
    ∃ s s', B.subAlloc = some s ∧ sa.free s off = some s' ∧ B₁ = { B with subAlloc := some s' } := by
  cases sub : B.subAlloc with
  | none => simp [Block.free, sub] at freed
  | some s =>
    cases released : sa.free s off with
    | none => simp [Block.free, sub, released] at freed
    | some s' =>
      simp only [Block.free, sub, released, Option.some_bind, Option.map_some',
        Option.some.injEq] at freed
      exact ⟨s, s', rfl, released, freed.symm⟩

@[simp] theorem shouldDestryBlockLocked_subAlloc (B : Block σ) (s : σ) :
    shouldDestryBlockLocked P { B with subAlloc := some s } = P.subAllocator.empty s := rfl

@[simp] theorem destroyBlockLocked_external {B : Block σ} (external : B.external = true) :
    (destroyBlockLocked P B h).2 = h := by
  simp [destroyBlockLocked, external]

@[simp] theorem freeIn_not_view {p : Pool} {alloc : Allocation} {g : Globals σ}
    (notView : alloc.isView = false) : freeIn P p alloc g h = deleteIn P p alloc g h := by
  simp [freeIn, notView]

end

end Asg
