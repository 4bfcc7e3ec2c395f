import Asg.Basic

/-! Collaborators that meet the contracts the pool is verified under: a sub-allocator that
serves one range at the start of its buffer at a time, one that packs several ranges into its
buffer, and a host that keeps what it has outstanding as lists and places each new region and
buffer past every outstanding one. They show the contracts can be met, and let the pool run on
concrete inputs. -/

set_option autoImplicit false

namespace Asg

def takeBack {α : Type} [DecidableEq α] (l : List α) (a : α) : List α :=
  l.erase a

theorem perm_takeBack {α : Type} [DecidableEq α] {l : List α} {a : α} (member : a ∈ l) :
    l.Perm (a :: takeBack l a) :=
  List.perm_cons_erase member

/-- The base-128 digits of `n`, least significant first, each but the last with its high bit
set; at most `fuel` of them. -/
def leb128Digits : Nat → Nat → List UInt8
  | 0, _ => []
  | fuel + 1, n =>
    if n < 128 then [n.toUInt8] else (n % 128 + 128).toUInt8 :: leb128Digits fuel (n / 128)

def leb128 (n : Nat) : List UInt8 := leb128Digits (n + 1) n

def readLeb128 : List UInt8 → Nat × List UInt8
  | [] => (0, [])
  | b :: rest =>
    if b.toNat < 128 then (b.toNat, rest)
    else (b.toNat - 128 + 128 * (readLeb128 rest).1, (readLeb128 rest).2)

theorem readLeb128_leb128Digits {fuel n : Nat} (enough : n < fuel) (rest : List UInt8) :
    readLeb128 (leb128Digits fuel n ++ rest) = (n, rest) := by
  induction fuel generalizing n with
  | zero => omega
  | succ fuel ih =>
    by_cases small : n < 128
    · have digit : (n.toUInt8).toNat = n := UInt8.toNat_ofNat_of_lt (by simp [UInt8.size]; omega)
      simp [leb128Digits, small, readLeb128, digit]
    · have digit : ((n % 128 + 128).toUInt8).toNat = n % 128 + 128 :=
        UInt8.toNat_ofNat_of_lt (by simp [UInt8.size]; omega)
      simp only [leb128Digits, small, if_false, List.cons_append, readLeb128, digit,
        @ih (n / 128) (by omega)]
      simp only [show ¬n % 128 + 128 < 128 by omega, if_false, Prod.mk.injEq, and_true]
      omega

@[simp] theorem readLeb128_leb128 (n : Nat) (rest : List UInt8) :
    readLeb128 (leb128 n ++ rest) = (n, rest) :=
  readLeb128_leb128Digits (Nat.lt_succ_self n) rest

def readRanges : Nat → List UInt8 → List (Nat × Nat) × List UInt8
  | 0, s => ([], s)
  | k + 1, s =>
    let (off, s) := readLeb128 s
    let (n, s) := readLeb128 s
    let (rest, s) := readRanges k s
    ((off, n) :: rest, s)

def saveRanges (ranges : List (Nat × Nat)) : List UInt8 :=
  ranges.flatMap fun r => leb128 r.1 ++ leb128 r.2

theorem readRanges_saveRanges (ranges : List (Nat × Nat)) (rest : List UInt8) :
    readRanges ranges.length (saveRanges ranges ++ rest) = (ranges, rest) := by
  induction ranges with
  | nil => rfl
  | cons r ranges ih => simp_all [readRanges, saveRanges, List.append_assoc]

/-- A sub-allocator over its buffer's size and the ranges it has handed out, serving one
range at offset 0 while none is live. It saves its size and ranges as LEB128 numbers. -/
def wholeAllocator : SubAllocator (Nat × List (Nat × Nat)) where
  create n := (n, [])
  alloc s n := if s.2 = [] ∧ n ≤ s.1 then some (0, (s.1, [(0, n)])) else none
  free s off := (s.2.find? fun r => r.1 == off).map fun r => (s.1, takeBack s.2 r)
  empty s := s.2.isEmpty
  save s := leb128 s.1 ++ leb128 s.2.length ++ saveRanges s.2
  load _ bytes :=
    let (total, bytes) := readLeb128 bytes
    let (k, bytes) := readLeb128 bytes
    let (ranges, bytes) := readRanges k bytes
    ((total, ranges), bytes)

theorem wholeAllocator_load_save (n : Nat) (s : Nat × List (Nat × Nat)) (rest : List UInt8) :
    wholeAllocator.load (wholeAllocator.create n) (wholeAllocator.save s ++ rest) = (s, rest) := by
  simp [wholeAllocator, List.append_assoc, readRanges_saveRanges]

theorem wholeAllocator_free_some {s s' : Nat × List (Nat × Nat)} {off : Nat}
    (freed : wholeAllocator.free s off = some s') :
    ∃ n, (off, n) ∈ s.2 ∧ s' = (s.1, takeBack s.2 (off, n)) := by
  simp only [wholeAllocator, Option.map_eq_some'] at freed
  obtain ⟨r, found, rfl⟩ := freed
  have same : r.1 = off := by simpa using List.find?_some found
  exact ⟨r.2, by simpa [← same] using List.mem_of_find?_eq_some found, by rw [← same]⟩

def wholeAllocator.contract : wholeAllocator.Contract where
  live s := s.2
  total s := s.1
  live_create _ := rfl
  total_create _ := rfl
  alloc_live := by
    intro s n off s' served
    simp only [wholeAllocator] at served
    split at served
    · case isTrue fits =>
      simp only [Option.some.injEq, Prod.mk.injEq] at served
      obtain ⟨rfl, rfl⟩ := served
      simp [fits.1]
    · cases served
  alloc_total := by
    intro s n off s' served
    simp only [wholeAllocator] at served
    split at served
    · simp only [Option.some.injEq, Prod.mk.injEq] at served
      obtain ⟨-, rfl⟩ := served
      rfl
    · cases served
  alloc_within := by
    intro s n off s' served
    simp only [wholeAllocator] at served
    split at served
    · case isTrue fits =>
      simp only [Option.some.injEq, Prod.mk.injEq] at served
      obtain ⟨rfl, -⟩ := served
      simpa using fits.2
    · cases served
  alloc_apart := by
    intro s n off s' served r member
    simp only [wholeAllocator] at served
    split at served
    · case isTrue fits => simp [fits.1] at member
    · cases served
  alloc_fresh := by
    intro s n refused
    simp only [wholeAllocator, true_and, ite_eq_right_iff, reduceCtorEq] at refused ⊢
    exact fun fits => refused fits.2
  free_live := by
    intro s off s' freed
    obtain ⟨n, member, rfl⟩ := wholeAllocator_free_some freed
    exact ⟨n, perm_takeBack member, rfl⟩
  free_isSome := by
    intro s off n member
    simp only [wholeAllocator, Option.isSome_map']
    exact List.find?_isSome.2 ⟨(off, n), member, by simp⟩
  empty_iff s := by simp [wholeAllocator]

/-- The least offset past the start and the end of every range of `ranges`. -/
def rangesEnd (ranges : List (Nat × Nat)) : Nat :=
  ranges.foldr (fun r m => max (max (r.1 + 1) (r.1 + r.2)) m) 0

theorem lt_rangesEnd {ranges : List (Nat × Nat)} {r : Nat × Nat} (member : r ∈ ranges) :
    r.1 < rangesEnd ranges ∧ r.1 + r.2 ≤ rangesEnd ranges := by
  induction ranges with
  | nil => cases member
  | cons r' ranges ih =>
    simp only [rangesEnd, List.foldr_cons] at ih ⊢
    rcases List.mem_cons.1 member with rfl | later
    · omega
    · have := ih later
      omega

/-- A sub-allocator that places each request of positive size past every live range, while it
fits; it frees, empties, saves and loads as `wholeAllocator`. -/
def packingAllocator : SubAllocator (Nat × List (Nat × Nat)) :=
  { wholeAllocator with
    alloc := fun s n =>
      if 0 < n ∧ rangesEnd s.2 + n ≤ s.1 then some (rangesEnd s.2, (s.1, (rangesEnd s.2, n) :: s.2))
      else none }

theorem packingAllocator_alloc_some {s s' : Nat × List (Nat × Nat)} {n off : Nat} :
    packingAllocator.alloc s n = some (off, s') ↔
      (0 < n ∧ rangesEnd s.2 + n ≤ s.1) ∧ off = rangesEnd s.2 ∧ s' = (s.1, (off, n) :: s.2) := by
  simp only [packingAllocator, Option.ite_none_right_eq_some, Option.some.injEq, Prod.mk.injEq]
  constructor <;> rintro ⟨fits, rfl, rfl⟩ <;> exact ⟨fits, rfl, rfl⟩

def packingAllocator.contract : packingAllocator.Contract where
  live s := s.2
  total s := s.1
  live_create _ := rfl
  total_create _ := rfl
  alloc_live served := by obtain ⟨-, rfl, rfl⟩ := packingAllocator_alloc_some.1 served; rfl
  alloc_total served := by obtain ⟨-, rfl, rfl⟩ := packingAllocator_alloc_some.1 served; rfl
  alloc_within served := (packingAllocator_alloc_some.1 served).2.1 ▸
    (packingAllocator_alloc_some.1 served).1.2
  alloc_apart := by
    intro s n off s' served r member
    obtain ⟨-, rfl, -⟩ := packingAllocator_alloc_some.1 served
    have past := lt_rangesEnd (show r ∈ s.2 from member)
    exact ⟨by omega, .inr (.inl past.2)⟩
  alloc_fresh := by
    intro s n refused
    simp only [packingAllocator, ite_eq_right_iff, reduceCtorEq, imp_false, not_and, not_le]
      at refused ⊢
    exact fun positive => Nat.lt_of_lt_of_le (refused positive) (Nat.add_le_add_right (Nat.zero_le _) n)
  free_live := wholeAllocator.contract.free_live
  free_isSome := wholeAllocator.contract.free_isSome
  empty_iff := wholeAllocator.contract.empty_iff

def pastAll (starts : List Nat) (n : Nat) : Nat :=
  (starts.map (· + n)).sum

theorem le_pastAll {starts : List Nat} {r : Nat} (member : r ∈ starts) (n : Nat) :
    r + n ≤ pastAll starts n := by
  unfold pastAll
  exact List.le_sum_of_mem (List.mem_map_of_mem (fun x => x + n) member)

/-- A host whose state is what it has outstanding. A fresh region or buffer is placed past
every outstanding one; a fixed region is granted where it fits and overlaps none. -/
def listHost : HostOps Outstanding where
  allocSharedHostRegionLocked h n :=
    if pastAll h.regions n + n ≤ 2 ^ 64 then
      some (pastAll h.regions n, { h with regions := pastAll h.regions n :: h.regions })
    else none
  allocSharedHostRegionFixedLocked h n o :=
    if o + n ≤ 2 ^ 64 ∧ ∀ r ∈ h.regions, Apart o n r n then
      some { h with regions := o :: h.regions }
    else none
  freeSharedHostRegionLocked h o := { h with regions := takeBack h.regions o }
  getPhysAddrStartLocked := 0
  addMemoryMapping h p b n := { h with mappings := (p, b, n) :: h.mappings }
  removeMemoryMapping h p b n := { h with mappings := takeBack h.mappings (p, b, n) }
  hostmemUnregister h _ := h
  alignedBufAlloc h _ n :=
    (pastAll h.alignedBufs n + 1, { h with alignedBufs := (pastAll h.alignedBufs n + 1) :: h.alignedBufs })
  alignedBufFree h p := { h with alignedBufs := takeBack h.alignedBufs p }

def listHost.contract : listHost.Contract where
  outstanding h := h
  region_alloc := by
    intro h n o h' taken
    simp only [listHost] at taken
    split at taken
    · case isTrue fits =>
      simp only [Option.some.injEq, Prod.mk.injEq] at taken
      obtain ⟨rfl, rfl⟩ := taken
      exact ⟨rfl, fits, fun r member => .inr (.inl (le_pastAll member n))⟩
    · cases taken
  region_fixed := by
    intro h n o h' taken
    simp only [listHost] at taken
    split at taken
    · case isTrue fits =>
      simp only [Option.some.injEq] at taken
      exact ⟨taken.symm, fits⟩
    · cases taken
  region_free := fun member => ⟨_, perm_takeBack member, rfl⟩
  mapping_add _ _ _ _ := rfl
  mapping_remove := fun member => ⟨_, perm_takeBack member, rfl⟩
  hostmem_unregister _ _ := rfl
  buf_alloc := by
    intro h a n p h' taken
    simp only [listHost, Prod.mk.injEq] at taken
    obtain ⟨rfl, rfl⟩ := taken
    refine ⟨rfl, by omega, fun q member => .inr (.inl ?_)⟩
    dsimp only at member ⊢
    have := le_pastAll member n
    omega
  buf_free := fun member => ⟨_, perm_takeBack member, rfl⟩

/-- A platform over the reference collaborators, with small sizes. -/
def referencePlatform : Platform (Nat × List (Nat × Nat)) Outstanding where
  blockSize := 64
  pageSize := 16
  ringStorageSize := 16
  perContextBufferSize := 32
  subAllocator := wholeAllocator
  host := listHost

/-- The reference platform over the packing sub-allocator, whose blocks hold several
allocations at once. -/
def packedPlatform : Platform (Nat × List (Nat × Nat)) Outstanding :=
  { referencePlatform with subAllocator := packingAllocator }

end Asg
