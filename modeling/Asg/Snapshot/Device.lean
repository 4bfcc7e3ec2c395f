import Asg.Snapshot.Pools
import Asg.Snapshot.Context
import Asg.Context.Run
import Asg.Pool.Properties

/-! A snapshot of the device: `Globals::save` and then `save` of every live context, read back by
`Globals::load` and a `load` of as many contexts made for a snapshot. From any state a device
run reaches, every pool comes back slot for slot, every context with its saved fields, and every
allocation a context uses at the same offset into its reloaded block. -/

set_option autoImplicit false

namespace Asg

variable {σ η : Type}

def Context.uses (ctx : Context) : List (Allocation × Pool) :=
  if ctx.virtioGpuInfo.isSome then
    [(ctx.ringAllocation, .combined), (ctx.bufferAllocation, .combined),
      (ctx.combinedAllocation, .combined)]
  else [(ctx.ringAllocation, .ring), (ctx.bufferAllocation, .buffer)]

/-- Allocation `a` of pool `p` lies inside the filled block its index names, over a non-null
buffer. -/
def Inside (g : Globals σ) (p : Pool) (a : Allocation) : Prop :=
  ∃ B, (g.blocks p)[a.blockIndex]? = some B ∧ B.isEmpty = false ∧ B.buffer ≠ 0 ∧
    B.buffer ≤ a.buffer ∧ a.buffer + a.size ≤ B.buffer + B.bufferSize

/-- Allocation `a` of pool `p` moved with its block from `g` to `g'`: the filled block `B` its
index names in `g` is reloaded as `B'` over a non-null buffer, and `a'` is `a` at the same offset
into `B'`. -/
def Moved (g g' : Globals σ) (p : Pool) (a a' : Allocation) : Prop :=
  ∃ B B', (g.blocks p)[a.blockIndex]? = some B ∧ (g'.blocks p)[a.blockIndex]? = some B' ∧
    B.isEmpty = false ∧ Reloaded B B' ∧ B'.buffer ≠ 0 ∧ B.buffer ≤ a.buffer ∧
    a' = { a with buffer := B'.buffer + (a.buffer - B.buffer) }

/-- What a load over the pools `g` makes of context `ctx`: each saved field, a consumer where
one was current, and the allocations pointed into `g` from what was saved of them. -/
structure ContextReread (P : Platform σ η) (g : Globals σ) (ctx ctx' : Context) : Prop where
  virtioGpuInfo : ctx'.virtioGpuInfo = ctx.virtioGpuInfo
  version : ctx'.version = ctx.version
  exiting : ctx'.exiting = ctx.exiting
  unavailableReadCount : ctx'.unavailableReadCount = ctx.unavailableReadCount
  savedConfig : ctx'.savedConfig = ctx.savedConfig
  consumer : ctx'.currentConsumer.isSome = ctx.currentConsumer.isSome
  attached : (ctx'.ringAllocation, ctx'.bufferAllocation, ctx'.combinedAllocation) =
    attachAllocations P g ctx.virtioGpuInfo.isSome ctx.ringAllocation.reread
      ctx.bufferAllocation.reread ctx.combinedAllocation.reread

/-- A context restored from its snapshot as the pools `g` are restored as `g'`: each saved
field, a consumer where one was current, and every allocation it uses moved with its block. -/
structure ContextRestored (g g' : Globals σ) (ctx ctx' : Context) : Prop where
  virtioGpuInfo : ctx'.virtioGpuInfo = ctx.virtioGpuInfo
  version : ctx'.version = ctx.version
  exiting : ctx'.exiting = ctx.exiting
  unavailableReadCount : ctx'.unavailableReadCount = ctx.unavailableReadCount
  savedConfig : ctx'.savedConfig = ctx.savedConfig
  consumer : ctx'.currentConsumer.isSome = ctx.currentConsumer.isSome
  moved : List.Forall₂ (fun u u' => u'.2 = u.2 ∧ Moved g g' u.2 u.1 u'.1) ctx.uses ctx'.uses

theorem forall₂_getElem? {α β : Type} {R : α → β → Prop} {l : List α} {l' : List β}
    (related : List.Forall₂ R l l') {i : Nat} {x : α} (slot : l[i]? = some x) :
    ∃ y, l'[i]? = some y ∧ R x y := by
  induction related generalizing i with
  | nil => simp at slot
  | cons head _ ih =>
    cases i with
    | zero =>
      obtain rfl : _ = x := by simpa using slot
      exact ⟨_, by simp, head⟩
    | succ i => simpa using ih (by simpa using slot)

theorem Block.fillAllocFromLoad_reread {B : Block σ} {a : Allocation} (placed : Placed B a)
    (bounded : B.bufferSize < 2 ^ 64) (offset : B.offsetIntoPhys < 2 ^ 64)
    (index : a.blockIndex < 2 ^ 64) (buf : Nat) :
    { B with buffer := buf }.fillAllocFromLoad a.reread =
      { a with buffer := buf + (a.buffer - B.buffer) } := by
  obtain ⟨notView, start, within, phys, handle, hostmem⟩ := placed
  cases a
  simp only [Block.fillAllocFromLoad, Allocation.reread, Allocation.mk.injEq] at *
  refine ⟨?_, Nat.mod_eq_of_lt index, ?_, ?_, handle.symm, hostmem.symm, trivial⟩
  all_goals omega

theorem Moved.inside {g g' : Globals σ} {p : Pool} {a a' : Allocation} (moved : Moved g g' p a a')
    (inside : Inside g p a) : Inside g' p a' := by
  obtain ⟨B₀, slot₀, -, -, -, within⟩ := inside
  obtain ⟨B, B', slot, slot', filled, reloaded, nonnull, start, rfl⟩ := moved
  obtain rfl : B₀ = B := Option.some.inj (slot₀.symm.trans slot)
  have reloaded' : B' = { B₀ with buffer := B'.buffer } := by simpa [Reloaded, filled] using reloaded
  rw [reloaded'] at slot' ⊢
  exact ⟨_, slot', filled, nonnull, by simp, by simp; omega⟩

theorem Moved.ringView {g g' : Globals σ} {p : Pool} {a a' : Allocation} (moved : Moved g g' p a a')
    (P : Platform σ η) :
    Moved g g' p (allocRingViewIntoCombined P a) (allocRingViewIntoCombined P a') := by
  obtain ⟨B, B', slot, slot', filled, reloaded, nonnull, start, rfl⟩ := moved
  exact ⟨B, B', slot, slot', filled, reloaded, nonnull, start, rfl⟩

theorem Moved.bufferView {g g' : Globals σ} {p : Pool} {a a' : Allocation}
    (moved : Moved g g' p a a') (P : Platform σ η) :
    Moved g g' p (allocBufferViewIntoCombined P a) (allocBufferViewIntoCombined P a') := by
  obtain ⟨B, B', slot, slot', filled, reloaded, nonnull, start, rfl⟩ := moved
  refine ⟨B, B', slot, slot', filled, reloaded, nonnull,
    Nat.le_add_right_of_le start, ?_⟩
  have shifted : B'.buffer + (a.buffer - B.buffer) + P.ringStorageSize =
      B'.buffer + (a.buffer + P.ringStorageSize - B.buffer) := by omega
  simp only [allocBufferViewIntoCombined, shifted]

theorem forall₂_mem_right {α β : Type} {R : α → β → Prop} {l : List α} {l' : List β}
    (related : List.Forall₂ R l l') {y : β} (member : y ∈ l') : ∃ x ∈ l, R x y := by
  induction related with
  | nil => simp at member
  | cons head _ ih =>
    rcases List.mem_cons.1 member with rfl | later
    · exact ⟨_, List.mem_cons_self _ _, head⟩
    · obtain ⟨x, inTail, related⟩ := ih later
      exact ⟨x, List.mem_cons_of_mem _ inTail, related⟩

theorem loadContexts_saveContexts (P : Platform σ η) (env : ContextEnv)
    (restores : ∀ consumer rest, env.consumerLoad (env.consumerSave consumer ++ rest) = rest)
    {ctxs : List Context}
    (named : ∀ ctx ∈ ctxs, ∀ info ∈ ctx.virtioGpuInfo, ∀ name ∈ info.name, name.length < 2 ^ 32)
    (g : Globals σ) (c : Consumers) (rest : List UInt8) :
    (loadContexts P env g ctxs.length c (saveContexts env ctxs ++ rest)).2.2 = rest ∧
      List.Forall₂ (ContextReread P g) ctxs
        (loadContexts P env g ctxs.length c (saveContexts env ctxs ++ rest)).1 := by
  induction ctxs generalizing c with
  | nil => exact ⟨rfl, .nil⟩
  | cons ctx ctxs ih =>
    obtain ⟨stream, info, version, exiting, count, config, consumer, attached, -⟩ :=
      Context.load_save P env restores (named ctx (List.mem_cons_self _ _)) g c
        (saveContexts env ctxs ++ rest)
    obtain ⟨others, reread⟩ := ih (fun c' member => named c' (List.mem_cons_of_mem _ member))
      ((snapshotContext env).load P env g c (ctx.save env ++ (saveContexts env ctxs ++ rest))).2.1
    have saved : saveContexts env (ctx :: ctxs) ++ rest =
        ctx.save env ++ (saveContexts env ctxs ++ rest) := List.append_assoc _ _ _
    rw [saved]
    simp only [List.length_cons, loadContexts, stream]
    exact ⟨others, .cons ⟨info, version, exiting, count, config, consumer, attached⟩ reread⟩

section
variable {P : Platform σ η} {sc : P.subAllocator.Contract} {hc : P.host.Contract}
  {base : Outstanding}

theorem PoolInv.inside {s : PoolState σ η} (inv : PoolInv sc hc base s) {p : Pool}
    {a : Allocation} (live : a ∈ s.live p) : Inside s.globals p a := by
  obtain ⟨B, slot, filled, placed⟩ := (inv.slots p).placed a live
  have shape := inv.shape p B (List.getElem?_mem slot)
  have nonnull : B.buffer ≠ 0 := by
    cases p
    case combined => exact (shape filled).2.2.2.2.1
    all_goals exact (shape.2.2.2.2 filled).2.1
  exact ⟨B, slot, filled, nonnull, placed.start, placed.within⟩

theorem PoolInv.loadable {s : PoolState σ η} (inv : PoolInv sc hc base s)
    {resources : Option LoadResources}
    (supplied : ∀ B ∈ s.globals.blocks .combined, B.isEmpty = false → Supplied resources B) :
    ∀ p, ∀ B ∈ s.globals.blocks p, Loadable P resources p B := fun p B member => by
  refine ⟨inv.shape p B member, fun filled => ⟨?_, fun external => ?_⟩⟩
  · obtain ⟨i, slot⟩ := List.mem_iff_getElem?.1 member
    obtain ⟨sub, linked, -⟩ := (inv.slots p).linked i B slot filled
    simp [linked]
  · cases p
    case combined => exact supplied B member filled
    all_goals simp [(inv.shape _ B member : SharedShape P B).2.1] at external

theorem PoolInv.moved {s : PoolState σ η} (inv : PoolInv sc hc base s) (fits : P.Fits)
    (sizes : ∀ p, (s.globals.blocks p).length < 2 ^ 64) {g' : Globals σ} {memSaved mem' : Memory}
    (back : ∀ p, List.Forall₂ (Restored P memSaved mem') (s.globals.blocks p) (g'.blocks p))
    {p : Pool} {a : Allocation} (live : a ∈ s.live p) :
    Moved s.globals g' p a (g'.fillAllocFromLoad a.reread p) := by
  obtain ⟨B, slot, filled, placed⟩ := (inv.slots p).placed a live
  obtain ⟨B', slot', reloaded, restored⟩ := forall₂_getElem? (back p) slot
  obtain ⟨nonnull, -⟩ := restored filled
  have reloaded' : B' = { B with buffer := B'.buffer } := by simpa [Reloaded, filled] using reloaded
  have index : a.blockIndex < 2 ^ 64 :=
    ((List.getElem?_eq_some_iff.1 slot).1).trans (sizes p)
  have bounds : B.bufferSize < 2 ^ 64 ∧ B.offsetIntoPhys < 2 ^ 64 := by
    have shape := inv.shape p B (List.getElem?_mem slot)
    cases p
    case combined =>
      obtain ⟨-, -, -, offset, -, -, size, -⟩ := shape filled
      omega
    all_goals
      obtain ⟨size, -, bound⟩ := shape.2.2.2.2 filled
      have := fits.blockSize_pos
      have := fits.blockSize_lt
      omega
  refine ⟨B, B', slot, slot', filled, reloaded, nonnull, placed.start, ?_⟩
  have reindexed : a.reread.blockIndex = a.blockIndex := Nat.mod_eq_of_lt index
  simp only [Globals.fillAllocFromLoad, reindexed, slot']
  rw [reloaded']
  exact Block.fillAllocFromLoad_reread placed bounds.1 bounds.2 index _

theorem DeviceInv.restored {d : Device σ η} (inv : DeviceInv sc hc base d) (fits : P.Fits)
    (sizes : ∀ p, (d.world.globals.blocks p).length < 2 ^ 64) {g' : Globals σ}
    {memSaved mem' : Memory}
    (back : ∀ p, List.Forall₂ (Restored P memSaved mem') (d.world.globals.blocks p) (g'.blocks p))
    {ctx ctx' : Context} (member : ctx ∈ d.contexts) (reread : ContextReread P g' ctx ctx') :
    ContextRestored d.world.globals g' ctx ctx' := by
  refine ⟨reread.virtioGpuInfo, reread.version, reread.exiting, reread.unavailableReadCount,
    reread.savedConfig, reread.consumer, ?_⟩
  have moved : ∀ p, ∀ a ∈ ctx.holds p,
      Moved d.world.globals g' p a (g'.fillAllocFromLoad a.reread p) := fun p a held =>
    inv.pool.moved fits sizes back (List.mem_flatMap.2 ⟨ctx, member, held⟩)
  have attached := reread.attached
  have shaped := inv.shaped ctx member
  unfold Context.Shaped at shaped
  unfold Context.uses
  rw [reread.virtioGpuInfo]
  split at shaped
  case isTrue virtio =>
    obtain ⟨ring, buffer, -⟩ := shaped
    simp only [attachAllocations, virtio, if_true, Prod.mk.injEq] at attached
    obtain ⟨ring', buffer', combined'⟩ := attached
    have combined := moved .combined ctx.combinedAllocation (by simp [Context.holds, virtio])
    simp only [virtio, if_true, ring', buffer', combined', ring, buffer]
    exact .cons ⟨rfl, combined.ringView P⟩ (.cons ⟨rfl, combined.bufferView P⟩
      (.cons ⟨rfl, combined⟩ .nil))
  case isFalse plain =>
    rw [Bool.not_eq_true] at plain
    simp only [attachAllocations, plain, Bool.false_eq_true, if_false, Prod.mk.injEq] at attached
    obtain ⟨ring', buffer', -⟩ := attached
    simp only [plain, Bool.false_eq_true, if_false, ring', buffer']
    exact .cons ⟨rfl, moved .ring _ (by simp [Context.holds, plain])⟩
      (.cons ⟨rfl, moved .buffer _ (by simp [Context.holds, plain])⟩ .nil)

theorem DeviceInv.snapshot {env : ContextEnv} {d : Device σ η} (inv : DeviceInv sc hc base d)
    (fits : P.Fits) (loads : P.subAllocator.LoadsSaved)
    (restores : ∀ consumer rest, env.consumerLoad (env.consumerSave consumer ++ rest) = rest)
    (resources : Option LoadResources)
    (supplied : ∀ B ∈ d.world.globals.blocks .combined, B.isEmpty = false → Supplied resources B)
    (sizes : ∀ p, (d.world.globals.blocks p).length < 2 ^ 64)
    (named : ∀ ctx ∈ d.contexts, ∀ info ∈ ctx.virtioGpuInfo, ∀ name ∈ info.name,
      name.length < 2 ^ 32)
    (memSaved : Memory) (g₁ : Globals σ) (h₁ : η) (mem₁ : Memory) (c : Consumers)
    (rest : List UInt8) :
    ∃ g' h' mem', Globals.load P resources g₁ h₁ mem₁
        (Globals.save P memSaved d.world.globals ++ (saveContexts env d.contexts ++ rest)) =
          .ok (g', h', mem', saveContexts env d.contexts ++ rest) ∧
      (∀ p, List.Forall₂ (Restored P memSaved mem') (d.world.globals.blocks p) (g'.blocks p)) ∧
      (loadContexts P env g' d.contexts.length c (saveContexts env d.contexts ++ rest)).2.2 =
        rest ∧
      List.Forall₂ (ContextRestored d.world.globals g') d.contexts
        (loadContexts P env g' d.contexts.length c (saveContexts env d.contexts ++ rest)).1 := by
  obtain ⟨g', h', mem', loaded, back⟩ :=
    Globals.load_save hc fits loads resources memSaved (inv.pool.loadable supplied) sizes g₁ h₁ mem₁ _
  obtain ⟨stream, reread⟩ := loadContexts_saveContexts P env restores named g' c rest
  refine ⟨g', h', mem', loaded, back, stream, ?_⟩
  exact ((List.forall₂_and_left _ _).2 ⟨fun _ member => member, reread⟩).imp
    fun _ _ ⟨member, reread⟩ => inv.restored fits sizes back member reread

end

section
variable {P : Platform σ η} {env : ContextEnv}

/-- A context constructed and destroyed leaves ring slot 0 empty with its size of 64 bytes; a
snapshot writes no more of an empty slot than its emptiness, so the slot comes back with size 0. -/
theorem snapshot_forgets_empty_slot :
    ((Context.lifetime referencePlatform referenceEnv {} [] ⟨{}, {}, {}⟩).toOption.map fun w =>
      (w.globals.ringBlocks.map fun B => (B.isEmpty, B.bufferSize),
        (Globals.load referencePlatform none w.globals w.host (fun _ => 0)
          (Globals.save referencePlatform (fun _ => 0) w.globals)).toOption.map
          fun (g, _) => g.ringBlocks.map fun B => (B.isEmpty, B.bufferSize))) =
      some ([(true, 64)], some [(true, 0)]) := by
  decide

/-- A snapshot of any state a device run reaches, read back by `Globals::load` and a `load` of
each context in order: no abort, every slot of every pool restored (a filled block with every
field but its buffer, over a non-null buffer holding the saved bytes if internal; an empty one as
a vacant slot), and every context with its saved fields, its consumer presence, and each
allocation it uses at the same offset into its reloaded block. -/
theorem snapshot_restores_device (wf : P.Wf) (fits : P.Fits) (sc : P.subAllocator.Contract)
    (hc : P.host.Contract) (loads : P.subAllocator.LoadsSaved)
    (restores : ∀ consumer rest, env.consumerLoad (env.consumerSave consumer ++ rest) = rest)
    {h₀ : η} {d : Device σ η} (run : DeviceRun P env h₀ d) (resources : Option LoadResources)
    (supplied : ∀ B ∈ d.world.globals.blocks .combined, B.isEmpty = false → Supplied resources B)
    (sizes : ∀ p, (d.world.globals.blocks p).length < 2 ^ 64)
    (named : ∀ ctx ∈ d.contexts, ∀ info ∈ ctx.virtioGpuInfo, ∀ name ∈ info.name,
      name.length < 2 ^ 32)
    (memSaved : Memory) (g₁ : Globals σ) (h₁ : η) (mem₁ : Memory) (c : Consumers)
    (rest : List UInt8) :
    ∃ g' h' mem', Globals.load P resources g₁ h₁ mem₁
        (Globals.save P memSaved d.world.globals ++ (saveContexts env d.contexts ++ rest)) =
          .ok (g', h', mem', saveContexts env d.contexts ++ rest) ∧
      (∀ p, List.Forall₂ (Restored P memSaved mem') (d.world.globals.blocks p) (g'.blocks p)) ∧
      (loadContexts P env g' d.contexts.length c (saveContexts env d.contexts ++ rest)).2.2 =
        rest ∧
      List.Forall₂ (ContextRestored d.world.globals g') d.contexts
        (loadContexts P env g' d.contexts.length c (saveContexts env d.contexts ++ rest)).1 := by
  have inv : DeviceInv sc hc (hc.outstanding h₀) d := run.inv wf
  exact inv.snapshot fits loads restores resources supplied sizes named memSaved g₁ h₁ mem₁ c rest

end

theorem referencePlatform_fits : referencePlatform.Fits := ⟨by decide, by decide⟩

theorem wholeAllocator_loadsSaved : wholeAllocator.LoadsSaved := wholeAllocator_load_save

theorem referenceEnv_restores (consumer : Nat) (rest : List UInt8) :
    referenceEnv.consumerLoad (referenceEnv.consumerSave consumer ++ rest) = rest := by
  simp [referenceEnv]

theorem referenceDevice_supplied :
    ∀ B ∈ referenceDevice.world.globals.blocks .combined, B.isEmpty = false → Supplied none B := by
  have vacant : referenceDevice.world.globals.blocks .combined = [] := by decide
  simp [vacant]

theorem referenceDevice_sizes (p : Pool) : (referenceDevice.world.globals.blocks p).length < 2 ^ 64 := by
  cases p <;> decide

theorem referenceDevice_named : ∀ ctx ∈ referenceDevice.contexts, ∀ info ∈ ctx.virtioGpuInfo,
    ∀ name ∈ info.name, name.length < 2 ^ 32 := by
  decide

theorem snapshot_restores_device_reference :
    DeviceRun referencePlatform referenceEnv {} referenceDevice ∧
    ∃ g' h' mem', Globals.load referencePlatform none {} {} (fun _ => 0)
        (Globals.save referencePlatform (fun _ => 0) referenceDevice.world.globals ++
          (saveContexts referenceEnv referenceDevice.contexts ++ [])) =
          .ok (g', h', mem', saveContexts referenceEnv referenceDevice.contexts ++ []) ∧
      (∀ p, List.Forall₂ (Restored referencePlatform (fun _ => 0) mem')
        (referenceDevice.world.globals.blocks p) (g'.blocks p)) ∧
      (loadContexts referencePlatform referenceEnv g' referenceDevice.contexts.length {}
        (saveContexts referenceEnv referenceDevice.contexts ++ [])).2.2 = [] ∧
      List.Forall₂ (ContextRestored referenceDevice.world.globals g') referenceDevice.contexts
        (loadContexts referencePlatform referenceEnv g' referenceDevice.contexts.length {}
          (saveContexts referenceEnv referenceDevice.contexts ++ [])).1 :=
  ⟨referenceDevice_run, snapshot_restores_device referencePlatform_wf referencePlatform_fits
    wholeAllocator.contract listHost.contract wholeAllocator_loadsSaved referenceEnv_restores
    referenceDevice_run none referenceDevice_supplied referenceDevice_sizes referenceDevice_named
    (fun _ => 0) {} {} (fun _ => 0) {} []⟩

end Asg
