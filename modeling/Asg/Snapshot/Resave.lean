import Asg.Snapshot.Restore

/-! A snapshot of restored pools is the snapshot they were restored from. Of a block,
`Globals::save` writes its filled flag, the fields `saveBlockLocked` writes, its sub-allocator
and, for an internal block, its bytes. A load gives each filled block back with all of these but
its buffer, and the saved bytes at the new buffer. So save, load and save again write the same
stream. -/

set_option autoImplicit false

namespace Asg

variable {σ η : Type} {P : Platform σ η}

theorem saveBlockLocked_restored {memSaved mem' : Memory} {B B' : Block σ}
    (restored : Restored P memSaved mem' B B')
    (whole : B.isEmpty = false → B.external = false → B.bufferSize = P.blockSize) :
    saveBlockLocked P mem' B' = saveBlockLocked P memSaved B := by
  obtain ⟨reloaded, bytes⟩ := restored
  unfold Reloaded at reloaded
  cases filled : B.isEmpty
  case true =>
    rw [if_pos filled] at reloaded
    simp [saveBlockLocked, reloaded, filled]
  rw [if_neg (by simp [filled])] at reloaded
  obtain ⟨-, kept⟩ := bytes filled
  rw [reloaded]
  cases external : B.external
  · simp [saveBlockLocked, filled, external, Block.saved, whole filled external, kept external]
  · simp [saveBlockLocked, filled, external, Block.saved]

theorem saveBlocks_restored {memSaved mem' : Memory} {l l' : List (Block σ)}
    (back : List.Forall₂ (Restored P memSaved mem') l l')
    (whole : ∀ B ∈ l, B.isEmpty = false → B.external = false → B.bufferSize = P.blockSize) :
    saveBlocks P mem' l' = saveBlocks P memSaved l := by
  induction back with
  | nil => simp [saveBlocks]
  | cons restored _ ih =>
    simp only [saveBlocks, List.flatMap_cons] at ih ⊢
    rw [saveBlockLocked_restored restored (whole _ (List.mem_cons_self _ _)),
      ih fun B member => whole B (List.mem_cons_of_mem _ member)]

theorem Globals.save_restored {memSaved mem' : Memory} {g g' : Globals σ}
    (back : ∀ p, List.Forall₂ (Restored P memSaved mem') (g.blocks p) (g'.blocks p))
    (whole : ∀ p, ∀ B ∈ g.blocks p, B.isEmpty = false → B.external = false →
      B.bufferSize = P.blockSize) :
    Globals.save P mem' g' = Globals.save P memSaved g := by
  have ring : saveBlocks P mem' g'.ringBlocks = saveBlocks P memSaved g.ringBlocks :=
    saveBlocks_restored (back .ring) (whole .ring)
  have buffer : saveBlocks P mem' g'.bufferBlocks = saveBlocks P memSaved g.bufferBlocks :=
    saveBlocks_restored (back .buffer) (whole .buffer)
  have combined : saveBlocks P mem' g'.combinedBlocks = saveBlocks P memSaved g.combinedBlocks :=
    saveBlocks_restored (back .combined) (whole .combined)
  have ringLength : g'.ringBlocks.length = g.ringBlocks.length := (back .ring).length_eq.symm
  have bufferLength : g'.bufferBlocks.length = g.bufferBlocks.length :=
    (back .buffer).length_eq.symm
  have combinedLength : g'.combinedBlocks.length = g.combinedBlocks.length :=
    (back .combined).length_eq.symm
  simp only [Globals.save, ring, buffer, combined, ringLength, bufferLength, combinedLength]

theorem PoolInv.internal_whole {sc : P.subAllocator.Contract} {hc : P.host.Contract}
    {base : Outstanding} {s : PoolState σ η} (inv : PoolInv sc hc base s) :
    ∀ p, ∀ B ∈ s.globals.blocks p, B.isEmpty = false → B.external = false →
      B.bufferSize = P.blockSize := by
  intro p B member filled internal
  have shape := inv.shape p B member
  cases p
  case combined => simp [(shape filled).1] at internal
  all_goals exact (shape.2.2.2.2 filled).1

variable {env : ContextEnv}

/-- In every state of a run that also clears the pools and restores snapshots, the pools'
snapshot survives a restore: `Globals::load` of what `Globals::save` wrote, over any pools, host
and memory, does not abort and reads it whole, and `Globals::save` of the pools it leaves writes
the same bytes again. -/
theorem restore_run_resave (wf : P.Wf) (fits : P.Fits) (sc : P.subAllocator.Contract)
    (hc : P.host.Contract) (loads : P.subAllocator.LoadsSaved)
    (restores : ∀ consumer rest, env.consumerLoad (env.consumerSave consumer ++ rest) = rest)
    (grants : GrantsFree hc) {h₀ : η} {d : Device σ η} (run : RestoreRun P env h₀ d)
    {resources : Option LoadResources}
    (supplied : ∀ B ∈ d.world.globals.blocks .combined, B.isEmpty = false → Supplied resources B)
    (sizes : ∀ p, (d.world.globals.blocks p).length < 2 ^ 64) (memSaved : Memory)
    (g₁ : Globals σ) (h₁ : η) (mem₁ : Memory) (rest : List UInt8) :
    ∃ g' h' mem', Globals.load P resources g₁ h₁ mem₁
        (Globals.save P memSaved d.world.globals ++ rest) = .ok (g', h', mem', rest) ∧
      Globals.save P mem' g' = Globals.save P memSaved d.world.globals := by
  have inv : DeviceInv sc hc (hc.outstanding h₀) d := run.inv wf fits loads restores grants
  obtain ⟨g', h', mem', loaded, back⟩ := Globals.load_save hc fits loads resources memSaved
    (inv.pool.loadable supplied) sizes g₁ h₁ mem₁ rest
  exact ⟨g', h', mem', loaded, Globals.save_restored back inv.pool.internal_whole⟩

theorem restore_run_resave_reference :
    RestoreRun referencePlatform referenceEnv {} referenceDevice ∧
      (∀ B ∈ referenceDevice.world.globals.blocks .combined, B.isEmpty = false → Supplied none B) ∧
      (∀ p, (referenceDevice.world.globals.blocks p).length < 2 ^ 64) ∧
      ∃ g' h' mem', Globals.load referencePlatform none {} {} (fun _ => 0)
          (Globals.save referencePlatform (fun _ => 0) referenceDevice.world.globals ++ []) =
            .ok (g', h', mem', []) ∧
        Globals.save referencePlatform mem' g' =
          Globals.save referencePlatform (fun _ => 0) referenceDevice.world.globals :=
  ⟨referenceDevice_run.restoreRun, referenceDevice_supplied, referenceDevice_sizes,
    restore_run_resave referencePlatform_wf referencePlatform_fits wholeAllocator.contract
      listHost.contract wholeAllocator_loadsSaved referenceEnv_restores listHost_grantsFree
      referenceDevice_run.restoreRun referenceDevice_supplied referenceDevice_sizes (fun _ => 0) {} {}
      (fun _ => 0) []⟩

end Asg
