import Asg.Snapshot.Restore

/-! Two bounds every live context keeps over whole runs, restores included. `ASG_SET_VERSION`
answers the lower of the context's version and the guest's, so no context ever holds a version
above the host's own. And between two calls of `onUnavailableRead` fewer than
`kMaxUnavailableReads` reads are counted: every live context meets the precondition under which
a run of such calls waits exactly at every eighth. -/

set_option autoImplicit false

namespace Asg

/-- What every live context keeps: a version no higher than the host's, and fewer unavailable
reads counted than make it wait. -/
structure Context.Bounded (env : ContextEnv) (ctx : Context) : Prop where
  version : ctx.version ≤ env.version
  count : ctx.unavailableReadCount.toNat < 8

theorem sleepWait_snd (ctx : Context) (channel : List ConsumerCommand) :
    ∃ hostState consumerMessages, (sleepWait ctx channel).2 =
      { ctx with hostState := hostState, consumerMessages := consumerMessages } := by
  induction channel with
  | nil => exact ⟨_, _, rfl⟩
  | cons cmd rest ih => cases cmd <;> first | exact ih | exact ⟨_, _, rfl⟩

theorem negotiated_le (version guestVersion : UInt32) :
    (if version > guestVersion then guestVersion else version).toUInt64.toUInt32 ≤ version := by
  rw [show ∀ v : UInt32, v.toUInt64.toUInt32 = v from toUInt32_toNat]
  split_ifs with newer
  · exact UInt32.not_lt.1 (UInt32.lt_asymm newer)
  · exact UInt32.le_refl version

theorem zero_count_lt : (0 : UInt32).toNat < 8 := by decide

section
variable {env : ContextEnv}

theorem snapshotContext_bounded : (snapshotContext env).Bounded env :=
  ⟨UInt32.le_refl _, zero_count_lt⟩

theorem Context.create_bounded {σ η : Type} {P : Platform σ η} {create : AddressSpaceCreateInfo}
    {w w' : World σ η} {ctx : Context} (ok : Context.create P env create w = .ok (ctx, w')) :
    ctx.Bounded env := by
  unfold Context.create at ok
  cases fresh : create.fromSnapshot
  case true =>
    simp only [fresh, if_true, Except.ok.injEq, Prod.mk.injEq] at ok
    exact ok.1 ▸ snapshotContext_bounded
  simp only [fresh, Bool.false_eq_true, if_false, bind_eq_ok] at ok
  obtain ⟨⟨ring, buffer, combined, g, h⟩, -, built⟩ := ok
  split at built
  · cases built
  split at built
  · cases built
  split at built <;> simp only [Except.ok.injEq, Prod.mk.injEq] at built <;>
    exact built.1 ▸ ⟨UInt32.le_refl _, zero_count_lt⟩

theorem Context.Bounded.perform {ctx : Context} (bounded : ctx.Bounded env) (info : PingInfo)
    (c : Consumers) : (ctx.perform env info c).1.Bounded env := by
  unfold Context.perform
  split
  case h_3 => exact ⟨UInt32.le_trans (negotiated_le _ _) bounded.version, bounded.count⟩
  all_goals exact ⟨bounded.version, bounded.count⟩

theorem Context.Bounded.unavailableRead {ctx : Context} (bounded : ctx.Bounded env) :
    (onUnavailableRead ctx).2.Bounded env := by
  by_cases due : ctx.exiting ≠ 0 ∨ ctx.unavailableReadCount.toNat = 7
  · obtain ⟨hostState, consumerMessages, waited⟩ := sleepWait_snd
      { ctx with unavailableReadCount := 0 } ctx.consumerMessages
    rw [onUnavailableRead_wait due, waited]
    exact ⟨bounded.version, zero_count_lt⟩
  · obtain ⟨staying, other⟩ : ctx.exiting = 0 ∧ ctx.unavailableReadCount.toNat ≠ 7 := by
      simpa using due
    have below : ctx.unavailableReadCount.toNat < 7 := by have := bounded.count; omega
    rw [onUnavailableRead_quiet staying below]
    exact ⟨bounded.version, by simp only [count_succ_toNat below]; omega⟩

end

variable {σ η : Type} {P : Platform σ η} {env : ContextEnv}

theorem DeviceInv.restore_reread {sc : P.subAllocator.Contract} {hc : P.host.Contract}
    {base : Outstanding} (fits : P.Fits) (loads : P.subAllocator.LoadsSaved)
    (restores : ∀ consumer rest, env.consumerLoad (env.consumerSave consumer ++ rest) = rest)
    {d saved : Device σ η} (inv : DeviceInv sc hc base saved) {resources : Option LoadResources}
    (supplied : ∀ B ∈ saved.world.globals.blocks .combined, B.isEmpty = false → Supplied resources B)
    (sizes : ∀ p, (saved.world.globals.blocks p).length < 2 ^ 64)
    (named : ∀ ctx ∈ saved.contexts, ∀ info ∈ ctx.virtioGpuInfo, ∀ name ∈ info.name,
      name.length < 2 ^ 32)
    {memSaved mem mem' : Memory} {g' : Globals σ} {h' : η} {s : List UInt8}
    (ok : Globals.load P resources d.world.globals d.world.host mem
      (Globals.save P memSaved saved.world.globals ++ saveContexts env saved.contexts) =
        .ok (g', h', mem', s)) :
    List.Forall₂ (ContextReread P g') saved.contexts
      (loadContexts P env g' saved.contexts.length d.world.consumers s).1 := by
  obtain ⟨g₁, h₁, mem₁, loaded, -⟩ := Globals.load_save hc fits loads resources memSaved
    (inv.pool.loadable supplied) sizes d.world.globals d.world.host mem (saveContexts env saved.contexts)
  rw [loaded, Except.ok.injEq, Prod.mk.injEq, Prod.mk.injEq, Prod.mk.injEq] at ok
  obtain ⟨rfl, rfl, rfl, rfl⟩ := ok
  simpa using (loadContexts_saveContexts P env restores named g₁ d.world.consumers []).2

theorem Context.Bounded.step {d d' : Device σ η} (bounded : ∀ ctx ∈ d.contexts, ctx.Bounded env)
    (step : DeviceStep P env d d') : ∀ ctx ∈ d'.contexts, ctx.Bounded env := by
  cases step with
  | create _ ok =>
    intro c member
    rcases List.mem_cons.1 member with rfl | old
    · exact Context.create_bounded ok
    · exact bounded c old
  | perform info slot =>
    intro c member
    rcases List.mem_or_eq_of_mem_set member with old | rfl
    · exact bounded c old
    · exact (bounded _ (List.getElem?_mem slot)).perform info _
  | unavailableRead slot read =>
    intro c member
    rcases List.mem_or_eq_of_mem_set member with old | rfl
    · exact bounded c old
    · simpa [read] using (bounded _ (List.getElem?_mem slot)).unavailableRead
  | destroy _ _ => exact fun c kept => bounded c (List.mem_of_mem_erase kept)

/-- In every state of a run that also clears the pools and restores snapshots: every live
context holds a version no higher than the host's own, whatever versions the guest offered; fewer
than eight unavailable reads are counted; and, not exiting, a run of unavailable reads from there
waits exactly at the calls that complete a multiple of eight. -/
theorem restore_run_contexts_bounded (wf : P.Wf) (fits : P.Fits) (sc : P.subAllocator.Contract)
    (hc : P.host.Contract) (loads : P.subAllocator.LoadsSaved)
    (restores : ∀ consumer rest, env.consumerLoad (env.consumerSave consumer ++ rest) = rest)
    (grants : GrantsFree hc) {h₀ : η} {d : Device σ η} (run : RestoreRun P env h₀ d) :
    ∀ ctx ∈ d.contexts, ctx.version ≤ env.version ∧ ctx.unavailableReadCount.toNat < 8 ∧
      (ctx.exiting = 0 → ∀ channels i r, (unavailableReads ctx channels)[i]? = some r →
        (r ≠ some 0 ↔ (ctx.unavailableReadCount.toNat + i + 1) % 8 = 0)) := by
  have bounded : ∀ ctx ∈ d.contexts, ctx.Bounded env := by
    induction run with
    | init => simp
    | step _ step ih => exact Context.Bounded.step ih step
    | clear => simp
    | restore _ _ saved supplied sizes named ok _ ih =>
      have inv : DeviceInv sc hc (hc.outstanding h₀) _ := saved.inv wf fits loads restores grants
      intro c member
      obtain ⟨ctx, member, reread⟩ := forall₂_mem_right
        (inv.restore_reread fits loads restores supplied sizes named ok) member
      exact ⟨reread.version ▸ (ih ctx member).version,
        reread.unavailableReadCount ▸ (ih ctx member).count⟩
  exact fun ctx member => ⟨(bounded ctx member).version, (bounded ctx member).count,
    fun staying channels => unavailableReads_waits channels ctx staying (bounded ctx member).count⟩

theorem restore_run_contexts_bounded_reference :
    RestoreRun referencePlatform referenceEnv {} referenceRestored ∧
      ∀ ctx ∈ referenceRestored.contexts, ctx.version ≤ referenceEnv.version ∧
        ctx.unavailableReadCount.toNat < 8 ∧
        (ctx.exiting = 0 → ∀ channels i r, (unavailableReads ctx channels)[i]? = some r →
          (r ≠ some 0 ↔ (ctx.unavailableReadCount.toNat + i + 1) % 8 = 0)) :=
  ⟨referenceRestored_run, restore_run_contexts_bounded referencePlatform_wf referencePlatform_fits
    wholeAllocator.contract listHost.contract wholeAllocator_loadsSaved referenceEnv_restores
    listHost_grantsFree referenceRestored_run⟩

end Asg
