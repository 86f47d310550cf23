import BumpinHost.Renderer.Pipeline

/-!
# Draws and the layouts they are issued with

A draw is sized with the stride of the vertex shader that is current when it is
recorded, and issued with the stride of the pipeline that a later tick installs.
What counts is the stride that the tick under way, and the one after it, are going
to use as things stand.
-/

namespace BumpinHost.Renderer

open BumpinHost.Gpu BumpinHost.Shader

variable {Guest : Type} {env : Env Guest} {s after : HostState Guest} {label : HostLabel}

/-- The vertices of a draw without indices lie inside its vertex data. -/
def FitsLayout (stride : Word) (cmd : DrawCommand) : Prop :=
  cmd.indexData = [] → cmd.vertexCount.toNat * stride.toNat ≤ cmd.vertexData.length

@[simp]
theorem copyDwords_length (mem : Memory) (addr : Word) (dwordCount : Nat) :
    (copyDwords mem addr dwordCount).length = 4 * dwordCount := by
  simp [copyDwords, littleEndianBytes, List.length_flatMap, Nat.mul_comm]

/-- A vertex buffer is a whole number of dwords. -/
theorem vertexByteSize_eq (size : Word) : 4 * ((size * 4).toNat / 4) = (size * 4).toNat := by
  have whole : (size * 4).toNat % 4 = 0 := by
    rw [BitVec.toNat_mul]
    have four : (4 : Word).toNat = 4 := rfl
    rw [four, Nat.mod_mod_of_dvd _ (by norm_num), Nat.mul_mod_left]
  omega

/-- As many vertices as a buffer has room for fit in it. -/
theorem capacity_mul_le {count size stride : Word} (fits : count ≤ size / stride) :
    count.toNat * stride.toNat ≤ size.toNat := by
  have room : count.toNat ≤ size.toNat / stride.toNat := by
    rw [← BitVec.toNat_udiv]
    exact BitVec.le_def.mp fits
  exact (Nat.mul_le_mul_right _ room).trans (Nat.div_mul_le_self ..)

/-- Every recorded draw holds its vertices at the stride it was recorded with. -/
theorem buildDrawCommand_sized {mem : Memory} {gpuState : GpuRegisterState}
    {currentVs : TranslationResult} {bufferAddr offsetBytes count : Word} {cmd : DrawCommand}
    (built : buildDrawCommand env mem gpuState currentVs bufferAddr offsetBytes count =
      some cmd) :
    cmd.vertexCount.toNat * (recordStride currentVs).toNat ≤ cmd.vertexData.length := by
  unfold buildDrawCommand at built
  dsimp only at built
  split at built
  · cases built
  · simp only [Option.ite_none_left_eq_some] at built
    obtain ⟨-, -, -, -, built⟩ := built
    split at built
    · -- a rectangle list is expanded to whole records
      obtain rfl := Option.some.inj built
      refine (Nat.mul_le_mul_right _ ?_).trans (Nat.div_mul_le_self ..)
      rw [BitVec.toNat_ofNat]
      exact Nat.mod_le ..
    · split at built
      · obtain rfl := Option.some.inj built
        dsimp only
        rw [copyDwords_length, vertexByteSize_eq]
        exact capacity_mul_le (BitVec.le_refl _)
      · obtain rfl := Option.some.inj built
        dsimp only
        rw [copyDwords_length, vertexByteSize_eq]
        apply capacity_mul_le
        split_ifs with small
        · exact BitVec.le_refl _
        · exact BitVec.not_lt.mp small

theorem FitsLayout.of_le {cmd : DrawCommand} {stride sized : Word}
    (holds : cmd.vertexCount.toNat * sized.toNat ≤ cmd.vertexData.length)
    (smaller : stride ≤ sized) : FitsLayout stride cmd :=
  fun _ => (Nat.mul_le_mul_left _ (BitVec.le_def.mp smaller)).trans holds

/-- A second update from the same cache changes nothing. -/
theorem tryUpdateRealPipeline_idem (vsHash psHash : Word) (vs ps : TranslationResult)
    (pipeline : PipelineState) :
    tryUpdateRealPipeline vsHash psHash vs ps
        (tryUpdateRealPipeline vsHash psHash vs ps pipeline) =
      tryUpdateRealPipeline vsHash psHash vs ps pipeline := by
  by_cases failed : ¬ vs.success ∨ ¬ ps.success
  · simp only [tryUpdateRealPipeline, if_pos failed]
  · by_cases compiled : vsHash ++ psHash = pipeline.lastCompiledRealShaderHashPair
    · simp only [tryUpdateRealPipeline, if_neg failed, if_pos compiled]
    · simp only [tryUpdateRealPipeline, if_neg failed, if_neg compiled, if_true]

namespace HostState

/-- The draws that are shown now, or may be shown later. -/
def draws (s : HostState Guest) : List DrawCommand :=
  s.lastDrawCommands ++ s.machine.frameDrawList.pending

/-- What a tick issues lies inside its vertex data. -/
def IssuesFittingDraws (s : HostState Guest) : Prop :=
  s.phase = .issuing → ∀ cmd ∈ s.lastDrawCommands, cmd.vertexData ≠ [] →
    FitsLayout s.pipeline.stride cmd

/-- The draws fit the strides that the tick under way and the one after it will use. -/
structure LayoutInvariant (s : HostState Guest) : Prop where
  following : ∀ cmd ∈ s.draws, FitsLayout s.followingPipeline.stride cmd
  planned : s.phase ≠ .idle → ∀ cmd ∈ s.lastDrawCommands,
    FitsLayout s.plannedPipeline.stride cmd

/-- When a load changes the stride that the ticks are going to use, the draws recorded
before it fit the new one; and a draw without indices is recorded at a stride no smaller
than the one that the next tick is going to use. -/
def KeepsLayouts (env : Env Guest) (s : HostState Guest) : HostLabel → Prop
  | .imLoadImmediate bufferAddr offsetBytes count =>
      let loaded := s.imLoadImmediate bufferAddr offsetBytes count
      (loaded.followingPipeline.stride ≠ s.followingPipeline.stride →
        ∀ cmd ∈ s.draws, FitsLayout loaded.followingPipeline.stride cmd) ∧
      (s.phase ≠ .idle → loaded.plannedPipeline.stride ≠ s.plannedPipeline.stride →
        ∀ cmd ∈ s.lastDrawCommands, FitsLayout loaded.plannedPipeline.stride cmd)
  | .drawIndx2 bufferAddr offsetBytes count =>
      ∀ cmd, recordedDraw env s.machine bufferAddr offsetBytes count = some cmd →
        cmd.indexData = [] →
          s.followingPipeline.stride ≤
            recordStride s.machine.shaderTranslationCache.vertexResult
  | _ => True

theorem mem_draws {cmd : DrawCommand} :
    cmd ∈ s.draws ↔ cmd ∈ s.lastDrawCommands ∨ cmd ∈ s.machine.frameDrawList.pending :=
  List.mem_append

namespace LayoutInvariant

/-- A step after which the ticks use what they would have used, and shows no new draw. -/
theorem of_fewer (invariant : s.LayoutInvariant)
    (following : after.followingPipeline = s.followingPipeline)
    (planned : after.phase ≠ .idle → after.plannedPipeline = s.plannedPipeline)
    (started : after.phase ≠ .idle → s.phase ≠ .idle)
    (last : after.lastDrawCommands = s.lastDrawCommands)
    (pending : ∀ cmd ∈ after.machine.frameDrawList.pending,
      cmd ∈ s.machine.frameDrawList.pending) :
    after.LayoutInvariant := by
  constructor
  · intro cmd member
    rw [following]
    refine invariant.following cmd (mem_draws.mpr ?_)
    rw [mem_draws, last] at member
    exact member.imp_right (pending cmd)
  · intro running cmd member
    rw [planned running]
    rw [last] at member
    exact invariant.planned (started running) cmd member

theorem imLoadImmediate (invariant : s.LayoutInvariant) {bufferAddr offsetBytes count : Word}
    (keeps : s.KeepsLayouts env (.imLoadImmediate bufferAddr offsetBytes count)) :
    (s.imLoadImmediate bufferAddr offsetBytes count).LayoutInvariant := by
  constructor
  · intro cmd member
    by_cases same : (s.imLoadImmediate bufferAddr offsetBytes count).followingPipeline.stride =
        s.followingPipeline.stride
    · rw [same]
      exact invariant.following cmd member
    · exact keeps.1 same cmd member
  · intro running cmd member
    by_cases same : (s.imLoadImmediate bufferAddr offsetBytes count).plannedPipeline.stride =
        s.plannedPipeline.stride
    · rw [same]
      exact invariant.planned running cmd member
    · exact keeps.2 running same cmd member

theorem drawIndx2 (invariant : s.LayoutInvariant) {bufferAddr offsetBytes count : Word}
    (keeps : s.KeepsLayouts env (.drawIndx2 bufferAddr offsetBytes count)) :
    LayoutInvariant
      { s with machine := Gpu.drawIndx2 env s.machine bufferAddr offsetBytes count } := by
  have following : followingPipeline
      { s with machine := Gpu.drawIndx2 env s.machine bufferAddr offsetBytes count } =
      s.followingPipeline := by
    simp [followingPipeline, plannedPipeline]
  have planned : plannedPipeline
      { s with machine := Gpu.drawIndx2 env s.machine bufferAddr offsetBytes count } =
      s.plannedPipeline := by
    simp [plannedPipeline]
  constructor
  · intro cmd member
    rw [following]
    rw [mem_draws, drawIndx2_frameDrawList] at member
    cases recorded : recordedDraw env s.machine bufferAddr offsetBytes count with
    | none =>
        rw [recorded] at member
        exact invariant.following cmd (mem_draws.mpr member)
    | some new =>
        rw [recorded] at member
        rcases member with shown | pending
        · exact invariant.following cmd (mem_draws.mpr (Or.inl shown))
        · rcases FrameDrawList.mem_pending_addDrawCommand pending with before | rfl
          · exact invariant.following cmd (mem_draws.mpr (Or.inr before))
          · intro unindexed
            have sized := buildDrawCommand_sized recorded
            exact FitsLayout.of_le sized (keeps cmd recorded unindexed) unindexed
  · intro running cmd member
    rw [planned]
    exact invariant.planned running cmd member

/-- A new tick will use what the last state promised for it. -/
theorem takeReady (invariant : s.LayoutInvariant) (idle : s.phase = .idle) :
    s.takeReady.LayoutInvariant := by
  have planned : s.takeReady.plannedPipeline = s.followingPipeline := by
    simp [followingPipeline, plannedPipeline, HostState.takeReady, idle]
  have following : s.takeReady.followingPipeline = s.followingPipeline := by
    rw [followingPipeline, planned]
    exact tryUpdateRealPipeline_idem ..
  have shown : ∀ cmd ∈ s.takeReady.lastDrawCommands, cmd ∈ s.draws := by
    intro cmd member
    simp only [HostState.takeReady] at member
    split_ifs at member
    · exact mem_draws.mpr (Or.inl member)
    · exact mem_draws.mpr (Or.inr (FrameDrawList.mem_pending_of_mem_taken member))
  constructor
  · intro cmd member
    rw [following]
    rcases mem_draws.mp member with last | pending
    · exact invariant.following cmd (shown cmd last)
    · exact invariant.following cmd
        (mem_draws.mpr (Or.inr (FrameDrawList.mem_pending_takeReady pending)))
  · intro _ cmd member
    rw [planned]
    exact invariant.following cmd (shown cmd member)

theorem step (invariant : s.LayoutInvariant) (step : HostStep env s label after)
    (keeps : s.KeepsLayouts env label) : after.LayoutInvariant := by
  cases step with
  | imLoadImmediate bufferAddr offsetBytes count => exact invariant.imLoadImmediate keeps
  | drawIndx2 bufferAddr offsetBytes count => exact invariant.drawIndx2 keeps
  | swapReady =>
      exact invariant.of_fewer rfl (fun _ => rfl) id rfl
        (fun _ => FrameDrawList.mem_pending_swapReady)
  | @elsewhere machine cache list =>
      refine invariant.of_fewer ?_ (fun _ => ?_) id rfl ?_
      · simp [followingPipeline, plannedPipeline, cache]
      · simp [plannedPipeline, cache]
      · intro cmd member
        rwa [list] at member
  | takeReady idle => exact invariant.takeReady idle
  | readVertexHash phase =>
      refine invariant.of_fewer ?_ (fun _ => ?_) (by simp [phase]) rfl (fun _ => id)
      · simp [followingPipeline, plannedPipeline, phase]
      · simp [plannedPipeline, phase]
  | readPixelHash phase =>
      refine invariant.of_fewer ?_ (fun _ => ?_) (by simp [phase]) rfl (fun _ => id)
      · simp [followingPipeline, plannedPipeline, phase]
      · simp [plannedPipeline, phase]
  | readVertexShader phase =>
      refine invariant.of_fewer ?_ (fun _ => ?_) (by simp [phase]) rfl (fun _ => id)
      · simp [followingPipeline, plannedPipeline, phase]
      · simp [plannedPipeline, phase]
  | updatePipeline phase =>
      refine invariant.of_fewer ?_ (fun _ => ?_) (by simp [phase]) rfl (fun _ => id)
      · simp [followingPipeline, plannedPipeline, phase]
      · simp [plannedPipeline, phase]
  | issueDraws phase =>
      refine invariant.of_fewer ?_ (fun running => absurd rfl running) (by simp) rfl
        (fun _ => id)
      simp [followingPipeline, plannedPipeline, phase]

theorem of_isInitial (initial : s.IsInitial) : s.LayoutInvariant := by
  obtain ⟨list, -, last, -, phase⟩ := initial
  refine ⟨?_, fun running => absurd phase running⟩
  intro cmd member
  rw [mem_draws, last, list] at member
  simp [FrameDrawList.pending, FrameDrawList.empty] at member

theorem issuesFittingDraws (invariant : s.LayoutInvariant) : s.IssuesFittingDraws := by
  intro issuing cmd member _
  have fits := invariant.planned (by simp [issuing]) cmd member
  simpa [plannedPipeline, issuing] using fits

end LayoutInvariant

end HostState

open HostState

/-- A tick that nothing interrupts, up to the point where it issues its draws. -/
def issueNext (s : HostState Guest) : HostState Guest :=
  let cache := s.machine.shaderTranslationCache
  { s.takeReady with
    pipeline := tryUpdateRealPipeline cache.vertexHash cache.pixelHash cache.vertexResult
      cache.pixelResult s.pipeline
    phase := .issuing }

theorem issueNext_run (idle : s.phase = .idle) :
    ((hostSystem env).restrict (KeepsLayouts env)).Run s
      [.takeReady, .readVertexHash, .readPixelHash, .readVertexShader, .updatePipeline]
      (issueNext s) :=
  .head ⟨.takeReady idle, trivial⟩ <|
    .head ⟨.readVertexHash rfl, trivial⟩ <|
      .head ⟨.readPixelHash rfl, trivial⟩ <|
        .head ⟨.readVertexShader rfl, trivial⟩ <| .single ⟨.updatePipeline rfl, trivial⟩

/-- Words from address 0 on, most significant byte first. -/
def memoryOfWords (words : List Word) : Memory := fun position =>
  (words.getD (position / 4) 0).extractLsb' (24 - 8 * (position % 4)) 8

/-- A fetch with a stride of 28 bytes, and an export of the position. -/
def wideVertexMicrocode : List Word :=
  [0x00012001, 0x2000, 0, 0x1000, 0x390A88, 7, 0xF803E, 0, 0xC2010100]

def passthroughPixelMicrocode : List Word :=
  [0x1001, 0x2000, 0, 0xF8000, 0, 0xC2000000]

/-- Packets that load the two shaders and draw three vertices from a buffer of 36 bytes. -/
def oneDraw : HostState Unit where
  machine :=
    { Machine.initial (memoryOfWords ([0, 0, 9] ++ wideVertexMicrocode ++ [0, 1, 6] ++
        passthroughPixelMicrocode ++ [0, 0x00030084])) () with
      gpuState := GpuRegisterState.initial.writeRegister 0x4801 0x24 }
  lastDrawCommands := []
  pipeline := .placeholder
  phase := .idle

def loadShaders (s : HostState Unit) : HostState Unit :=
  (s.imLoadImmediate 0 0 11).imLoadImmediate 0 48 8

def drawAndSwap (s : HostState Unit) : HostState Unit :=
  let drawn := Gpu.drawIndx2 .idle s.machine 0 84 1
  { s with machine := { drawn with frameDrawList := drawn.frameDrawList.swapReady } }

section Restricted

variable (allowed : HostState Unit → HostLabel → Prop) (s : HostState Unit)

theorem drawAndSwap_run (draw : allowed s (.drawIndx2 0 84 1))
    (swap : ∀ drawn, allowed drawn .swapReady) :
    ((hostSystem .idle).restrict allowed).Run s [.drawIndx2 0 84 1, .swapReady]
      (drawAndSwap s) :=
  .head ⟨.drawIndx2 0 84 1, draw⟩ (.single ⟨.swapReady, swap _⟩)

theorem loadShaders_run (vertex : allowed s (.imLoadImmediate 0 0 11))
    (pixel : allowed (s.imLoadImmediate 0 0 11) (.imLoadImmediate 0 48 8)) :
    ((hostSystem .idle).restrict allowed).Run s
      [.imLoadImmediate 0 0 11, .imLoadImmediate 0 48 8] (loadShaders s) :=
  .head ⟨.imLoadImmediate 0 0 11, vertex⟩ (.single ⟨.imLoadImmediate 0 48 8, pixel⟩)

end Restricted

/-- Loads are free as long as there are no draws. -/
theorem keepsLayouts_of_noDraws {s : HostState Unit} (none : s.draws = [])
    (idle : s.phase = .idle) (bufferAddr offsetBytes count : Word) :
    s.KeepsLayouts .idle (.imLoadImmediate bufferAddr offsetBytes count) := by
  refine ⟨?_, fun running => absurd idle running⟩
  intro _ cmd member
  rw [none] at member
  cases member

theorem oneDraw_isInitial : oneDraw.IsInitial := ⟨rfl, rfl, rfl, rfl, rfl⟩

/-- As long as loads and draws keep to the strides that the ticks will use, every draw
without indices is issued inside its vertex data. -/
theorem hostSystem_issuesFittingDraws (env : Env Guest) :
    ∀ s, ((hostSystem env).restrict (KeepsLayouts env)).Reachable s →
      s.IssuesFittingDraws := by
  intro s reachable
  have invariant : s.LayoutInvariant := by
    apply reachable.invariant LayoutInvariant
    · intro start initial
      exact .of_isInitial initial
    · intro before label after holds step
      exact holds.step step.1 step.2
  exact invariant.issuesFittingDraws

/-- With the shaders loaded first, the buffer holds one vertex, and one is drawn. -/
theorem hostSystem_issuesFittingDraws_shadersFirst :
    (issueNext (drawAndSwap (loadShaders oneDraw))).IssuesFittingDraws ∧
      (issueNext (drawAndSwap (loadShaders oneDraw))).lastDrawCommands =
        [⟨.triangle, List.replicate 36 0, 1, [], 0, false⟩] := by
  have loading := loadShaders_run (KeepsLayouts .idle) oneDraw
    (keepsLayouts_of_noDraws rfl rfl ..) (keepsLayouts_of_noDraws rfl rfl ..)
  have drawing := drawAndSwap_run (KeepsLayouts .idle) (loadShaders oneDraw)
    (fun cmd _ _ => by decide +kernel) (fun _ => trivial)
  refine ⟨hostSystem_issuesFittingDraws .idle _ ⟨_, oneDraw, oneDraw_isInitial,
    (loading.trans drawing).trans (issueNext_run rfl)⟩, ?_⟩
  decide +kernel

/-- Drawn first, the three vertices of 12 bytes are issued with a stride of 28. -/
theorem staleDraw_doesNotFit :
    ¬ ∀ s : HostState Unit, (hostSystem .idle).Reachable s → s.IssuesFittingDraws := by
  intro always
  have drawing := drawAndSwap_run (fun _ _ => True) oneDraw trivial (fun _ => trivial)
  have loading := loadShaders_run (fun _ _ => True) (drawAndSwap oneDraw) trivial trivial
  have run := (drawing.trans loading).of_restrict.trans (issueNext_run rfl).of_restrict
  have fits := always _ ⟨_, oneDraw, oneDraw_isInitial, run⟩ rfl
    ⟨.triangle, List.replicate 36 0, 3, [], 0, false⟩ (by decide +kernel) (by simp) rfl
  have stride : (issueNext (loadShaders (drawAndSwap oneDraw))).pipeline.stride = 28 := by
    decide +kernel
  rw [stride] at fits
  exact absurd fits (by decide)

end BumpinHost.Renderer
