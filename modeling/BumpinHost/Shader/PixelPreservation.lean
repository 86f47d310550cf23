import BumpinHost.Shader.Preservation

/-!
# When a translated pixel shader computes what its microcode computes

The generated fragment function returns interpolator 0, whatever the microcode
exports.  An accepted pixel shader changes no register but through fetches and moves
to register 0, so a component of interpolator 0 that is overwritten is never found
again.  The two agree exactly on the components whose last export takes register 0
while it still holds them.
-/

namespace BumpinHost.Shader

/-- The instructions an accepted pixel shader is made of: a fetch that replaces every
component of its register, and a move to register 0. -/
def VertexInstruction.PixelForm : VertexInstruction → Prop
  | .fetch _ _ destSwizzle => ∀ component : Fin 4,
      (getFetchSwizzleComponent destSwizzle component).toNat < 6
  | .move _ vectorDest _ _ => vectorDest = 0

/-- The translator's state agrees with the instructions decoded from the slots it
has visited, and each of them was accepted. -/
structure TracksPixel (st : TranslateState) (decoded : DecodedProgram) : Prop where
  lastFullFetch : decoded.lastFullFetch =
    if st.sawFullFetch then some st.lastFullFetchConstantIndex else none
  pixelForm : ∀ instruction ∈ decoded.instructions, instruction.PixelForm

theorem TracksPixel.initial : TracksPixel .initial .initial := by
  constructor
  · rfl
  · intro instruction listed
    cases listed

/-- One more accepted instruction. -/
theorem pixelForm_concat {program : List VertexInstruction}
    (pixelForm : ∀ instruction ∈ program, instruction.PixelForm)
    {next : VertexInstruction} (accepted : next.PixelForm) :
    ∀ instruction ∈ program ++ [next], instruction.PixelForm := by
  intro instruction listed
  rcases List.mem_append.mp listed with earlier | new
  · exact pixelForm instruction earlier
  · rw [List.mem_singleton.mp new]
    exact accepted

/-- A supported swizzle names a component or a constant, never the current value. -/
theorem fetchSwizzleSupported_lt {format : TranslatedVertexFormat} {destSwizzle : Word}
    (supported : (List.range 4).all (fetchSwizzleSupported format destSwizzle) = true)
    (component : Fin 4) : (getFetchSwizzleComponent destSwizzle component).toNat < 6 := by
  have accepted := List.all_eq_true.mp supported component
    (List.mem_range.mpr component.isLt)
  simp only [fetchSwizzleSupported, Bool.or_eq_true, Bool.and_eq_true, beq_iff_eq] at accepted
  have small : (BitVec.ofNat 32 (component : Nat)).toNat < 4 := by
    rw [BitVec.toNat_ofNat]
    have := component.isLt
    omega
  rcases accepted with identity | ⟨-, zero | one⟩
  · rw [identity]
    omega
  · rw [zero]
    decide
  · rw [one]
    decide

theorem translateFetch_tracksPixel {st st' : TranslateState} {decoded : DecodedProgram}
    {slot : ExecSlot} (tracks : TracksPixel st decoded)
    (translated : translateFetch st slot.iw0 slot.iw1 slot.iw2 = .ok st') :
    ∃ decoded', decodeFetchSlot decoded slot = some decoded' ∧ TracksPixel st' decoded' := by
  obtain ⟨fetchConstant, format, decodes, swizzle, last, -⟩ :=
    translateFetch_decodes tracks.lastFullFetch translated
  refine ⟨_, decodes, ?_, ?_⟩
  · simp [last.1, last.2]
  · exact pixelForm_concat tracks.pixelForm (fetchSwizzleSupported_lt swizzle)

theorem translateAlu_tracksPixel {st st' : TranslateState} {decoded : DecodedProgram}
    {slot : ExecSlot} (tracks : TracksPixel st decoded)
    (translated : translateAlu 1 st slot.iw0 slot.iw1 slot.iw2 = .ok st') :
    ∃ decoded', decodeAluSlot decoded slot = some decoded' ∧ TracksPixel st' decoded' := by
  have decodes := translateAlu_decodes translated decoded
  dsimp only at decodes
  obtain ⟨-, ⟨filler, rfl⟩ | ⟨masked, -, -, -, -, pixel, recorded⟩⟩ :=
    translateAlu_cases translated
  · rw [if_pos filler] at decodes
    exact ⟨decoded, decodes, tracks⟩
  · rw [if_neg masked] at decodes
    obtain rfl := recorded
    refine ⟨_, decodes, tracks.lastFullFetch, ?_⟩
    exact pixelForm_concat tracks.pixelForm (pixel (by decide))

theorem translateSlot_tracksPixel (dwords : List Word) (dwordCount : Word)
    (cf : ControlFlowInstruction) :
    Simulates TracksPixel (translateSlot dwords dwordCount 1 cf)
      (fun decoded j => decodeSlot decoded (execSlot dwords cf j)) := by
  intro st decoded j st' tracks translated
  dsimp only
  rw [decodeSlot]
  obtain ⟨-, ⟨fetch, accepted⟩ | ⟨alu, accepted⟩⟩ := translateSlot_cases translated
  · rw [if_pos fetch]
    exact translateFetch_tracksPixel tracks accepted
  · rw [if_neg (Bool.eq_false_iff.mp alu)]
    exact translateAlu_tracksPixel tracks accepted

/-- A successful pixel translation has the fixed text. -/
theorem translateShader_pixelSource {dwords : List Word} {dwordCount : Word}
    (success : (translateShader dwords dwordCount 1).success = true) :
    (translateShader dwords dwordCount 1).fragmentShaderSource = fragmentShaderSource := by
  unfold translateShader at success ⊢
  cases walked : translateWalk dwords dwordCount 1 (dwordCount.toNat / 3) 0
      (dwordCount / 3 * 3) .initial with
  | error reason =>
      rw [walked] at success
      cases success
  | ok st =>
      rw [walked] at success
      dsimp only at success ⊢
      rw [if_neg (by decide)] at success ⊢
      split at success
      · cases success
      · split at success
        · cases success
        · rename_i source
          rw [if_neg source]

/-- The microcode of a successful pixel translation is made of accepted
instructions. -/
theorem translateShader_pixelProgram {dwords : List Word} {dwordCount : Word}
    (success : (translateShader dwords dwordCount 1).success = true) :
    ∃ program, vertexProgram dwords dwordCount = some program ∧
      ∀ instruction ∈ program, instruction.PixelForm := by
  obtain ⟨st, walked, -⟩ := translateShader_walked success
  obtain ⟨slots, decoded, listed, folded, tracks⟩ := translateWalk_simulates
    (translateSlot_tracksPixel dwords dwordCount) _ TracksPixel.initial walked
  refine ⟨decoded.instructions, ?_, tracks.pixelForm⟩
  simp only [vertexProgram, listed, folded, bind, Option.bind_some]
  rfl

/-- The registers of a pixel shader at its start: interpolator 0 is in register 0. -/
def preloaded (interpolator0 : Fin 4 → Word) (temps : Word → Fin 4 → Word) :
    Word → Fin 4 → Word :=
  Function.update temps 0 interpolator0

/-- What the generated `fragment_main` returns. -/
def runFragmentMain (interpolator0 : Fin 4 → Word) : Fin 4 → Word :=
  interpolator0

/-- On every input the microcode leaves in color 0 what the generated text returns. -/
def PixelPreservesMeaning (dwords : List Word) (dwordCount : Word) : Prop :=
  (translateShader dwords dwordCount 1).fragmentShaderSource = fragmentShaderSource ∧
  ∃ program, vertexProgram dwords dwordCount = some program ∧
    ∀ (element : VertexElement → Fin 4 → Word) (temps : Word → Fin 4 → Word)
      (interpolator0 : Fin 4 → Word) (component : Fin 4),
      (runProgram (shaderInputs element) (preloaded interpolator0 temps) program).exports 0
        component = some (runFragmentMain interpolator0 component)

/-- The instruction writes the component of register 0 with something else. -/
def VertexInstruction.Overwrites (component : Fin 4) : VertexInstruction → Prop
  | .fetch _ destReg _ => destReg = 0
  | .move exportData _ vectorWriteMask source =>
      exportData = false ∧ writesComponent vectorWriteMask component = true ∧ source ≠ 0

/-- The instruction writes the component of color 0. -/
def VertexInstruction.Exports (component : Fin 4) : VertexInstruction → Prop
  | .fetch _ _ _ => False
  | .move exportData _ vectorWriteMask _ =>
      exportData = true ∧ writesComponent vectorWriteMask component = true

instance (component : Fin 4) : DecidablePred (VertexInstruction.Overwrites component) := by
  intro instruction
  cases instruction <;> unfold VertexInstruction.Overwrites <;> infer_instance

instance (component : Fin 4) : DecidablePred (VertexInstruction.Exports component) := by
  intro instruction
  cases instruction <;> unfold VertexInstruction.Exports <;> infer_instance

/-- The last export of the component takes it from register 0, and nothing before has
overwritten it there. -/
def ExportsInterpolator (component : Fin 4) (program : List VertexInstruction) : Prop :=
  ∃ before vectorDest vectorWriteMask after,
    program = before ++ .move true vectorDest vectorWriteMask 0 :: after ∧
    writesComponent vectorWriteMask component = true ∧
    (∀ instruction ∈ before, ¬ instruction.Overwrites component) ∧
    ∀ instruction ∈ after, ¬ instruction.Exports component

theorem exportsInterpolator_nil (component : Fin 4) :
    ¬ ExportsInterpolator component [] := by
  rintro ⟨before, vectorDest, mask, after, split, -⟩
  exact List.append_ne_nil_of_right_ne_nil before (List.cons_ne_nil _ after) split.symm

/-- An instruction that does not export the component leaves its last export as it
was. -/
theorem exportsInterpolator_concat {component : Fin 4} {program : List VertexInstruction}
    {next : VertexInstruction} (silent : ¬ next.Exports component) :
    ExportsInterpolator component (program ++ [next]) ↔
      ExportsInterpolator component program := by
  constructor
  · rintro ⟨before, vectorDest, mask, after, split, writes, kept, last⟩
    rcases List.eq_nil_or_concat after with rfl | ⟨after, final, rfl⟩
    · obtain ⟨-, rfl⟩ := List.append_inj' split rfl |>.imp_right List.singleton_inj.mp
      exact absurd ⟨rfl, writes⟩ silent
    · rw [List.concat_eq_append, ← List.cons_append, ← List.append_assoc] at split
      obtain ⟨rfl, -⟩ := List.append_inj' split rfl
      refine ⟨before, vectorDest, mask, after, rfl, writes, kept, ?_⟩
      intro instruction listed
      exact last instruction (by simp [listed])
  · rintro ⟨before, vectorDest, mask, after, rfl, writes, kept, last⟩
    refine ⟨before, vectorDest, mask, after ++ [next], by simp, writes, kept, ?_⟩
    intro instruction listed
    rcases List.mem_append.mp listed with earlier | new
    · exact last instruction earlier
    · rw [List.mem_singleton.mp new]
      exact silent

/-- A new export of the component decides it. -/
theorem exportsInterpolator_export {component : Fin 4} {program : List VertexInstruction}
    {vectorDest vectorWriteMask source : Word}
    (writes : writesComponent vectorWriteMask component = true) :
    ExportsInterpolator component
        (program ++ [.move true vectorDest vectorWriteMask source]) ↔
      source = 0 ∧ ∀ instruction ∈ program, ¬ instruction.Overwrites component := by
  constructor
  · rintro ⟨before, dest, mask, after, split, -, kept, last⟩
    rcases List.eq_nil_or_concat after with rfl | ⟨after, final, rfl⟩
    · obtain ⟨rfl, same⟩ := List.append_inj' split rfl
      injection List.singleton_inj.mp same with _ _ _ source
      exact ⟨source, kept⟩
    · rw [List.concat_eq_append, ← List.cons_append, ← List.append_assoc] at split
      obtain ⟨-, same⟩ := List.append_inj' split rfl
      have silent := last final (by simp)
      rw [← List.singleton_inj.mp same] at silent
      exact absurd ⟨rfl, writes⟩ silent
  · rintro ⟨rfl, kept⟩
    exact ⟨program, vectorDest, vectorWriteMask, [], rfl, writes, kept, by simp⟩

theorem origins_concat (program : List VertexInstruction) (next : VertexInstruction) :
    origins (program ++ [next]) = executeInstruction originInputs (origins program) next := by
  unfold origins runProgram
  rw [List.foldl_concat]

/-- A fetch of an accepted form leaves none of the registers' initial contents. -/
theorem fetchedComponent_ne_initial {destSwizzle : Word} {component : Fin 4}
    (replaces : (getFetchSwizzleComponent destSwizzle component).toNat < 6)
    (element : VertexElement) (current : Fin 4 → Origin) (register : Word) (c : Fin 4) :
    fetchedComponent originInputs element destSwizzle current component ≠
      .initial register c := by
  unfold fetchedComponent originInputs
  split
  case h_7 keeps _ _ _ _ _ _ =>
      generalize (getFetchSwizzleComponent destSwizzle component).toNat = selected at *
      grind
  all_goals simp

theorem fetch_temps (state : MicroState Origin) (element : VertexElement)
    (destReg destSwizzle register : Word) (component : Fin 4) :
    (executeInstruction originInputs state (.fetch element destReg destSwizzle)).temps
        register component =
      if register = destReg then
        fetchedComponent originInputs element destSwizzle (state.temps destReg) component
      else state.temps register component := by
  simp only [executeInstruction, Function.update_apply]
  split <;> rfl

theorem move_temps (state : MicroState Origin) (exportData : Bool)
    (vectorDest vectorWriteMask source register : Word) (component : Fin 4) :
    (executeInstruction originInputs state
        (.move exportData vectorDest vectorWriteMask source)).temps register component =
      if exportData = false ∧ register = vectorDest ∧
          writesComponent vectorWriteMask component = true then
        state.temps source component
      else state.temps register component := by
  cases exportData with
  | true => simp [executeInstruction]
  | false =>
      simp only [executeInstruction, Function.update_apply]
      by_cases here : register = vectorDest <;> simp [here]

theorem move_exports (state : MicroState Origin) (exportData : Bool)
    (vectorDest vectorWriteMask source register : Word) (component : Fin 4) :
    (executeInstruction originInputs state
        (.move exportData vectorDest vectorWriteMask source)).exports register component =
      if exportData = true ∧ register = vectorDest ∧
          writesComponent vectorWriteMask component = true then
        some (state.temps source component)
      else state.exports register component := by
  cases exportData with
  | false => simp [executeInstruction]
  | true =>
      simp only [executeInstruction, Function.update_apply]
      by_cases here : register = vectorDest <;> simp [here]

/-- Interpolator 0 is in no register but 0. -/
def OnlyInZero (state : MicroState Origin) (component : Fin 4) : Prop :=
  ∀ register, register ≠ 0 → state.temps register component ≠ .initial 0 component

theorem OnlyInZero.executeInstruction {state : MicroState Origin} {component : Fin 4}
    (only : OnlyInZero state component) {next : VertexInstruction}
    (accepted : next.PixelForm) :
    OnlyInZero (executeInstruction originInputs state next) component := by
  intro register other
  cases next with
  | fetch element destReg destSwizzle =>
      rw [fetch_temps]
      split
      · exact fetchedComponent_ne_initial (accepted component) element _ 0 component
      · exact only register other
  | move exportData vectorDest vectorWriteMask source =>
      obtain rfl : vectorDest = 0 := accepted
      rw [move_temps, if_neg (fun written => other written.2.1)]
      exact only register other

/-- Once register 0 has lost a component of interpolator 0, it does not get it
back. -/
theorem OnlyInZero.temps_zero {state : MicroState Origin} {component : Fin 4}
    (only : OnlyInZero state component) {next : VertexInstruction}
    (accepted : next.PixelForm) :
    (BumpinHost.Shader.executeInstruction originInputs state next).temps 0 component =
        .initial 0 component ↔
      state.temps 0 component = .initial 0 component ∧ ¬ next.Overwrites component := by
  cases next with
  | fetch element destReg destSwizzle =>
      have replaced := fetchedComponent_ne_initial (accepted component) element
        (state.temps destReg) 0 component
      rw [fetch_temps]
      by_cases here : destReg = 0
      · rw [if_pos here.symm]
        exact iff_of_false replaced fun both => both.2 here
      · rw [if_neg (Ne.symm here)]
        exact ⟨fun held => ⟨held, here⟩, And.left⟩
  | move exportData vectorDest vectorWriteMask source =>
      obtain rfl : vectorDest = 0 := accepted
      rw [move_temps]
      by_cases written : exportData = false ∧ (0 : Word) = 0 ∧
          writesComponent vectorWriteMask component = true
      · rw [if_pos written]
        by_cases self : source = 0
        · subst self
          exact ⟨fun held => ⟨held, fun overwrites => overwrites.2.2 rfl⟩, And.left⟩
        · exact iff_of_false (only source self) fun both =>
            both.2 ⟨written.1, written.2.2, self⟩
      · rw [if_neg written]
        refine ⟨fun held => ⟨held, ?_⟩, And.left⟩
        rintro ⟨plain, writes, -⟩
        exact written ⟨plain, rfl, writes⟩

/-- Register 0 holds a component of interpolator 0 until something else is written
there.  The induction adds instructions at the end. -/
theorem origins_temps {program : List VertexInstruction}
    (pixelForm : ∀ instruction ∈ program, instruction.PixelForm) (component : Fin 4) :
    OnlyInZero (origins program) component ∧
      ((origins program).temps 0 component = .initial 0 component ↔
        ∀ instruction ∈ program, ¬ instruction.Overwrites component) := by
  induction program using List.reverseRecOn with
  | nil =>
      constructor
      · intro register other same
        injection same with here _
        exact other here
      · exact ⟨fun _ instruction listed => absurd listed List.not_mem_nil, fun _ => rfl⟩
  | append_singleton program next ih =>
      obtain ⟨only, zero⟩ := ih fun instruction listed =>
        pixelForm instruction (List.mem_append_left _ listed)
      have accepted := pixelForm next (List.mem_append_right _ (List.mem_singleton_self _))
      rw [origins_concat]
      refine ⟨only.executeInstruction accepted, ?_⟩
      rw [only.temps_zero accepted, zero]
      simp [or_imp, forall_and]

/-- Color 0 ends with a component of interpolator 0 exactly under the condition. -/
theorem origins_exports {program : List VertexInstruction}
    (pixelForm : ∀ instruction ∈ program, instruction.PixelForm) (component : Fin 4) :
    (origins program).exports 0 component = some (.initial 0 component) ↔
      ExportsInterpolator component program := by
  induction program using List.reverseRecOn with
  | nil => exact iff_of_false (Option.some_ne_none _).symm (exportsInterpolator_nil component)
  | append_singleton program next ih =>
      have earlier := fun instruction (listed : instruction ∈ program) =>
        pixelForm instruction (List.mem_append_left _ listed)
      have accepted := pixelForm next (List.mem_append_right _ (List.mem_singleton_self _))
      obtain ⟨only, zero⟩ := origins_temps earlier component
      rw [origins_concat]
      cases next with
      | fetch element destReg destSwizzle =>
          rw [exportsInterpolator_concat (by exact id)]
          exact ih earlier
      | move exportData vectorDest vectorWriteMask source =>
          obtain rfl : vectorDest = 0 := accepted
          rw [move_exports]
          by_cases exported : exportData = true ∧ (0 : Word) = 0 ∧
              writesComponent vectorWriteMask component = true
          · obtain ⟨rfl, -, writes⟩ := exported
            rw [if_pos ⟨rfl, rfl, writes⟩, exportsInterpolator_export writes, ← zero,
              Option.some_inj]
            by_cases self : source = 0
            · subst self
              exact ⟨fun held => ⟨rfl, held⟩, And.right⟩
            · exact iff_of_false (only source self) fun both => self both.1
          · rw [if_neg exported, exportsInterpolator_concat, ih earlier]
            rintro ⟨toExport, writes⟩
            exact exported ⟨toExport, rfl, writes⟩

/-- A successful pixel translation preserves the microcode's meaning exactly when the
last export of each component takes it from register 0, not overwritten before. -/
theorem translateShader_pixelPreservesMeaning_iff (dwords : List Word) (dwordCount : Word)
    (success : (translateShader dwords dwordCount 1).success = true) :
    PixelPreservesMeaning dwords dwordCount ↔
      ∃ program, vertexProgram dwords dwordCount = some program ∧
        ∀ component, ExportsInterpolator component program := by
  obtain ⟨program, decodes, pixelForm⟩ := translateShader_pixelProgram success
  unfold PixelPreservesMeaning
  rw [decodes]
  simp only [Option.some_inj, exists_eq_left', runProgram_exports]
  constructor
  · rintro ⟨-, preserves⟩ component
    rw [← origins_exports pixelForm]
    obtain ⟨origin, exported, -⟩ := Option.map_eq_some_iff.mp
      (preserves (fun _ _ => 0) (fun _ _ => 0) (fun _ => 0) component)
    rw [exported, Option.some_inj]
    apply Origin.eq_of_value_eq
    intro element temps
    have value := preserves element temps (temps 0) component
    have whole : preloaded (temps 0) temps = temps := Function.update_eq_self 0 temps
    rw [whole, exported, Option.map_some, Option.some_inj] at value
    exact value
  · intro exports
    refine ⟨translateShader_pixelSource success, ?_⟩
    intro element temps interpolator0 component
    rw [(origins_exports pixelForm component).mpr (exports component), Option.map_some]
    simp [Origin.value, preloaded, runFragmentMain]

/-- Interpolator 0, exported whole. -/
def interpolatedColorMicrocode : List Word :=
  [0x1001, 0x2000, 0, 0xF8000, 0, 0xC2000000]

theorem translateShader_pixelPreservesMeaning_iff_interpolatedColor :
    (translateShader interpolatedColorMicrocode 6 1).success = true ∧
      PixelPreservesMeaning interpolatedColorMicrocode 6 := by
  have success : (translateShader interpolatedColorMicrocode 6 1).success = true := by
    decide +kernel
  refine ⟨success, ?_⟩
  apply (translateShader_pixelPreservesMeaning_iff interpolatedColorMicrocode 6 success).mpr
  refine ⟨[.move true 0 0xF 0], by decide +kernel, ?_⟩
  intro component
  refine ⟨[], 0, 0xF, [], rfl, ?_, by simp, by simp⟩
  revert component
  decide

/-- Interpolator 0 is exported, and then one component is replaced from register 1. -/
def replacedColorMicrocode : List Word :=
  [0x2001, 0x2000, 0, 0xF8000, 0, 0xC2000000, 0x18000, 0, 0xC2010100]

/-- Only the first export's source is checked. -/
theorem replacedColor_losesComponent :
    (translateShader replacedColorMicrocode 9 1).success = true ∧
      ¬ PixelPreservesMeaning replacedColorMicrocode 9 := by
  constructor
  · decide +kernel
  · rintro ⟨-, program, decodes, preserves⟩
    have decoded : vertexProgram replacedColorMicrocode 9 =
        some [.move true 0 0xF 0, .move true 0 0x1 1] := by
      decide +kernel
    rw [decoded, Option.some_inj] at decodes
    subst decodes
    have computed := preserves (fun _ _ => 0) (fun _ _ => 1) (fun _ => 0) 0
    revert computed
    decide +kernel

end BumpinHost.Shader
