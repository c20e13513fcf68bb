import Mathlib.Data.List.Nodup
import Aiphabee.AgentRuntime.RunSkeleton

/-!
# The steps of a tool loop

The tools of a run are sorted into phases: the security is resolved, the entitlements
are checked, data are fetched, evidence is bound, and an answer is prepared.  Only the
tools that fetch data are cut into steps of at most as many calls as may run at once;
each other phase is one step with all of its calls.

So the plan has every call of the request, in the order of the phases, and no step has
too many calls exactly when no tool of the other phases is asked for too often
(`createToolLoopSteps_correct_iff`).
-/

namespace Aiphabee.AgentPlanner

variable {locale : AgentResponseLocale}

inductive AgentToolLoopPhase
  | securityResolution
  | entitlementGate
  | dataFetch
  | evidenceBinding
  | answerContract
deriving DecidableEq

inductive AgentToolLoopStepKind
  | toolCalls
  | answerContract
deriving DecidableEq

abbrev AgentToolLoopToolCallPlan := AgentRunToolContext

structure AgentToolLoopStepPlan where
  index : Nat
  kind : AgentToolLoopStepKind
  phase : AgentToolLoopPhase
  publicLabel : String
  stepId : String
  toolCalls : List AgentToolLoopToolCallPlan

inductive AgentResponseLocale
  | en
  | zhHans
  | zhHant

inductive AgentToolLoopPublicLabelId
  | bindEvidence
  | budgetStop
  | checkEntitlements
  | fetchData
  | prepareAnswer
  | requestClarification
  | resolveContext
  | safeDegraded

def toolLoopPublicLabel :
    AgentResponseLocale → AgentToolLoopPublicLabelId → String
  | .zhHant, .bindEvidence => "綁定來源脈絡與證據"
  | .zhHant, .budgetStop => "返回預算停止回應"
  | .zhHant, .checkEntitlements => "檢查工作區權限範圍"
  | .zhHant, .fetchData => "取得唯讀工具資料"
  | .zhHant, .prepareAnswer => "準備已綁定證據的答案契約"
  | .zhHant, .requestClarification => "在調用工具前要求澄清"
  | .zhHant, .resolveContext => "解析證券與時間範圍"
  | .zhHant, .safeDegraded => "工具執行停用時返回安全降級回應"
  | .zhHans, .bindEvidence => "绑定来源脉络与证据"
  | .zhHans, .budgetStop => "返回预算停止响应"
  | .zhHans, .checkEntitlements => "检查工作区权限范围"
  | .zhHans, .fetchData => "获取只读工具数据"
  | .zhHans, .prepareAnswer => "准备已绑定证据的答案契约"
  | .zhHans, .requestClarification => "在调用工具前要求澄清"
  | .zhHans, .resolveContext => "解析证券与时间范围"
  | .zhHans, .safeDegraded => "工具执行停用时返回安全降级响应"
  | .en, .bindEvidence => "Bind source lineage and evidence"
  | .en, .budgetStop => "Return graceful budget stop response"
  | .en, .checkEntitlements => "Check workspace entitlement scope"
  | .en, .fetchData => "Fetch read-only tool data"
  | .en, .prepareAnswer => "Prepare evidence-bound answer contract"
  | .en, .requestClarification => "Request clarification before tool calls"
  | .en, .resolveContext => "Resolve security and time context"
  | .en, .safeDegraded => "Return safe degraded response while tool execution is disabled"

def createStep (index : Nat) (kind : AgentToolLoopStepKind) (phase : AgentToolLoopPhase)
    (label : String) (tools : List AgentRunToolContext) : AgentToolLoopStepPlan where
  index := index
  kind := kind
  phase := phase
  publicLabel := label
  stepId := "step_" ++ toString index
  toolCalls := tools

def pushToolStep (steps : List AgentToolLoopStepPlan) (phase : AgentToolLoopPhase) (label : String)
    (tools : List AgentRunToolContext) : List AgentToolLoopStepPlan :=
  if tools = [] then steps
  else steps ++ [createStep (steps.length + 1) .toolCalls phase label tools]

def chunksFrom {α : Type} (items : List α) (size index : Nat) : List (List α) :=
  if index < items.length ∧ 0 < size then
    (items.drop index).take size :: chunksFrom items size (index + size)
  else
    []
termination_by items.length - index

def chunkTools {α : Type} (items : List α) (size : Nat) : List (List α) :=
  chunksFrom items size 0

def phaseOf : RegisteredToolName → AgentToolLoopPhase
  | .resolveSecurity => .securityResolution
  | .getEntitlements => .entitlementGate
  | .getDataLineage => .evidenceBinding
  | _ => .dataFetch

def createToolLoopSteps (tools : List AgentRunToolContext) (locale : AgentResponseLocale) :
    List AgentToolLoopStepPlan :=
  let resolverTools := tools.filter fun tool => tool.name = .resolveSecurity
  let entitlementTools := tools.filter fun tool => tool.name = .getEntitlements
  let evidenceTools := tools.filter fun tool => tool.name = .getDataLineage
  let dataTools := tools.filter fun tool =>
    tool.name ≠ .resolveSecurity ∧ tool.name ≠ .getEntitlements ∧ tool.name ≠ .getDataLineage
  let steps := pushToolStep [] .securityResolution
    (toolLoopPublicLabel locale .resolveContext) resolverTools
  let steps := pushToolStep steps .entitlementGate
    (toolLoopPublicLabel locale .checkEntitlements) entitlementTools
  let steps := (chunkTools dataTools maxParallelTools).foldl
    (fun steps chunk =>
      pushToolStep steps .dataFetch (toolLoopPublicLabel locale .fetchData) chunk) steps
  let steps := pushToolStep steps .evidenceBinding
    (toolLoopPublicLabel locale .bindEvidence) evidenceTools
  steps ++ [createStep (steps.length + 1) .answerContract .answerContract
    (toolLoopPublicLabel locale .prepareAnswer) []]

section Chunks

variable {α : Type}

variable {size : Nat}

theorem flatten_chunksFrom (items : List α) (hsize : 0 < size) (index : Nat) :
    (chunksFrom items size index).flatten = items.drop index := by
  fun_induction chunksFrom items size index with
  | case1 index h ih =>
    rw [List.flatten_cons, ih, ← List.drop_drop, List.take_append_drop]
  | case2 index h =>
    rw [List.flatten_nil, List.drop_eq_nil_of_le]
    exact not_lt.mp fun hlt => h ⟨hlt, hsize⟩

/-- A slice has at most as many items as a slice may have, and at least one. -/
theorem length_of_mem_chunksFrom {items chunk : List α} {size index : Nat}
    (h : chunk ∈ chunksFrom items size index) : chunk ≠ [] ∧ chunk.length ≤ size := by
  fun_induction chunksFrom items size index with
  | case1 index hlt ih =>
    rcases List.mem_cons.mp h with rfl | hrest
    · have hlength : ((items.drop index).take size).length =
          min size (items.length - index) := by
        rw [List.length_take, List.length_drop]
      refine ⟨List.length_pos_iff.mp ?_, ?_⟩ <;> omega
    · exact ih hrest
  | case2 index hlt => cases h

theorem flatten_chunkTools (items : List α) (hsize : 0 < size) :
    (chunkTools items size).flatten = items := by
  rw [chunkTools, flatten_chunksFrom items hsize, List.drop_zero]

theorem length_of_mem_chunkTools {items chunk : List α} (h : chunk ∈ chunkTools items size) :
    chunk ≠ [] ∧ chunk.length ≤ size :=
  length_of_mem_chunksFrom h

end Chunks

structure StepBlock where
  kind : AgentToolLoopStepKind
  phase : AgentToolLoopPhase
  label : String
  tools : List AgentRunToolContext

variable (blocks : List StepBlock)

def numbered : List AgentToolLoopStepPlan :=
  blocks.mapIdx fun position block =>
    createStep (position + 1) block.kind block.phase block.label block.tools

@[simp] theorem length_numbered :
    (numbered blocks).length = blocks.length :=
  List.length_mapIdx

theorem numbered_concat (block : StepBlock) :
    numbered (blocks ++ [block]) = numbered blocks ++
      [createStep (blocks.length + 1) block.kind block.phase block.label block.tools] :=
  List.mapIdx_concat

structure Numbered (steps : List AgentToolLoopStepPlan) : Prop where
  indices : steps.map AgentToolLoopStepPlan.index = List.range' 1 steps.length
  ids : ∀ step ∈ steps, step.stepId = "step_" ++ toString step.index

theorem stepName_injective :
    Function.Injective fun index : Nat => "step_" ++ toString index := by
  intro left right h
  have hlist := congrArg String.toList h
  simp only [String.toList_append, List.append_right_inj] at hlist
  have hdigits : ∀ n : Nat, (toString n).toList = Nat.toDigits 10 n := by
    intro n
    simp [toString, Nat.repr]
  rw [hdigits, hdigits] at hlist
  have hvalue := congrArg (Nat.ofDigitChars 10 · 0) hlist
  simpa only [Nat.ofDigitChars_ten_toDigits] using hvalue

theorem Numbered.nodup_ids {steps : List AgentToolLoopStepPlan} (h : Numbered steps) :
    (steps.map AgentToolLoopStepPlan.stepId).Nodup := by
  have hids : steps.map AgentToolLoopStepPlan.stepId =
      (List.range' 1 steps.length).map fun index : Nat => "step_" ++ toString index := by
    rw [← h.indices, List.map_map]
    exact List.map_congr_left h.ids
  rw [hids]
  exact List.Nodup.map stepName_injective List.nodup_range'

theorem numbered_numbered :
    Numbered (numbered blocks) := by
  constructor
  · rw [length_numbered]
    refine List.ext_getElem (by simp) fun position hleft hright => ?_
    simp [numbered, createStep, Nat.add_comm]
  · intro step hstep
    obtain ⟨position, hposition, rfl⟩ := List.mem_mapIdx.mp hstep
    rfl

def toolBlock (phase : AgentToolLoopPhase) (label : String) (tools : List AgentRunToolContext) :
    List StepBlock :=
  if tools = [] then [] else [⟨.toolCalls, phase, label, tools⟩]

theorem pushToolStep_numbered (phase : AgentToolLoopPhase) (label : String)
    (tools : List AgentRunToolContext) :
    pushToolStep (numbered blocks) phase label tools =
      numbered (blocks ++ toolBlock phase label tools) := by
  rw [pushToolStep, toolBlock]
  split
  · rw [List.append_nil]
  · rw [numbered_concat, length_numbered]

theorem foldl_pushToolStep_numbered (phase : AgentToolLoopPhase) (label : String)
    (chunks : List (List AgentRunToolContext)) :
    chunks.foldl (fun steps chunk => pushToolStep steps phase label chunk) (numbered blocks) =
      numbered (blocks ++ chunks.flatMap (toolBlock phase label)) := by
  induction chunks generalizing blocks with
  | nil => simp
  | cons chunk rest ih =>
    rw [List.foldl_cons, pushToolStep_numbered, ih, List.flatMap_cons, List.append_assoc]

def toolsOf (tools : List AgentRunToolContext) (phase : AgentToolLoopPhase) :
    List AgentRunToolContext :=
  tools.filter fun tool => phaseOf tool.name = phase

def phaseBlocks (tools : List AgentRunToolContext) (locale : AgentResponseLocale)
    (phase : AgentToolLoopPhase) : List StepBlock :=
  match phase with
  | .securityResolution =>
    toolBlock phase (toolLoopPublicLabel locale .resolveContext) (toolsOf tools phase)
  | .entitlementGate =>
    toolBlock phase (toolLoopPublicLabel locale .checkEntitlements) (toolsOf tools phase)
  | .dataFetch =>
    (chunkTools (toolsOf tools phase) maxParallelTools).flatMap
      (toolBlock phase (toolLoopPublicLabel locale .fetchData))
  | .evidenceBinding =>
    toolBlock phase (toolLoopPublicLabel locale .bindEvidence) (toolsOf tools phase)
  | .answerContract =>
    [⟨.answerContract, phase, toolLoopPublicLabel locale .prepareAnswer, []⟩]

def loopPhases : List AgentToolLoopPhase :=
  [.securityResolution, .entitlementGate, .dataFetch, .evidenceBinding, .answerContract]

theorem createToolLoopSteps_eq (tools : List AgentRunToolContext) (locale : AgentResponseLocale) :
    createToolLoopSteps tools locale =
      numbered (loopPhases.flatMap (phaseBlocks tools locale)) := by
  have hphase : ∀ (name : RegisteredToolName) (phase : AgentToolLoopPhase),
      (∀ other, decide (other = name) = decide (phaseOf other = phase)) →
        (tools.filter fun tool => tool.name = name) = toolsOf tools phase := by
    intro name phase hsame
    exact List.filter_congr fun tool _ => hsame tool.name
  have hdata : (tools.filter fun tool => tool.name ≠ .resolveSecurity ∧
      tool.name ≠ .getEntitlements ∧ tool.name ≠ .getDataLineage) =
        toolsOf tools .dataFetch := by
    refine List.filter_congr fun tool _ => ?_
    cases tool.name <;> rfl
  have hfirst : ∀ (phase : AgentToolLoopPhase) (label : String) (calls : List AgentRunToolContext),
      pushToolStep [] phase label calls = numbered (toolBlock phase label calls) :=
    pushToolStep_numbered []
  unfold createToolLoopSteps
  dsimp only
  rw [hphase .resolveSecurity .securityResolution (by intro other; cases other <;> rfl),
    hphase .getEntitlements .entitlementGate (by intro other; cases other <;> rfl),
    hphase .getDataLineage .evidenceBinding (by intro other; cases other <;> rfl), hdata, hfirst,
    pushToolStep_numbered, foldl_pushToolStep_numbered, pushToolStep_numbered, length_numbered]
  refine (numbered_concat _ ⟨.answerContract, .answerContract,
    toolLoopPublicLabel locale .prepareAnswer, []⟩).symm.trans (congrArg numbered ?_)
  simp only [loopPhases, phaseBlocks, List.flatMap_cons, List.flatMap_nil, List.append_nil,
    List.append_assoc]

theorem forall_numbered {P : AgentToolLoopPhase → List AgentRunToolContext → Prop}
    {blocks : List StepBlock} :
    (∀ step ∈ numbered blocks, P step.phase step.toolCalls) ↔
      ∀ block ∈ blocks, P block.phase block.tools := by
  constructor
  · intro h block hblock
    obtain ⟨position, hposition, rfl⟩ := List.getElem_of_mem hblock
    exact h _ (List.mem_mapIdx.mpr ⟨position, hposition, rfl⟩)
  · intro h step hstep
    obtain ⟨position, hposition, rfl⟩ := List.mem_mapIdx.mp hstep
    exact h _ (List.getElem_mem hposition)

theorem map_numbered {β : Type} (read : AgentToolLoopPhase → List AgentRunToolContext → β)
    (blocks : List StepBlock) :
    (numbered blocks).map (fun step => read step.phase step.toolCalls) =
      blocks.map fun block => read block.phase block.tools := by
  refine List.ext_getElem (by simp) fun position hleft hright => ?_
  simp [numbered, createStep]

section Phases

variable {tools : List AgentRunToolContext}
variable {phase : AgentToolLoopPhase}
variable {block : StepBlock}

theorem mem_toolBlock {label : String} {calls : List AgentRunToolContext} :
    block ∈ toolBlock phase label calls ↔
      calls ≠ [] ∧ block = ⟨.toolCalls, phase, label, calls⟩ := by
  rw [toolBlock]
  split <;> simp_all

theorem tools_toolBlock (phase : AgentToolLoopPhase) (label : String)
    (calls : List AgentRunToolContext) :
    (toolBlock phase label calls).flatMap StepBlock.tools = calls := by
  rw [toolBlock]
  split <;> simp_all

theorem toolsOf_answerContract :
    toolsOf tools .answerContract = [] := by
  refine List.filter_eq_nil_iff.mpr fun tool _ => ?_
  cases tool.name <;> simp [phaseOf]

theorem phase_of_mem_phaseBlocks (h : block ∈ phaseBlocks tools locale phase) :
    block.phase = phase := by
  cases phase with
  | securityResolution => rw [(mem_toolBlock.mp h).2]
  | entitlementGate => rw [(mem_toolBlock.mp h).2]
  | dataFetch =>
    obtain ⟨chunk, -, hblock⟩ := List.mem_flatMap.mp h
    rw [(mem_toolBlock.mp hblock).2]
  | evidenceBinding => rw [(mem_toolBlock.mp h).2]
  | answerContract => rw [List.mem_singleton.mp h]

theorem tools_phaseBlocks (tools : List AgentRunToolContext) (locale : AgentResponseLocale)
    (phase : AgentToolLoopPhase) :
    (phaseBlocks tools locale phase).flatMap StepBlock.tools = toolsOf tools phase := by
  cases phase with
  | securityResolution => exact tools_toolBlock _ _ _
  | entitlementGate => exact tools_toolBlock _ _ _
  | dataFetch =>
    rw [phaseBlocks, List.flatMap_assoc]
    simp only [tools_toolBlock]
    rw [List.flatMap_id', flatten_chunkTools _ (by decide)]
  | evidenceBinding => exact tools_toolBlock _ _ _
  | answerContract => rw [toolsOf_answerContract]; rfl

theorem toolsOf_perm (tools : List AgentRunToolContext) :
    (loopPhases.flatMap (toolsOf tools)).Perm tools := by
  refine List.perm_iff_count.mpr fun tool => ?_
  have hcount : ∀ phase, (toolsOf tools phase).count tool =
      if phaseOf tool.name = phase then tools.count tool else 0 := by
    intro phase
    split
    next hphase => exact List.count_filter (decide_eq_true hphase)
    next hphase =>
      refine List.count_eq_zero.mpr fun hmem => hphase ?_
      simpa using (List.mem_filter.mp hmem).2
  simp only [loopPhases, List.flatMap_cons, List.flatMap_nil, List.append_nil, List.count_append,
    hcount]
  cases tool.name <;> simp [phaseOf]

end Phases

section Promise

def AgentToolLoopPhase.rank : AgentToolLoopPhase → Nat
  | .securityResolution => 0
  | .entitlementGate => 1
  | .dataFetch => 2
  | .evidenceBinding => 3
  | .answerContract => 4

structure ToolPlanSound
    (requestedTools : List String)
    (steps : List AgentToolLoopStepPlan) : Prop where
  calls : (steps.flatMap fun step => step.toolCalls.map fun call => call.name.text).Perm
    requestedTools
  phases : ∀ step ∈ steps, ∀ call ∈ step.toolCalls, step.phase = phaseOf call.name
  ordered : steps.Pairwise fun left right => left.phase.rank ≤ right.phase.rank
  answer : ∃ before last, steps = before ++ [last] ∧ last.phase = .answerContract ∧
    last.toolCalls = [] ∧ ∀ step ∈ before, step.phase ≠ .answerContract
  parallel : ∀ step ∈ steps, step.toolCalls.length ≤ maxParallelTools

def singleStepTools : List RegisteredToolName :=
  [.resolveSecurity, .getEntitlements, .getDataLineage]

variable {requestedTools : List String}
variable {tools : List RegisteredToolDefinition}
variable {contexts : List AgentRunToolContext}

theorem text_injective :
    Function.Injective RegisteredToolName.text := by
  intro left right h
  have hfound : ∀ name : RegisteredToolName,
      (registeredTools.find? fun tool => tool.name.text = name.text).map
        RegisteredToolDefinition.name = some name := by
    intro name
    cases name <;> decide +kernel
  have hleft := hfound left
  rw [h, hfound right] at hleft
  exact (Option.some.inj hleft).symm

theorem length_toolsOf {name : RegisteredToolName} (hname : name ∈ singleStepTools)
    (htexts : contexts.map (fun tool => tool.name.text) = requestedTools) :
    (toolsOf contexts (phaseOf name)).length = requestedTools.count name.text := by
  have hphase : ∀ other, phaseOf other = phaseOf name ↔ other.text = name.text := by
    intro other
    rw [text_injective.eq_iff]
    simp only [singleStepTools, List.mem_cons, List.not_mem_nil, or_false] at hname
    rcases hname with rfl | rfl | rfl <;> cases other <;> simp [phaseOf]
  rw [← htexts, List.count, List.countP_map, List.countP_eq_length_filter, toolsOf]
  congr 1
  refine List.filter_congr fun tool _ => ?_
  simp [hphase, beq_eq_decide]

/-- The block of some calls has few enough of them exactly when these are few enough. -/
theorem forall_toolBlock_length {phase : AgentToolLoopPhase} {label : String}
    {calls : List AgentRunToolContext} {bound : Nat} :
    (∀ block ∈ toolBlock phase label calls, block.tools.length ≤ bound) ↔
      calls.length ≤ bound := by
  rw [toolBlock]
  split
  next hempty => simp [hempty]
  next => simp

theorem parallel_iff :
    (∀ step ∈ createToolLoopSteps contexts locale,
        step.toolCalls.length ≤ maxParallelTools) ↔
      ∀ name ∈ singleStepTools,
        (toolsOf contexts (phaseOf name)).length ≤ maxParallelTools := by
  have hdata : ∀ block ∈ phaseBlocks contexts locale .dataFetch,
      block.tools.length ≤ maxParallelTools := by
    intro block hblock
    obtain ⟨chunk, hchunk, hblock⟩ := List.mem_flatMap.mp hblock
    rw [(mem_toolBlock.mp hblock).2]
    exact (length_of_mem_chunkTools hchunk).2
  have hanswer : ∀ block ∈ phaseBlocks contexts locale .answerContract,
      block.tools.length ≤ maxParallelTools := by
    intro block hblock
    rw [List.mem_singleton.mp hblock]
    exact Nat.zero_le _
  have hblocks : (∀ step ∈ createToolLoopSteps contexts locale,
      step.toolCalls.length ≤ maxParallelTools) ↔
        ∀ phase ∈ loopPhases, ∀ block ∈ phaseBlocks contexts locale phase,
          block.tools.length ≤ maxParallelTools := by
    rw [createToolLoopSteps_eq]
    refine (forall_numbered (P := fun _ calls => calls.length ≤ maxParallelTools)).trans ?_
    simp only [List.mem_flatMap, forall_exists_index, and_imp]
    exact ⟨fun h phase hphase block => h block phase hphase,
      fun h block phase hphase => h phase hphase block⟩
  have hsingle : ∀ name ∈ singleStepTools,
      ((∀ block ∈ phaseBlocks contexts locale (phaseOf name),
          block.tools.length ≤ maxParallelTools) ↔
        (toolsOf contexts (phaseOf name)).length ≤ maxParallelTools) := by
    intro name hname
    simp only [singleStepTools, List.mem_cons, List.not_mem_nil, or_false] at hname
    rcases hname with rfl | rfl | rfl <;> exact forall_toolBlock_length
  rw [hblocks, ← forall₂_congr hsingle]
  constructor
  · intro h name _
    exact h (phaseOf name) (by cases name <;> decide)
  · intro h phase hphase
    cases phase with
    | securityResolution => exact h .resolveSecurity (by decide)
    | entitlementGate => exact h .getEntitlements (by decide)
    | dataFetch => exact hdata
    | evidenceBinding => exact h .getDataLineage (by decide)
    | answerContract => exact hanswer

theorem calls_perm (htexts : contexts.map (fun tool => tool.name.text) = requestedTools) :
    ((createToolLoopSteps contexts locale).flatMap fun step =>
      step.toolCalls.map fun call => call.name.text).Perm requestedTools := by
  have hcalls : (createToolLoopSteps contexts locale).flatMap AgentToolLoopStepPlan.toolCalls =
      loopPhases.flatMap (toolsOf contexts) := by
    have hmap := map_numbered (fun _ calls => calls)
      (loopPhases.flatMap (phaseBlocks contexts locale))
    rw [List.flatMap_def, createToolLoopSteps_eq]
    refine (congrArg List.flatten hmap).trans ?_
    change (loopPhases.flatMap (phaseBlocks contexts locale)).flatMap StepBlock.tools = _
    rw [List.flatMap_assoc]
    exact congrArg (loopPhases.flatMap ·) (funext (tools_phaseBlocks contexts locale))
  have hmap : ((createToolLoopSteps contexts locale).flatMap fun step =>
      step.toolCalls.map fun call => call.name.text) =
        ((createToolLoopSteps contexts locale).flatMap AgentToolLoopStepPlan.toolCalls).map
          fun call => call.name.text := by
    rw [List.map_flatMap]
  rw [hmap, hcalls, ← htexts]
  exact (toolsOf_perm contexts).map _

theorem phases_ordered :
    (createToolLoopSteps contexts locale).Pairwise fun left right =>
      left.phase.rank ≤ right.phase.rank := by
  have hmap := map_numbered (fun phase _ => phase.rank)
    (loopPhases.flatMap (phaseBlocks contexts locale))
  rw [← createToolLoopSteps_eq] at hmap
  rw [← List.pairwise_map (f := fun step : AgentToolLoopStepPlan => step.phase.rank), hmap,
    List.pairwise_map, List.pairwise_flatMap]
  constructor
  · intro phase _
    refine List.Pairwise.imp_of_mem ?_ (List.pairwise_of_forall fun _ _ => trivial)
    intro left right hleft hright _
    rw [phase_of_mem_phaseBlocks hleft, phase_of_mem_phaseBlocks hright]
  · have hranks : loopPhases.Pairwise fun left right => left.rank ≤ right.rank := by decide
    refine hranks.imp fun hrank left hleft right hright => ?_
    rw [phase_of_mem_phaseBlocks hleft, phase_of_mem_phaseBlocks hright]
    exact hrank

theorem phase_of_call {step : AgentToolLoopStepPlan}
    (hstep : step ∈ createToolLoopSteps contexts locale) {call : AgentToolLoopToolCallPlan}
    (hcall : call ∈ step.toolCalls) : step.phase = phaseOf call.name := by
  rw [createToolLoopSteps_eq] at hstep
  refine (forall_numbered (P := fun phase calls => ∀ call ∈ calls, phase = phaseOf call.name)).mpr
    (fun block hblock call hcall => ?_) step hstep call hcall
  obtain ⟨phase, -, hblock⟩ := List.mem_flatMap.mp hblock
  rw [phase_of_mem_phaseBlocks hblock]
  have hmem : call ∈ toolsOf contexts phase := by
    rw [← tools_phaseBlocks contexts locale phase]
    exact List.mem_flatMap.mpr ⟨block, hblock, hcall⟩
  exact (of_decide_eq_true (List.mem_filter.mp hmem).2).symm

theorem answer_last :
    ∃ before last, createToolLoopSteps contexts locale = before ++ [last] ∧
      last.phase = .answerContract ∧ last.toolCalls = [] ∧
        ∀ step ∈ before, step.phase ≠ .answerContract := by
  have hphases : loopPhases = loopPhases.dropLast ++ [.answerContract] := rfl
  have hbefore : ∀ phase ∈ loopPhases.dropLast, phase ≠ .answerContract := by decide
  have hsteps := createToolLoopSteps_eq contexts locale
  rw [hphases, List.flatMap_append] at hsteps
  refine ⟨_, _, hsteps.trans (numbered_concat _ _), rfl, rfl, fun step hstep => ?_⟩
  refine (forall_numbered (P := fun phase _ => phase ≠ .answerContract)).mpr
    (fun block hblock => ?_) step hstep
  obtain ⟨phase, hphase, hblock⟩ := List.mem_flatMap.mp hblock
  rw [phase_of_mem_phaseBlocks hblock]
  exact hbefore phase hphase

theorem definitions_of_registered (h : (validateRegisteredTools requestedTools).deniedTools = []) :
    ∃ tools, requestedTools.mapM getRegisteredToolDefinition = .ok tools := by
  have hregistered : ∀ toolName ∈ requestedTools, isRegisteredToolName toolName = true := by
    simpa [validateRegisteredTools] using h
  clear h
  induction requestedTools with
  | nil => exact ⟨[], rfl⟩
  | cons toolName rest ih =>
    obtain ⟨hfirst, hrest⟩ := List.forall_mem_cons.mp hregistered
    obtain ⟨others, hothers⟩ := ih hrest
    obtain ⟨tool, htool, htext⟩ := List.mem_map.mp (List.contains_iff_mem.mp hfirst)
    obtain ⟨found, hfound⟩ := Option.isSome_iff_exists.mp (List.find?_isSome
      (p := fun tool => tool.name.text = toolName) |>.mpr ⟨tool, htool, decide_eq_true htext⟩)
    have hdefinition : getRegisteredToolDefinition toolName = .ok found := by
      rw [getRegisteredToolDefinition, hfound]
    exact ⟨found :: others, by rw [List.mapM_cons, hdefinition, hothers]; rfl⟩

/-- The steps of a tool loop keep their promise exactly when no tool with a step of its own
is requested more often than tools may run at once. -/
theorem createToolLoopSteps_correct_iff (locale : AgentResponseLocale)
    (h : (validateRegisteredTools requestedTools).deniedTools = []) :
    ∃ tools, requestedTools.mapM getRegisteredToolDefinition = .ok tools ∧
      (ToolPlanSound requestedTools (createToolLoopSteps (tools.map toolContextOf) locale) ↔
        ∀ name ∈ ["resolve_security", "get_entitlements", "get_data_lineage"],
          requestedTools.count name ≤ maxParallelTools) := by
  obtain ⟨tools, htools⟩ := definitions_of_registered h
  have htexts : (tools.map toolContextOf).map (fun tool => tool.name.text) = requestedTools := by
    rw [List.map_map, ← (texts_of_definitions htools).2]
    rfl
  have hcounts : (∀ name ∈ ["resolve_security", "get_entitlements", "get_data_lineage"],
      requestedTools.count name ≤ maxParallelTools) ↔
        ∀ name ∈ singleStepTools,
          (toolsOf (tools.map toolContextOf) (phaseOf name)).length ≤ maxParallelTools := by
    change (∀ text ∈ singleStepTools.map RegisteredToolName.text, _) ↔ _
    rw [List.forall_mem_map]
    exact forall₂_congr fun name hname => by rw [length_toolsOf hname htexts]
  refine ⟨tools, htools, ?_⟩
  rw [hcounts, ← parallel_iff]
  exact ⟨ToolPlanSound.parallel, fun hparallel =>
    ⟨calls_perm htexts, fun step hstep call hcall => phase_of_call hstep hcall, phases_ordered,
      answer_last, hparallel⟩⟩

def fourTimes : List String :=
  List.replicate 4 "resolve_security"

/-- A tool that is requested four times is called four times at once. -/
theorem fourTimes_in_one_step :
    (validateRegisteredTools fourTimes).deniedTools = [] ∧
      ∃ tools, fourTimes.mapM getRegisteredToolDefinition = .ok tools ∧
        ¬ToolPlanSound fourTimes (createToolLoopSteps (tools.map toolContextOf) .en) := by
  have hregistered : (validateRegisteredTools fourTimes).deniedTools = [] := by decide +kernel
  obtain ⟨tools, htools⟩ := definitions_of_registered hregistered
  have htexts : (tools.map toolContextOf).map (fun tool => tool.name.text) = fourTimes := by
    rw [List.map_map, ← (texts_of_definitions htools).2]
    rfl
  refine ⟨hregistered, tools, htools, fun hsound => ?_⟩
  have hfew := parallel_iff.mp hsound.parallel .resolveSecurity (by decide)
  rw [length_toolsOf (by decide) htexts] at hfew
  revert hfew
  decide +kernel

/-- The tools of a run without a request keep the promise. -/
theorem defaultTools_sound :
    ∃ tools, defaultAgentRunTools.mapM getRegisteredToolDefinition = .ok tools ∧
      ToolPlanSound defaultAgentRunTools
        (createToolLoopSteps (tools.map toolContextOf) .en) := by
  have hregistered : (validateRegisteredTools defaultAgentRunTools).deniedTools = [] := by
    decide +kernel
  obtain ⟨tools, htools, hiff⟩ := createToolLoopSteps_correct_iff .en hregistered
  exact ⟨tools, htools, hiff.mpr (by decide +kernel)⟩

end Promise

end Aiphabee.AgentPlanner
