import ApiPlatform.Foundation.Fallible
import ApiPlatform.PolicyEngine.Chain

/-!
# The chain executor

`internal/executor/chain.go` has six loops over the policies of a chain, one for
each phase.  They differ in the interface and mode that they ask for, in the
condition that they evaluate, in what an action does to the context and in the
actions that end the loop; the loop itself is one.
-/

namespace ApiPlatform.PolicyEngine

open Foundation

/-- The evaluator of execution conditions; it may read what the policies share. -/
structure CELEvaluator (World : Type) where
  evaluateRequestHeaderCondition : String → RequestHeaderContext → World → Except String Bool
  evaluateRequestBodyCondition : String → RequestContext → World → Except String Bool
  evaluateResponseHeaderCondition : String → ResponseHeaderContext → World → Except String Bool
  evaluateResponseBodyCondition : String → ResponseContext → World → Except String Bool
  evaluateStreamingRequestCondition : String → RequestStreamContext → World → Except String Bool
  evaluateStreamingResponseCondition : String → ResponseStreamContext → World → Except String Bool

inductive RangeSite where
  | newHeaders
  | requestHeaderPolicies
  | requestPolicies
  | responseHeaderPolicies
  | responsePolicies
  | applyRequestHeaderMutations
  | applyResponseHeaderMutations
  | buildAnalyticsStruct
  deriving DecidableEq

structure ChainExecutor (World Params : Type) where
  celEvaluator : Option (CELEvaluator World)
  /-- The round trip through JSON that copies the parameters of a policy. -/
  deepCopyParams : Params → Except String Params
  addQueryParametersToPath : String → GoMap String (List String) → String
  removeQueryParametersFromPath : String → List String → String
  rangeOrder : RangeSite → MapIteration String

inductive ExecutionError where
  | failed (message : String)
  | nilAction
  deriving DecidableEq

variable {World Params Context Action : Type}

/-! ## What a phase does differently -/

structure Phase (World Params Context Action : Type) where
  /-- The interface that the loop asserts and the mode that it asks for. -/
  handler : Policy World Params → Option (Handler World Params Context Action)
  evaluate : CELEvaluator World → String → Context → World → Except String Bool
  /-- What the policies after the one at the given position see of its action. -/
  apply : ChainExecutor World Params → Nat → Action → Context → Context
  /-- Whether the loop ends after an action, which may be nil. -/
  stops : Option Action → Except ExecutionError Bool

/-- The result of one policy.  The source keeps the name, the version, the action and
whether the policy was skipped; its position in the chain and the context that it
received are the loop variable and the argument of the call. -/
structure PolicyResult (Context Action : Type) where
  position : Nat
  policyName : String
  policyVersion : String
  received : Context
  action : Option Action
  skipped : Bool

structure ExecutionResult (World Context Action : Type) where
  results : List (PolicyResult Context Action)
  shortCircuited : Bool
  context : Context
  world : World

def ExecutionResult.cons (result : PolicyResult Context Action)
    (rest : ExecutionResult World Context Action) : ExecutionResult World Context Action :=
  { rest with results := result :: rest.results }

/-- `FinalAction`, as far as it is read: the action that ended the loop. -/
def ExecutionResult.finalAction (result : ExecutionResult World Context Action) : Option Action :=
  if result.shortCircuited then result.results.getLast?.bind (·.action) else none

/-! ## The loop -/

namespace Phase

variable (phase : Phase World Params Context Action) (executor : ChainExecutor World Params)
  (hasExecutionConditions : Bool)

def conditionMet (spec : PolicySpec Params) (context : Context) (world : World) :
    Except ExecutionError Bool :=
  match hasExecutionConditions, spec.executionCondition.getD "", executor.celEvaluator with
  | false, _, _ => .ok true
  | true, "", _ => .ok true
  | true, _, none => .ok true
  | true, expression, some evaluator =>
    (phase.evaluate evaluator expression context world).mapError fun problem =>
      .failed ("condition evaluation failed for policy " ++ spec.name ++ ":" ++ spec.version ++
        ": " ++ problem)

inductive Turn (World Context Action : Type) where
  | absent
  | skipped
  | acted (action : Option Action) (stop : Bool) (next : Context) (world : World)

def takeTurn (entry : ChainEntry World Params) (position : Nat) (context : Context)
    (world : World) : Except ExecutionError (Turn World Context Action) :=
  match phase.handler entry.policy with
  | none => .ok .absent
  | some handle =>
    if entry.spec.enabled = false then .ok .skipped
    else do
      let met ← phase.conditionMet executor hasExecutionConditions entry.spec context world
      if met = false then .ok .skipped
      else do
        let params ← (executor.deepCopyParams entry.spec.parameters).mapError fun problem =>
          ExecutionError.failed ("failed to clone parameters for policy " ++ entry.spec.name ++
            ":" ++ entry.spec.version ++ ": " ++ problem)
        let (action, world) := handle context params world
        let stop ← phase.stops action
        let next := (action.map fun action => phase.apply executor position action context).getD
          context
        pure (.acted action stop next world)

def resultOf (entry : ChainEntry World Params) (position : Nat) (context : Context)
    (action : Option Action) (skipped : Bool) : PolicyResult Context Action where
  position := position
  policyName := entry.spec.name
  policyVersion := entry.spec.version
  received := context
  action := action
  skipped := skipped

def execute : List (ChainEntry World Params × Nat) → Context → World →
    Except ExecutionError (ExecutionResult World Context Action)
  | [], context, world =>
    .ok { results := [], shortCircuited := false, context := context, world := world }
  | (entry, position) :: rest, context, world => do
    match ← phase.takeTurn executor hasExecutionConditions entry position context world with
    | .absent => execute rest context world
    | .skipped =>
      (execute rest context world).map
        (ExecutionResult.cons (resultOf entry position context none true))
    | .acted action stop next world =>
      let result := resultOf entry position context action false
      if stop then
        .ok { results := [result], shortCircuited := true, context := next, world := world }
      else (execute rest next world).map (ExecutionResult.cons result)

/-- The turn of the policy comes to the call of its method. -/
def Invokes (entry : ChainEntry World Params) (position : Nat) (context : Context)
    (world : World) : Prop :=
  (∃ action stop next after, phase.takeTurn executor hasExecutionConditions entry position context
    world = .ok (.acted action stop next after)) ∨
  phase.takeTurn executor hasExecutionConditions entry position context world = .error .nilAction

end Phase

/-- What the next policy would find: nothing once a run has failed or ended early. -/
def leaves : Except ExecutionError (ExecutionResult World Context Action) →
    Option (Context × World)
  | .ok out => if out.shortCircuited then none else some (out.context, out.world)
  | .error _ => none

@[simp] theorem leaves_map_cons {run : Except ExecutionError (ExecutionResult World Context Action)}
    {result : PolicyResult Context Action} :
    leaves (run.map (ExecutionResult.cons result)) = leaves run := by
  cases run <;> rfl

/-- A run comes to the policy at the position and calls its method. -/
def Phase.InvokesAt (phase : Phase World Params Context Action)
    (executor : ChainExecutor World Params) (hasExecutionConditions : Bool)
    (policies : List (ChainEntry World Params × Nat)) (context : Context) (world : World)
    (position : Nat) : Prop :=
  ∃ before entry after, policies = before ++ (entry, position) :: after ∧
    ∃ state ∈ leaves (phase.execute executor hasExecutionConditions before context world),
      phase.Invokes executor hasExecutionConditions entry position state.1 state.2

/-! ## The six phases -/

/-- The test of the loops that look whether there is an action before they use it. -/
def stopsOn (stop : Action → Bool) (action : Option Action) : Except ExecutionError Bool :=
  .ok (action.any stop)

/-- The writes of a loop over a map of headers, and then the removals. -/
def modifyHeaders (order : MapIteration String) (round : Nat) (nameOf : String → String)
    (mods : HeaderModifications) (headers : Headers) : Headers :=
  let writes := (order.order round mods.headersToSet.keys).filterMap fun name =>
    (mods.headersToSet.lookup name).map fun value => (nameOf name, [value])
  eraseAll (insertAll headers writes) (mods.headersToRemove.map nameOf)

def requestHeaderPhase : Phase World Params RequestHeaderContext RequestHeaderAction where
  handler policy :=
    if policy.mode.requestHeaderMode = .process then policy.onRequestHeaders else none
  evaluate evaluator := evaluator.evaluateRequestHeaderCondition
  apply executor position action context :=
    match action with
    | .immediate _ => context
    | .modifications mods =>
      { context with
        headers := modifyHeaders (executor.rangeOrder .requestHeaderPolicies) position toLower
          mods.toHeaderModifications context.headers
        path := mods.path.getD context.path
        method := mods.method.getD context.method }
  stops := stopsOn RequestHeaderAction.isImmediate

def applyRequestModifications (executor : ChainExecutor World Params) (position : Nat)
    (mods : UpstreamRequestModifications) (context : RequestContext) : RequestContext :=
  let path := mods.path.getD context.path
  let path := (mods.queryParametersToAdd.map (executor.addQueryParametersToPath path)).getD path
  let path :=
    (mods.queryParametersToRemove.map (executor.removeQueryParametersFromPath path)).getD path
  { context with
    headers := modifyHeaders (executor.rangeOrder .requestPolicies) position id
      mods.toHeaderModifications context.headers
    body :=
      match mods.body with
      | some content => some { content := content, endOfStream := true, present := true }
      | none => context.body
    path := path
    method := mods.method.getD context.method }

def requestPhase : Phase World Params RequestContext RequestAction where
  handler policy :=
    if policy.mode.requestBodyMode = .skip then none
    else policy.requestPolicy.map (·.onRequestBody)
  evaluate evaluator := evaluator.evaluateRequestBodyCondition
  apply executor position action context :=
    match action with
    | .immediate _ => context
    | .modifications mods => applyRequestModifications executor position mods context
  stops := stopsOn RequestAction.stopExecution

def responseHeaderPhase : Phase World Params ResponseHeaderContext ResponseHeaderAction where
  handler policy :=
    if policy.mode.responseHeaderMode = .process then policy.onResponseHeaders else none
  evaluate evaluator := evaluator.evaluateResponseHeaderCondition
  apply executor position action context :=
    match action with
    | .immediate _ => context
    | .modifications mods =>
      { context with
        responseHeaders := modifyHeaders (executor.rangeOrder .responseHeaderPolicies) position
          toLower mods.toHeaderModifications context.responseHeaders }
  stops := stopsOn ResponseHeaderAction.isImmediate

def applyResponseModifications (executor : ChainExecutor World Params) (position : Nat)
    (mods : DownstreamResponseModifications) (context : ResponseContext) : ResponseContext :=
  { context with
    responseHeaders := modifyHeaders (executor.rangeOrder .responsePolicies) position id
      mods.toHeaderModifications context.responseHeaders
    responseBody :=
      match mods.body with
      | some content => some { content := content, endOfStream := true, present := true }
      | none => context.responseBody
    responseStatus := mods.statusCode.getD context.responseStatus }

def responsePhase : Phase World Params ResponseContext ResponseAction where
  handler policy :=
    if policy.mode.responseBodyMode = .skip then none
    else policy.responsePolicy.map (·.onResponseBody)
  evaluate evaluator := evaluator.evaluateResponseBodyCondition
  apply executor position action context :=
    match action with
    | .immediate _ => context
    | .modifications mods => applyResponseModifications executor position mods context
  stops := stopsOn ResponseAction.stopExecution

def streamingRequestPhase :
    Phase World Params (RequestStreamContext × StreamBody) StreamingRequestAction where
  handler policy :=
    if policy.mode.requestBodyMode = .stream then
      policy.streamingRequestPolicy.map (·.onRequestBodyChunk)
    else none
  evaluate evaluator expression context :=
    evaluator.evaluateStreamingRequestCondition expression context.1
  apply _ _ action context :=
    match action.body with
    | some chunk => (context.1, { context.2 with chunk := chunk })
    | none => context
  stops := stopsOn fun _ => false

def streamingResponsePhase :
    Phase World Params (ResponseStreamContext × StreamBody) StreamingResponseAction where
  handler policy :=
    if policy.mode.responseBodyMode = .stream then
      policy.streamingResponsePolicy.map (·.onResponseBodyChunk)
    else none
  evaluate evaluator expression context :=
    evaluator.evaluateStreamingResponseCondition expression context.1
  apply _ _ action context :=
    match action with
    | .forward (some chunk) _ => (context.1, { context.2 with chunk := chunk })
    | .terminate (some chunk) _ => (context.1, { chunk := chunk, endOfStream := true })
    | .forward none _ => context
    -- the chunk stays the one that the policy received
    | .terminate none _ => context
  stops action :=
    match action with
    | some action => .ok action.terminateStream
    -- `action.TerminateStream()` is called on every action
    | none => .error .nilAction

theorem stopsOn_ne_of_none {stop : Action → Bool} {action : Option Action}
    (hnone : action.any stop = false) : stopsOn stop action ≠ .ok true := by
  simp [stopsOn, hnone]

theorem terminates_of_stops {action : Option StreamingResponseAction}
    (hstops : (streamingResponsePhase : Phase World Params _ _).stops action = .ok true) :
    ∃ given, action = some given ∧ given.terminateStream = true := by
  cases action with
  | none => cases hstops
  | some given => exact ⟨given, rfl, Except.ok.inj hstops⟩

/-! ## The executors -/

section Executors

variable (executor : ChainExecutor World Params) (chain : PolicyChain World Params)

def executeRequestHeaderPolicies (context : RequestHeaderContext) (world : World) :=
  requestHeaderPhase.execute executor chain.hasExecutionConditions chain.entries.zipIdx context
    world

def executeRequestPolicies (context : RequestContext) (world : World) :=
  requestPhase.execute executor chain.hasExecutionConditions chain.entries.zipIdx context world

def executeResponseHeaderPolicies (context : ResponseHeaderContext) (world : World) :=
  responseHeaderPhase.execute executor chain.hasExecutionConditions chain.entries.zipIdx.reverse
    context world

def executeResponsePolicies (context : ResponseContext) (world : World) :=
  responsePhase.execute executor chain.hasExecutionConditions chain.entries.zipIdx.reverse
    context world

def executeStreamingRequestPolicies (context : RequestStreamContext) (chunk : StreamBody)
    (world : World) :=
  streamingRequestPhase.execute executor chain.hasExecutionConditions chain.entries.zipIdx
    (context, chunk) world

def executeStreamingResponsePolicies (context : ResponseStreamContext) (chunk : StreamBody)
    (world : World) :=
  streamingResponsePhase.execute executor chain.hasExecutionConditions
    chain.entries.zipIdx.reverse (context, chunk) world

end Executors

/-! ## What a run of the loop does -/

namespace Phase

def after (phase : Phase World Params Context Action) (executor : ChainExecutor World Params)
    (result : PolicyResult Context Action) : Context :=
  (result.action.map fun action =>
    phase.apply executor result.position action result.received).getD result.received

def participates (phase : Phase World Params Context Action) (entry : ChainEntry World Params) :
    Bool :=
  (phase.handler entry.policy).isSome

variable {phase : Phase World Params Context Action} {executor : ChainExecutor World Params}
  {hasExecutionConditions : Bool} {entry : ChainEntry World Params} {position : Nat}
  {context next : Context} {world world' : World} {action : Option Action}
  {entries : List (ChainEntry World Params × Nat)} {out : ExecutionResult World Context Action}

private theorem takeTurn_ok {turn : Turn World Context Action}
    (hturn : phase.takeTurn executor hasExecutionConditions entry position context world =
      .ok turn) :
    match turn with
    | .absent => phase.participates entry = false
    | .skipped => phase.participates entry = true
    | .acted action stop next _ => phase.participates entry = true ∧
      phase.stops action = .ok stop ∧
      next = phase.after executor (resultOf entry position context action false) := by
  unfold takeTurn at hturn
  unfold participates
  cases hhandler : phase.handler entry.policy with
  | none =>
    simp only [hhandler] at hturn
    cases hturn
    rfl
  | some handle =>
    simp only [hhandler] at hturn
    split at hturn
    · cases hturn
      rfl
    · obtain ⟨met, -, hturn⟩ := bind_eq_ok.mp hturn
      split at hturn
      · cases hturn
        rfl
      · obtain ⟨params, -, hturn⟩ := bind_eq_ok.mp hturn
        obtain ⟨stop, hstops, hturn⟩ := bind_eq_ok.mp hturn
        cases hturn
        exact ⟨rfl, hstops, rfl⟩

theorem execute_ok_induction
    (motive : List (ChainEntry World Params × Nat) → Context →
      ExecutionResult World Context Action → Prop)
    (hnil : ∀ context world, motive [] context ⟨[], false, context, world⟩)
    (habsent : ∀ entry position rest context out, phase.participates entry = false →
      motive rest context out → motive ((entry, position) :: rest) context out)
    (hskipped : ∀ entry position rest context out, phase.participates entry = true →
      motive rest context out →
      motive ((entry, position) :: rest) context
        (out.cons (resultOf entry position context none true)))
    (hstopped : ∀ entry position rest context action world, phase.participates entry = true →
      phase.stops action = .ok true →
      motive ((entry, position) :: rest) context
        ⟨[resultOf entry position context action false], true,
          phase.after executor (resultOf entry position context action false), world⟩)
    (hcontinued : ∀ entry position rest context action out, phase.participates entry = true →
      phase.stops action = .ok false →
      motive rest (phase.after executor (resultOf entry position context action false)) out →
      motive ((entry, position) :: rest) context
        (out.cons (resultOf entry position context action false)))
    (hrun : phase.execute executor hasExecutionConditions entries context world = .ok out) :
    motive entries context out := by
  induction entries generalizing context world out with
  | nil =>
    cases hrun
    exact hnil context world
  | cons head rest ih =>
    obtain ⟨turn, hturn, hrun⟩ := bind_eq_ok.mp hrun
    cases turn with
    | absent => exact habsent _ _ _ _ _ (takeTurn_ok hturn) (ih hrun)
    | skipped =>
      obtain ⟨tail, htail, rfl⟩ := map_eq_ok.mp hrun
      exact hskipped _ _ _ _ _ (takeTurn_ok hturn) (ih htail)
    | acted action stop next world' =>
      obtain ⟨hparticipates, hstops, rfl⟩ := takeTurn_ok hturn
      cases stop with
      | true =>
        cases hrun
        exact hstopped _ _ _ _ _ _ hparticipates hstops
      | false =>
        obtain ⟨tail, htail, rfl⟩ := map_eq_ok.mp hrun
        exact hcontinued _ _ _ _ _ _ hparticipates hstops (ih htail)

section

variable (hrun : phase.execute executor hasExecutionConditions entries context world = .ok out)
include hrun

theorem positions_execute :
    ∃ rest, (entries.filter fun head => phase.participates head.1).map Prod.snd =
      out.results.map (·.position) ++ rest ∧ (out.shortCircuited = false → rest = []) := by
  refine execute_ok_induction
    (fun entries _ out => ∃ rest,
      (entries.filter fun head => phase.participates head.1).map Prod.snd =
        out.results.map (·.position) ++ rest ∧ (out.shortCircuited = false → rest = []))
    ?_ ?_ ?_ ?_ ?_ hrun
  · exact fun _ _ => ⟨[], rfl, fun _ => rfl⟩
  · intro entry position rest context out hparticipates ih
    simpa [hparticipates] using ih
  · intro entry position rest context out hparticipates ih
    simpa [hparticipates, ExecutionResult.cons, resultOf] using ih
  · intro entry position rest context action world hparticipates _
    exact ⟨(rest.filter fun head => phase.participates head.1).map Prod.snd,
      by simp [hparticipates, resultOf], by simp⟩
  · intro entry position rest context action out hparticipates _ ih
    simpa [hparticipates, ExecutionResult.cons, resultOf] using ih

theorem last_of_stops
    {pre post : List (PolicyResult Context Action)} {result : PolicyResult Context Action}
    {stopping : Action} (hresults : out.results = pre ++ result :: post)
    (haction : result.action = some stopping) (hstops : phase.stops (some stopping) = .ok true) :
    post = [] ∧ out.shortCircuited = true ∧ out.context = phase.after executor result := by
  refine execute_ok_induction
    (fun _ _ out => ∀ pre, out.results = pre ++ result :: post →
      post = [] ∧ out.shortCircuited = true ∧ out.context = phase.after executor result)
    ?_ ?_ ?_ ?_ ?_ hrun pre hresults
  · intro context world pre hresults
    simp at hresults
  · exact fun _ _ _ _ _ _ ih => ih
  · intro entry position rest context out _ ih pre hresults
    cases pre with
    | nil =>
      -- a skipped policy has no action
      obtain ⟨rfl, -⟩ := List.cons.inj hresults
      cases haction
    | cons first pre => exact ih pre (List.cons.inj hresults).2
  · intro entry position rest context action world _ _ pre hresults
    cases pre with
    | nil =>
      obtain ⟨rfl, rfl⟩ := List.cons.inj hresults
      exact ⟨rfl, rfl, rfl⟩
    | cons first pre => simp at hresults
  · intro entry position rest context action out _ hgoes ih pre hresults
    cases pre with
    | nil =>
      obtain ⟨rfl, -⟩ := List.cons.inj hresults
      obtain rfl : action = some stopping := haction
      cases hgoes.symm.trans hstops
    | cons first pre => exact ih pre (List.cons.inj hresults).2

theorem exists_last_of_shortCircuited
    (hshort : out.shortCircuited = true) :
    ∃ pre result, out.results = pre ++ [result] ∧ phase.stops result.action = .ok true := by
  refine execute_ok_induction
    (fun _ _ out => out.shortCircuited = true → ∃ pre result,
      out.results = pre ++ [result] ∧ phase.stops result.action = .ok true)
    ?_ ?_ ?_ ?_ ?_ hrun hshort
  · exact fun _ _ hshort => absurd hshort (by simp)
  · exact fun _ _ _ _ _ _ ih => ih
  · intro entry position rest context out _ ih hshort
    obtain ⟨pre, result, hresults, hstops⟩ := ih hshort
    exact ⟨_ :: pre, result, congrArg (List.cons _) hresults, hstops⟩
  · intro entry position rest context action world _ hstops _
    exact ⟨[], _, rfl, hstops⟩
  · intro entry position rest context action out _ _ ih hshort
    obtain ⟨pre, result, hresults, hstops⟩ := ih hshort
    exact ⟨_ :: pre, result, congrArg (List.cons _) hresults, hstops⟩

theorem not_shortCircuited
    (hgoes : ∀ result ∈ out.results, phase.stops result.action ≠ .ok true) :
    out.shortCircuited = false := by
  by_contra hshort
  obtain ⟨pre, result, hresults, hstops⟩ :=
    exists_last_of_shortCircuited hrun (by simpa using hshort)
  exact hgoes result (by simp [hresults]) hstops

theorem received_of_unchanged
    (hunchanged : ∀ result ∈ out.results, phase.after executor result = result.received) :
    out.context = context ∧ ∀ result ∈ out.results, result.received = context := by
  refine execute_ok_induction
    (fun _ context out => (∀ result ∈ out.results, phase.after executor result = result.received) →
      out.context = context ∧ ∀ result ∈ out.results, result.received = context)
    ?_ ?_ ?_ ?_ ?_ hrun hunchanged
  · simp
  · exact fun _ _ _ _ _ _ ih => ih
  · intro entry position rest context out _ ih hunchanged
    obtain ⟨hcontext, hreceived⟩ :=
      ih fun result hresult => hunchanged result (List.mem_cons_of_mem _ hresult)
    exact ⟨hcontext, List.forall_mem_cons.mpr ⟨rfl, hreceived⟩⟩
  · intro entry position rest context action world _ _ hunchanged
    exact ⟨hunchanged _ List.mem_cons_self, by simp [resultOf]⟩
  · intro entry position rest context action out _ _ ih hunchanged
    obtain ⟨hcontext, hreceived⟩ :=
      ih fun result hresult => hunchanged result (List.mem_cons_of_mem _ hresult)
    have hsame : phase.after executor (resultOf entry position context action false) = context :=
      hunchanged _ List.mem_cons_self
    rw [hsame] at hcontext hreceived
    exact ⟨hcontext, List.forall_mem_cons.mpr ⟨rfl, hreceived⟩⟩

end

theorem leaves_execute_cons {rest : List (ChainEntry World Params × Nat)} :
    leaves (phase.execute executor hasExecutionConditions ((entry, position) :: rest) context
        world) =
      match phase.takeTurn executor hasExecutionConditions entry position context world with
      | .ok .absent | .ok .skipped =>
        leaves (phase.execute executor hasExecutionConditions rest context world)
      | .ok (.acted _ false next world) =>
        leaves (phase.execute executor hasExecutionConditions rest next world)
      | .ok (.acted _ true _ _) | .error _ => none := by
  rw [execute]
  cases phase.takeTurn executor hasExecutionConditions entry position context world with
  | error problem => rfl
  | ok turn =>
    cases turn with
    | absent => rfl
    | skipped => exact leaves_map_cons
    | acted action stop next after =>
      cases stop with
      | true => rfl
      | false => exact leaves_map_cons

theorem invokesAt_cons {rest : List (ChainEntry World Params × Nat)} {place : Nat} :
    phase.InvokesAt executor hasExecutionConditions ((entry, place) :: rest) context world
        position ↔
      (place = position ∧
        phase.Invokes executor hasExecutionConditions entry place context world) ∨
      match phase.takeTurn executor hasExecutionConditions entry place context world with
      | .ok .absent | .ok .skipped =>
        phase.InvokesAt executor hasExecutionConditions rest context world position
      | .ok (.acted _ false next world) =>
        phase.InvokesAt executor hasExecutionConditions rest next world position
      | .ok (.acted _ true _ _) | .error _ => False := by
  constructor
  · rintro ⟨before, other, after, hsplit, state, hstate, hinvokes⟩
    cases before with
    | nil =>
      obtain ⟨⟨rfl, rfl⟩, rfl⟩ := hsplit
      cases hstate
      exact .inl ⟨rfl, hinvokes⟩
    | cons head before =>
      obtain ⟨rfl, rfl⟩ := List.cons.inj hsplit
      rw [leaves_execute_cons] at hstate
      refine .inr ?_
      split at hstate
      all_goals first
        | cases hstate
        | exact ⟨before, other, after, rfl, state, hstate, hinvokes⟩
  · rintro (⟨rfl, hinvokes⟩ | hrest)
    · exact ⟨[], entry, rest, rfl, (context, world), rfl, hinvokes⟩
    · split at hrest
      all_goals first
        | exact hrest.elim
        | obtain ⟨before, other, after, rfl, state, hstate, hinvokes⟩ := hrest
          refine ⟨(entry, place) :: before, other, after, rfl, state, ?_, hinvokes⟩
          simp [leaves_execute_cons, *]

end Phase

/-! ## How often a policy is executed -/

def isCallOf (position : Nat) (result : PolicyResult Context Action) : Bool :=
  result.position = position && !result.skipped

def executionsAt (position : Nat) (results : List (PolicyResult Context Action)) : Nat :=
  results.countP (isCallOf position)

/-- What a run that returns has called is what its results say. -/
theorem invokesAt_iff_mem_results {phase : Phase World Params Context Action}
    {executor : ChainExecutor World Params} {hasExecutionConditions : Bool}
    {policies : List (ChainEntry World Params × Nat)} {context : Context} {world : World}
    {out : ExecutionResult World Context Action} {position : Nat}
    (hrun : phase.execute executor hasExecutionConditions policies context world = .ok out) :
    phase.InvokesAt executor hasExecutionConditions policies context world position ↔
      ∃ result ∈ out.results, isCallOf position result = true := by
  induction policies generalizing context world out with
  | nil =>
    cases hrun
    simp [Phase.InvokesAt]
  | cons head rest ih =>
    obtain ⟨turn, hturn, hrest⟩ := bind_eq_ok.mp hrun
    rw [Phase.invokesAt_cons, hturn, Phase.Invokes, hturn]
    cases turn with
    | absent => simpa using ih hrest
    | skipped =>
      obtain ⟨tail, htail, rfl⟩ := map_eq_ok.mp hrest
      simpa [ExecutionResult.cons, Phase.resultOf, isCallOf] using ih htail
    | acted action stop next after =>
      cases stop with
      | true =>
        cases hrest
        simp [Phase.resultOf, isCallOf]
      | false =>
        obtain ⟨tail, htail, rfl⟩ := map_eq_ok.mp hrest
        simp [ExecutionResult.cons, Phase.resultOf, isCallOf, ih htail]

theorem executionsAt_of_completed {phase : Phase World Params Context Action}
    {executor : ChainExecutor World Params} {hasExecutionConditions : Bool}
    {policies : List (ChainEntry World Params)} {entries : List (ChainEntry World Params × Nat)}
    {context : Context} {world : World} {out : ExecutionResult World Context Action}
    {entry : ChainEntry World Params} {position : Nat}
    (hentries : entries.Perm policies.zipIdx)
    (hrun : phase.execute executor hasExecutionConditions entries context world = .ok out)
    (hcompleted : out.shortCircuited = false) (hentry : policies[position]? = some entry)
    (hcondition : ∀ result ∈ out.results, result.position = position → result.skipped = false) :
    executionsAt position out.results = if phase.participates entry then 1 else 0 := by
  have hcount : executionsAt position out.results =
      (out.results.map (·.position)).count position := by
    rw [executionsAt, List.count, List.countP_map]
    refine List.countP_congr fun result hresult => ?_
    simp only [isCallOf, Bool.and_eq_true, decide_eq_true_eq, Bool.not_eq_true', Function.comp,
      beq_iff_eq]
    exact ⟨And.left, fun hposition => ⟨hposition, hcondition result hresult hposition⟩⟩
  have hplaces : (out.results.map (·.position)).Perm
      ((policies.zipIdx.filter fun head => phase.participates head.1).map Prod.snd) := by
    obtain ⟨rest, hpositions, hrest⟩ := Phase.positions_execute hrun
    rw [hrest hcompleted, List.append_nil] at hpositions
    rw [← hpositions]
    exact (hentries.filter _).map _
  have hmem : position ∈ out.results.map (·.position) ↔ phase.participates entry = true := by
    rw [hplaces.mem_iff]
    simp only [List.mem_map, List.mem_filter, List.mem_zipIdx_iff_getElem?, Prod.exists]
    constructor
    · rintro ⟨other, _, ⟨hother, hparticipates⟩, rfl⟩
      rw [hentry] at hother
      cases hother
      exact hparticipates
    · exact fun hparticipates => ⟨entry, position, ⟨hentry, hparticipates⟩, rfl⟩
  have hnodup : (out.results.map (·.position)).Nodup :=
    hplaces.nodup_iff.mpr
      ((List.filter_sublist.map Prod.snd).nodup (List.nodup_zipIdx_map_snd policies))
  rw [hcount]
  split
  · next hparticipates => exact List.count_eq_one_of_mem hnodup (hmem.mpr hparticipates)
  · next hparticipates => exact List.count_eq_zero_of_not_mem (mt hmem.mp hparticipates)

end ApiPlatform.PolicyEngine
