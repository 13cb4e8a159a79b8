import ApiPlatform.PolicyEngine.Kernel.RequestBody

/-!
# The response body is handled once

As for requests, but the engine does not look at the end of the stream when it
guesses whether a body follows, and it looks at the headers again after the body
policies have run with them.
-/

namespace ApiPlatform.PolicyEngine.Kernel

open Foundation PolicyExecutionContext

variable {chunk : StreamBody} {message : HttpHeaders} {bodies : List HttpBody}

variable {World Params Decompressor : Type} {server : Server World Params Decompressor}
  {ec : PolicyExecutionContext World Params Decompressor} {body : HttpBody} {position : Nat}
  {entry : ChainEntry World Params} {entries : List (ChainEntry World Params)}

/-- The policy at the position handles response bodies. -/
structure ReadsResponse (ec : PolicyExecutionContext World Params Decompressor) (position : Nat)
    (entry : ChainEntry World Params) : Prop where
  placed : ec.policyChain.entries[position]? = some entry
  mode : entry.policy.mode.responseBodyMode ≠ .skip
  handler : entry.policy.responsePolicy.isSome = true
  requires : ec.policyChain.requiresResponseBody = true

theorem ReadsResponse.of_same {ec' : PolicyExecutionContext World Params Decompressor}
    (hreads : ReadsResponse ec position entry) (hsame : SameModes ec ec') :
    ReadsResponse ec' position entry where
  placed := hsame.policyChain ▸ hreads.placed
  mode := hreads.mode
  handler := hreads.handler
  requires := hsame.policyChain ▸ hreads.requires

/-- The policy is called with the messages of a response body: the streaming executor goes by
the mode, the other one by the interface. -/
def PolicyExecutionContext.handlesResponse (ec : PolicyExecutionContext World Params Decompressor)
    (entry : ChainEntry World Params) : Bool :=
  !ec.isStreamingResponse || streamingResponsePhase.participates entry

@[simp] theorem executions_translateResponseBodyActions
    (out : ExecutionResult World ResponseContext ResponseAction) :
    (ec.translateResponseBodyActions server out).executions = [.responseBody out.results] := by
  unfold translateResponseBodyActions
  split <;> rfl

@[simp] theorem executions_translateResponseHeaderActions
    (out : ExecutionResult World ResponseHeaderContext ResponseHeaderAction) :
    (ec.translateResponseHeaderActions server out).executions = [.responseHeaders out.results] := by
  unfold translateResponseHeaderActions
  dsimp only
  split <;> rfl

@[simp] theorem executions_translateResponseHeaderActionsWithBodyMerge
    (headerResults : List (PolicyResult ResponseHeaderContext ResponseHeaderAction))
    (out : ExecutionResult World ResponseContext ResponseAction) :
    (ec.translateResponseHeaderActionsWithBodyMerge server headerResults out).executions =
      [.responseHeaders headerResults, .responseBody out.results] := by
  unfold translateResponseHeaderActionsWithBodyMerge
  dsimp only
  split <;> rfl

/-! ## Body messages -/

theorem shortCircuited_flushResponseChunk
    (hgood : (ec.flushResponseChunk server chunk).Undisturbed) :
    ∃ out, executeStreamingResponsePolicies server.executor ec.policyChain
        ec.responseStreamContext chunk ec.world = .ok out ∧ out.shortCircuited = false ∧
      ec.flushResponseChunk server chunk =
        ec.translateStreamingResponseChunkAction server chunk out := by
  obtain ⟨out, hrun, hstep⟩ := flushResponseChunk_ok hgood.1
  have hcompletes := hgood.2
  rw [hstep] at hcompletes
  refine ⟨out, hrun, Phase.not_shortCircuited hrun fun result hresult hstops => ?_, hstep⟩
  obtain ⟨action, haction, hends⟩ := terminates_of_stops hstops
  have hnone := hcompletes _ List.mem_cons_self result hresult
  simp [haction, hends] at hnone

theorem running_flushResponseChunk (hrunning : ec.streamTerminated = false)
    (hgood : (ec.flushResponseChunk server chunk).Undisturbed) :
    (ec.flushResponseChunk server chunk).context.streamTerminated = false := by
  obtain ⟨out, -, hcompleted, hstep⟩ := shortCircuited_flushResponseChunk hgood
  rw [hstep]
  exact Bool.or_eq_false_iff.mpr ⟨hrunning, hcompleted⟩

theorem running_processStreamingResponseBody (hrunning : ec.streamTerminated = false)
    (hgood : (ec.processStreamingResponseBody server body).Undisturbed) :
    (ec.processStreamingResponseBody server body).context.streamTerminated = false := by
  have hfed : (ec.feedResponseChunk server body).1.streamTerminated = false := by
    unfold feedResponseChunk
    dsimp only
    split <;> exact hrunning
  unfold processStreamingResponseBody at hgood ⊢
  rw [if_neg (by simp [hrunning])] at hgood ⊢
  dsimp only at hgood ⊢
  split_ifs at hgood ⊢ with hencoded hempty
  · exact hfed
  · exact running_flushResponseChunk hfed hgood
  · split at hgood
    · exact hrunning
    · exact running_flushResponseChunk hrunning hgood

theorem running_processResponseBody (hrunning : ec.streamTerminated = false)
    (hgood : (ec.processResponseBody server body).Undisturbed) :
    (ec.processResponseBody server body).context.streamTerminated = false := by
  unfold processResponseBody at hgood ⊢
  dsimp only at hgood ⊢
  split_ifs at hgood ⊢ with hstreaming hrequires
  · exact running_processStreamingResponseBody hrunning hgood
  · split
    · exact hrunning
    · unfold translateResponseBodyActions
      split <;> exact hrunning
  · exact hrunning

section Handlings

variable (hreads : ReadsResponse ec position entry)
include hreads

theorem handlings_of_executeResponsePolicies {context : ResponseContext} {world : World}
    {out : ExecutionResult World ResponseContext ResponseAction}
    (hrun : executeResponsePolicies server.executor ec.policyChain context world = .ok out)
    (hcompletes : (Execution.responseBody out.results).Completes)
    (hmeets : (Execution.responseBody out.results).Meets position) :
    executionsAt position out.results = 1 := by
  have hcompleted : out.shortCircuited = false :=
    Phase.not_shortCircuited hrun fun result hresult =>
      stopsOn_ne_of_none (hcompletes result hresult)
  rw [executionsAt_of_completed (List.reverse_perm _) hrun hcompleted hreads.placed hmeets,
    if_pos (by simp [Phase.participates, responsePhase, hreads.mode, hreads.handler])]

theorem handlings_flushResponseChunk
    (hgood : (ec.flushResponseChunk server chunk).Undisturbed)
    (hmeets : (ec.flushResponseChunk server chunk).Meets position) :
    (ec.flushResponseChunk server chunk).responseHandlings position =
      if chunk.endOfStream then (streamingResponsePhase.participates entry).toNat else 0 := by
  obtain ⟨out, hrun, hcompleted, hstep⟩ := shortCircuited_flushResponseChunk hgood
  rw [hstep] at hmeets ⊢
  have hcalls := executionsAt_of_completed (List.reverse_perm _) hrun hcompleted hreads.placed
    (hmeets _ List.mem_cons_self)
  simp [Step.responseHandlings, translateStreamingResponseChunkAction, translated,
    Execution.responseHandlings, hcalls, Bool.toNat, Bool.cond_eq_ite]

theorem handlings_processStreamingResponseBody (hrunning : ec.streamTerminated = false)
    (hgood : (ec.processStreamingResponseBody server body).Undisturbed)
    (hmeets : (ec.processStreamingResponseBody server body).Meets position) :
    (ec.processStreamingResponseBody server body).responseHandlings position =
      if body.endOfStream then (streamingResponsePhase.participates entry).toNat else 0 := by
  unfold processStreamingResponseBody at hgood hmeets ⊢
  rw [if_neg (by simp [hrunning])] at hgood hmeets ⊢
  split at hgood
  · next hencoded =>
    rw [if_pos hencoded] at hmeets ⊢
    dsimp only at hgood hmeets ⊢
    split at hgood
    · next hempty =>
      rw [if_pos hempty]
      simp [Step.responseHandlings, suppress, hempty.2]
    · next hchunk =>
      rw [if_neg hchunk] at hmeets ⊢
      exact handlings_flushResponseChunk (hreads.of_same sameModes_feedResponseChunk) hgood hmeets
  · next hplain =>
    rw [if_neg hplain] at hmeets ⊢
    dsimp only at hgood hmeets ⊢
    split at hgood
    · next hwaits => simp [Step.responseHandlings, suppress, waitsForMore_true hwaits]
    · next hwaits =>
      rw [hwaits] at hmeets
      refine handlings_flushResponseChunk (hreads.of_same ?_) hgood hmeets
      exact ⟨rfl, rfl, rfl, rfl⟩

theorem handlings_processResponseBody (hrunning : ec.streamTerminated = false)
    (hgood : (ec.processResponseBody server body).Undisturbed)
    (hmeets : (ec.processResponseBody server body).Meets position) :
    (ec.processResponseBody server body).responseHandlings position =
      if ec.isStreamingResponse && !body.endOfStream then 0
      else (ec.handlesResponse entry).toNat := by
  unfold handlesResponse
  unfold processResponseBody at hgood hmeets ⊢
  dsimp only at hgood hmeets ⊢
  by_cases hstreaming : ec.isStreamingResponse = true
  · rw [if_pos hstreaming] at hgood hmeets ⊢
    have hready : ReadsResponse { ec with phase := .responseBody } position entry :=
      hreads.of_same ⟨rfl, rfl, rfl, rfl⟩
    rw [handlings_processStreamingResponseBody hready hrunning hgood hmeets, hstreaming]
    cases body.endOfStream <;> rfl
  · rw [if_neg hstreaming, if_pos hreads.requires] at hgood hmeets ⊢
    split at hgood
    · have hrefused := hgood.1
      simp at hrefused
    · next out hrun =>
      rw [hrun] at hmeets
      have hcompletes := hgood.2
      rw [executions_translateResponseBodyActions, List.forall_mem_singleton] at hcompletes
      have hcalls := handlings_of_executeResponsePolicies hreads hrun hcompletes
        (hmeets _ (by simp))
      simp [Step.responseHandlings, Execution.responseHandlings, hcalls, hstreaming]

theorem handlings_responseBodies (hrunning : ec.streamTerminated = false)
    (hgood : ∀ step ∈ serve (fun ec body => ec.processResponseBody server body) ec bodies,
      step.Undisturbed ∧ step.Meets position) :
    (serve (fun ec body => ec.processResponseBody server body) ec bodies).map
        (Step.responseHandlings position) =
      (bodies.take (serve (fun ec body => ec.processResponseBody server body) ec
        bodies).length).map fun body =>
          if ec.isStreamingResponse && !body.endOfStream then 0
          else (ec.handlesResponse entry).toNat := by
  refine trace_map (fun current body
    (hready : SameModes ec current ∧ current.streamTerminated = false) hgood => ?_)
    ⟨.refl ec, hrunning⟩ hgood
  obtain ⟨hsame, hrunning⟩ := hready
  obtain ⟨hgood, hmeets⟩ := hgood
  refine ⟨?_, hsame.trans (answersIn_processResponseBody rfl).same,
    running_processResponseBody hrunning hgood⟩
  rw [handlings_processResponseBody (hreads.of_same hsame) hrunning hgood hmeets, handlesResponse,
    hsame.isStreamingResponse, handlesResponse]

end Handlings

/-! ## Headers -/

def PolicyExecutionContext.responseAfterHeaders
    (ec : PolicyExecutionContext World Params Decompressor)
    (server : Server World Params Decompressor) (message : HttpHeaders) :
    PolicyExecutionContext World Params Decompressor :=
  let ec := ec.startResponse server message
  match executeResponseHeaderPolicies server.executor ec.policyChain ec.responseHeaderCtx
      ec.world with
  | .ok out => ec.afterResponseHeaderPolicies server out
  | .error _ => ec

theorem handlings_processResponseBodyForEmptyResponse (hreads : ReadsResponse ec position entry)
    {headerResults : List (PolicyResult ResponseHeaderContext ResponseHeaderAction)}
    (hgood : (ec.processResponseBodyForEmptyResponse server headerResults).Undisturbed)
    (hmeets : (ec.processResponseBodyForEmptyResponse server headerResults).Meets position) :
    (ec.processResponseBodyForEmptyResponse server headerResults).responseHandlings position =
      1 := by
  unfold processResponseBodyForEmptyResponse at hgood hmeets ⊢
  dsimp only at hgood hmeets ⊢
  have hready : ReadsResponse ec.withoutResponseBody position entry :=
    hreads.of_same ⟨rfl, rfl, rfl, rfl⟩
  split at hgood
  · have hrefused := hgood.1
    simp at hrefused
  · next out hrun =>
    rw [hrun] at hmeets
    have hcalls := handlings_of_executeResponsePolicies hready hrun (hgood.2 _ (by simp))
      (hmeets _ (by simp))
    simp [Step.responseHandlings, Execution.responseHandlings, hcalls]

/-- The body policies have run with the headers of a response that seems to have no body,
or not yet. -/
theorem handlings_processResponseHeaders
    (hreads : ReadsResponse (ec.startResponse server message) position entry)
    (hgood : (ec.processResponseHeaders server message).Undisturbed)
    (hmeets : (ec.processResponseHeaders server message).Meets position) :
    (ec.processResponseHeaders server message).responseHandlings position =
      if (ec.responseAfterHeaders server message).responseHasNoBody then 1 else 0 := by
  unfold processResponseHeaders at hgood hmeets ⊢
  unfold responseAfterHeaders
  generalize ec.startResponse server message = ec at hreads hgood hmeets ⊢
  dsimp only at hgood hmeets ⊢
  split at hgood
  · have hrefused := hgood.1
    simp at hrefused
  · next out hrun =>
    simp only [hrun] at hmeets ⊢
    have hready : ReadsResponse (ec.afterResponseHeaderPolicies server out) position entry :=
      hreads.of_same ⟨rfl, rfl, rfl, rfl⟩
    split at hgood
    · next hinline =>
      rw [if_pos hinline] at hmeets ⊢
      rw [if_pos hinline.2.2]
      exact handlings_processResponseBodyForEmptyResponse hready hgood hmeets
    · next hinline =>
      have hcompletes := hgood.2
      rw [executions_translateResponseHeaderActions, List.forall_mem_singleton] at hcompletes
      have hcompleted : out.shortCircuited = false :=
        Phase.not_shortCircuited hrun fun result hresult =>
          stopsOn_ne_of_none (hcompletes result hresult)
      rw [if_neg hinline, if_neg fun hnoBody => hinline ⟨hcompleted, hready.requires, hnoBody⟩]
      simp [Step.responseHandlings, Execution.responseHandlings]

theorem responseBodyMode_ne_none_iff (hphase : ec.phase = .responseHeaders)
    (hrequires : ec.policyChain.requiresResponseBody = true) :
    ec.getModeOverride.responseBodyMode ≠ .none ↔ ec.responseHasNoBody = false := by
  simp only [getModeOverride, hphase, hrequires, true_and, if_true]
  cases ec.responseHasNoBody with
  | true => simp
  | false =>
    rw [if_neg Bool.false_ne_true]
    refine iff_of_true ?_ rfl
    split <;> simp

/-! ## The response -/

def responseSteps (server : Server World Params Decompressor)
    (ec : PolicyExecutionContext World Params Decompressor) (message : HttpHeaders)
    (bodies : List HttpBody) : List (Step World Params Decompressor) :=
  (ec.processResponseHeaders server message).thenServe
    (fun ec body => ec.processResponseBody server body) bodies

structure AwaitsResponse (entries : List (ChainEntry World Params))
    (ec : PolicyExecutionContext World Params Decompressor) : Prop where
  chain : ec.policyChain = PolicyChain.ofEntries entries
  running : ec.streamTerminated = false

theorem AwaitsResponse.congr
    {ec' : PolicyExecutionContext World Params Decompressor} (hawaits : AwaitsResponse entries ec)
    (hchain : ec'.policyChain = ec.policyChain)
    (hrunning : ec'.streamTerminated = ec.streamTerminated) : AwaitsResponse entries ec' :=
  ⟨hchain.trans hawaits.chain, hrunning.trans hawaits.running⟩

theorem awaits_processRequestHeaders (hawaits : AwaitsResponse entries ec) :
    AwaitsResponse entries (ec.processRequestHeaders server).context := by
  unfold processRequestHeaders processRequestBodyForEmptyRequest afterRequestHeaderPolicies
    translateRequestHeaderActions translateRequestHeaderActionsWithBodyMerge
  dsimp only
  repeat' split
  all_goals exact hawaits.congr rfl rfl

theorem awaits_flushRequestChunk (hawaits : AwaitsResponse entries ec) :
    AwaitsResponse entries (ec.flushRequestChunk server chunk).context := by
  unfold flushRequestChunk
  dsimp only
  split
  all_goals exact hawaits.congr rfl rfl

theorem awaits_processRequestBody (hawaits : AwaitsResponse entries ec) :
    AwaitsResponse entries (ec.processRequestBody server body).context := by
  unfold processRequestBody processStreamingRequestBody feedRequestChunk translateRequestBodyActions
  dsimp only
  repeat' split
  all_goals first
    | exact hawaits.congr rfl rfl
    | exact awaits_flushRequestChunk (hawaits.congr rfl rfl)

/-- The request phases leave the response to come as it is. -/
theorem awaits_requestSteps {apiKind : String} {world : World} :
    ∀ step ∈ requestSteps server (newRequest server entries apiKind message world) bodies,
      AwaitsResponse entries step.context := by
  have hfirst : AwaitsResponse entries
      ((newRequest server entries apiKind message world).processRequestHeaders server).context :=
    awaits_processRequestHeaders ⟨rfl, rfl⟩
  refine List.forall_mem_cons.mpr ⟨hfirst, ?_⟩
  split
  · simp
  · rw [serve]
    refine trace_forall (AwaitsResponse entries) _ (fun ec body hawaits => ?_) hfirst
    exact ⟨awaits_processRequestBody hawaits, awaits_processRequestBody hawaits⟩

theorem running_processResponseHeaders (hrunning : ec.streamTerminated = false) :
    (ec.processResponseHeaders server message).context.streamTerminated = false := by
  unfold processResponseHeaders processResponseBodyForEmptyResponse translateResponseHeaderActions
    translateResponseHeaderActionsWithBodyMerge
  dsimp only
  repeat' split
  all_goals exact hrunning

/-- The engine runs the policy with the body that Envoy sends, and reaches its end. -/
@[mk_iff]
structure HandledWithResponseBody (server : Server World Params Decompressor)
    (ec : PolicyExecutionContext World Params Decompressor) (message : HttpHeaders)
    (entry : ChainEntry World Params) (bodies : List HttpBody) : Prop where
  sent : message.endOfStream = false
  asked : (ec.processResponseHeaders server message).context.responseHasNoBody = false
  announced : (ec.processResponseHeaders server message).Converts server
  handles : (ec.startResponse server message).handlesResponse entry = true
  reached : (responseSteps server ec message bodies).length = bodies.length + 1

instance : Decidable (HandledWithResponseBody server ec message entry bodies) :=
  decidable_of_iff' _ (handledWithResponseBody_iff ..)

def responseReader (action : Option ResponseAction) : ChainEntry Unit Unit where
  spec := plainSpec "response-reader"
  policy :=
    { mode :=
        { requestHeaderMode := .skip, requestBodyMode := .skip
          responseHeaderMode := .skip, responseBodyMode := .buffer }
      responsePolicy := some { onResponseBody := fun _ _ world => (action, world) } }

def readResponse (action : Option ResponseAction) : PolicyExecutionContext Unit Unit Unit :=
  newRequest plainServer [responseReader action] "RestApi" ⟨[(":method", "GET")], true⟩ ()

theorem readResponse_awaits :
    AwaitsResponse [responseReader none]
      ((readResponse none).processRequestHeaders plainServer).context :=
  awaits_requestSteps _
    (show _ ∈ requestSteps plainServer (readResponse none) [] from List.mem_cons_self)

def setsLength : ResponseAction :=
  .modifications { headersToSet := insertAll ∅ [("content-length", "2")] }

end ApiPlatform.PolicyEngine.Kernel
