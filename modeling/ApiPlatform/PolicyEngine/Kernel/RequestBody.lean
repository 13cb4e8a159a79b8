import ApiPlatform.PolicyEngine.Kernel.Streaming

/-!
# The request body is handled once

Envoy sends the body of a message after its headers unless the headers ended the
stream or the engine has switched the body off.  The engine guesses from the
method, the status and the headers whether a body follows, and runs the body
policies together with the headers when it expects none.  A policy handles the
body once when the guess and Envoy agree.
-/

namespace ApiPlatform.PolicyEngine.Kernel

open Foundation PolicyExecutionContext

variable {bodies : List HttpBody} {modeOf : ModeOverride → BodySendMode} {override : ModeOverride}

variable {World Params Decompressor : Type}

/-! ## Envoy -/

/-- The body messages that follow the answer to the headers.  A buffered body is one
message; the last message of a body, and only that one, ends the stream. -/
def EnvoySends (endOfStream : Bool) (modeOf : ModeOverride → BodySendMode)
    (response : ProcessingResponse) (bodies : List HttpBody) : Prop :=
  match response with
  | .headers override =>
    if endOfStream then bodies = []
    else
      match modeOf override with
      | .none => bodies = []
      | .buffered => ∃ content, bodies = [⟨content, true⟩]
      | .fullDuplexStreamed => EndsOnce (bodies.map HttpBody.endOfStream)
  | _ => bodies = []

namespace Execution

/-- How often the policy at the position has handled a whole request body: a streaming
policy has done so when it is called with the end of the stream. -/
def requestHandlings (position : Nat) : Execution → Nat
  | .requestBody results => executionsAt position results
  | .requestChunk chunk results =>
    if chunk.endOfStream then executionsAt position results else 0
  | _ => 0

def responseHandlings (position : Nat) : Execution → Nat
  | .responseBody results => executionsAt position results
  | .responseChunk chunk results =>
    if chunk.endOfStream then executionsAt position results else 0
  | _ => 0

end Execution

namespace Step

def requestHandlings (position : Nat) (step : Step World Params Decompressor) : Nat :=
  (step.executions.map (Execution.requestHandlings position)).sum

def responseHandlings (position : Nat) (step : Step World Params Decompressor) : Nat :=
  (step.executions.map (Execution.responseHandlings position)).sum

/-- The condition of the policy at the position holds wherever it is evaluated. -/
def Meets (position : Nat) (step : Step World Params Decompressor) : Prop :=
  ∀ execution ∈ step.executions, execution.Meets position

end Step

/-- No policy of the step ends its loop. -/
def Execution.Completes : Execution → Prop
  | .requestHeaders results =>
    ∀ result ∈ results, result.action.any RequestHeaderAction.isImmediate = false
  | .requestBody results =>
    ∀ result ∈ results, result.action.any RequestAction.stopExecution = false
  | .requestChunk _ _ => True
  | .responseHeaders results =>
    ∀ result ∈ results, result.action.any ResponseHeaderAction.isImmediate = false
  | .responseBody results =>
    ∀ result ∈ results, result.action.any ResponseAction.stopExecution = false
  | .responseChunk _ results =>
    ∀ result ∈ results, result.action.any StreamingResponseAction.terminateStream = false

instance : DecidablePred Execution.Completes
  | .requestHeaders _ | .requestBody _ | .responseHeaders _ | .responseBody _
  | .responseChunk _ _ => inferInstanceAs (Decidable (∀ _ ∈ _, _))
  | .requestChunk _ _ => isTrue trivial

/-- No policy short-circuits and none fails. -/
def Step.Undisturbed (step : Step World Params Decompressor) : Prop :=
  step.response.isRefusal = false ∧ ∀ execution ∈ step.executions, execution.Completes

instance (step : Step World Params Decompressor) : Decidable step.Undisturbed :=
  inferInstanceAs (Decidable (step.response.isRefusal = false ∧
    ∀ execution ∈ step.executions, execution.Completes))

/-- The body messages of a run: those up to the first error, of which only the last can
handle a streamed body as a whole. -/
theorem sum_handlings {streaming : Bool} {handled count : Nat}
    (hends : EndsOnce (bodies.map HttpBody.endOfStream))
    (hsingle : streaming = false → bodies.length = 1)
    (hpositive : 0 < count) (hcount : count ≤ bodies.length) :
    ((bodies.take count).map fun body =>
        if streaming && !body.endOfStream then 0 else handled).sum =
      if count = bodies.length then handled else 0 := by
  obtain ⟨init, last, rfl, hlast, hinit⟩ := hends.exists_last
  have hzero : ∀ part, part <+: init →
      (part.map fun body => if (true && !body.endOfStream) = true then 0 else handled).sum =
        0 := by
    intro part hpart
    refine List.sum_eq_zero fun number hnumber => ?_
    obtain ⟨body, hbody, rfl⟩ := List.mem_map.mp hnumber
    simp [hinit body (hpart.subset hbody)]
  cases streaming with
  | false =>
    obtain rfl : init = [] := by simpa using hsingle rfl
    obtain rfl : count = 1 := by
      simp only [List.nil_append, List.length_singleton] at hcount
      omega
    simp
  | true =>
    split
    · next hall =>
      rw [hall, List.take_length, List.map_append, List.sum_append, hzero init List.prefix_rfl]
      simp [hlast]
    · next hearly =>
      rw [List.take_append_of_le_length]
      · exact hzero _ (List.take_prefix _ _)
      · rw [List.length_append, List.length_singleton] at hcount hearly
        omega

theorem sum_thenServe (first : Step World Params Decompressor)
    (process : PolicyExecutionContext World Params Decompressor → HttpBody →
      Step World Params Decompressor)
    (count : Step World Params Decompressor → Nat) (streaming : Bool) (handled : Nat)
    (hbodies : first.response.isError = false →
      (serve process first.context bodies).map count =
        (bodies.take (serve process first.context bodies).length).map fun body =>
          if streaming && !body.endOfStream then 0 else handled)
    (hends : first.response.isError = false → bodies ≠ [] →
      EndsOnce (bodies.map HttpBody.endOfStream) ∧ (streaming = false → bodies.length = 1)) :
    ((first.thenServe process bodies).map count).sum = count first +
      if first.response.isError = false ∧ bodies ≠ [] ∧
          (first.thenServe process bodies).length = bodies.length + 1 then handled else 0 := by
  unfold Step.thenServe
  rw [List.map_cons, List.sum_cons, List.length_cons]
  congr 1
  cases herror : first.response.isError with
  | true => simp
  | false =>
    simp only [Bool.false_eq_true, if_false, true_and, Nat.succ_inj]
    rw [hbodies herror]
    cases bodies with
    | nil => simp
    | cons body rest =>
      obtain ⟨honce, hsingle⟩ := hends herror (List.cons_ne_nil _ _)
      have hpositive : 0 < (serve process first.context (body :: rest)).length := Nat.succ_pos _
      rw [sum_handlings honce hsingle hpositive (length_trace_le _ _)]
      simp

theorem EnvoySends.sent_iff {ended : Bool}
    (hsends : EnvoySends ended modeOf (.headers override) bodies) :
    bodies ≠ [] ↔ ended = false ∧ modeOf override ≠ .none := by
  cases ended with
  | true => simpa [EnvoySends] using hsends
  | false =>
    cases hmode : modeOf override with
    | none => simpa [EnvoySends, hmode] using hsends
    | buffered =>
      obtain ⟨content, rfl⟩ : ∃ content, bodies = [⟨content, true⟩] := by
        simpa [EnvoySends, hmode] using hsends
      simp
    | fullDuplexStreamed =>
      have hends : EndsOnce (bodies.map HttpBody.endOfStream) := by
        simpa [EnvoySends, hmode] using hsends
      obtain ⟨init, last, rfl, -, -⟩ := hends.exists_last
      simp

theorem EnvoySends.ends_of_sent {ended streaming : Bool}
    (hsends : EnvoySends ended modeOf (.headers override) bodies)
    (hstreamed : modeOf override = .fullDuplexStreamed → streaming = true) (hsent : bodies ≠ []) :
    EndsOnce (bodies.map HttpBody.endOfStream) ∧ (streaming = false → bodies.length = 1) := by
  obtain ⟨rfl, hmode⟩ := hsends.sent_iff.mp hsent
  cases hannounced : modeOf override with
  | none => exact absurd hannounced hmode
  | buffered =>
    obtain ⟨content, rfl⟩ : ∃ content, bodies = [⟨content, true⟩] := by
      simpa [EnvoySends, hannounced] using hsends
    exact ⟨⟨0, rfl⟩, fun _ => rfl⟩
  | fullDuplexStreamed =>
    refine ⟨by simpa [EnvoySends, hannounced] using hsends, fun hbuffered => ?_⟩
    cases (hstreamed hannounced).symm.trans hbuffered

/-! ## The request -/

section Request

variable {server : Server World Params Decompressor}
  {ec : PolicyExecutionContext World Params Decompressor} {body : HttpBody} {position : Nat}
  {entry : ChainEntry World Params}

/-- The policy at the position is for request bodies. -/
structure ReadsRequest (ec : PolicyExecutionContext World Params Decompressor) (position : Nat)
    (entry : ChainEntry World Params) : Prop where
  placed : ec.policyChain.entries[position]? = some entry
  mode : entry.policy.mode.requestBodyMode ≠ .skip

theorem ReadsRequest.of_same {ec' : PolicyExecutionContext World Params Decompressor}
    (hreads : ReadsRequest ec position entry) (hsame : SameModes ec ec') :
    ReadsRequest ec' position entry where
  placed := hsame.policyChain ▸ hreads.placed
  mode := hreads.mode

/-- The policy is called with the messages of a request body: the streaming executor goes by
the mode, the other one by the interface, and only if the chain requires the body. -/
def PolicyExecutionContext.handlesRequest (ec : PolicyExecutionContext World Params Decompressor)
    (entry : ChainEntry World Params) : Bool :=
  if ec.isStreamingRequest then streamingRequestPhase.participates entry
  else ec.policyChain.requiresRequestBody && entry.policy.requestPolicy.isSome

theorem handlesRequest_of_same {ec' : PolicyExecutionContext World Params Decompressor}
    (hsame : SameModes ec ec') : ec'.handlesRequest entry = ec.handlesRequest entry := by
  rw [handlesRequest, hsame.isStreamingRequest, hsame.policyChain, handlesRequest]

@[simp] theorem executions_translateRequestBodyActions
    (out : ExecutionResult World RequestContext RequestAction) :
    (ec.translateRequestBodyActions server out).executions = [.requestBody out.results] := by
  unfold translateRequestBodyActions
  split <;> rfl

@[simp] theorem executions_translateRequestHeaderActions
    (out : ExecutionResult World RequestHeaderContext RequestHeaderAction) :
    (ec.translateRequestHeaderActions server out).executions = [.requestHeaders out.results] := by
  unfold translateRequestHeaderActions
  dsimp only
  split <;> rfl

@[simp] theorem executions_translateRequestHeaderActionsWithBodyMerge
    (headerResults : List (PolicyResult RequestHeaderContext RequestHeaderAction))
    (out : ExecutionResult World RequestContext RequestAction) :
    (ec.translateRequestHeaderActionsWithBodyMerge server headerResults out).executions =
      [.requestHeaders headerResults, .requestBody out.results] := by
  unfold translateRequestHeaderActionsWithBodyMerge
  dsimp only
  split <;> rfl

section Handlings

variable (hreads : ReadsRequest ec position entry)
include hreads

theorem handlings_of_executeRequestPolicies {context : RequestContext} {world : World}
    {executor : ChainExecutor World Params}
    {out : ExecutionResult World RequestContext RequestAction}
    (hrun : executeRequestPolicies executor ec.policyChain context world = .ok out)
    (hcompletes : (Execution.requestBody out.results).Completes)
    (hmeets : (Execution.requestBody out.results).Meets position) :
    executionsAt position out.results = entry.policy.requestPolicy.isSome.toNat := by
  have hcompleted : out.shortCircuited = false :=
    Phase.not_shortCircuited hrun fun result hresult =>
      stopsOn_ne_of_none (hcompletes result hresult)
  have hparticipates : requestPhase.participates entry = entry.policy.requestPolicy.isSome := by
    simp [Phase.participates, requestPhase, hreads.mode]
  rw [executionsAt_of_completed (List.Perm.refl _) hrun hcompleted hreads.placed hmeets,
    hparticipates]
  cases entry.policy.requestPolicy.isSome <;> rfl

theorem handlings_flushRequestChunk {chunk : StreamBody}
    (hpolicies : (ec.flushRequestChunk server chunk).response.isRefusal = false)
    (hmeets : (ec.flushRequestChunk server chunk).Meets position) :
    (ec.flushRequestChunk server chunk).requestHandlings position =
      if chunk.endOfStream then (streamingRequestPhase.participates entry).toNat else 0 := by
  obtain ⟨out, bodyCtx, hrun, hstep⟩ := flushRequestChunk_ok hpolicies
  rw [hstep] at hmeets ⊢
  have hcompleted := Phase.not_shortCircuited hrun fun _ _ => stopsOn_ne_of_none (by simp)
  have hcalls := executionsAt_of_completed (List.Perm.refl _) hrun hcompleted hreads.placed
    (hmeets _ List.mem_cons_self)
  simp [Step.requestHandlings, translateStreamingRequestChunkAction, translated,
    Execution.requestHandlings, hcalls, Bool.toNat, Bool.cond_eq_ite]

theorem handlings_processStreamingRequestBody
    (hpolicies : (ec.processStreamingRequestBody server body).response.isRefusal = false)
    (hmeets : (ec.processStreamingRequestBody server body).Meets position) :
    (ec.processStreamingRequestBody server body).requestHandlings position =
      if body.endOfStream then (streamingRequestPhase.participates entry).toNat else 0 := by
  unfold processStreamingRequestBody at hpolicies hmeets ⊢
  split at hpolicies
  · next hencoded =>
    rw [if_pos hencoded] at hmeets ⊢
    dsimp only at hpolicies hmeets ⊢
    split at hpolicies
    · next hempty =>
      rw [if_pos hempty]
      simp [Step.requestHandlings, suppress, hempty.2]
    · next hchunk =>
      rw [if_neg hchunk] at hmeets ⊢
      exact handlings_flushRequestChunk (hreads.of_same sameModes_feedRequestChunk) hpolicies hmeets
  · next hplain =>
    rw [if_neg hplain] at hmeets ⊢
    dsimp only at hpolicies hmeets ⊢
    split at hpolicies
    · next hwaits => simp [Step.requestHandlings, suppress, waitsForMore_true hwaits]
    · next hwaits =>
      rw [hwaits] at hmeets
      refine handlings_flushRequestChunk (hreads.of_same ?_) hpolicies hmeets
      exact ⟨rfl, rfl, rfl, rfl⟩

theorem handlings_processRequestBody
    (hgood : (ec.processRequestBody server body).Undisturbed)
    (hmeets : (ec.processRequestBody server body).Meets position) :
    (ec.processRequestBody server body).requestHandlings position =
      if ec.isStreamingRequest && !body.endOfStream then 0
      else (ec.handlesRequest entry).toNat := by
  obtain ⟨hpolicies, hcompletes⟩ := hgood
  unfold handlesRequest
  unfold processRequestBody at hpolicies hcompletes hmeets ⊢
  dsimp only at hpolicies hcompletes hmeets ⊢
  by_cases hstreaming : ec.isStreamingRequest = true
  · rw [if_pos hstreaming] at hpolicies hmeets ⊢
    have hready : ReadsRequest { ec with phase := .requestBody } position entry :=
      hreads.of_same ⟨rfl, rfl, rfl, rfl⟩
    rw [handlings_processStreamingRequestBody hready hpolicies hmeets, hstreaming]
    cases body.endOfStream <;> rfl
  · rw [if_neg hstreaming] at hpolicies hcompletes hmeets ⊢
    by_cases hrequires : ec.policyChain.requiresRequestBody = true
    · rw [if_pos hrequires] at hpolicies hcompletes hmeets ⊢
      split at hpolicies
      · simp at hpolicies
      · next out hrun =>
        simp only [hrun] at hcompletes hmeets ⊢
        rw [executions_translateRequestBodyActions, List.forall_mem_singleton] at hcompletes
        have hcalls := handlings_of_executeRequestPolicies hreads hrun hcompletes
          (hmeets _ (by simp))
        simp [Step.requestHandlings, Execution.requestHandlings, hcalls, hstreaming, hrequires]
    · rw [if_neg hrequires]
      simp [Step.requestHandlings, hstreaming, hrequires]

end Handlings

def PolicyExecutionContext.requestAfterHeaders
    (ec : PolicyExecutionContext World Params Decompressor)
    (server : Server World Params Decompressor) :
    PolicyExecutionContext World Params Decompressor :=
  match executeRequestHeaderPolicies server.executor ec.policyChain ec.requestHeaderCtx
      ec.world with
  | .ok out => { ec with phase := .requestHeaders }.afterRequestHeaderPolicies server out
  | .error _ => ec

theorem handlings_processRequestBodyForEmptyRequest (hreads : ReadsRequest ec position entry)
    {headerResults : List (PolicyResult RequestHeaderContext RequestHeaderAction)}
    (hgood : (ec.processRequestBodyForEmptyRequest server headerResults).Undisturbed)
    (hmeets : (ec.processRequestBodyForEmptyRequest server headerResults).Meets position) :
    (ec.processRequestBodyForEmptyRequest server headerResults).requestHandlings position =
      entry.policy.requestPolicy.isSome.toNat := by
  obtain ⟨hpolicies, hcompletes⟩ := hgood
  unfold processRequestBodyForEmptyRequest at hpolicies hcompletes hmeets ⊢
  dsimp only at hpolicies hcompletes hmeets ⊢
  split at hpolicies
  · simp at hpolicies
  · next out hrun =>
    simp only [hrun] at hcompletes hmeets ⊢
    have hcalls := handlings_of_executeRequestPolicies hreads hrun (hcompletes _ (by simp))
      (hmeets _ (by simp))
    simp [Step.requestHandlings, Execution.requestHandlings, hcalls]

theorem handlings_processRequestHeaders (hreads : ReadsRequest ec position entry)
    (hgood : (ec.processRequestHeaders server).Undisturbed)
    (hmeets : (ec.processRequestHeaders server).Meets position) :
    (ec.processRequestHeaders server).requestHandlings position =
      if ec.policyChain.requiresRequestBody = true ∧
          (ec.requestAfterHeaders server).requestHasNoBody = true then
        entry.policy.requestPolicy.isSome.toNat
      else 0 := by
  unfold requestAfterHeaders
  unfold processRequestHeaders at hgood hmeets ⊢
  have hphase : SameModes ec { ec with phase := .requestHeaders } := ⟨rfl, rfl, rfl, rfl⟩
  cases hrun : executeRequestHeaderPolicies server.executor ec.policyChain ec.requestHeaderCtx
      ec.world with
  | error problem =>
    have hrefused := hgood.1
    simp [hrun] at hrefused
  | ok out =>
    simp only [hrun] at hgood hmeets ⊢
    have hsame := hphase.trans
      (sameModes_afterRequestHeaderPolicies server { ec with phase := .requestHeaders } out).1
    split at hgood
    · next hinline =>
      rw [if_pos hinline] at hmeets ⊢
      rw [if_pos ⟨hsame.policyChain ▸ hinline.2.1, hinline.2.2⟩]
      exact handlings_processRequestBodyForEmptyRequest (hreads.of_same hsame) hgood hmeets
    · next hinline =>
      rw [if_neg hinline]
      have hcompletes := hgood.2
      rw [executions_translateRequestHeaderActions, List.forall_mem_singleton] at hcompletes
      have hcompleted : out.shortCircuited = false :=
        Phase.not_shortCircuited hrun fun result hresult =>
          stopsOn_ne_of_none (hcompletes result hresult)
      rw [if_neg fun hbodyless => hinline
        ⟨hcompleted, hsame.policyChain.symm ▸ hbodyless.1, hbodyless.2⟩]
      simp [Step.requestHandlings, Execution.requestHandlings]

/-- The steps of a request: its headers, and the body messages that follow. -/
def requestSteps (server : Server World Params Decompressor)
    (ec : PolicyExecutionContext World Params Decompressor) (bodies : List HttpBody) :
    List (Step World Params Decompressor) :=
  (ec.processRequestHeaders server).thenServe (fun ec body => ec.processRequestBody server body)
    bodies

theorem requestHasNoBody_requestAfterHeaders :
    (ec.requestAfterHeaders server).requestHasNoBody =
      (ec.requestBodyCtx.body.any (·.endOfStream) ||
        saysNoBody (ec.requestAfterHeaders server).requestHeaderCtx) := by
  unfold requestAfterHeaders
  split
  · unfold requestHasNoBody afterRequestHeaderPolicies
    split <;> rfl
  · rfl

theorem handlings_requestBodies (hreads : ReadsRequest ec position entry)
    (hgood : ∀ step ∈ serve (fun ec body => ec.processRequestBody server body) ec bodies,
      step.Undisturbed ∧ step.Meets position) :
    (serve (fun ec body => ec.processRequestBody server body) ec bodies).map
        (Step.requestHandlings position) =
      (bodies.take (serve (fun ec body => ec.processRequestBody server body) ec
        bodies).length).map fun body =>
          if ec.isStreamingRequest && !body.endOfStream then 0
          else (ec.handlesRequest entry).toNat := by
  refine trace_map ?_ (SameModes.refl ec) hgood
  intro current body hsame hgood
  refine ⟨?_, hsame.trans (answersIn_processRequestBody rfl).same⟩
  rw [handlings_processRequestBody (hreads.of_same hsame) hgood.1 hgood.2, hsame.isStreamingRequest,
    handlesRequest_of_same hsame]

def newRequest (server : Server World Params Decompressor)
    (entries : List (ChainEntry World Params)) (apiKind : String) (message : HttpHeaders)
    (world : World) : PolicyExecutionContext World Params Decompressor :=
  buildRequestContexts server (PolicyChain.ofEntries entries) apiKind message world

/-- The engine runs the policy with the headers, for a request that looks bodyless. -/
@[mk_iff]
structure HandledWithHeaders (server : Server World Params Decompressor)
    (ec : PolicyExecutionContext World Params Decompressor) (endOfStream : Bool)
    (entry : ChainEntry World Params) : Prop where
  requires : ec.policyChain.requiresRequestBody = true
  handler : entry.policy.requestPolicy.isSome = true
  bodyless : endOfStream = true ∨
    saysNoBody (ec.requestAfterHeaders server).requestHeaderCtx = true

/-- The engine runs the policy with the body that Envoy sends, and reaches its end. -/
@[mk_iff]
structure HandledWithBody (server : Server World Params Decompressor)
    (ec : PolicyExecutionContext World Params Decompressor) (endOfStream : Bool)
    (entry : ChainEntry World Params) (bodies : List HttpBody) : Prop where
  sent : endOfStream = false
  announced : (ec.processRequestHeaders server).Converts server
  handles : ec.handlesRequest entry = true
  reached : (requestSteps server ec bodies).length = bodies.length + 1

instance (ended : Bool) : Decidable (HandledWithHeaders server ec ended entry) :=
  decidable_of_iff' _ (handledWithHeaders_iff ..)

instance (ended : Bool) : Decidable (HandledWithBody server ec ended entry bodies) :=
  decidable_of_iff' _ (handledWithBody_iff ..)

theorem requiresRequestBody_of_handles {entries : List (ChainEntry World Params)}
    (hchain : ec.policyChain = PolicyChain.ofEntries entries) (hmem : entry ∈ entries)
    (hhandles : ec.handlesRequest entry = true) : ec.policyChain.requiresRequestBody = true := by
  unfold handlesRequest at hhandles
  split at hhandles
  · have hmode : entry.policy.mode.requestBodyMode = .stream := by
      by_contra hother
      simp [Phase.participates, streamingRequestPhase, hother] at hhandles
    rw [hchain]
    exact PolicyChain.requiresRequestBody_of_mem hmem (by rw [hmode]; rfl)
  · exact (Bool.and_eq_true_iff.mp hhandles).1

theorem handlings_headers (hreads : ReadsRequest ec position entry)
    (hgood : (ec.processRequestHeaders server).Undisturbed)
    (hmeets : (ec.processRequestHeaders server).Meets position) {ended : Bool}
    (hended : ec.requestBodyCtx.body.any (·.endOfStream) = ended) :
    (ec.processRequestHeaders server).requestHandlings position =
      if HandledWithHeaders server ec ended entry then 1 else 0 := by
  rw [handlings_processRequestHeaders hreads hgood hmeets, requestHasNoBody_requestAfterHeaders,
    hended]
  simp only [handledWithHeaders_iff, Bool.or_eq_true]
  cases entry.policy.requestPolicy.isSome <;> simp

end Request

instance (position : Nat) (execution : Execution) : Decidable (execution.Meets position) :=
  match execution with
  | .requestBody results | .requestChunk _ results => inferInstanceAs (Decidable
      (∀ result ∈ results, result.position = position → result.skipped = false))
  | .responseBody results | .responseChunk _ results => inferInstanceAs (Decidable
      (∀ result ∈ results, result.position = position → result.skipped = false))
  | .requestHeaders _ | .responseHeaders _ => isTrue trivial

instance (position : Nat) (step : Step World Params Decompressor) :
    Decidable (step.Meets position) :=
  inferInstanceAs (Decidable (∀ execution ∈ step.executions, execution.Meets position))

def requestReader : ChainEntry Unit Unit where
  spec := plainSpec "request-reader"
  policy :=
    { mode :=
        { requestHeaderMode := .skip, requestBodyMode := .buffer
          responseHeaderMode := .skip, responseBodyMode := .skip }
      requestPolicy := some { onRequestBody := fun _ _ world => (none, world) } }

def readRequest (method : String) : PolicyExecutionContext Unit Unit Unit :=
  newRequest plainServer [requestReader] "RestApi" ⟨[(":method", method)], false⟩ ()

end ApiPlatform.PolicyEngine.Kernel
