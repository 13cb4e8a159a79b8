import ApiPlatform.PolicyEngine.Kernel.ResponseBody

/-!
# Announced modes and answers

With the headers of a message the engine tells Envoy how to send the body.  When
the body arrives it decides once more whether to answer chunk by chunk.  Envoy
understands the answers only if the two decisions agree.
-/

namespace ApiPlatform.PolicyEngine.Kernel

open Foundation PolicyExecutionContext ModeOverride ProcessingResponse

variable {streaming : Bool} {bodies : List HttpBody}

variable {World Params Decompressor : Type} {server : Server World Params Decompressor}
  {ec : PolicyExecutionContext World Params Decompressor} {body : HttpBody}

def AnsweredAs (announced : Option BodySendMode)
    (steps : List (Step World Params Decompressor)) : Prop :=
  ∀ step ∈ steps, step.response.isStreamed = true ↔ announced = some .fullDuplexStreamed

/-- The mode of a `ModeOverride`; an answer without one announces nothing. -/
def ProcessingResponse.announces (modeOf : ModeOverride → BodySendMode) :
    ProcessingResponse → Option BodySendMode
  | .headers override => some (modeOf override)
  | _ => none

structure Exchange where
  request : HttpHeaders
  requestBodies : List HttpBody
  response : HttpHeaders
  responseBodies : List HttpBody

section Phases

variable (ec : PolicyExecutionContext World Params Decompressor)
  (server : Server World Params Decompressor) (exchange : Exchange)

def PolicyExecutionContext.beforeResponse : PolicyExecutionContext World Params Decompressor :=
  ((requestSteps server ec exchange.requestBodies).getLast?.map Step.context).getD ec

/-- After an error of the request phases no response is processed. -/
def PolicyExecutionContext.responsePhases : List (Step World Params Decompressor) :=
  if (requestSteps server ec exchange.requestBodies).any (·.response.isError) then []
  else
    responseSteps server (ec.beforeResponse server exchange) exchange.response
      exchange.responseBodies

def PolicyExecutionContext.requestBodySteps : List (Step World Params Decompressor) :=
  (requestSteps server ec exchange.requestBodies).tail

def PolicyExecutionContext.responseBodySteps : List (Step World Params Decompressor) :=
  (ec.responsePhases server exchange).tail

end Phases

/-- Bodies are answered in the mode that was announced with their headers. -/
@[mk_iff answeredAsAnnounced_iff_and]
structure AnsweredAsAnnounced (server : Server World Params Decompressor)
    (ec : PolicyExecutionContext World Params Decompressor) (exchange : Exchange) : Prop where
  request : AnsweredAs ((ec.processRequestHeaders server).response.announces requestBodyMode)
    (ec.requestBodySteps server exchange)
  response : AnsweredAs
    (((ec.beforeResponse server exchange).processResponseHeaders server
      exchange.response).response.announces responseBodyMode)
    (ec.responseBodySteps server exchange)

/-! ## Runs -/

theorem isStreamed_of_answersIn {step : Step World Params Decompressor}
    (hanswers : AnswersIn server streaming ec step) :
    step.response.isStreamed = (step.response.continues && streaming) := by
  cases hcontinues : step.response.continues with
  | true => exact hanswers.streamed hcontinues
  | false =>
    cases hresponse : step.response with
    | immediate answer | panicked | error message => rfl
    | headers override | body | streamed chunk =>
      rw [hresponse] at hcontinues
      cases hcontinues

theorem isStreamed_serve {process : PolicyExecutionContext World Params Decompressor → HttpBody →
      Step World Params Decompressor}
    {flag : PolicyExecutionContext World Params Decompressor → Bool}
    (hprocess : ∀ ec body, flag ec = streaming → AnswersIn server streaming ec (process ec body))
    (hflag : ∀ {ec ec'}, SameModes ec ec' → flag ec' = flag ec) (hstart : flag ec = streaming) :
    ∀ step ∈ serve process ec bodies,
      step.response.isStreamed = (step.response.continues && streaming) := by
  refine trace_forall (fun ec => flag ec = streaming) _ (fun ec body hec => ?_) hstart
  have hanswers := hprocess ec body hec
  exact ⟨isStreamed_of_answersIn hanswers, (hflag hanswers.same).trans hec⟩

theorem sameModes_requestSteps :
    ∀ step ∈ requestSteps server ec bodies, SameModes ec step.context := by
  have hheaders := (announces_processRequestHeaders server ec).same
  have hfirst : SameModes ec (ec.processRequestHeaders server).context :=
    ⟨hheaders.policyChain, hheaders.apiKind, hheaders.isStreamingRequest,
      hheaders.isStreamingResponse⟩
  refine List.forall_mem_cons.mpr ⟨hfirst, ?_⟩
  split
  · simp
  · rw [serve]
    refine trace_forall (SameModes ec) _ (fun current body hsame => ?_) hfirst
    have hnext : SameModes ec (current.processRequestBody server body).context :=
      hsame.trans (answersIn_processRequestBody rfl).same
    exact ⟨hnext, hnext⟩

/-- The chain can stream responses and this one looks like a stream. -/
def streamsResponse (server : Server World Params Decompressor) (chain : PolicyChain World Params)
    (message : HttpHeaders) : Bool :=
  chain.supportsResponseStreaming && !message.endOfStream &&
    isStreamingMessage (newHeaders (server.executor.rangeOrder .newHeaders)
      (collectHeaders message.headers))

section Decisions

variable {entries : List (ChainEntry World Params)}

theorem requestBodyMode_iff (hchain : ec.policyChain = .ofEntries entries)
    (hsupports : ec.isStreamingRequest = true → ec.policyChain.supportsRequestStreaming = true) :
    ec.getModeOverride.requestBodyMode = .fullDuplexStreamed ↔ ec.isStreamingRequest = true := by
  have hrequires : ec.isStreamingRequest = true → ec.policyChain.requiresRequestBody = true := by
    intro hstreaming
    have hboth := hsupports hstreaming
    rw [hchain] at hboth ⊢
    exact (Bool.and_eq_true_iff.mp hboth).2
  simp only [getModeOverride]
  split
  · split <;> simp_all
  next hnone => exact iff_of_false (by decide) (mt hrequires hnone)

theorem responseBodyMode_iff (hsends : ec.getModeOverride.responseBodyMode ≠ .none) :
    ec.getModeOverride.responseBodyMode = .fullDuplexStreamed ↔
      ec.isStreamingResponse = true ∧ ec.apiKind ≠ "Mcp" := by
  simp only [getModeOverride] at hsends ⊢
  by_cases hbodyless : ec.phase = .responseHeaders ∧ ec.responseHasNoBody = true
  · exact absurd (if_pos hbodyless) hsends
  rw [if_neg hbodyless] at hsends ⊢
  by_cases hrequires : ec.policyChain.requiresResponseBody = true
  · rw [if_pos hrequires]
    by_cases hstreams : ec.isStreamingResponse = true ∧ ec.apiKind ≠ "Mcp"
    · exact ⟨fun _ => hstreams, fun _ => if_pos hstreams⟩
    · rw [if_neg hstreams]
      exact iff_of_false (by decide) hstreams
  · exact absurd (if_neg hrequires) hsends

theorem answeredAs_iff {first : Step World Params Decompressor}
    {process : PolicyExecutionContext World Params Decompressor → HttpBody →
      Step World Params Decompressor}
    {modeOf : ModeOverride → BodySendMode} {ended : Bool} (agrees : Prop)
    (hsends : EnvoySends ended modeOf first.response bodies)
    (hstreamed : ∀ step ∈ serve process first.context bodies,
      step.response.isStreamed = (step.response.continues && streaming))
    (hmode : ∀ override, first.response = .headers override → modeOf override ≠ .none →
      (modeOf override = .fullDuplexStreamed ↔ streaming = true ∧ agrees)) :
    AnsweredAs (first.response.announces modeOf) (first.thenServe process bodies).tail ↔
      (streaming = true → ∀ step ∈ (first.thenServe process bodies).tail,
        (step.response.continues = true ↔ agrees)) := by
  have hsteps : ∀ step ∈ (first.thenServe process bodies).tail,
      step.response.isStreamed = (step.response.continues && streaming) ∧
        (first.response.announces modeOf = some .fullDuplexStreamed ↔
          streaming = true ∧ agrees) := by
    intro step hstep
    rw [Step.thenServe, List.tail_cons] at hstep
    split at hstep
    · cases hstep
    · refine ⟨hstreamed step hstep, ?_⟩
      have hsent : bodies ≠ [] := by
        rintro rfl
        cases hstep
      cases hfirst : first.response with
      | headers override =>
        rw [hfirst] at hsends
        rw [announces, Option.some.injEq]
        exact hmode override hfirst (hsends.sent_iff.mp hsent).2
      | body | streamed chunk | immediate answer | panicked | error message =>
        rw [hfirst] at hsends
        exact absurd hsends hsent
  constructor
  · intro hanswered hstreaming step hstep
    have hagrees := hanswered step hstep
    rw [(hsteps step hstep).1, (hsteps step hstep).2] at hagrees
    simpa [hstreaming] using hagrees
  · intro hagrees step hstep
    rw [(hsteps step hstep).1, (hsteps step hstep).2, Bool.and_eq_true, and_comm]
    exact and_congr_right fun hstreaming => hagrees hstreaming step hstep

theorem answeredAs_request_iff {apiKind : String} {message : HttpHeaders} {world : World}
    (hsends : EnvoySends message.endOfStream requestBodyMode
      ((newRequest server entries apiKind message world).processRequestHeaders server).response
      bodies) :
    AnsweredAs
      (((newRequest server entries apiKind message world).processRequestHeaders
        server).response.announces requestBodyMode)
      (requestSteps server (newRequest server entries apiKind message world) bodies).tail ↔
    ((newRequest server entries apiKind message world).isStreamingRequest = true →
      ∀ step ∈ (requestSteps server (newRequest server entries apiKind message world)
        bodies).tail, step.response.continues = true) := by
  set ec := newRequest server entries apiKind message world with hec
  have hannounces := announces_processRequestHeaders server ec
  have hsame : SameModes ec (ec.processRequestHeaders server).context :=
    sameModes_requestSteps _ (show _ ∈ requestSteps server ec [] from List.mem_cons_self)
  have hsupports : (ec.processRequestHeaders server).context.isStreamingRequest = true →
      (ec.processRequestHeaders server).context.policyChain.supportsRequestStreaming = true := by
    intro hstreaming
    rw [hsame.isStreamingRequest] at hstreaming
    rw [hsame.policyChain]
    exact (Bool.and_eq_true_iff.mp hstreaming).1
  have hchain : (ec.processRequestHeaders server).context.policyChain = .ofEntries entries :=
    hsame.policyChain
  have hmode := requestBodyMode_iff hchain hsupports
  rw [requestSteps, answeredAs_iff True hsends (isStreamed_serve
    (fun _ _ hec => answersIn_processRequestBody hec) SameModes.isStreamingRequest
    hsame.isStreamingRequest)]
  · simp only [iff_true]
  · intro override hresponse _
    have hcontinues : (ec.processRequestHeaders server).response.continues = true := by
      rw [hresponse]
      rfl
    obtain rfl := ProcessingResponse.headers.inj
      (hresponse.symm.trans (hannounces.response hcontinues))
    rw [hmode, hsame.isStreamingRequest, and_true]

theorem sameModes_beforeResponse (server : Server World Params Decompressor)
    (ec : PolicyExecutionContext World Params Decompressor) (exchange : Exchange) :
    SameModes ec (ec.beforeResponse server exchange) := by
  unfold beforeResponse
  cases hlast : (requestSteps server ec exchange.requestBodies).getLast? with
  | none => exact .refl ec
  | some step => exact sameModes_requestSteps step (List.mem_of_getLast? hlast)

theorem isStreamingResponse_startResponse (hstart : ec.isStreamingResponse = false)
    (message : HttpHeaders) :
    (ec.startResponse server message).isStreamingResponse =
      streamsResponse server ec.policyChain message := by
  show (ec.isStreamingResponse || _) = _
  rw [hstart, Bool.false_or]
  rfl

theorem answeredAs_response_iff {message : HttpHeaders} (hstart : ec.isStreamingResponse = false)
    (hsends : EnvoySends message.endOfStream responseBodyMode
      (ec.processResponseHeaders server message).response bodies) :
    AnsweredAs
      ((ec.processResponseHeaders server message).response.announces responseBodyMode)
      (responseSteps server ec message bodies).tail ↔
      (streamsResponse server ec.policyChain message = true →
        ∀ step ∈ (responseSteps server ec message bodies).tail,
          (step.response.continues = true ↔ ec.apiKind ≠ "Mcp")) := by
  have hannounces := announces_processResponseHeaders server ec message
  have hstreaming : (ec.processResponseHeaders server message).context.isStreamingResponse =
      streamsResponse server ec.policyChain message :=
    hannounces.same.isStreamingResponse.trans (isStreamingResponse_startResponse hstart message)
  have hkind : (ec.processResponseHeaders server message).context.apiKind = ec.apiKind :=
    hannounces.same.apiKind
  rw [responseSteps, answeredAs_iff (ec.apiKind ≠ "Mcp") hsends (isStreamed_serve
    (fun _ _ hec => answersIn_processResponseBody hec) SameModes.isStreamingResponse hstreaming)]
  intro override hresponse hsent
  have hcontinues : (ec.processResponseHeaders server message).response.continues = true := by
    rw [hresponse]
    rfl
  obtain rfl := ProcessingResponse.headers.inj
    (hresponse.symm.trans (hannounces.response hcontinues))
  rw [responseBodyMode_iff hsent, hstreaming, hkind]

end Decisions

/-! ## A stream of events -/

def eventStream (bodies : List HttpBody) : Exchange :=
  { request := { headers := [(":method", "GET")], endOfStream := true }
    requestBodies := []
    response :=
      { headers := [(":status", "200"), ("content-type", "text/event-stream")]
        endOfStream := false }
    responseBodies := bodies }

def lineRequest (apiKind : String) : PolicyExecutionContext Unit Unit Unit :=
  newRequest plainServer [lineReader fun _ => .forward none] apiKind
    { headers := [(":method", "GET")], endOfStream := true } ()

def lineResponse (apiKind : String) (bodies : List HttpBody) : Step Unit Unit Unit :=
  ((lineRequest apiKind).beforeResponse plainServer (eventStream bodies)).processResponseHeaders
    plainServer (eventStream bodies).response

end ApiPlatform.PolicyEngine.Kernel
