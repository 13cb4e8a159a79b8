import ApiPlatform.PolicyEngine.Kernel.ExecutionContext

/-!
# What the steps keep

No step changes the chain, the kind of the API or how bodies are answered, headers are
answered with the modes of the context that is left, and a step ends in an error exactly
when its analytics data cannot be converted.
-/

namespace ApiPlatform.PolicyEngine.Kernel

open Foundation PolicyExecutionContext ProcessingResponse

variable {World Params Decompressor : Type} {server : Server World Params Decompressor}
  {ec ec' : PolicyExecutionContext World Params Decompressor} {body : HttpBody} {streaming : Bool}
  {step : Step World Params Decompressor}

def ProcessingResponse.isStreamed : ProcessingResponse → Bool
  | .streamed _ => true
  | _ => false

theorem continues_of_answered {response : ProcessingResponse}
    (hpolicies : response.isRefusal = false)
    (hanswered : response.isError = false) : response.continues = true := by
  cases response with
  | headers override | body | streamed chunk => rfl
  | immediate answer | panicked => cases hpolicies
  | error message => cases hanswered

theorem not_continues_of_isError {response : ProcessingResponse}
    (herror : response.isError = true) :
    response.continues = false := by
  cases response with
  | error message => rfl
  | headers override | body | streamed chunk | immediate answer | panicked => cases herror

def Step.Converts (server : Server World Params Decompressor)
    (step : Step World Params Decompressor) : Prop :=
  Convertible server.structCodec step.analyticsData

instance (server : Server World Params Decompressor) (step : Step World Params Decompressor) :
    Decidable (step.Converts server) :=
  inferInstanceAs (Decidable (Convertible _ _))

variable (server ec) in
theorem translated_cases (response : ProcessingResponse)
    (analyticsData analyticsMetadata : GoMap String AnalyticsValue) (executions : List Execution) :
    Convertible server.structCodec analyticsData ∧
        (ec.translated server response analyticsData analyticsMetadata executions).response =
          response ∨
      ¬ Convertible server.structCodec analyticsData ∧
        (ec.translated server response analyticsData analyticsMetadata
          executions).response.isError = true := by
  rw [← convertAnalytics_ok_iff (server.executor.rangeOrder .buildAnalyticsStruct)]
  unfold translated
  cases convertAnalytics server.structCodec (server.executor.rangeOrder .buildAnalyticsStruct)
      analyticsData with
  | ok fields => exact .inl ⟨⟨fields, rfl⟩, rfl⟩
  | error problem =>
    refine .inr ⟨?_, ?_⟩
    · rintro ⟨_, ⟨⟩⟩
    · cases response <;> rfl

structure SameModes (ec ec' : PolicyExecutionContext World Params Decompressor) : Prop where
  policyChain : ec'.policyChain = ec.policyChain
  apiKind : ec'.apiKind = ec.apiKind
  isStreamingRequest : ec'.isStreamingRequest = ec.isStreamingRequest
  isStreamingResponse : ec'.isStreamingResponse = ec.isStreamingResponse

theorem response_of_answered {response : ProcessingResponse}
    {analyticsData analyticsMetadata : GoMap String AnalyticsValue} {executions : List Execution}
    (hanswered : (ec.translated server response analyticsData analyticsMetadata
      executions).response.isError = false) :
    (ec.translated server response analyticsData analyticsMetadata executions).response =
      response := by
  rcases translated_cases server ec response analyticsData analyticsMetadata executions with
    ⟨-, hanswer⟩ | ⟨-, herror⟩
  · exact hanswer
  · cases hanswered.symm.trans herror

theorem SameModes.refl (ec : PolicyExecutionContext World Params Decompressor) : SameModes ec ec :=
  ⟨rfl, rfl, rfl, rfl⟩

theorem SameModes.trans {ec'' : PolicyExecutionContext World Params Decompressor}
    (hfirst : SameModes ec ec') (hsecond : SameModes ec' ec'') : SameModes ec ec'' :=
  ⟨hsecond.policyChain.trans hfirst.policyChain, hsecond.apiKind.trans hfirst.apiKind,
    hsecond.isStreamingRequest.trans hfirst.isStreamingRequest,
    hsecond.isStreamingResponse.trans hfirst.isStreamingResponse⟩

theorem errs_failWith (problem : ExecutionError) :
    (failWith server ec problem).response.isError = true ↔
      ¬ (failWith server ec problem).Converts server := by
  refine iff_of_false ?_ (not_not_intro convertible_empty)
  cases problem <;> simp [failWith, isError]

theorem errs_translated {response : ProcessingResponse}
    {analyticsData analyticsMetadata : GoMap String AnalyticsValue} {executions : List Execution}
    (hresponse : response.isError = false) :
    (ec.translated server response analyticsData analyticsMetadata
        executions).response.isError = true ↔
      ¬ (ec.translated server response analyticsData analyticsMetadata executions).Converts
        server := by
  rcases translated_cases server ec response analyticsData analyticsMetadata executions with
    ⟨hconverts, hanswer⟩ | ⟨hfails, herror⟩
  · refine iff_of_false ?_ (not_not_intro hconverts)
    rw [hanswer, hresponse]
    exact Bool.false_ne_true
  · exact iff_of_true herror hfails

/-- The step keeps the modes, and if it goes on it answers chunk by chunk or not. -/
structure AnswersIn (server : Server World Params Decompressor) (streaming : Bool)
    (ec : PolicyExecutionContext World Params Decompressor)
    (step : Step World Params Decompressor) : Prop where
  same : SameModes ec step.context
  streamed : step.response.continues = true → step.response.isStreamed = streaming
  errs : step.response.isError = true ↔ ¬ step.Converts server

theorem AnswersIn.of_same (hanswers : AnswersIn server streaming ec' step)
    (hsame : SameModes ec ec') : AnswersIn server streaming ec step :=
  ⟨hsame.trans hanswers.same, hanswers.streamed, hanswers.errs⟩

theorem answersIn_failWith (problem : ExecutionError) :
    AnswersIn server streaming ec (failWith server ec problem) :=
  ⟨.refl ec, fun hcontinues => by simp at hcontinues, errs_failWith problem⟩

theorem answersIn_suppress : AnswersIn server true ec ec.suppress :=
  ⟨.refl ec, fun _ => rfl, iff_of_false Bool.false_ne_true (not_not_intro convertible_empty)⟩

theorem answersIn_translated {response : ProcessingResponse}
    {analyticsData analyticsMetadata : GoMap String AnalyticsValue} {executions : List Execution}
    (hresponse : response.isError = false)
    (hstreamed : response.continues = true → response.isStreamed = streaming) :
    AnswersIn server streaming ec
      (ec.translated server response analyticsData analyticsMetadata executions) := by
  refine ⟨⟨rfl, rfl, rfl, rfl⟩, fun hcontinues => ?_, errs_translated hresponse⟩
  rcases translated_cases server ec _ _ _ _ with ⟨-, hanswer⟩ | ⟨-, herror⟩
  · rw [hanswer] at hcontinues ⊢
    exact hstreamed hcontinues
  · exact absurd hcontinues (by simp [not_continues_of_isError herror])

theorem answersIn_denied {answer : ImmediateResponse}
    {analyticsData analyticsMetadata : GoMap String AnalyticsValue} {executions : List Execution} :
    AnswersIn server streaming ec
      (ec.translated server (.immediate answer) analyticsData analyticsMetadata executions) :=
  answersIn_translated rfl fun hcontinues => nomatch hcontinues

theorem answersIn_body
    {analyticsData analyticsMetadata : GoMap String AnalyticsValue} {executions : List Execution} :
    AnswersIn server false ec
      (ec.translated server .body analyticsData analyticsMetadata executions) :=
  answersIn_translated rfl fun _ => rfl

theorem answersIn_streamed {chunk : StreamedBodyResponse}
    {analyticsData analyticsMetadata : GoMap String AnalyticsValue} {executions : List Execution} :
    AnswersIn server true ec
      (ec.translated server (.streamed chunk) analyticsData analyticsMetadata executions) :=
  answersIn_translated rfl fun _ => rfl

theorem answersIn_flushRequestChunk {chunk : StreamBody} :
    AnswersIn server true ec (ec.flushRequestChunk server chunk) := by
  unfold flushRequestChunk
  dsimp only
  split
  · exact (answersIn_failWith _).of_same ⟨rfl, rfl, rfl, rfl⟩
  · exact answersIn_streamed.of_same ⟨rfl, rfl, rfl, rfl⟩

theorem sameModes_feedRequestChunk : SameModes ec (ec.feedRequestChunk server body).1 := by
  unfold feedRequestChunk
  dsimp only
  split <;> exact ⟨rfl, rfl, rfl, rfl⟩

theorem answersIn_processStreamingRequestBody :
    AnswersIn server true ec (ec.processStreamingRequestBody server body) := by
  unfold processStreamingRequestBody
  split
  · dsimp only
    split
    · exact answersIn_suppress.of_same sameModes_feedRequestChunk
    · exact answersIn_flushRequestChunk.of_same sameModes_feedRequestChunk
  · dsimp only
    split
    · exact answersIn_suppress.of_same ⟨rfl, rfl, rfl, rfl⟩
    · exact answersIn_flushRequestChunk.of_same ⟨rfl, rfl, rfl, rfl⟩

theorem answersIn_processRequestBody (hstreaming : ec.isStreamingRequest = streaming) :
    AnswersIn server streaming ec (ec.processRequestBody server body) := by
  unfold processRequestBody
  dsimp only
  split
  next hstreams =>
    obtain rfl : true = streaming := hstreams.symm.trans hstreaming
    exact answersIn_processStreamingRequestBody.of_same ⟨rfl, rfl, rfl, rfl⟩
  next hbuffered =>
    obtain rfl : false = streaming := (Bool.eq_false_iff.mpr hbuffered).symm.trans hstreaming
    split
    · split
      · exact (answersIn_failWith _).of_same ⟨rfl, rfl, rfl, rfl⟩
      · unfold translateRequestBodyActions
        split
        · exact answersIn_denied.of_same ⟨rfl, rfl, rfl, rfl⟩
        · exact answersIn_body.of_same ⟨rfl, rfl, rfl, rfl⟩
    · exact ⟨⟨rfl, rfl, rfl, rfl⟩, fun _ => rfl,
        iff_of_false Bool.false_ne_true (not_not_intro convertible_empty)⟩

structure Announces (server : Server World Params Decompressor)
    (ec : PolicyExecutionContext World Params Decompressor)
    (step : Step World Params Decompressor) : Prop where
  same : SameModes ec step.context
  phase : step.context.phase = ec.phase
  response : step.response.continues = true →
    step.response = .headers step.context.getModeOverride
  errs : step.response.isError = true ↔ ¬ step.Converts server

theorem Announces.of_same (hannounces : Announces server ec' step)
    (hsame : SameModes ec ec') (hphase : ec'.phase = ec.phase) : Announces server ec step :=
  ⟨hsame.trans hannounces.same, hannounces.phase.trans hphase, hannounces.response,
    hannounces.errs⟩

theorem announces_failWith (problem : ExecutionError) :
    Announces server ec (failWith server ec problem) :=
  ⟨.refl ec, rfl, fun hcontinues => by simp at hcontinues, errs_failWith problem⟩

theorem announces_translated {analyticsData analyticsMetadata : GoMap String AnalyticsValue}
    {executions : List Execution} :
    Announces server ec (ec.translated server (.headers ec.getModeOverride) analyticsData
      analyticsMetadata executions) := by
  refine ⟨⟨rfl, rfl, rfl, rfl⟩, rfl, fun hcontinues => ?_, errs_translated rfl⟩
  rcases translated_cases server ec _ _ _ _ with ⟨-, hanswer⟩ | ⟨-, herror⟩
  · exact hanswer
  · exact absurd hcontinues (by simp [not_continues_of_isError herror])

theorem announces_denied {answer : ImmediateResponse}
    {analyticsData analyticsMetadata : GoMap String AnalyticsValue} {executions : List Execution} :
    Announces server ec (ec.translated server (.immediate answer) analyticsData analyticsMetadata
      executions) := by
  refine ⟨⟨rfl, rfl, rfl, rfl⟩, rfl, fun hcontinues => ?_, errs_translated rfl⟩
  rcases translated_cases server ec _ _ _ _ with ⟨-, hanswer⟩ | ⟨-, herror⟩
  · rw [hanswer] at hcontinues
    cases hcontinues
  · exact absurd hcontinues (by simp [not_continues_of_isError herror])

theorem announces_processRequestBodyForEmptyRequest
    {headerResults : List (PolicyResult RequestHeaderContext RequestHeaderAction)} :
    Announces server ec (ec.processRequestBodyForEmptyRequest server headerResults) := by
  unfold processRequestBodyForEmptyRequest
  dsimp only
  split
  · exact (announces_failWith _).of_same ⟨rfl, rfl, rfl, rfl⟩ rfl
  · unfold translateRequestHeaderActionsWithBodyMerge
    dsimp only
    split
    · exact announces_denied.of_same ⟨rfl, rfl, rfl, rfl⟩ rfl
    · exact announces_translated.of_same ⟨rfl, rfl, rfl, rfl⟩ rfl

variable (server ec) in
theorem sameModes_afterRequestHeaderPolicies
    (out : ExecutionResult World RequestHeaderContext RequestHeaderAction) :
    SameModes ec (ec.afterRequestHeaderPolicies server out) ∧
      (ec.afterRequestHeaderPolicies server out).phase = ec.phase := by
  unfold afterRequestHeaderPolicies
  split <;> exact ⟨⟨rfl, rfl, rfl, rfl⟩, rfl⟩

variable (server ec) in
theorem announces_processRequestHeaders :
    Announces server { ec with phase := .requestHeaders } (ec.processRequestHeaders server) := by
  unfold processRequestHeaders
  dsimp only
  split
  · exact announces_failWith _
  next out hrun =>
    obtain ⟨hsame, hphase⟩ := sameModes_afterRequestHeaderPolicies server
      { ec with phase := .requestHeaders } out
    split
    · exact announces_processRequestBodyForEmptyRequest.of_same hsame hphase
    · unfold translateRequestHeaderActions
      dsimp only
      split
      · exact announces_denied.of_same hsame hphase
      · exact announces_translated.of_same hsame hphase

theorem answersIn_flushResponseChunk {chunk : StreamBody} :
    AnswersIn server true ec (ec.flushResponseChunk server chunk) := by
  unfold flushResponseChunk
  split
  · exact answersIn_failWith _
  · exact answersIn_streamed.of_same ⟨rfl, rfl, rfl, rfl⟩

theorem sameModes_feedResponseChunk : SameModes ec (ec.feedResponseChunk server body).1 := by
  unfold feedResponseChunk
  dsimp only
  split <;> exact ⟨rfl, rfl, rfl, rfl⟩

theorem answersIn_processStreamingResponseBody :
    AnswersIn server true ec (ec.processStreamingResponseBody server body) := by
  unfold processStreamingResponseBody
  split
  · exact answersIn_suppress
  split
  · dsimp only
    split
    · exact answersIn_suppress.of_same sameModes_feedResponseChunk
    · exact answersIn_flushResponseChunk.of_same sameModes_feedResponseChunk
  · dsimp only
    split
    · exact answersIn_suppress.of_same ⟨rfl, rfl, rfl, rfl⟩
    · exact answersIn_flushResponseChunk.of_same ⟨rfl, rfl, rfl, rfl⟩

theorem answersIn_processResponseBody (hstreaming : ec.isStreamingResponse = streaming) :
    AnswersIn server streaming ec (ec.processResponseBody server body) := by
  unfold processResponseBody
  dsimp only
  split
  next hstreams =>
    obtain rfl : true = streaming := hstreams.symm.trans hstreaming
    exact answersIn_processStreamingResponseBody.of_same ⟨rfl, rfl, rfl, rfl⟩
  next hbuffered =>
    obtain rfl : false = streaming := (Bool.eq_false_iff.mpr hbuffered).symm.trans hstreaming
    split
    · split
      · exact (answersIn_failWith _).of_same ⟨rfl, rfl, rfl, rfl⟩
      · unfold translateResponseBodyActions
        split
        · exact answersIn_denied.of_same ⟨rfl, rfl, rfl, rfl⟩
        · exact answersIn_body.of_same ⟨rfl, rfl, rfl, rfl⟩
    · exact ⟨⟨rfl, rfl, rfl, rfl⟩, fun _ => rfl,
        iff_of_false Bool.false_ne_true (not_not_intro convertible_empty)⟩

theorem announces_processResponseBodyForEmptyResponse
    {headerResults : List (PolicyResult ResponseHeaderContext ResponseHeaderAction)} :
    Announces server ec (ec.processResponseBodyForEmptyResponse server headerResults) := by
  unfold processResponseBodyForEmptyResponse
  dsimp only
  split
  · exact (announces_failWith _).of_same ⟨rfl, rfl, rfl, rfl⟩ rfl
  · unfold translateResponseHeaderActionsWithBodyMerge
    dsimp only
    split
    · exact announces_denied.of_same ⟨rfl, rfl, rfl, rfl⟩ rfl
    · exact announces_translated.of_same ⟨rfl, rfl, rfl, rfl⟩ rfl

variable (server ec) in
theorem announces_processResponseHeaders (message : HttpHeaders) :
    Announces server (ec.startResponse server message)
      (ec.processResponseHeaders server message) := by
  unfold processResponseHeaders
  dsimp only
  split
  · exact announces_failWith _
  · split
    · exact announces_processResponseBodyForEmptyResponse.of_same ⟨rfl, rfl, rfl, rfl⟩ rfl
    · unfold translateResponseHeaderActions
      dsimp only
      split
      · exact announces_denied.of_same ⟨rfl, rfl, rfl, rfl⟩ rfl
      · exact announces_translated.of_same ⟨rfl, rfl, rfl, rfl⟩ rfl

theorem isStreamingRequest_of_announced
    (hmode : ec.getModeOverride.requestBodyMode = .fullDuplexStreamed) :
    ec.isStreamingRequest = true := by
  unfold getModeOverride at hmode
  dsimp only at hmode
  split_ifs at hmode
  assumption

theorem isStreamingResponse_of_announced
    (hmode : ec.getModeOverride.responseBodyMode = .fullDuplexStreamed) :
    ec.isStreamingResponse = true ∧ ec.apiKind ≠ "Mcp" := by
  unfold getModeOverride at hmode
  dsimp only at hmode
  split_ifs at hmode
  assumption

/-! ## The loop of `Process` -/

/-- The steps for body messages, up to the first that ends in an error. -/
def serve (process : PolicyExecutionContext World Params Decompressor → HttpBody →
      Step World Params Decompressor)
    (ec : PolicyExecutionContext World Params Decompressor) (bodies : List HttpBody) :
    List (Step World Params Decompressor) :=
  trace process Step.context (·.response.isError) ec bodies

/-- A step for headers and those for the body messages that follow. -/
def Step.thenServe (first : Step World Params Decompressor)
    (process : PolicyExecutionContext World Params Decompressor → HttpBody →
      Step World Params Decompressor) (bodies : List HttpBody) :
    List (Step World Params Decompressor) :=
  first :: if first.response.isError then [] else serve process first.context bodies

end ApiPlatform.PolicyEngine.Kernel
