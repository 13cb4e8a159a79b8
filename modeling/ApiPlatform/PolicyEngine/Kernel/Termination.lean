import ApiPlatform.PolicyEngine.Kernel.Streaming

/-!
# Ending a response stream

A policy ends a response stream with a final body of its own; a nil body stands
for an empty final chunk.  After that nothing more is sent and no policy is
called.  The executor leaves the chunk as it is when the final body is nil, so the
client gets what the upstream sent in the place of nothing.  If the analytics data of
the chunk cannot be converted, the final body is not sent at all.
-/

namespace ApiPlatform.PolicyEngine.Kernel

open Foundation PolicyExecutionContext Direction

variable {chunk : StreamBody}
  {results : List (PolicyResult (ResponseStreamContext × StreamBody) StreamingResponseAction)}
  {result : PolicyResult (ResponseStreamContext × StreamBody) StreamingResponseAction}

variable {World Params Decompressor : Type} {server : Server World Params Decompressor}
  {ec : PolicyExecutionContext World Params Decompressor} {body : HttpBody}

/-- The content encoding under which the answer to a chunk is sent.  A stream that
cannot be decompressed is passed on as it is from then on. -/
def PolicyExecutionContext.sendEncoding (ec : PolicyExecutionContext World Params Decompressor)
    (server : Server World Params Decompressor) (body : HttpBody) : String :=
  if ec.responseContentEncoding ≠ "" then
    (ec.feedResponseChunk server body).1.responseContentEncoding
  else ""

/-- What is to follow when a policy ends the stream with a final body. -/
structure ClosedBy (server : Server World Params Decompressor)
    (before : PolicyExecutionContext World Params Decompressor) (body : HttpBody)
    (step : Step World Params Decompressor) (post : List HttpBody)
    (results :
      List (PolicyResult (ResponseStreamContext × StreamBody) StreamingResponseAction))
    (result : PolicyResult (ResponseStreamContext × StreamBody) StreamingResponseAction)
    (final : Option Bytes) : Prop where
  last : results.getLast? = some result
  no_earlier : ∀ other ∈ results, result.position ≤ other.position
  delivered : step.sent =
    (encodeChunk server.codec (before.sendEncoding server body) (final.getD [])).1
  ends : step.endsStream = true
  silent : ∀ later ∈ response.steps server step.context post,
    later.executions = [] ∧ later.sent = []

/-! ## The step that ends the stream -/

theorem policyChain_feedResponseChunk :
    (ec.feedResponseChunk server body).1.policyChain = ec.policyChain := by
  unfold feedResponseChunk
  dsimp only
  split <;> rfl

-- a flush that fails lists no results
private theorem translated_of_execution {sent : StreamBody}
    (hexecution : .responseChunk chunk results ∈ (ec.flushResponseChunk server sent).executions) :
    ∃ out, executeStreamingResponsePolicies server.executor ec.policyChain
        ec.responseStreamContext chunk ec.world = .ok out ∧
      results = out.results ∧ ec.flushResponseChunk server sent =
        ec.translateStreamingResponseChunkAction server chunk out := by
  rcases flushResponseChunk_cases ec server sent with ⟨_, hfails⟩ | ⟨out, hrun, hstep⟩
  · simp [hfails, failWith] at hexecution
  · rw [hstep] at hexecution ⊢
    obtain ⟨rfl, rfl⟩ : chunk = sent ∧ results = out.results := by
      simpa [translateStreamingResponseChunkAction, translated] using hexecution
    exact ⟨out, hrun, rfl, rfl⟩

theorem flush_of_execution (hexecution : .responseChunk chunk results ∈
      (ec.processStreamingResponseBody server body).executions) :
    ∃ (flushing : PolicyExecutionContext World Params Decompressor) (out : _),
      flushing.policyChain = ec.policyChain ∧
      flushing.responseContentEncoding = ec.sendEncoding server body ∧
      executeStreamingResponsePolicies server.executor flushing.policyChain
        flushing.responseStreamContext chunk flushing.world = .ok out ∧
      results = out.results ∧
      ec.processStreamingResponseBody server body =
        flushing.translateStreamingResponseChunkAction server chunk out := by
  unfold processStreamingResponseBody at hexecution ⊢
  unfold sendEncoding
  split at hexecution
  · simp [suppress] at hexecution
  · next hrunning =>
    rw [if_neg hrunning]
    split at hexecution
    · next hencoded =>
      rw [if_pos hencoded, if_pos hencoded]
      dsimp only at hexecution ⊢
      split at hexecution
      · simp [suppress] at hexecution
      · next hchunk =>
        rw [if_neg hchunk]
        obtain ⟨out, hrun, hresults, hstep⟩ := translated_of_execution hexecution
        exact ⟨_, out, policyChain_feedResponseChunk, rfl, hrun, hresults, hstep⟩
    · next hplain =>
      rw [if_neg hplain, if_neg hplain]
      dsimp only at hexecution ⊢
      split at hexecution
      · simp [suppress] at hexecution
      · obtain ⟨out, hrun, hresults, hstep⟩ := translated_of_execution hexecution
        refine ⟨_, out, ?_, ?_, hrun, hresults, hstep⟩
        · rfl
        · simpa using hplain

theorem silent_of_terminated (hterminated : ec.streamTerminated = true) {bodies : List HttpBody} :
    ∀ step ∈ response.steps server ec bodies,
      step.executions = [] ∧ step.sent = [] := by
  induction bodies with
  | nil => simp [steps, serve, trace]
  | cons body rest ih =>
    have hstep : response.process server ec body = ec.suppress := by
      simp [process, processStreamingResponseBody, hterminated]
    rw [steps, serve, trace, hstep]
    exact List.forall_mem_cons.mpr ⟨⟨rfl, rfl⟩, ih⟩

theorem position_le_of_last {executor : ChainExecutor World Params}
    {chain : PolicyChain World Params} {context : ResponseStreamContext} {world : World}
    {out : ExecutionResult World (ResponseStreamContext × StreamBody) StreamingResponseAction}
    (hrun : executeStreamingResponsePolicies executor chain context chunk world = .ok out)
    {pre : List (PolicyResult (ResponseStreamContext × StreamBody) StreamingResponseAction)}
    (hresults : out.results = pre ++ [result]) :
    ∀ other ∈ out.results, result.position ≤ other.position := by
  obtain ⟨rest, hpositions, -⟩ := Phase.positions_execute hrun
  have hall : ((chain.entries.zipIdx.reverse.filter fun head =>
      streamingResponsePhase.participates head.1).map Prod.snd).Pairwise (· > ·) := by
    refine List.Pairwise.sublist (List.filter_sublist.map Prod.snd) ?_
    rw [List.map_reverse, List.pairwise_reverse, List.zipIdx_map_snd]
    exact List.pairwise_lt_range'
  rw [hpositions, hresults, List.map_append] at hall
  have hordered := (List.pairwise_append.mp (List.pairwise_append.mp hall).1).2.2
  intro other hother
  rw [hresults] at hother
  rcases List.mem_append.mp hother with hpre | hlast
  · exact Nat.le_of_lt (hordered _ (List.mem_map_of_mem hpre) _ (by simp))
  · rw [List.mem_singleton.mp hlast]

theorem chunk_after_terminate {executor : ChainExecutor World Params} {final : Option Bytes}
    {metadata : GoMap String AnalyticsValue}
    (haction : result.action = some (.terminate final metadata)) :
    (streamingResponsePhase.after executor result).2.chunk =
      final.getD result.received.2.chunk := by
  cases final with
  | none | some chunk => simp [Phase.after, haction, streamingResponsePhase]

/-! ## Whole streams -/

theorem endsStream_translate {out : ExecutionResult World _ StreamingResponseAction}
    (hanswered : (ec.translateStreamingResponseChunkAction server chunk out).response.isError =
      false) :
    (ec.translateStreamingResponseChunkAction server chunk out).sent =
        (encodeChunk server.codec ec.responseContentEncoding out.context.2.chunk).1 ∧
      (ec.translateStreamingResponseChunkAction server chunk out).endsStream =
        (chunk.endOfStream || out.shortCircuited) := by
  have hresponse := response_of_answered hanswered
  exact ⟨congrArg ProcessingResponse.sent hresponse,
    congrArg ProcessingResponse.endsStream hresponse⟩

/-- A stream is closed by the final body of the policy that ends it when that body is
given, or the policy had nothing before it, and the analytics data of the chunk can be
converted; when compression keeps different bodies apart, only then. -/
theorem stream_closed_by_body_iff (server : Server World Params Decompressor)
    (ec : PolicyExecutionContext World Params Decompressor) (pre post : List HttpBody)
    (body : HttpBody) {chunk : StreamBody}
    {results : List (PolicyResult (ResponseStreamContext × StreamBody) StreamingResponseAction)}
    {result : PolicyResult (ResponseStreamContext × StreamBody) StreamingResponseAction}
    {final : Option Bytes} {metadata : GoMap String AnalyticsValue}
    (hexecution : .responseChunk chunk results ∈
      ((response.reached server ec pre).processStreamingResponseBody server
        body).executions) (hresult : result ∈ results)
    (haction : result.action = some (.terminate final metadata)) :
    let before := response.reached server ec pre
    let step := before.processStreamingResponseBody server body
    let closed := ClosedBy server before body step post results result final
    let given := (final.isSome = true ∨ result.received.2.chunk = []) ∧ step.Converts server
    (given → closed) ∧
      ((∀ encoding, Function.Injective fun output =>
        (encodeChunk server.codec encoding output).1) → (closed ↔ given)) := by
  obtain ⟨flushing, out, -, hencoding, hrun, rfl, hstep⟩ := flush_of_execution hexecution
  obtain ⟨before, after, hresults⟩ := List.append_of_mem hresult
  obtain ⟨rfl, hshort, hcontext⟩ := Phase.last_of_stops hrun hresults haction rfl
  have herrs : ((response.reached server ec pre).processStreamingResponseBody server
        body).response.isError = true ↔
      ¬ ((response.reached server ec pre).processStreamingResponseBody server body).Converts
        server := answersIn_processStreamingResponseBody.errs
  dsimp only
  rw [hstep] at herrs ⊢
  have hsent (hanswered : (flushing.translateStreamingResponseChunkAction server chunk
      out).response.isError = false) :
      (flushing.translateStreamingResponseChunkAction server chunk out).sent =
        (encodeChunk server.codec flushing.responseContentEncoding
          (final.getD result.received.2.chunk)).1 := by
    rw [← chunk_after_terminate haction, ← hcontext]
    exact (endsStream_translate hanswered).1
  have hcloses (hgiven : (final.isSome = true ∨ result.received.2.chunk = []) ∧
      (flushing.translateStreamingResponseChunkAction server chunk out).Converts server) :
      ClosedBy server (response.reached server ec pre) body
        (flushing.translateStreamingResponseChunkAction server chunk out) post out.results
        result final := by
    have hanswered := Bool.eq_false_iff.mpr fun herror => herrs.mp herror hgiven.2
    refine ⟨by simp [hresults], position_le_of_last hrun hresults, ?_, ?_, ?_⟩
    · rw [hsent hanswered, hencoding]
      rcases hgiven.1 with hsome | hempty
      · obtain ⟨bytes, rfl⟩ := Option.isSome_iff_exists.mp hsome
        rfl
      · rw [hempty]
    · rw [(endsStream_translate hanswered).2, hshort, Bool.or_true]
    · exact silent_of_terminated
        (by simp [translateStreamingResponseChunkAction, translated, hshort])
  refine ⟨hcloses, fun hcodec => ⟨fun hclosed => ?_, hcloses⟩⟩
  have hanswered : (flushing.translateStreamingResponseChunkAction server chunk
      out).response.isError = false := by
    refine Bool.eq_false_iff.mpr fun herror => ?_
    have hends : ProcessingResponse.endsStream _ = true := hclosed.ends
    rw [ProcessingResponse.endsStream_of_isError herror] at hends
    cases hends
  refine ⟨?_, not_not.mp fun hfails => by simp [herrs.mpr hfails] at hanswered⟩
  cases final with
  | some bytes => exact Or.inl rfl
  | none =>
    -- the bytes that were sent are those that the policy had received
    have hdelivered := hclosed.delivered
    rw [hsent hanswered, hencoding] at hdelivered
    exact Or.inr (hcodec _ hdelivered)

def guarded (final : Option Bytes) : PolicyExecutionContext Unit Unit Unit :=
  streamContext [lineReader fun _ => .terminate final]

def guardStep (final : Option Bytes) : Step Unit Unit Unit :=
  (guarded final).processStreamingResponseBody plainServer ⟨[115, 10], false⟩

def guardResult (final : Option Bytes) :
    PolicyResult (ResponseStreamContext × StreamBody) StreamingResponseAction where
  position := 0
  policyName := "response-streamer"
  policyVersion := "v1"
  received := ((guarded final).responseStreamContext, ⟨[115, 10], false⟩)
  action := some (.terminate final)
  skipped := false

theorem guard_executed (final : Option Bytes) :
    .responseChunk ⟨[115, 10], false⟩ [guardResult final] ∈ (guardStep final).executions :=
  List.mem_cons_self

theorem guard_with_body_closes_stream :
    ClosedBy plainServer (guarded (some [42])) ⟨[115, 10], false⟩ (guardStep (some [42]))
      [⟨[116, 10], true⟩] [guardResult (some [42])] (guardResult (some [42])) (some [42]) :=
  (stream_closed_by_body_iff plainServer (guarded (some [42])) [] [⟨[116, 10], true⟩]
    ⟨[115, 10], false⟩ (guard_executed _) List.mem_cons_self rfl).1
    ⟨Or.inl rfl, by decide +kernel⟩

/-- Without a final body the client gets the line that the guard wanted to keep back. -/
theorem guard_without_body_sends_line :
    .responseChunk ⟨[115, 10], false⟩ [guardResult none] ∈ (guardStep none).executions ∧
      (guardStep none).sent = [115, 10] ∧
      ¬ ClosedBy plainServer (guarded none) ⟨[115, 10], false⟩ (guardStep none)
        [] [guardResult none] (guardResult none) none := by
  refine ⟨guard_executed none, by decide +kernel, fun hclosed => ?_⟩
  exact absurd hclosed.delivered (by decide +kernel)

end ApiPlatform.PolicyEngine.Kernel
