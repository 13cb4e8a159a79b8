import ApiPlatform.PolicyEngine.Kernel.AnalyticsData

/-!
# The execution context of a request

`internal/kernel/execution_context.go`: what the policy engine does with each
message that Envoy sends for a request, and what it answers.  Of the answers only
the decisions are kept here: whether the request goes on, in which mode its bodies
are sent, and the bytes of a streamed chunk, or that there is no answer since the
analytics data cannot be converted.  The mutations that the translators collect are
functions of the results, which every step lists.
-/

namespace ApiPlatform.PolicyEngine.Kernel

open Foundation

/-! ## Messages -/

structure HttpHeaders where
  headers : List (String × String)
  endOfStream : Bool
  deriving DecidableEq

structure HttpBody where
  body : Bytes
  endOfStream : Bool
  deriving DecidableEq

structure StreamedBodyResponse where
  body : Bytes
  endOfStream : Bool
  deriving DecidableEq

inductive BodySendMode where
  | none
  | buffered
  | fullDuplexStreamed
  deriving DecidableEq

structure ModeOverride where
  requestBodyMode : BodySendMode
  responseBodyMode : BodySendMode
  deriving DecidableEq

/-- An `error` of a translator is no answer: `Process` returns it, and the stream of messages
is over. -/
inductive ProcessingResponse where
  | immediate (response : ImmediateResponse)
  | headers (modeOverride : ModeOverride)
  | body
  | streamed (response : StreamedBodyResponse)
  | panicked
  | error (message : String)

namespace ProcessingResponse

/-- The engine neither answers the request itself nor breaks it off. -/
def continues : ProcessingResponse → Bool
  | .headers _ | .body | .streamed _ => true
  | .immediate _ | .panicked | .error _ => false

def isError : ProcessingResponse → Bool
  | .error _ => true
  | _ => false

/-- A policy has answered in the place of the engine, or has failed. -/
def isRefusal : ProcessingResponse → Bool
  | .immediate _ | .panicked => true
  | _ => false

end ProcessingResponse

/-! ## Compressed bodies -/

inductive ContentCoding where
  | gzip
  | br
  deriving DecidableEq

/-- The compression libraries, and the decompressor that reads a stream chunk by chunk. -/
structure Codec (Decompressor : Type) where
  decode : ContentCoding → Bytes → Except String Bytes
  encode : ContentCoding → Bytes → Except String Bytes
  newStreamDecompressor : String → Decompressor
  feedChunk : Decompressor → Bytes → Bool → Except String Bytes × Decompressor

section Codec

variable {Decompressor : Type} (codec : Codec Decompressor)

def decompressBody (body : Bytes) (encoding : String) : Except String Bytes :=
  match encoding with
  | "gzip" => codec.decode .gzip body
  | "br" => codec.decode .br body
  | _ => .ok body

def recompressBody (body : Bytes) (encoding : String) : Except String Bytes :=
  match encoding with
  | "gzip" => codec.encode .gzip body
  | "br" => codec.encode .br body
  | _ => .ok body

/-- The bytes of a chunk as they are sent, and the encoding that is used from then on. -/
def encodeChunk (encoding : String) (output : Bytes) : Bytes × String :=
  if encoding = "" then (output, "")
  else
    match recompressBody codec output encoding with
    | .ok recompressed => (recompressed, encoding)
    | .error _ => (output, "")

end Codec

/-! ## State -/

structure Server (World Params Decompressor : Type) where
  executor : ChainExecutor World Params
  codec : Codec Decompressor
  /-- Of a protobuf value a step only needs that it could be made. -/
  structCodec : StructCodec Unit
  newErrorID : World → String

inductive ProcessingPhase where
  | requestHeaders
  | requestBody
  | responseHeaders
  | responseBody
  deriving DecidableEq

/-- The three request contexts share one object of headers, and so do the three
response contexts. -/
structure PolicyExecutionContext (World Params Decompressor : Type) where
  policyChain : PolicyChain World Params
  apiKind : String
  phase : ProcessingPhase
  requestHeaderCtx : RequestHeaderContext
  requestBodyCtx : RequestContext
  requestStreamContext : RequestStreamContext
  responseHeaderCtx : ResponseHeaderContext
  responseBodyCtx : ResponseContext
  responseStreamContext : ResponseStreamContext
  requestContentEncoding : String
  responseContentEncoding : String
  isStreamingRequest : Bool
  requestStreamAccumulator : Bytes
  requestStreamDecomp : Option Decompressor
  isStreamingResponse : Bool
  streamAccumulator : Bytes
  responseStreamDecomp : Option Decompressor
  streamTerminated : Bool
  analyticsMetadata : GoMap String AnalyticsValue
  world : World

/-- A call of the chain executor that returned, with its results. -/
inductive Execution where
  | requestHeaders (results : List (PolicyResult RequestHeaderContext RequestHeaderAction))
  | requestBody (results : List (PolicyResult RequestContext RequestAction))
  | requestChunk (chunk : StreamBody)
      (results : List (PolicyResult (RequestStreamContext × StreamBody) StreamingRequestAction))
  | responseHeaders (results : List (PolicyResult ResponseHeaderContext ResponseHeaderAction))
  | responseBody (results : List (PolicyResult ResponseContext ResponseAction))
  | responseChunk (chunk : StreamBody)
      (results : List (PolicyResult (ResponseStreamContext × StreamBody) StreamingResponseAction))

structure Step (World Params Decompressor : Type) where
  context : PolicyExecutionContext World Params Decompressor
  response : ProcessingResponse
  executions : List Execution
  /-- What the translator of the step has collected for the analytics event. -/
  analyticsData : GoMap String AnalyticsValue := ∅

variable {World Params Decompressor : Type}

def handlePolicyError (errorID : String) : ImmediateResponse where
  statusCode := 500
  headers := insertAll ∅ [("content-type", "application/json"), ("x-error-id", errorID)]
  body := ("\x7b\"error\":\"Internal Server Error\",\"error_id\":\"" ++ errorID ++
    "\"\x7d").toUTF8.toList

def failWith (server : Server World Params Decompressor)
    (ec : PolicyExecutionContext World Params Decompressor) (problem : ExecutionError) :
    Step World Params Decompressor where
  context := ec
  response :=
    match problem with
    | .failed _ => .immediate (handlePolicyError (server.newErrorID ec.world))
    | .nilAction => .panicked
  executions := []

@[simp] theorem isRefusal_failWith (server : Server World Params Decompressor)
    (ec : PolicyExecutionContext World Params Decompressor) (problem : ExecutionError) :
    (failWith server ec problem).response.isRefusal = true := by
  cases problem <;> rfl

@[simp] theorem continues_failWith (server : Server World Params Decompressor)
    (ec : PolicyExecutionContext World Params Decompressor) (problem : ExecutionError) :
    (failWith server ec problem).response.continues = false := by
  cases problem <;> rfl

/-! ## Contexts from headers -/

def collectHeaders (headers : List (String × String)) : GoMap String (List String) :=
  headers.foldl (fun values header =>
    values.insert header.1 ((values.lookup header.1).getD [] ++ [header.2])) ∅

def newHeaders (order : MapIteration String) (values : GoMap String (List String)) : Headers :=
  insertAll ∅ ((order.order 0 values.keys).filterMap fun name =>
    (values.lookup name).map fun value => (toLower name, value))

/-- The value that is left when a loop assigns every value of a header. -/
def lastValue (headers : List (String × String)) (name default : String) : String :=
  ((headers.filter (·.1 = name)).getLast?.map (·.2)).getD default

/-- Used for requests and for responses: the source has the function twice. -/
def isStreamingMessage (headers : Headers) : Bool :=
  (headers.get "transfer-encoding").head?.any (fun value => contains (toLower value) "chunked") ||
    (headers.get "content-type").head?.any
      fun value => hasPrefix (toLower value) "text/event-stream"

def contentLengthIsZero (headers : Headers) : Bool :=
  (headers.get "content-length").head? == some "0"

/-- `fmt.Sscanf` with `%d`; what does not start with a number leaves the zero value. -/
def scanStatus (text : String) : Int :=
  let value (digits : List Char) : Int :=
    (digits.takeWhile Char.isDigit).foldl (fun number digit =>
      10 * number + (digit.toNat - '0'.toNat : Nat)) 0
  match text.toList.dropWhile isSpace with
  | '-' :: digits => -value digits
  | '+' :: digits => value digits
  | digits => value digits

def buildRequestContexts (server : Server World Params Decompressor)
    (chain : PolicyChain World Params) (apiKind : String) (message : HttpHeaders) (world : World) :
    PolicyExecutionContext World Params Decompressor :=
  let headers := newHeaders (server.executor.rangeOrder .newHeaders)
    (collectHeaders message.headers)
  let line : RequestLine :=
    { path := lastValue message.headers ":path" ""
      method := lastValue message.headers ":method" ""
      authority := lastValue message.headers ":authority" ""
      scheme := lastValue message.headers ":scheme" "" }
  let noResponse : ResponseHeaderContext :=
    { requestHeaders := ∅, requestBody := none, requestPath := "", requestMethod := ""
      responseHeaders := ∅, responseStatus := 0 }
  { policyChain := chain
    apiKind := apiKind
    phase := .requestHeaders
    requestHeaderCtx := { line with headers := headers }
    requestBodyCtx :=
      { line with
        headers := headers
        body :=
          if message.endOfStream then some { content := [], endOfStream := true, present := false }
          else none }
    requestStreamContext := { line with headers := headers }
    responseHeaderCtx := noResponse
    responseBodyCtx := { noResponse with responseBody := none }
    responseStreamContext := { noResponse with }
    requestContentEncoding := lastValue message.headers "content-encoding" ""
    responseContentEncoding := ""
    isStreamingRequest := chain.supportsRequestStreaming && isStreamingMessage headers
    requestStreamAccumulator := []
    requestStreamDecomp := none
    isStreamingResponse := false
    streamAccumulator := []
    responseStreamDecomp := none
    streamTerminated := false
    analyticsMetadata := ∅
    world := world }

namespace PolicyExecutionContext

variable (ec : PolicyExecutionContext World Params Decompressor)

def setRequestHeaders (headers : Headers) : PolicyExecutionContext World Params Decompressor :=
  { ec with
    requestHeaderCtx := { ec.requestHeaderCtx with headers := headers }
    requestBodyCtx := { ec.requestBodyCtx with headers := headers }
    requestStreamContext := { ec.requestStreamContext with headers := headers } }

def setResponseHeaders (headers : Headers) : PolicyExecutionContext World Params Decompressor :=
  { ec with
    responseHeaderCtx := { ec.responseHeaderCtx with responseHeaders := headers }
    responseBodyCtx := { ec.responseBodyCtx with responseHeaders := headers }
    responseStreamContext := { ec.responseStreamContext with responseHeaders := headers } }

def buildResponseContexts (order : MapIteration String) (message : HttpHeaders) :
    PolicyExecutionContext World Params Decompressor :=
  let header : ResponseHeaderContext :=
    { requestHeaders := ec.requestHeaderCtx.headers
      requestBody := ec.requestBodyCtx.body
      requestPath := ec.requestHeaderCtx.path
      requestMethod := ec.requestHeaderCtx.method
      responseHeaders := newHeaders order (collectHeaders message.headers)
      responseStatus := scanStatus (lastValue message.headers ":status" "") }
  { ec with
    responseHeaderCtx := header
    responseBodyCtx :=
      { header with
        responseBody :=
          if message.endOfStream then some { content := [], endOfStream := true, present := false }
          else none }
    responseStreamContext := { header with }
    responseContentEncoding :=
      lastValue message.headers "content-encoding" ec.responseContentEncoding }

/-! ## Modes -/

/-- What the method and the headers say about the body of a request. -/
def saysNoBody (context : RequestHeaderContext) : Bool :=
  toUpper context.method == "GET" || toUpper context.method == "HEAD" ||
    contentLengthIsZero context.headers

def requestHasNoBody : Bool :=
  ec.requestBodyCtx.body.any (·.endOfStream) || saysNoBody ec.requestHeaderCtx

def responseHasNoBody : Bool :=
  let status := ec.responseHeaderCtx.responseStatus
  status == 204 || status == 304 || (decide (100 ≤ status) && decide (status < 200)) ||
    toUpper ec.requestHeaderCtx.method == "HEAD" ||
    contentLengthIsZero ec.responseHeaderCtx.responseHeaders

def getModeOverride : ModeOverride where
  requestBodyMode :=
    if ec.policyChain.requiresRequestBody then
      if ec.isStreamingRequest then .fullDuplexStreamed else .buffered
    else .none
  responseBodyMode :=
    if ec.phase = .responseHeaders ∧ ec.responseHasNoBody = true then .none
    else if ec.policyChain.requiresResponseBody then
      if ec.isStreamingResponse = true ∧ ec.apiKind ≠ "Mcp" then .fullDuplexStreamed
      else .buffered
    else .none

/-! ## The end of a translator -/

/-- The answer goes out with the analytics data, or not at all. -/
def translated (server : Server World Params Decompressor) (response : ProcessingResponse)
    (analyticsData analyticsMetadata : GoMap String AnalyticsValue) (executions : List Execution) :
    Step World Params Decompressor where
  context := { ec with analyticsMetadata := analyticsMetadata }
  response :=
    match convertAnalytics server.structCodec (server.executor.rangeOrder .buildAnalyticsStruct)
        analyticsData, response with
    | .ok _, _ => response
    | .error problem, .immediate _ =>
      .error ("failed to build analytics metadata for immediate response: " ++ problem)
    | .error problem, _ => .error ("failed to build analytics metadata: " ++ problem)
  executions := executions
  analyticsData := analyticsData

/-- A denial of the request phases carries the metadata of the context and the stamps of the
policies before it. -/
def denied (server : Server World Params Decompressor) (response : ImmediateResponse)
    (stamped : List (String × AnalyticsValue)) (executions : List Execution) :
    Step World Params Decompressor :=
  ec.translated server (.immediate response)
    (insertAll (insertAll ec.analyticsMetadata stamped) (writesOf response.analyticsMetadata))
    ec.analyticsMetadata executions

/-- The other denials carry their own metadata alone. -/
def deniedAlone (server : Server World Params Decompressor) (response : ImmediateResponse)
    (executions : List Execution) : Step World Params Decompressor :=
  ec.translated server (.immediate response) response.analyticsMetadata ec.analyticsMetadata
    executions

/-! ## Request headers -/

def applyRequestHeaderMutations (order : MapIteration String) (headers : Headers)
    (results : List (PolicyResult RequestHeaderContext RequestHeaderAction)) : Headers :=
  results.foldl (fun headers result =>
    match result.action with
    | some (.modifications mods) =>
      modifyHeaders order result.position toLower mods.toHeaderModifications headers
    | some (.immediate _) => headers
    | none => headers) headers

def syncLine (headers : Headers) (line : RequestLine) : RequestLine :=
  let first (name value : String) := ((headers.lookup name).bind List.head?).getD value
  { path := first ":path" line.path
    method := first ":method" line.method
    authority := first ":authority" line.authority
    scheme := first ":scheme" line.scheme }

def syncRequestPseudoHeaders : PolicyExecutionContext World Params Decompressor :=
  let sync := syncLine ec.requestHeaderCtx.headers
  { ec with
    requestHeaderCtx :=
      { ec.requestHeaderCtx with toRequestLine := sync ec.requestHeaderCtx.toRequestLine }
    requestBodyCtx :=
      { ec.requestBodyCtx with toRequestLine := sync ec.requestBodyCtx.toRequestLine }
    requestStreamContext :=
      { ec.requestStreamContext with toRequestLine := sync ec.requestStreamContext.toRequestLine } }

variable (server : Server World Params Decompressor)

/-- The contexts once the header policies have run: the loop has changed the shared
headers and the path and the method of its own context. -/
def afterRequestHeaderPolicies
    (out : ExecutionResult World RequestHeaderContext RequestHeaderAction) :
    PolicyExecutionContext World Params Decompressor :=
  let ec := { ec with requestHeaderCtx := out.context, world := out.world }
  let ec := ec.setRequestHeaders out.context.headers
  if out.shortCircuited then ec
  else
    (ec.setRequestHeaders (applyRequestHeaderMutations
      (server.executor.rangeOrder .applyRequestHeaderMutations) out.context.headers
      out.results)).syncRequestPseudoHeaders

def afterRequestPolicies (out : ExecutionResult World RequestContext RequestAction) :
    PolicyExecutionContext World Params Decompressor :=
  { ec with requestBodyCtx := out.context, world := out.world }.setRequestHeaders
    out.context.headers

def translateRequestHeaderActions
    (out : ExecutionResult World RequestHeaderContext RequestHeaderAction) :
    Step World Params Decompressor :=
  let stamped := requestStamps ec.requestBodyCtx.headers (headerModifications out.results)
  match out.finalAction with
  | some (.immediate response) => ec.denied server response stamped [.requestHeaders out.results]
  | _ =>
    ec.translated server (.headers ec.getModeOverride) (insertAll ∅ stamped)
      (insertAll ec.analyticsMetadata stamped) [.requestHeaders out.results]

def translateRequestHeaderActionsWithBodyMerge
    (headerResults : List (PolicyResult RequestHeaderContext RequestHeaderAction))
    (out : ExecutionResult World RequestContext RequestAction) :
    Step World Params Decompressor :=
  let stamped := requestStamps ec.requestBodyCtx.headers
    (headerModifications headerResults ++ requestModifications out.results)
  let executions := [.requestHeaders headerResults, .requestBody out.results]
  match out.finalAction with
  | some (.immediate response) => ec.deniedAlone server response executions
  | _ =>
    ec.translated server (.headers ec.getModeOverride) (insertAll ∅ stamped)
      (insertAll ec.analyticsMetadata stamped) executions

def processRequestBodyForEmptyRequest
    (headerResults : List (PolicyResult RequestHeaderContext RequestHeaderAction)) :
    Step World Params Decompressor :=
  let noBody : Body := { content := [], endOfStream := true, present := false }
  let bodyCtx := { ec.requestBodyCtx with body := some (ec.requestBodyCtx.body.getD noBody) }
  let ec := { ec with requestBodyCtx := bodyCtx }
  match executeRequestPolicies server.executor ec.policyChain bodyCtx ec.world with
  | .error problem => failWith server ec problem
  | .ok out =>
    (ec.afterRequestPolicies out).translateRequestHeaderActionsWithBodyMerge server headerResults
      out

def processRequestHeaders : Step World Params Decompressor :=
  let ec := { ec with phase := .requestHeaders }
  match executeRequestHeaderPolicies server.executor ec.policyChain ec.requestHeaderCtx
      ec.world with
  | .error problem => failWith server ec problem
  | .ok out =>
    let ec := ec.afterRequestHeaderPolicies server out
    if out.shortCircuited = false ∧ ec.policyChain.requiresRequestBody = true ∧
        ec.requestHasNoBody = true then
      ec.processRequestBodyForEmptyRequest server out.results
    else ec.translateRequestHeaderActions server out

/-! ## Streamed bodies -/

def maxStreamAccumulatorSize : Nat := 10 * 1024 * 1024

/-- The loop of `anyPolicyNeedsMoreRequestData` and `anyPolicyNeedsMoreResponseData`;
a condition that cannot be evaluated counts as met. -/
def anyPolicyNeedsMore (conditionMet : PolicySpec Params → World → Except ExecutionError Bool)
    (needsMore : Policy World Params → Option (Bytes → World → Bool × World))
    (accumulated : Bytes) : List (ChainEntry World Params) → World → Bool × World
  | [], world => (false, world)
  | entry :: rest, world =>
    if entry.spec.enabled = false then
      anyPolicyNeedsMore conditionMet needsMore accumulated rest world
    else
      match conditionMet entry.spec world, needsMore entry.policy with
      | .ok false, _ => anyPolicyNeedsMore conditionMet needsMore accumulated rest world
      | _, none => anyPolicyNeedsMore conditionMet needsMore accumulated rest world
      | _, some asks =>
        match asks accumulated world with
        | (true, world) => (true, world)
        | (false, world) => anyPolicyNeedsMore conditionMet needsMore accumulated rest world

def anyPolicyNeedsMoreRequestData (accumulated : Bytes) (world : World) : Bool × World :=
  anyPolicyNeedsMore
    (fun spec world => streamingRequestPhase.conditionMet server.executor
      ec.policyChain.hasExecutionConditions spec
      (ec.requestStreamContext, { chunk := accumulated, endOfStream := false }) world)
    (fun policy => policy.streamingRequestPolicy.map (·.needsMoreRequestData))
    accumulated ec.policyChain.entries world

def anyPolicyNeedsMoreResponseData (accumulated : Bytes) (world : World) : Bool × World :=
  anyPolicyNeedsMore
    (fun spec world => streamingResponsePhase.conditionMet server.executor
      ec.policyChain.hasExecutionConditions spec
      (ec.responseStreamContext, { chunk := accumulated, endOfStream := false }) world)
    (fun policy => policy.streamingResponsePolicy.map (·.needsMoreResponseData))
    accumulated ec.policyChain.entries world

/-- Whether the accumulated bytes wait for more; the policies are asked only when
neither the end of the stream nor the size limit has decided. -/
def waitsForMore (needsMore : Bytes → World → Bool × World) (accumulated : Bytes)
    (endOfStream : Bool) (world : World) : Bool × World :=
  if endOfStream = true ∨ maxStreamAccumulatorSize ≤ accumulated.length then (false, world)
  else needsMore accumulated world

def suppress : Step World Params Decompressor where
  context := ec
  response := .streamed { body := [], endOfStream := false }
  executions := []

def translateStreamingRequestChunkAction (chunk : StreamBody)
    (out : ExecutionResult World (RequestStreamContext × StreamBody) StreamingRequestAction) :
    Step World Params Decompressor :=
  let sent := encodeChunk server.codec ec.requestContentEncoding out.context.2.chunk
  let stamped := (out.results.filterMap (·.action)).flatMap fun action =>
    writesOf action.analyticsMetadata
  { ec with world := out.world, requestContentEncoding := sent.2 }.translated server
    (.streamed { body := sent.1, endOfStream := chunk.endOfStream }) (insertAll ∅ stamped)
    (insertAll ec.analyticsMetadata stamped) [.requestChunk chunk out.results]

def flushRequestChunk (chunk : StreamBody) : Step World Params Decompressor :=
  let bodyCtx :=
    if chunk.endOfStream then
      { ec.requestBodyCtx with
        body := some { content := chunk.chunk, endOfStream := true, present := true } }
    else ec.requestBodyCtx
  let ec := { ec with requestBodyCtx := bodyCtx }
  match executeStreamingRequestPolicies server.executor ec.policyChain ec.requestStreamContext
      chunk ec.world with
  | .error problem => failWith server ec problem
  | .ok out => ec.translateStreamingRequestChunkAction server chunk out

def feedRequestChunk (body : HttpBody) :
    PolicyExecutionContext World Params Decompressor × Bytes :=
  let decompressor := ec.requestStreamDecomp.getD
    (server.codec.newStreamDecompressor ec.requestContentEncoding)
  match server.codec.feedChunk decompressor body.body body.endOfStream with
  | (.ok decompressed, decompressor) =>
    ({ ec with requestStreamDecomp := some decompressor }, decompressed)
  | (.error _, _) =>
    ({ ec with requestStreamDecomp := none, requestContentEncoding := "" }, body.body)

def processStreamingRequestBody (body : HttpBody) : Step World Params Decompressor :=
  if ec.requestContentEncoding ≠ "" then
    let fed := ec.feedRequestChunk server body
    if fed.2 = [] ∧ body.endOfStream = false then fed.1.suppress
    else fed.1.flushRequestChunk server { chunk := fed.2, endOfStream := body.endOfStream }
  else
    let accumulated := ec.requestStreamAccumulator ++ body.body
    match waitsForMore (ec.anyPolicyNeedsMoreRequestData server) accumulated body.endOfStream
        ec.world with
    | (true, world) => { ec with requestStreamAccumulator := accumulated, world := world }.suppress
    | (false, world) =>
      { ec with requestStreamAccumulator := [], world := world }.flushRequestChunk server
        { chunk := accumulated, endOfStream := body.endOfStream }

-- as for requests, and a policy may have ended the stream
def translateStreamingResponseChunkAction (chunk : StreamBody)
    (out : ExecutionResult World (ResponseStreamContext × StreamBody) StreamingResponseAction) :
    Step World Params Decompressor :=
  let sent := encodeChunk server.codec ec.responseContentEncoding out.context.2.chunk
  let stamped := (out.results.filterMap (·.action)).flatMap fun action =>
    writesOf action.analyticsMetadata
  let ended := { ec with streamTerminated := ec.streamTerminated || out.shortCircuited }
  { ended with world := out.world, responseContentEncoding := sent.2 }.translated server
    (.streamed { body := sent.1, endOfStream := chunk.endOfStream || out.shortCircuited })
    (insertAll (ec.analyticsMetadata.erase "request_headers") stamped)
    (insertAll ec.analyticsMetadata stamped) [.responseChunk chunk out.results]

def flushResponseChunk (chunk : StreamBody) : Step World Params Decompressor :=
  match executeStreamingResponsePolicies server.executor ec.policyChain ec.responseStreamContext
      chunk ec.world with
  | .error problem => failWith server ec problem
  | .ok out => ec.translateStreamingResponseChunkAction server chunk out

def feedResponseChunk (body : HttpBody) :
    PolicyExecutionContext World Params Decompressor × Bytes :=
  let decompressor := ec.responseStreamDecomp.getD
    (server.codec.newStreamDecompressor ec.responseContentEncoding)
  match server.codec.feedChunk decompressor body.body body.endOfStream with
  | (.ok decompressed, decompressor) =>
    ({ ec with responseStreamDecomp := some decompressor }, decompressed)
  | (.error _, _) =>
    ({ ec with responseStreamDecomp := none, responseContentEncoding := "" }, body.body)

def processStreamingResponseBody (body : HttpBody) : Step World Params Decompressor :=
  if ec.streamTerminated then ec.suppress
  else if ec.responseContentEncoding ≠ "" then
    let fed := ec.feedResponseChunk server body
    if fed.2 = [] ∧ body.endOfStream = false then fed.1.suppress
    else fed.1.flushResponseChunk server { chunk := fed.2, endOfStream := body.endOfStream }
  else
    let accumulated := ec.streamAccumulator ++ body.body
    match waitsForMore (ec.anyPolicyNeedsMoreResponseData server) accumulated body.endOfStream
        ec.world with
    | (true, world) => { ec with streamAccumulator := accumulated, world := world }.suppress
    | (false, world) =>
      { ec with streamAccumulator := [], world := world }.flushResponseChunk server
        { chunk := accumulated, endOfStream := body.endOfStream }

/-! ## Request body -/

/-- A body that cannot be decompressed is handed to the policies as it is. -/
def plainBody (encoding : String) (body : HttpBody) : Body × String :=
  if encoding = "" then
    ({ content := body.body, endOfStream := body.endOfStream, present := true }, "")
  else
    match decompressBody server.codec body.body encoding with
    | .ok content =>
      ({ content := content, endOfStream := body.endOfStream, present := true }, encoding)
    | .error _ =>
      ({ content := body.body, endOfStream := body.endOfStream, present := true }, "")

def translateRequestBodyActions (out : ExecutionResult World RequestContext RequestAction) :
    Step World Params Decompressor :=
  let stamped := requestStamps ec.requestBodyCtx.headers (requestModifications out.results)
  match out.finalAction with
  | some (.immediate response) => ec.denied server response stamped [.requestBody out.results]
  | _ =>
    ec.translated server .body (insertAll ec.analyticsMetadata stamped)
      (insertAll ec.analyticsMetadata stamped) [.requestBody out.results]

def processRequestBody (body : HttpBody) : Step World Params Decompressor :=
  let ec := { ec with phase := .requestBody }
  if ec.isStreamingRequest then ec.processStreamingRequestBody server body
  else if ec.policyChain.requiresRequestBody then
    let plain := plainBody server ec.requestContentEncoding body
    let bodyCtx := { ec.requestBodyCtx with body := some plain.1 }
    let ec := { ec with requestBodyCtx := bodyCtx, requestContentEncoding := plain.2 }
    match executeRequestPolicies server.executor ec.policyChain bodyCtx ec.world with
    | .error problem => failWith server ec problem
    | .ok out => (ec.afterRequestPolicies out).translateRequestBodyActions server out
  else { context := ec, response := .body, executions := [] }

/-! ## Response headers and body -/

def applyResponseHeaderMutations (order : MapIteration String) (headers : Headers)
    (results : List (PolicyResult ResponseHeaderContext ResponseHeaderAction)) : Headers :=
  results.foldl (fun headers result =>
    match result.action with
    | some (.modifications mods) =>
      modifyHeaders order result.position toLower mods.toHeaderModifications headers
    | some (.immediate _) => headers
    | none => headers) headers

def afterResponseHeaderPolicies
    (out : ExecutionResult World ResponseHeaderContext ResponseHeaderAction) :
    PolicyExecutionContext World Params Decompressor :=
  { ec with responseHeaderCtx := out.context, world := out.world }.setResponseHeaders
    (applyResponseHeaderMutations (server.executor.rangeOrder .applyResponseHeaderMutations)
      out.context.responseHeaders out.results)

def afterResponsePolicies (out : ExecutionResult World ResponseContext ResponseAction) :
    PolicyExecutionContext World Params Decompressor :=
  { ec with responseBodyCtx := out.context, world := out.world }.setResponseHeaders
    out.context.responseHeaders

def withoutResponseBody : PolicyExecutionContext World Params Decompressor :=
  { ec with
    responseBodyCtx :=
      { ec.responseBodyCtx with
        responseBody := some { content := [], endOfStream := true, present := false } } }

def translateResponseHeaderActions
    (out : ExecutionResult World ResponseHeaderContext ResponseHeaderAction) :
    Step World Params Decompressor :=
  let stamped := responseStamps ec.responseBodyCtx.responseHeaders
    (responseHeaderModifications out.results)
  match out.finalAction with
  | some (.immediate response) => ec.deniedAlone server response [.responseHeaders out.results]
  | _ =>
    ec.translated server (.headers ec.getModeOverride) (insertAll ec.analyticsMetadata stamped)
      (insertAll ec.analyticsMetadata stamped) [.responseHeaders out.results]

def translateResponseHeaderActionsWithBodyMerge
    (headerResults : List (PolicyResult ResponseHeaderContext ResponseHeaderAction))
    (out : ExecutionResult World ResponseContext ResponseAction) :
    Step World Params Decompressor :=
  let stamped := responseStamps ec.responseBodyCtx.responseHeaders
    (responseHeaderModifications headerResults ++ responseModifications out.results)
  let executions := [.responseHeaders headerResults, .responseBody out.results]
  match out.finalAction with
  | some (.immediate response) => ec.deniedAlone server response executions
  | _ =>
    ec.translated server (.headers ec.getModeOverride) (insertAll ec.analyticsMetadata stamped)
      (insertAll ec.analyticsMetadata stamped) executions

def processResponseBodyForEmptyResponse
    (headerResults : List (PolicyResult ResponseHeaderContext ResponseHeaderAction)) :
    Step World Params Decompressor :=
  let ec := ec.withoutResponseBody
  match executeResponsePolicies server.executor ec.policyChain ec.responseBodyCtx ec.world with
  | .error problem => failWith server ec problem
  | .ok out =>
    (ec.afterResponsePolicies out).translateResponseHeaderActionsWithBodyMerge server headerResults
      out

def startResponse (message : HttpHeaders) : PolicyExecutionContext World Params Decompressor :=
  let ec := { ec with phase := .responseHeaders }.buildResponseContexts
    (server.executor.rangeOrder .newHeaders) message
  { ec with
    isStreamingResponse := ec.isStreamingResponse ||
      (ec.policyChain.supportsResponseStreaming && !message.endOfStream &&
        isStreamingMessage ec.responseHeaderCtx.responseHeaders) }

def processResponseHeaders (message : HttpHeaders) : Step World Params Decompressor :=
  let ec := ec.startResponse server message
  match executeResponseHeaderPolicies server.executor ec.policyChain ec.responseHeaderCtx
      ec.world with
  | .error problem => failWith server ec problem
  | .ok out =>
    let ec := ec.afterResponseHeaderPolicies server out
    if out.shortCircuited = false ∧ ec.policyChain.requiresResponseBody = true ∧
        ec.responseHasNoBody = true then
      ec.processResponseBodyForEmptyResponse server out.results
    else ec.translateResponseHeaderActions server out

def translateResponseBodyActions (out : ExecutionResult World ResponseContext ResponseAction) :
    Step World Params Decompressor :=
  match out.finalAction with
  | some (.immediate response) => ec.deniedAlone server response [.responseBody out.results]
  | _ =>
    ec.translated server .body
      (insertAll ec.analyticsMetadata (responseBodyStamps ec.analyticsMetadata
        ec.responseBodyCtx.responseHeaders (responseModifications out.results)))
      ec.analyticsMetadata [.responseBody out.results]

def processResponseBody (body : HttpBody) : Step World Params Decompressor :=
  let ec := { ec with phase := .responseBody }
  if ec.isStreamingResponse then ec.processStreamingResponseBody server body
  else if ec.policyChain.requiresResponseBody then
    let plain := plainBody server ec.responseContentEncoding body
    let bodyCtx := { ec.responseBodyCtx with responseBody := some plain.1 }
    let ec := { ec with responseBodyCtx := bodyCtx, responseContentEncoding := plain.2 }
    match executeResponsePolicies server.executor ec.policyChain bodyCtx ec.world with
    | .error problem => failWith server ec problem
    | .ok out => (ec.afterResponsePolicies out).translateResponseBodyActions server out
  else { context := ec, response := .body, executions := [] }

end PolicyExecutionContext

end ApiPlatform.PolicyEngine.Kernel
