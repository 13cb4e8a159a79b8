import ApiPlatform.PolicyEngine.Kernel.Frame

/-!
# Streamed bodies

The kernel collects the chunks of a body until the streaming policies are ready
for them.  Policies that pass chunks on neither lose nor duplicate a byte, in
either direction, as long as the analytics metadata that they attach can be
converted; what cannot be converted breaks the stream off.
-/

namespace ApiPlatform.PolicyEngine.Kernel

open Foundation PolicyExecutionContext

variable {chunk : StreamBody}

variable {World Params Decompressor : Type}

/-! ## What a step shows -/

namespace Execution

def flushed : Execution → Bytes
  | .requestChunk chunk _ => chunk.chunk
  | .responseChunk chunk _ => chunk.chunk
  | _ => []

/-- The bytes of the chunks that the policy at the position is called with. -/
def handedTo (position : Nat) : Execution → Bytes
  | .requestChunk _ results => (results.filter (isCallOf position)).flatMap (·.received.2.chunk)
  | .responseChunk _ results => (results.filter (isCallOf position)).flatMap (·.received.2.chunk)
  | _ => []

def Forwards : Execution → Prop
  | .requestChunk _ results => ∀ result ∈ results, ∀ action ∈ result.action, action.body = none
  | .responseChunk _ results =>
    ∀ result ∈ results, ∀ action ∈ result.action, action.passesOn = true
  | _ => True

/-- The policy at the position is not skipped: it is enabled and its condition holds. -/
def Meets (position : Nat) : Execution → Prop
  | .requestBody results =>
    ∀ result ∈ results, result.position = position → result.skipped = false
  | .requestChunk _ results =>
    ∀ result ∈ results, result.position = position → result.skipped = false
  | .responseBody results =>
    ∀ result ∈ results, result.position = position → result.skipped = false
  | .responseChunk _ results =>
    ∀ result ∈ results, result.position = position → result.skipped = false
  | _ => True

end Execution

namespace ProcessingResponse

def sent : ProcessingResponse → Bytes
  | .streamed response => response.body
  | _ => []

def endsStream : ProcessingResponse → Bool
  | .streamed response => response.endOfStream
  | _ => false

theorem endsStream_of_isError {response : ProcessingResponse} (herror : response.isError = true) :
    response.endsStream = false := by
  cases response with
  | error message => rfl
  | headers override | body | streamed chunk | immediate answer | panicked => cases herror

end ProcessingResponse

namespace Step

def sent (step : Step World Params Decompressor) : Bytes :=
  step.response.sent

def endsStream (step : Step World Params Decompressor) : Bool :=
  step.response.endsStream

/-- The policies are not in the way: none fails, and all forward what they get. -/
def PassesOn (step : Step World Params Decompressor) : Prop :=
  step.response.isRefusal = false ∧ ∀ execution ∈ step.executions, execution.Forwards

def flushed (step : Step World Params Decompressor) : Bytes :=
  step.executions.flatMap Execution.flushed

def handedTo (position : Nat) (step : Step World Params Decompressor) : Bytes :=
  step.executions.flatMap (Execution.handedTo position)

end Step

/-! ## Two directions -/

inductive Direction where
  | request
  | response
  deriving DecidableEq

namespace Direction

def process (direction : Direction) (server : Server World Params Decompressor)
    (ec : PolicyExecutionContext World Params Decompressor) (body : HttpBody) :
    Step World Params Decompressor :=
  match direction with
  | .request => ec.processStreamingRequestBody server body
  | .response => ec.processStreamingResponseBody server body

def accumulator (direction : Direction)
    (ec : PolicyExecutionContext World Params Decompressor) : Bytes :=
  match direction with
  | .request => ec.requestStreamAccumulator
  | .response => ec.streamAccumulator

def contentEncoding (direction : Direction)
    (ec : PolicyExecutionContext World Params Decompressor) : String :=
  match direction with
  | .request => ec.requestContentEncoding
  | .response => ec.responseContentEncoding

def streams (direction : Direction) (entry : ChainEntry World Params) : Bool :=
  match direction with
  | .request => streamingRequestPhase.participates entry
  | .response => streamingResponsePhase.participates entry

structure Open (direction : Direction) (chain : PolicyChain World Params)
    (ec : PolicyExecutionContext World Params Decompressor) : Prop where
  chain : ec.policyChain = chain
  plain : direction.contentEncoding ec = ""
  running : direction = .response → ec.streamTerminated = false

def steps (direction : Direction) (server : Server World Params Decompressor)
    (ec : PolicyExecutionContext World Params Decompressor) (bodies : List HttpBody) :
    List (Step World Params Decompressor) :=
  serve (direction.process server) ec bodies

def reached (direction : Direction) (server : Server World Params Decompressor)
    (ec : PolicyExecutionContext World Params Decompressor) (bodies : List HttpBody) :
    PolicyExecutionContext World Params Decompressor :=
  run (fun ec body => (direction.process server ec body).context) ec bodies

end Direction

/-! ## One chunk -/

section Chunk

variable {server : Server World Params Decompressor}
  {ec : PolicyExecutionContext World Params Decompressor} {body : HttpBody}
  {chain : PolicyChain World Params}

structure Held (direction : Direction) (ec : PolicyExecutionContext World Params Decompressor)
    (body : HttpBody) (step : Step World Params Decompressor) : Prop where
  sent : step.sent = []
  executions : step.executions = []
  ends : step.endsStream = false
  body_ends : body.endOfStream = false
  accumulator : direction.accumulator step.context = direction.accumulator ec ++ body.body

/-- The step hands all that has been collected to the policies and sends it. -/
structure Flushed (direction : Direction) (ec : PolicyExecutionContext World Params Decompressor)
    (body : HttpBody) (step : Step World Params Decompressor) : Prop where
  sent : step.sent = direction.accumulator ec ++ body.body
  flushed : step.flushed = direction.accumulator ec ++ body.body
  handedTo : ∀ position entry, ec.policyChain.entries[position]? = some entry →
    direction.streams entry = true → (∀ execution ∈ step.executions, execution.Meets position) →
    step.handedTo position = direction.accumulator ec ++ body.body
  ends : step.endsStream = body.endOfStream
  accumulator : direction.accumulator step.context = []

/-- A step whose policies all forward the chunk does one of the two, and the stream
stays open. -/
structure Forwarded (direction : Direction) (chain : PolicyChain World Params)
    (ec : PolicyExecutionContext World Params Decompressor) (body : HttpBody)
    (step : Step World Params Decompressor) : Prop where
  effect : Held direction ec body step ∨ Flushed direction ec body step
  stays : direction.Open chain step.context

private theorem flatMap_filter_eq {Item : Type} {items : List Item} {test : Item → Bool}
    {bytes : Item → Bytes} {chunk : Bytes} (hcount : items.countP test = 1)
    (hbytes : ∀ item ∈ items, bytes item = chunk) : (items.filter test).flatMap bytes = chunk := by
  rw [List.countP_eq_length_filter] at hcount
  obtain ⟨item, hitem⟩ := List.length_eq_one_iff.mp hcount
  have hmem : item ∈ items.filter test := by simp [hitem]
  rw [hitem, List.flatMap_singleton]
  exact hbytes item (List.mem_filter.mp hmem).1

theorem waitsForMore_true {needsMore : Bytes → World → Bool × World} {accumulated : Bytes}
    {endOfStream : Bool} {world world' : World}
    (hwaits : waitsForMore needsMore accumulated endOfStream world =
      (true, world')) : endOfStream = false := by
  unfold waitsForMore at hwaits
  split at hwaits
  · cases hwaits
  · next hgoes => simpa using fun hends => hgoes (Or.inl hends)

theorem flushRequestChunk_ok
    (hpolicies : (ec.flushRequestChunk server chunk).response.isRefusal = false) :
    ∃ out bodyCtx, executeStreamingRequestPolicies server.executor ec.policyChain
        ec.requestStreamContext chunk ec.world = .ok out ∧
      ec.flushRequestChunk server chunk =
        { ec with requestBodyCtx := bodyCtx }.translateStreamingRequestChunkAction server chunk
          out := by
  unfold flushRequestChunk at hpolicies ⊢
  dsimp only at hpolicies ⊢
  cases hrun : executeStreamingRequestPolicies server.executor ec.policyChain
      ec.requestStreamContext chunk ec.world with
  | error problem => simp [hrun] at hpolicies
  | ok out => exact ⟨out, _, rfl, rfl⟩

theorem flushResponseChunk_cases (ec : PolicyExecutionContext World Params Decompressor)
    (server : Server World Params Decompressor) (chunk : StreamBody) :
    (∃ problem, ec.flushResponseChunk server chunk = failWith server ec problem) ∨
    ∃ out, executeStreamingResponsePolicies server.executor ec.policyChain
        ec.responseStreamContext chunk ec.world = .ok out ∧
      ec.flushResponseChunk server chunk =
        ec.translateStreamingResponseChunkAction server chunk out := by
  unfold flushResponseChunk
  cases executeStreamingResponsePolicies server.executor ec.policyChain
      ec.responseStreamContext chunk ec.world with
  | error problem => exact Or.inl ⟨problem, rfl⟩
  | ok out => exact Or.inr ⟨out, rfl, rfl⟩

theorem flushResponseChunk_ok
    (hpolicies : (ec.flushResponseChunk server chunk).response.isRefusal = false) :
    ∃ out, executeStreamingResponsePolicies server.executor ec.policyChain
        ec.responseStreamContext chunk ec.world = .ok out ∧
      ec.flushResponseChunk server chunk =
        ec.translateStreamingResponseChunkAction server chunk out := by
  refine (flushResponseChunk_cases ec server chunk).resolve_left ?_
  rintro ⟨problem, hfails⟩
  simp [hfails] at hpolicies

@[simp] theorem encodeChunk_plain (codec : Codec Decompressor) (output : Bytes) :
    encodeChunk codec "" output = (output, "") :=
  rfl

private theorem handed_of_unchanged {Context Action : Type} {context : Context} {world : World}
    {phase : Phase World Params (Context × StreamBody) Action} {hasExecutionConditions : Bool}
    {executor : ChainExecutor World Params} {entries : List (ChainEntry World Params × Nat)}
    {out : ExecutionResult World (Context × StreamBody) Action}
    (hentries : entries.Perm chain.entries.zipIdx)
    (hrun : phase.execute executor hasExecutionConditions entries (context, chunk) world = .ok out)
    (hcompleted : out.shortCircuited = false)
    (hunchanged : ∀ result ∈ out.results, ∀ action ∈ result.action,
      phase.apply executor result.position action result.received = result.received) :
    out.context.2 = chunk ∧ ∀ position entry, chain.entries[position]? = some entry →
      phase.participates entry = true →
      (∀ result ∈ out.results, result.position = position → result.skipped = false) →
      (out.results.filter (isCallOf position)).flatMap (·.received.2.chunk) = chunk.chunk := by
  obtain ⟨hcontext, hreceived⟩ := Phase.received_of_unchanged hrun fun result hresult => by
    cases haction : result.action with
    | none => simp [Phase.after, haction]
    | some action => simpa [Phase.after, haction] using hunchanged result hresult action haction
  refine ⟨by rw [hcontext], ?_⟩
  intro position entry hentry hstreams hmeets
  have hcalls := executionsAt_of_completed hentries hrun hcompleted hentry hmeets
  rw [if_pos hstreams] at hcalls
  exact flatMap_filter_eq hcalls fun result hresult => by rw [hreceived result hresult]

/-- What a flush does whose policies all forward the chunk. -/
structure Flushing (direction : Direction) (ec : PolicyExecutionContext World Params Decompressor)
    (chunk : StreamBody) (step : Step World Params Decompressor) : Prop where
  sent : step.sent = chunk.chunk
  flushed : step.flushed = chunk.chunk
  handedTo : ∀ position entry, ec.policyChain.entries[position]? = some entry →
    direction.streams entry = true → (∀ execution ∈ step.executions, execution.Meets position) →
    step.handedTo position = chunk.chunk
  ends : step.endsStream = chunk.endOfStream
  accumulator : direction.accumulator step.context = direction.accumulator ec
  stays : direction.Open ec.policyChain step.context

theorem flushing_flushRequestChunk (hplain : ec.requestContentEncoding = "")
    (hpasses : (ec.flushRequestChunk server chunk).PassesOn)
    (hanswered : (ec.flushRequestChunk server chunk).response.isError = false) :
    Flushing .request ec chunk (ec.flushRequestChunk server chunk) := by
  obtain ⟨hpolicies, hforwards⟩ := hpasses
  obtain ⟨out, bodyCtx, hrun, hstep⟩ := flushRequestChunk_ok hpolicies
  rw [hstep] at hforwards hanswered ⊢
  have hresponse := response_of_answered hanswered
  have hforward := hforwards _ List.mem_cons_self
  obtain ⟨hchunk, hhanded⟩ := handed_of_unchanged (List.Perm.refl _) hrun
    (Phase.not_shortCircuited hrun fun result _ => stopsOn_ne_of_none (by simp))
    fun result hresult action haction => by
      simp [streamingRequestPhase, hforward result hresult action haction]
  unfold translateStreamingRequestChunkAction
  constructor
  · exact (congrArg ProcessingResponse.sent hresponse).trans
      (by simp [ProcessingResponse.sent, hplain, hchunk])
  · simp [Step.flushed, translated, Execution.flushed]
  · intro position entry hentry hstreams hmeets
    have hbytes := hhanded position entry hentry hstreams (hmeets _ List.mem_cons_self)
    simpa [Step.handedTo, translated, Execution.handedTo] using hbytes
  · exact congrArg ProcessingResponse.endsStream hresponse
  · rfl
  · exact ⟨rfl, by simp [Direction.contentEncoding, translated, hplain], nofun⟩

theorem apply_of_passesOn {executor : ChainExecutor World Params} {position : Nat}
    {action : StreamingResponseAction} {context : ResponseStreamContext × StreamBody}
    (hpasses : action.passesOn = true) :
    streamingResponsePhase.apply executor position action context = context := by
  obtain ⟨_ | chunk, metadata⟩ | ⟨final, metadata⟩ := action
  · rfl
  · cases hpasses
  · cases hpasses

theorem flushing_flushResponseChunk (hplain : ec.responseContentEncoding = "")
    (hrunning : ec.streamTerminated = false)
    (hpasses : (ec.flushResponseChunk server chunk).PassesOn)
    (hanswered : (ec.flushResponseChunk server chunk).response.isError = false) :
    Flushing .response ec chunk (ec.flushResponseChunk server chunk) := by
  obtain ⟨hpolicies, hforwards⟩ := hpasses
  obtain ⟨out, hrun, hstep⟩ := flushResponseChunk_ok hpolicies
  rw [hstep] at hforwards hanswered ⊢
  have hresponse := response_of_answered hanswered
  have hforward := hforwards _ List.mem_cons_self
  have hcompleted : out.shortCircuited = false := by
    refine Phase.not_shortCircuited hrun fun result hresult hstops => ?_
    obtain ⟨action, haction, hterminates⟩ := terminates_of_stops hstops
    have hpasses := hforward result hresult action haction
    cases action with
    | forward body metadata => cases hterminates
    | terminate body metadata => cases hpasses
  obtain ⟨hchunk, hhanded⟩ := handed_of_unchanged (List.reverse_perm _) hrun hcompleted
    fun result hresult action haction => apply_of_passesOn (hforward result hresult action haction)
  unfold translateStreamingResponseChunkAction
  constructor
  · exact (congrArg ProcessingResponse.sent hresponse).trans
      (by simp [ProcessingResponse.sent, hplain, hchunk])
  · simp [Step.flushed, translated, Execution.flushed]
  · intro position entry hentry hstreams hmeets
    have hbytes := hhanded position entry hentry hstreams (hmeets _ List.mem_cons_self)
    simpa [Step.handedTo, translated, Execution.handedTo] using hbytes
  · exact (congrArg ProcessingResponse.endsStream hresponse).trans
      (by simp [ProcessingResponse.endsStream, hcompleted])
  · rfl
  · exact ⟨rfl, by simp [Direction.contentEncoding, translated, hplain],
      fun _ => by simp [translated, hrunning, hcompleted]⟩

theorem Flushing.forwarded {direction : Direction} {collecting : _} {step : _}
    (hopen : direction.Open chain ec) (hsame : collecting.policyChain = ec.policyChain)
    (hcollecting : direction.accumulator collecting = [])
    (hflushing : Flushing direction collecting
      { chunk := direction.accumulator ec ++ body.body, endOfStream := body.endOfStream } step) :
    Forwarded direction chain ec body step := by
  refine ⟨.inr ⟨hflushing.sent, hflushing.flushed, ?_, hflushing.ends, ?_⟩, ?_⟩
  · exact fun position entry hentry => hflushing.handedTo position entry (hsame ▸ hentry)
  · exact hflushing.accumulator.trans hcollecting
  · exact hopen.chain ▸ hsame ▸ hflushing.stays

theorem forwarded_processStreamingRequestBody (hopen : Direction.request.Open chain ec)
    (hpasses : (ec.processStreamingRequestBody server body).PassesOn)
    (hanswered : (ec.processStreamingRequestBody server body).response.isError = false) :
    Forwarded .request chain ec body (ec.processStreamingRequestBody server body) := by
  have hplain : ec.requestContentEncoding = "" := hopen.plain
  unfold processStreamingRequestBody at hpasses hanswered ⊢
  rw [if_neg (not_not_intro hplain)] at hpasses hanswered ⊢
  dsimp only at hpasses hanswered ⊢
  split at hpasses
  · next world hwaits =>
    exact ⟨.inl ⟨rfl, rfl, rfl, waitsForMore_true hwaits, rfl⟩, hopen.chain, hplain, nofun⟩
  · next world hwaits =>
    rw [hwaits] at hanswered
    refine Flushing.forwarded hopen ?_ ?_ (flushing_flushRequestChunk ?_ hpasses hanswered)
    · rfl
    · rfl
    · exact hplain

theorem forwarded_processStreamingResponseBody (hopen : Direction.response.Open chain ec)
    (hpasses : (ec.processStreamingResponseBody server body).PassesOn)
    (hanswered : (ec.processStreamingResponseBody server body).response.isError = false) :
    Forwarded .response chain ec body (ec.processStreamingResponseBody server body) := by
  have hplain : ec.responseContentEncoding = "" := hopen.plain
  have hrunning : ec.streamTerminated = false := hopen.running rfl
  unfold processStreamingResponseBody at hpasses hanswered ⊢
  rw [if_neg (by simp [hrunning]), if_neg (not_not_intro hplain)] at hpasses hanswered ⊢
  dsimp only at hpasses hanswered ⊢
  split at hpasses
  · next world hwaits =>
    exact ⟨.inl ⟨rfl, rfl, rfl, waitsForMore_true hwaits, rfl⟩, hopen.chain, hplain,
      fun _ => hrunning⟩
  · next world hwaits =>
    rw [hwaits] at hanswered
    refine Flushing.forwarded hopen ?_ ?_ (flushing_flushResponseChunk ?_ ?_ hpasses hanswered)
    · rfl
    · rfl
    · exact hplain
    · exact hrunning

theorem forwarded_process {direction : Direction} (hopen : direction.Open chain ec)
    (hpasses : (direction.process server ec body).PassesOn)
    (hanswered : (direction.process server ec body).response.isError = false) :
    Forwarded direction chain ec body (direction.process server ec body) := by
  cases direction with
  | request => exact forwarded_processStreamingRequestBody hopen hpasses hanswered
  | response => exact forwarded_processStreamingResponseBody hopen hpasses hanswered

theorem isError_process {direction : Direction} :
    (direction.process server ec body).response.isError = true ↔
      ¬ (direction.process server ec body).Converts server := by
  cases direction with
  | request => exact answersIn_processStreamingRequestBody.errs
  | response => exact answersIn_processStreamingResponseBody.errs

end Chunk

/-! ## Whole streams -/

section Streams

variable {direction : Direction} {server : Server World Params Decompressor}
  {ec : PolicyExecutionContext World Params Decompressor} {bodies : List HttpBody}
  {chain : PolicyChain World Params}

structure Conserved (direction : Direction) (server : Server World Params Decompressor)
    (ec : PolicyExecutionContext World Params Decompressor) (bodies : List HttpBody) : Prop where
  emitted : (direction.steps server ec bodies).flatMap Step.sent = bodies.flatMap HttpBody.body
  every_step : ∀ pre post, bodies = pre ++ post →
    (direction.steps server ec pre).flatMap Step.sent ++
      direction.accumulator (direction.reached server ec pre) = pre.flatMap HttpBody.body
  flushed : (direction.steps server ec bodies).flatMap Step.flushed = bodies.flatMap HttpBody.body
  handed : ∀ position entry, ec.policyChain.entries[position]? = some entry →
    direction.streams entry = true →
    (∀ step ∈ direction.steps server ec bodies, ∀ execution ∈ step.executions,
      execution.Meets position) →
    (direction.steps server ec bodies).flatMap (Step.handedTo position) =
      bodies.flatMap HttpBody.body
  ends : EndsOnce ((direction.steps server ec bodies).map Step.endsStream)

/-- A step that passes on what it got and is answered. -/
def Step.Passed (step : Step World Params Decompressor) : Prop :=
  step.PassesOn ∧ step.response.isError = false

theorem isError_steps : ∀ step ∈ direction.steps server ec bodies,
    (step.response.isError = true ↔ ¬ step.Converts server) := by
  refine trace_forall (fun _ => True) (fun step : Step World Params Decompressor =>
    (step.response.isError = true ↔ ¬ step.Converts server)) (fun _ _ _ => ?_) trivial
  exact ⟨isError_process, trivial⟩

theorem passed_steps (hpasses : ∀ step ∈ direction.steps server ec bodies, step.PassesOn)
    (hconverts : ∀ step ∈ direction.steps server ec bodies, step.Converts server) :
    ∀ step ∈ direction.steps server ec bodies, step.Passed := by
  intro step hstep
  refine ⟨hpasses step hstep, Bool.eq_false_iff.mpr fun herror => ?_⟩
  exact (isError_steps step hstep).mp herror (hconverts step hstep)

section

variable (hopen : direction.Open chain ec)
include hopen

theorem forwarded_of_passed {body : HttpBody}
    (hpassed : (direction.process server ec body).Passed) :
    Forwarded direction chain ec body (direction.process server ec body) :=
  forwarded_process hopen hpassed.1 hpassed.2

theorem open_reached (hpassed : ∀ step ∈ direction.steps server ec bodies, step.Passed) :
    direction.Open chain (direction.reached server ec bodies) :=
  trace_holds (direction.Open chain) (fun _ hgood => hgood.2)
    (fun _ _ hopen hgood => (forwarded_of_passed hopen hgood).stays) hopen hpassed

theorem accumulator_of_ends (hpassed : ∀ step ∈ direction.steps server ec bodies, step.Passed)
    (hends : EndsOnce (bodies.map HttpBody.endOfStream)) :
    direction.accumulator (direction.reached server ec bodies) = [] := by
  obtain ⟨init, last, rfl, hlast, -⟩ := hends.exists_last
  rw [Direction.steps, serve, trace_append (fun _ hgood => hgood.2) hpassed] at hpassed
  have hinit := open_reached hopen fun step hstep => hpassed step (List.mem_append_left _ hstep)
  have hstep := forwarded_of_passed hinit
    (hpassed _ (List.mem_append_right _ List.mem_cons_self))
  rw [Direction.reached, run_append]
  rcases hstep.effect with hheld | hflushed
  · exact absurd hlast (by simp [hheld.body_ends])
  · exact hflushed.accumulator

end

theorem shown_append_accumulator {shown : Step World Params Decompressor → Bytes}
    {good : Step World Params Decompressor → Prop}
    (hheld : ∀ {ec body step}, Held direction ec body step → shown step = [])
    (hflushed : ∀ {ec : PolicyExecutionContext World Params Decompressor} {body step},
      ec.policyChain = chain → Flushed direction ec body step → good step →
        shown step = direction.accumulator ec ++ body.body)
    (hopen : direction.Open chain ec)
    (hpassed : ∀ step ∈ direction.steps server ec bodies, step.Passed ∧ good step) :
    (direction.steps server ec bodies).flatMap shown ++
        direction.accumulator (direction.reached server ec bodies) =
      direction.accumulator ec ++ bodies.flatMap HttpBody.body := by
  refine trace_conserves (fun _ hgood => hgood.1.2) ?_ hopen hpassed
  rintro ec body hopen ⟨hpassed, hgood⟩
  have hstep := forwarded_of_passed hopen hpassed
  refine ⟨?_, hstep.stays⟩
  rcases hstep.effect with hkept | hgone
  · rw [hheld hkept, hkept.accumulator, List.nil_append]
  · rw [hflushed hopen.chain hgone hgood, hgone.accumulator, List.append_nil]

theorem endsStream_steps (hopen : direction.Open chain ec)
    (hpassed : ∀ step ∈ direction.steps server ec bodies, step.Passed) :
    (direction.steps server ec bodies).map Step.endsStream =
      bodies.map HttpBody.endOfStream := by
  have hflags : (direction.steps server ec bodies).map Step.endsStream =
      (bodies.take (direction.steps server ec bodies).length).map HttpBody.endOfStream := by
    refine trace_map ?_ hopen hpassed
    intro ec body hopen hpassed
    have hstep := forwarded_of_passed hopen hpassed
    refine ⟨?_, hstep.stays⟩
    rcases hstep.effect with hheld | hflushed
    · rw [hheld.ends, hheld.body_ends]
    · exact hflushed.ends
  have hlength : (direction.steps server ec bodies).length = bodies.length :=
    length_trace (fun _ hgood => hgood.2) hpassed
  rw [hflags, hlength, List.take_length]

theorem conserved_of_passed (hopen : direction.Open ec.policyChain ec)
    (hempty : direction.accumulator ec = []) (hends : EndsOnce (bodies.map HttpBody.endOfStream))
    (hpassed : ∀ step ∈ direction.steps server ec bodies, step.Passed) :
    Conserved direction server ec bodies := by
  have hdone := accumulator_of_ends hopen hpassed hends
  have hsent : ∀ {bodies}, (∀ step ∈ direction.steps server ec bodies, step.Passed) →
      (direction.steps server ec bodies).flatMap Step.sent ++
        direction.accumulator (direction.reached server ec bodies) =
          direction.accumulator ec ++ bodies.flatMap HttpBody.body := fun hpassed =>
    shown_append_accumulator Held.sent (fun _ hflushed _ => hflushed.sent) hopen
      fun step hstep => ⟨hpassed step hstep, trivial⟩
  constructor
  · simpa [hdone, hempty] using hsent hpassed
  · rintro pre post rfl
    rw [Direction.steps, serve, trace_append (fun _ hgood => hgood.2) hpassed] at hpassed
    simpa [hempty] using hsent fun step hstep => hpassed step (List.mem_append_left _ hstep)
  · have hflushed := shown_append_accumulator
      (fun hheld => by simp [Step.flushed, hheld.executions])
      (fun _ hflushed _ => hflushed.flushed) hopen fun step hstep => ⟨hpassed step hstep, trivial⟩
    simpa [hdone, hempty] using hflushed
  · intro position entry hentry hstreams hmeets
    have hhanded := shown_append_accumulator
      (fun hheld => (by simp [Step.handedTo, hheld.executions] : Step.handedTo position _ = []))
      (fun hchain hflushed => hflushed.handedTo position entry (hchain ▸ hentry) hstreams) hopen
      fun step hstep => ⟨hpassed step hstep, hmeets step hstep⟩
    simpa [hdone, hempty] using hhanded
  · rw [endsStream_steps hopen hpassed]
    exact hends

/-- A stream that has ended once was not broken off. -/
theorem answered_of_endsOnce (hends : EndsOnce ((direction.steps server ec bodies).map
    Step.endsStream)) : ∀ step ∈ direction.steps server ec bodies, step.Converts server := by
  intro step hstep
  by_contra hfails
  have herror := (isError_steps step hstep).mpr hfails
  -- the step that fails is the last one, and it does not end the stream
  have hlast := getLast?_trace_of_ends hstep herror
  obtain ⟨count, hflags⟩ := hends
  have hflag := congrArg List.getLast? hflags
  rw [List.getLast?_map, Direction.steps, serve, hlast, List.getLast?_append] at hflag
  simp [Step.endsStream, ProcessingResponse.endsStream_of_isError herror] at hflag

end Streams

/-! ## An event stream -/

def plainServer : Server Unit Unit Unit where
  executor :=
    { celEvaluator := none
      deepCopyParams := .ok
      addQueryParametersToPath := fun path _ => path
      removeQueryParametersFromPath := fun path _ => path
      rangeOrder := fun _ => storedOrder String }
  codec :=
    { decode := fun _ body => .ok body
      encode := fun _ body => .ok body
      newStreamDecompressor := fun _ => ()
      feedChunk := fun _ chunk _ => (.ok chunk, ()) }
  structCodec :=
    { convertToStructValue := fun value =>
        match value with
        | .unencodable description =>
          .error ("failed to marshal value to JSON: json: unsupported value: " ++ description)
        | .headers _ | .json _ => .ok ()
      newStringValue := fun _ => () }
  newErrorID := fun _ => "error-1"

def plainSpec (name : String) : PolicySpec Unit where
  name := name
  version := "v1"
  enabled := true
  parameters := ()
  executionCondition := none

/-- Whether a policy that reads lines needs more: it waits for the end of a line. -/
def waitsForLine (accumulated : Bytes) : Bool :=
  accumulated.getLast? != some 10

def requestStreamer (mode : BodyProcessingMode) (needsMore : Bytes → Bool)
    (action : Option StreamingRequestAction) : ChainEntry Unit Unit where
  spec := plainSpec "request-streamer"
  policy :=
    { mode :=
        { requestHeaderMode := .skip, requestBodyMode := mode
          responseHeaderMode := .skip, responseBodyMode := .skip }
      requestPolicy := some
        { onRequestBody := fun _ _ world => (none, world)
          streaming := some
            { onRequestBodyChunk := fun _ _ world => (action, world)
              needsMoreRequestData := fun accumulated world => (needsMore accumulated, world) } } }

def responseStreamer (needsMore : Bytes → Bool)
    (onChunk : StreamBody → Option StreamingResponseAction) : ChainEntry Unit Unit where
  spec := plainSpec "response-streamer"
  policy :=
    { mode :=
        { requestHeaderMode := .skip, requestBodyMode := .skip
          responseHeaderMode := .skip, responseBodyMode := .stream }
      responsePolicy := some
        { onResponseBody := fun _ _ world => (none, world)
          streaming := some
            { onResponseBodyChunk := fun context _ world => (onChunk context.2, world)
              needsMoreResponseData := fun accumulated world => (needsMore accumulated, world) } } }

def lineReader (onChunk : StreamBody → StreamingResponseAction) : ChainEntry Unit Unit :=
  responseStreamer waitsForLine fun chunk => some (onChunk chunk)

def streamContext (entries : List (ChainEntry Unit Unit)) : PolicyExecutionContext Unit Unit Unit :=
  buildRequestContexts plainServer (PolicyChain.ofEntries entries) "RestApi"
    { headers := [(":method", "GET")], endOfStream := true } ()

instance (execution : Execution) : Decidable execution.Forwards :=
  match execution with
  | .requestChunk _ results =>
    inferInstanceAs (Decidable (∀ result ∈ results, ∀ action ∈ result.action, action.body = none))
  | .responseChunk _ results =>
    inferInstanceAs (Decidable (∀ result ∈ results, ∀ action ∈ result.action,
      action.passesOn = true))
  | .requestHeaders _ | .requestBody _ | .responseHeaders _ | .responseBody _ => isTrue trivial

instance (step : Step World Params Decompressor) : Decidable step.PassesOn :=
  inferInstanceAs (Decidable (_ ∧ ∀ execution ∈ step.executions, execution.Forwards))

def twoLines : List HttpBody :=
  [⟨[104], false⟩, ⟨[105, 10], false⟩, ⟨[], true⟩]

def scores : GoMap String AnalyticsValue :=
  insertAll ∅ [("scores", .unencodable "NaN")]

end ApiPlatform.PolicyEngine.Kernel
