import ApiPlatform.PolicyEngine.Kernel.Streaming

/-!
# Which policies hold a stream back

Before it flushes a chunk the engine asks the streaming policies whether they need
more data.  The loop that asks selects the policies by a test of its own, in the order
of the chain.  The loop of the executor that would handle the flush selects them by
another, and need not come to all of them.
-/

namespace ApiPlatform.PolicyEngine.Kernel

open Foundation PolicyExecutionContext

variable {World Params Decompressor Context Action : Type}

/-- A chunk that could be flushed: the run of the executor on it, and the question that comes
before. -/
structure Flush (World Params Context Action : Type) where
  phase : Phase World Params Context Action
  executor : ChainExecutor World Params
  chain : PolicyChain World Params
  /-- The policies in the order of the executor. -/
  policies : List (ChainEntry World Params × Nat)
  context : Context
  needsMore : Policy World Params → Option (Bytes → World → Bool × World)
  accumulated : Bytes

namespace Flush

variable (flush : Flush World Params Context Action)

def conditionMet (spec : PolicySpec Params) (world : World) : Except ExecutionError Bool :=
  flush.phase.conditionMet flush.executor flush.chain.hasExecutionConditions spec flush.context
    world

/-- The executor, run on the chunk, calls the policy at the position. -/
def Invokes (world : World) (position : Nat) : Prop :=
  flush.phase.InvokesAt flush.executor flush.chain.hasExecutionConditions flush.policies
    flush.context world position

def asksForMore (entry : ChainEntry World Params) (world : World) : Bool :=
  (flush.needsMore entry.policy).any fun asks => (asks flush.accumulated world).1

/-- The test of the loop that asks. -/
def isAsked (entry : ChainEntry World Params) (world : World) : Bool :=
  entry.spec.enabled &&
    match flush.conditionMet entry.spec world with
    | .ok met => met
    | .error _ => true

def worldAfter (entry : ChainEntry World Params) (world : World) : World :=
  if flush.isAsked entry world then
    ((flush.needsMore entry.policy).map fun asks => (asks flush.accumulated world).2).getD world
  else world

/-- The turn of a policy in the loop that asks, with the state that the policies asked before
it have left. -/
structure Turn (World Params : Type) where
  entry : ChainEntry World Params
  position : Nat
  world : World

def turns (places : List (ChainEntry World Params × Nat)) (world : World) :
    List (Turn World Params) :=
  trace (fun world place => ⟨place.1, place.2, world⟩)
    (fun turn => flush.worldAfter turn.entry turn.world) (fun _ => false) world places

/-- A policy in its turn that would have the stream wait, if it is asked. -/
def NeedsMore (world : World) (selects : Turn World Params → Prop) : Prop :=
  ∃ turn ∈ flush.turns flush.chain.entries.zipIdx world,
    selects turn ∧ flush.asksForMore turn.entry turn.world = true

def Asked (turn : Turn World Params) : Prop :=
  flush.isAsked turn.entry turn.world = true

def InvokedNeedsMore (world : World) : Prop :=
  flush.NeedsMore world fun turn => flush.Invokes world turn.position

def AskedNeedsMore (world : World) : Prop :=
  flush.NeedsMore world flush.Asked

/-- A policy that is asked and needs more, but would not be invoked. -/
def IdleNeedsMore (world : World) : Prop :=
  flush.NeedsMore world fun turn => flush.Asked turn ∧ ¬ flush.Invokes world turn.position

/-- A policy that would be invoked and needs more, but is not asked. -/
def OverlookedNeedsMore (world : World) : Prop :=
  flush.NeedsMore world fun turn => flush.Invokes world turn.position ∧ ¬ flush.Asked turn

variable {flush} {entries : List (ChainEntry World Params)} {entry : ChainEntry World Params}
  {world : World}

theorem anyPolicyNeedsMore_cons :
    anyPolicyNeedsMore flush.conditionMet flush.needsMore flush.accumulated (entry :: entries)
        world =
      if flush.isAsked entry world = true ∧ flush.asksForMore entry world = true then
        (true, flush.worldAfter entry world)
      else anyPolicyNeedsMore flush.conditionMet flush.needsMore flush.accumulated entries
        (flush.worldAfter entry world) := by
  cases henabled : entry.spec.enabled with
  | false => simp [anyPolicyNeedsMore, isAsked, worldAfter, henabled]
  | true =>
    cases hasks : flush.needsMore entry.policy with
    | none =>
      rcases hmet : flush.conditionMet entry.spec world with problem | (_ | _) <;>
        simp [anyPolicyNeedsMore, isAsked, worldAfter, asksForMore, henabled, hmet, hasks]
    | some asks =>
      rcases hanswer : asks flush.accumulated world with ⟨_ | _, after⟩ <;>
        rcases hmet : flush.conditionMet entry.spec world with problem | (_ | _) <;>
        simp [anyPolicyNeedsMore, isAsked, worldAfter, asksForMore, henabled, hmet, hasks, hanswer]

theorem needsMore_iff {places : List (ChainEntry World Params × Nat)} :
    (anyPolicyNeedsMore flush.conditionMet flush.needsMore flush.accumulated
        (places.map Prod.fst) world).1 = true ↔
      ∃ turn ∈ flush.turns places world,
        flush.Asked turn ∧ flush.asksForMore turn.entry turn.world = true := by
  induction places generalizing world with
  | nil => simp [anyPolicyNeedsMore, turns, trace]
  | cons place rest ih =>
    simp only [turns] at ih
    simp only [List.map_cons, anyPolicyNeedsMore_cons, turns, trace, Bool.false_eq_true, if_false,
      List.exists_mem_cons_iff, ← ih]
    split
    · next hasks => exact iff_of_true rfl (.inl hasks)
    · next hasks => exact (or_iff_right hasks).symm

/-- The loop answers as the executor would call the policies, unless a policy that only one of
the two loops takes in decides. -/
theorem needsMore_iff_invokedNeedsMore_iff (flush : Flush World Params Context Action)
    (world : World) :
    ((anyPolicyNeedsMore flush.conditionMet flush.needsMore flush.accumulated flush.chain.entries
        world).1 = true ↔ flush.InvokedNeedsMore world) ↔
      (flush.IdleNeedsMore world → flush.InvokedNeedsMore world) ∧
        (flush.OverlookedNeedsMore world → flush.AskedNeedsMore world) := by
  have hasked : (anyPolicyNeedsMore flush.conditionMet flush.needsMore flush.accumulated
      flush.chain.entries world).1 = true ↔ flush.AskedNeedsMore world := by
    rw [AskedNeedsMore, NeedsMore, ← needsMore_iff, List.zipIdx_map_fst]
  rw [hasked]
  constructor
  · intro hagree
    constructor
    · rintro ⟨turn, hturn, ⟨hasked, -⟩, hasks⟩
      exact hagree.mp ⟨turn, hturn, hasked, hasks⟩
    · rintro ⟨turn, hturn, ⟨hinvokes, -⟩, hasks⟩
      exact hagree.mpr ⟨turn, hturn, hinvokes, hasks⟩
  · rintro ⟨hidle, hoverlooked⟩
    constructor
    · rintro ⟨turn, hturn, hasked, hasks⟩
      by_cases hinvokes : flush.Invokes world turn.position
      · exact ⟨turn, hturn, hinvokes, hasks⟩
      · exact hidle ⟨turn, hturn, ⟨hasked, hinvokes⟩, hasks⟩
    · rintro ⟨turn, hturn, hinvokes, hasks⟩
      by_cases hasked : flush.Asked turn
      · exact ⟨turn, hturn, hasked, hasks⟩
      · exact hoverlooked ⟨turn, hturn, ⟨hinvokes, hasked⟩, hasks⟩

end Flush

namespace PolicyExecutionContext

variable (ec : PolicyExecutionContext World Params Decompressor)
  (server : Server World Params Decompressor) (accumulated : Bytes)

def requestFlush :
    Flush World Params (RequestStreamContext × StreamBody) StreamingRequestAction where
  phase := streamingRequestPhase
  executor := server.executor
  chain := ec.policyChain
  policies := ec.policyChain.entries.zipIdx
  context := (ec.requestStreamContext, { chunk := accumulated, endOfStream := false })
  needsMore policy := policy.streamingRequestPolicy.map (·.needsMoreRequestData)
  accumulated := accumulated

def responseFlush :
    Flush World Params (ResponseStreamContext × StreamBody) StreamingResponseAction where
  phase := streamingResponsePhase
  executor := server.executor
  chain := ec.policyChain
  policies := ec.policyChain.entries.zipIdx.reverse
  context := (ec.responseStreamContext, { chunk := accumulated, endOfStream := false })
  needsMore policy := policy.streamingResponsePolicy.map (·.needsMoreResponseData)
  accumulated := accumulated

/-- What a flush that returns has called is what its results say. -/
theorem invokes_requestFlush_iff {world : World} {position : Nat}
    {out : ExecutionResult World (RequestStreamContext × StreamBody) StreamingRequestAction}
    (hrun : executeStreamingRequestPolicies server.executor ec.policyChain ec.requestStreamContext
      { chunk := accumulated, endOfStream := false } world = .ok out) :
    (ec.requestFlush server accumulated).Invokes world position ↔
      ∃ result ∈ out.results, isCallOf position result = true :=
  invokesAt_iff_mem_results hrun

theorem invokes_responseFlush_iff {world : World} {position : Nat}
    {out : ExecutionResult World (ResponseStreamContext × StreamBody) StreamingResponseAction}
    (hrun : executeStreamingResponsePolicies server.executor ec.policyChain
      ec.responseStreamContext { chunk := accumulated, endOfStream := false } world = .ok out) :
    (ec.responseFlush server accumulated).Invokes world position ↔
      ∃ result ∈ out.results, isCallOf position result = true :=
  invokesAt_iff_mem_results hrun

end PolicyExecutionContext

def askingSkipper : PolicyExecutionContext Unit Unit Unit :=
  streamContext [requestStreamer .stream (fun _ => false) none,
    requestStreamer .skip (fun _ => true) none]

def askingAfterEnd : PolicyExecutionContext Unit Unit Unit :=
  streamContext [responseStreamer (fun _ => true) fun _ => some (.forward none),
    responseStreamer (fun _ => false) fun _ => some (.terminate none)]

end ApiPlatform.PolicyEngine.Kernel
