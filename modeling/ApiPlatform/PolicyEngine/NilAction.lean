import ApiPlatform.PolicyEngine.Kernel.Streaming

/-!
# Nil actions

A policy that returns nil asks for nothing.  Five of the loops then go on as if the
policy were not there.  The loop over response chunks calls a method of the action
before it looks whether there is one.
-/

namespace ApiPlatform.PolicyEngine

open Foundation

variable {World Params Context Action : Type}

/-- A policy that the loop calls whenever its condition holds, and that returns nil. -/
structure NilPolicy (phase : Phase World Params Context Action)
    (executor : ChainExecutor World Params) (hasExecutionConditions : Bool) where
  entry : ChainEntry World Params
  handle : Handler World Params Context Action
  params : Params
  handler : phase.handler entry.policy = some handle
  copied : executor.deepCopyParams entry.spec.parameters = .ok params
  evaluates : ∀ context world, ∃ met,
    phase.conditionMet executor hasExecutionConditions entry.spec context world = .ok met
  returns : ∀ context world, handle context params world = (none, world)

/-- Both runs fail alike, or end alike and differ at most in one result without an action. -/
def SameBut : Except ExecutionError (ExecutionResult World Context Action) →
    Except ExecutionError (ExecutionResult World Context Action) → Prop
  | .ok out, .ok other =>
    (∃ pre own post, out.results = pre ++ own ++ post ∧ other.results = pre ++ post ∧
      own.length ≤ 1 ∧ ∀ result ∈ own, result.action = none) ∧
    out.shortCircuited = other.shortCircuited ∧ out.context = other.context ∧
      out.world = other.world
  | .error problem, .error other => problem = other
  | _, _ => False

theorem SameBut.refl (run : Except ExecutionError (ExecutionResult World Context Action)) :
    SameBut run run := by
  cases run with
  | error problem => rfl
  | ok out => exact ⟨⟨[], [], out.results, by simp⟩, rfl, rfl, rfl⟩

theorem SameBut.map_cons
    {first second : Except ExecutionError (ExecutionResult World Context Action)}
    (hsame : SameBut first second) (result : PolicyResult Context Action) :
    SameBut (first.map (ExecutionResult.cons result))
      (second.map (ExecutionResult.cons result)) := by
  cases first with
  | error problem => cases second <;> exact hsame
  | ok out =>
    cases second with
    | error problem => exact hsame
    | ok other =>
      obtain ⟨⟨pre, own, post, hout, hother, hown⟩, hends⟩ := hsame
      exact ⟨⟨result :: pre, own, post, by simp [ExecutionResult.cons, hout],
        by simp [ExecutionResult.cons, hother], hown⟩, hends⟩

theorem sameBut_map_cons (run : Except ExecutionError (ExecutionResult World Context Action))
    {result : PolicyResult Context Action} (hnone : result.action = none) :
    SameBut (run.map (ExecutionResult.cons result)) run := by
  cases run with
  | error problem => rfl
  | ok out => exact ⟨⟨[], [result], out.results, rfl, rfl, by simp, by simpa⟩, rfl, rfl, rfl⟩

namespace NilPolicy

variable {phase : Phase World Params Context Action} {executor : ChainExecutor World Params}
  {hasExecutionConditions : Bool} (policy : NilPolicy phase executor hasExecutionConditions)
  (before : List (ChainEntry World Params × Nat)) (position : Nat)
  (after : List (ChainEntry World Params × Nat)) (context : Context) (world : World)

/-- The loop comes to the policy, and the policy is enabled and its condition holds. -/
def IsCalled : Prop :=
  ∃ state ∈ leaves (phase.execute executor hasExecutionConditions before context world),
    policy.entry.spec.enabled = true ∧
      phase.conditionMet executor hasExecutionConditions policy.entry.spec state.1 state.2 =
        .ok true

/-- If the loop comes to the policy, its turn does not panic. -/
def IsQuiet : Prop :=
  ∀ state ∈ leaves (phase.execute executor hasExecutionConditions before context world),
    phase.takeTurn executor hasExecutionConditions policy.entry position state.1 state.2 ≠
      .error .nilAction

/-- The turn of the policy does not panic, and the run is that of the chain without it. -/
def IsNoAction : Prop :=
  policy.IsQuiet before position context world ∧
  SameBut
    (phase.execute executor hasExecutionConditions (before ++ (policy.entry, position) :: after)
      context world)
    (phase.execute executor hasExecutionConditions (before ++ after) context world)

variable {policy before position after context world}

theorem takeTurn_cases :
    phase.takeTurn executor hasExecutionConditions policy.entry position context world =
      if policy.entry.spec.enabled = true ∧ phase.conditionMet executor hasExecutionConditions
          policy.entry.spec context world = .ok true then
        (phase.stops none).map fun stop => .acted none stop context world
      else .ok .skipped := by
  obtain ⟨met, hmet⟩ := policy.evaluates context world
  cases henabled : policy.entry.spec.enabled <;> cases met <;>
    simp [Phase.takeTurn, policy.handler, policy.copied, policy.returns, henabled, hmet, bind,
      Except.bind, Except.mapError]
  cases phase.stops none <;> rfl

/-- The loop goes on after the turn as if it had not come to the policy. -/
def Passes (policy : NilPolicy phase executor hasExecutionConditions) (position : Nat)
    (context : Context) (world : World) : Prop :=
  phase.takeTurn executor hasExecutionConditions policy.entry position context world =
      .ok (.acted none false context world) ∨
    phase.takeTurn executor hasExecutionConditions policy.entry position context world =
      .ok .skipped

theorem sameBut_of_passes
    (hpasses : ∀ state ∈ leaves
      (phase.execute executor hasExecutionConditions before context world),
      policy.Passes position state.1 state.2) :
    SameBut
      (phase.execute executor hasExecutionConditions (before ++ (policy.entry, position) :: after)
        context world)
      (phase.execute executor hasExecutionConditions (before ++ after) context world) := by
  induction before generalizing context world with
  | nil =>
    simp only [List.nil_append, Phase.execute]
    rcases hpasses (context, world) rfl with hturn | hturn
    · rw [hturn]
      exact sameBut_map_cons _ rfl
    · rw [hturn]
      exact sameBut_map_cons _ rfl
  | cons head rest ih =>
    obtain ⟨entry, place⟩ := head
    rw [Phase.leaves_execute_cons] at hpasses
    simp only [List.cons_append, Phase.execute]
    cases hturn : phase.takeTurn executor hasExecutionConditions entry place context world with
    | error problem => exact SameBut.refl _
    | ok turn =>
      rw [hturn] at hpasses
      cases turn with
      | absent => exact ih hpasses
      | skipped => exact (ih hpasses).map_cons _
      | acted action stop next world =>
        cases stop with
        | true => exact SameBut.refl _
        | false => exact (ih hpasses).map_cons _

theorem isNoAction_of_passes
    (hpasses : ∀ state ∈ leaves
      (phase.execute executor hasExecutionConditions before context world),
      policy.Passes position state.1 state.2) :
    policy.IsNoAction before position after context world := by
  refine ⟨fun state hstate => ?_, sameBut_of_passes hpasses⟩
  rcases hpasses state hstate with hturn | hturn <;> simp [hturn]

end NilPolicy

def Phase.IgnoresNil (phase : Phase World Params Context Action)
    (executor : ChainExecutor World Params) (hasExecutionConditions : Bool) : Prop :=
  ∀ (policy : NilPolicy phase executor hasExecutionConditions) before position after context world,
    policy.IsNoAction before position after context world

theorem ignoresNil_of_guarded {phase : Phase World Params Context Action}
    {executor : ChainExecutor World Params} {hasExecutionConditions : Bool}
    (hguarded : phase.stops none = .ok false) :
    phase.IgnoresNil executor hasExecutionConditions := by
  intro policy before position after context world
  refine NilPolicy.isNoAction_of_passes fun state _ => ?_
  rw [NilPolicy.Passes, NilPolicy.takeTurn_cases, hguarded]
  split
  · exact .inl rfl
  · exact .inr rfl

theorem isNoAction_of_unguarded_iff {phase : Phase World Params Context Action}
    {executor : ChainExecutor World Params} {hasExecutionConditions : Bool}
    (hpanics : phase.stops none = .error .nilAction)
    (policy : NilPolicy phase executor hasExecutionConditions)
    (before : List (ChainEntry World Params × Nat)) (position : Nat)
    (after : List (ChainEntry World Params × Nat)) (context : Context) (world : World) :
    policy.IsNoAction before position after context world ↔
      ¬ policy.IsCalled before context world := by
  constructor
  · rintro ⟨hquiet, -⟩ ⟨state, hstate, hcalled⟩
    refine hquiet state hstate ?_
    rw [NilPolicy.takeTurn_cases, if_pos hcalled, hpanics]
    rfl
  · intro hnever
    refine NilPolicy.isNoAction_of_passes fun state hstate => .inr ?_
    rw [NilPolicy.takeTurn_cases, if_neg fun hcalled => hnever ⟨state, hstate, hcalled⟩]

/-- In every phase a nil action counts as none, but for a policy on response chunks exactly
when the loop does not come to call it. -/
theorem nil_action_ignored_iff (executor : ChainExecutor World Params)
    (hasExecutionConditions : Bool) :
    requestHeaderPhase.IgnoresNil executor hasExecutionConditions ∧
    requestPhase.IgnoresNil executor hasExecutionConditions ∧
    responseHeaderPhase.IgnoresNil executor hasExecutionConditions ∧
    responsePhase.IgnoresNil executor hasExecutionConditions ∧
    streamingRequestPhase.IgnoresNil executor hasExecutionConditions ∧
    ∀ (policy : NilPolicy streamingResponsePhase executor hasExecutionConditions) before position
      after context world, policy.IsNoAction before position after context world ↔
        ¬ policy.IsCalled before context world := by
  refine ⟨ignoresNil_of_guarded rfl, ignoresNil_of_guarded rfl, ignoresNil_of_guarded rfl,
    ignoresNil_of_guarded rfl, ignoresNil_of_guarded rfl, ?_⟩
  exact isNoAction_of_unguarded_iff rfl

open Kernel

def silentReader : NilPolicy streamingResponsePhase plainServer.executor false where
  entry := responseStreamer (fun _ => false) fun _ => none
  handle _ _ world := (none, world)
  params := ()
  handler := rfl
  copied := rfl
  evaluates _ _ := ⟨true, rfl⟩
  returns _ _ := rfl

theorem nil_chunk_action_panics :
    executeStreamingResponsePolicies plainServer.executor (.ofEntries [silentReader.entry])
        (streamContext []).responseStreamContext ⟨[7], false⟩ () = .error .nilAction ∧
      ¬ silentReader.IsNoAction [] 0 [] ((streamContext []).responseStreamContext, ⟨[7], false⟩)
        () := by
  refine ⟨rfl, fun hignored => ?_⟩
  exact hignored.1 (_, ()) rfl rfl

end ApiPlatform.PolicyEngine
