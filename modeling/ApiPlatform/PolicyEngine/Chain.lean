import ApiPlatform.Foundation.Runs
import ApiPlatform.PolicyEngine.Policy

/-!
# Policy chains

A chain (`internal/registry/chain.go`) is a list of policies with flags that say
how the phases of a request have to run.  Every builder of a chain computes the
flags in the same way from the modes and interfaces of the policies
(`internal/kernel/body_mode.go`, `internal/xdsclient/handler.go`).
-/

namespace ApiPlatform.PolicyEngine

open Foundation

variable {World Params : Type}

/-- A policy with its specification; the source keeps two aligned lists. -/
structure ChainEntry (World Params : Type) where
  policy : Policy World Params
  spec : PolicySpec Params

structure PolicyChain (World Params : Type) where
  entries : List (ChainEntry World Params)
  requiresRequestBody : Bool
  requiresResponseBody : Bool
  supportsRequestStreaming : Bool
  supportsResponseStreaming : Bool
  hasExecutionConditions : Bool
  requiresRequestHeader : Bool
  requiresResponseHeader : Bool

namespace PolicyChain

/-- The chain before the first policy: streaming is assumed until a policy rules it out. -/
def start : PolicyChain World Params where
  entries := []
  requiresRequestBody := false
  requiresResponseBody := false
  supportsRequestStreaming := true
  supportsResponseStreaming := true
  hasExecutionConditions := false
  requiresRequestHeader := false
  requiresResponseHeader := false

def allowsStreaming (mode : BodyProcessingMode) (streaming : Bool) : Bool :=
  match mode with
  | .skip | .other _ => true
  | .buffer => false
  | .stream => streaming

def addPolicy (chain : PolicyChain World Params) (entry : ChainEntry World Params) :
    PolicyChain World Params :=
  let mode := entry.policy.mode
  { entries := chain.entries ++ [entry]
    requiresRequestBody := chain.requiresRequestBody || mode.requestBodyMode.readsBody
    requiresResponseBody := chain.requiresResponseBody || mode.responseBodyMode.readsBody
    supportsRequestStreaming := chain.supportsRequestStreaming &&
      allowsStreaming mode.requestBodyMode entry.policy.streamingRequestPolicy.isSome
    supportsResponseStreaming := chain.supportsResponseStreaming &&
      allowsStreaming mode.responseBodyMode entry.policy.streamingResponsePolicy.isSome
    hasExecutionConditions := chain.hasExecutionConditions ||
      (entry.spec.executionCondition.getD "" != "")
    requiresRequestHeader := chain.requiresRequestHeader ||
      (mode.requestHeaderMode == .process && entry.policy.onRequestHeaders.isSome)
    requiresResponseHeader := chain.requiresResponseHeader ||
      (mode.responseHeaderMode == .process && entry.policy.onResponseHeaders.isSome) }

def clearStreaming (chain : PolicyChain World Params) : PolicyChain World Params :=
  { chain with
    supportsRequestStreaming := chain.supportsRequestStreaming && chain.requiresRequestBody
    supportsResponseStreaming := chain.supportsResponseStreaming && chain.requiresResponseBody }

def ofEntries (entries : List (ChainEntry World Params)) : PolicyChain World Params :=
  (entries.foldl addPolicy start).clearStreaming

/-! ## What the flags say -/

private theorem entries_foldl {entries : List (ChainEntry World Params)} :
    ∀ {chain : PolicyChain World Params},
      (entries.foldl addPolicy chain).entries = chain.entries ++ entries := by
  induction entries with
  | nil => simp
  | cons entry rest ih => simp [ih, addPolicy]

section Flags

variable {entries : List (ChainEntry World Params)} {entry : ChainEntry World Params}

@[simp] theorem entries_ofEntries : (ofEntries entries).entries = entries := by
  simp [ofEntries, clearStreaming, entries_foldl, start]

theorem requiresRequestBody_ofEntries :
    (ofEntries entries).requiresRequestBody =
      entries.any (·.policy.mode.requestBodyMode.readsBody) :=
  (foldl_or requiresRequestBody _ (fun _ _ => rfl) start entries).trans (Bool.false_or _)

theorem requiresRequestBody_of_mem (hmem : entry ∈ entries)
    (hmode : entry.policy.mode.requestBodyMode.readsBody = true) :
    (ofEntries entries).requiresRequestBody = true := by
  rw [requiresRequestBody_ofEntries, List.any_eq_true]
  exact ⟨entry, hmem, hmode⟩

end Flags

end PolicyChain

end ApiPlatform.PolicyEngine
