import ApiPlatform.EventGateway.PolicyAdapter

/-!
# Headers after the policies

What the policies of the event hub did last to a header should show in the
message, however the name is spelled.  The message shows what reaches it: the
lower-cased name is written only; in a header phase a removal by any policy wins over
what the others set, and nothing is left of the changes of a body phase.
-/

namespace ApiPlatform.EventGateway

open Foundation PolicyEngine

/-! ## What the policies did last -/

/-- What one action does to the header with a lower-cased name: it may remove it, or set it. -/
def changeOf (mods : HeaderModifications) (key : String) : Option (Option String) :=
  if key ∈ mods.headersToRemove.map toLower then some none
  else (mods.headersToSet.entries.find? fun entry => toLower entry.1 = key).map (some ·.2)

def lastChange (changes : List HeaderModifications) (key : String) : Option (Option String) :=
  changes.foldl (fun last mods => (changeOf mods key).or last) none

def changed (change : Option (Option String)) (before : Option (List String)) :
    Option (List String) :=
  match change with
  | some (some value) => some [value]
  | some none => none
  | none => before

def PhaseTrace.changes : PhaseTrace → List HeaderModifications
  | .header changes => changes
  | .body changes => changes

def allChanges (phases : List PhaseTrace) : List HeaderModifications :=
  phases.flatMap PhaseTrace.changes

/-- The message shows a change under every spelling of a name. -/
def Shows (headers : Headers) (key : String) : Option String → Prop
  | none => ∀ other ∈ headers, toLower other ≠ key
  | some value => headers.lookup key = some [value] ∧
      ∀ other ∈ headers, toLower other = key → other = key

/-! ## What reaches the message -/

/-- The value of the spelling that is visited last. -/
def lastSpelled (order : MapIteration String) (round : Nat) (set : GoMap String String)
    (key : String) : Option String :=
  ((order.order round set.keys).reverse.find? (toLower · = key)).bind set.lookup

/-- What a phase does to the message under a lower-cased name. -/
def PhaseTrace.applied (order : MapIteration String) (round : Nat) (key : String) :
    PhaseTrace → Option (Option String)
  | .header changes =>
    if ∃ mods ∈ changes, key ∈ mods.headersToRemove.map toLower then some none
    else (lastSpelled order round (mergeChanges changes).headersToSet key).map some
  | .body _ => none

def appliedChange (order : MapIteration String) (phases : List PhaseTrace) (key : String) :
    Option (Option String) :=
  phases.zipIdx.foldl (fun last phase => (phase.1.applied order phase.2 key).or last) none

theorem appliedChange_concat (order : MapIteration String) (phases : List PhaseTrace)
    (phase : PhaseTrace) (key : String) :
    appliedChange order (phases ++ [phase]) key =
      (phase.applied order phases.length key).or (appliedChange order phases key) := by
  rw [appliedChange, List.zipIdx_append, List.foldl_append, Nat.zero_add]
  rfl

theorem changed_or (second first : Option (Option String)) (before : Option (List String)) :
    changed (second.or first) before = changed second (changed first before) := by
  cases second with
  | none => rfl
  | some change => cases change <;> rfl

theorem lookup_insertAll_spelled {set : GoMap String String} {key : String} {visited : List String}
    (hvisited : ∀ name ∈ visited, name ∈ set) :
    (insertAll ∅ (visited.filterMap fun name =>
        (set.lookup name).map fun value => (toLower name, [value]))).lookup key =
      ((visited.reverse.find? (toLower · = key)).bind set.lookup).map ([·]) := by
  induction visited using List.reverseRecOn with
  | nil => rfl
  | append_singleton visited name ih =>
    obtain ⟨value, hvalue⟩ := mem_iff_exists_lookup.mp
      (hvisited name (List.mem_append_right _ List.mem_cons_self))
    have hinit := ih fun other hother => hvisited other (List.mem_append_left _ hother)
    simp only [List.filterMap_append, List.filterMap_cons, List.filterMap_nil, hvalue,
      Option.map_some, insertAll_append]
    show (AList.insert _ _ _).lookup key = _
    rw [lookup_insert_eq, hinit, List.reverse_append]
    by_cases hkey : key = toLower name
    · simp [hkey, hvalue]
    · simp [hkey, Ne.symm hkey]

theorem lookup_modifyHeaders_merged (changes : List HeaderModifications)
    (order : MapIteration String) (round : Nat) (headers : Headers) (key : String) :
    (modifyHeaders order round toLower (mergeChanges changes) headers).lookup key =
      changed ((PhaseTrace.header changes).applied order round key) (headers.lookup key) := by
  have hremoved : key ∈ (mergeChanges changes).headersToRemove.map toLower ↔
      ∃ mods ∈ changes, key ∈ mods.headersToRemove.map toLower := by
    simp only [mergeChanges, List.map_flatMap, List.mem_flatMap]
  rw [modifyHeaders, lookup_eraseAll, PhaseTrace.applied]
  by_cases hkey : ∃ mods ∈ changes, key ∈ mods.headersToRemove.map toLower
  · rw [if_pos (hremoved.mpr hkey), if_pos hkey]
    rfl
  · rw [if_neg (hremoved.not.mpr hkey), if_neg hkey, lookup_insertAll_or, lookup_insertAll_spelled
      fun name hname => order.mem_order.mp hname, ← lastSpelled]
    cases lastSpelled order round (mergeChanges changes).headersToSet key <;> rfl

theorem applied_header_nil (order : MapIteration String) (round : Nat) (key : String) :
    (PhaseTrace.header []).applied order round key = none := by
  have hvisited : ∀ name ∈ order.order round ([] : List String), name ∈ ([] : List String) :=
    fun name hname => order.mem_order.mp hname
  have hnone : lastSpelled order round (mergeChanges []).headersToSet key = none := by
    rw [lastSpelled, List.find?_eq_none.mpr, Option.bind_none]
    exact fun name hname => absurd (hvisited name (List.mem_reverse.mp hname)) List.not_mem_nil
  simp [PhaseTrace.applied, hnone]

/-- Only lower-cased names are written. -/
theorem appliedChange_of_not_lower {order : MapIteration String} {phases : List PhaseTrace}
    {key : String} (hkey : toLower key ≠ key) : appliedChange order phases key = none := by
  have hspelled : ∀ name, toLower name ≠ key := by
    rintro name rfl
    exact hkey (toLower_toLower name)
  induction phases using List.reverseRecOn with
  | nil => rfl
  | append_singleton phases phase ih =>
    rw [appliedChange_concat, ih, Option.or_none]
    cases phase with
    | body changes => rfl
    | header changes =>
      have hnone : lastSpelled order phases.length (mergeChanges changes).headersToSet key =
          none := by
        rw [lastSpelled, List.find?_eq_none.mpr (by simp [hspelled]), Option.bind_none]
      simp [PhaseTrace.applied, hnone, hspelled]

/-! ## Phases -/

section Phases

variable {World Params : Type}

/-- The headers of a message are those of the start with what its phases applied. -/
def Follows (order : MapIteration String) (start : Headers) (progress : Progress World) : Prop :=
  ∀ key, progress.msg.headers.lookup key =
    changed (appliedChange order progress.phases key) (start.lookup key)

variable {engine : HubEngine World Params} {level : Level} {chain : PolicyChain World Params}
  {before after : Progress World} {start : Headers}

theorem Follows.of_phase {phase : PhaseTrace} (hfollows : Follows engine.order start before)
    (hphases : after.phases = before.phases ++ [phase])
    (hheaders : ∀ key, after.msg.headers.lookup key =
      changed (phase.applied engine.order before.phases.length key)
        (before.msg.headers.lookup key)) : Follows engine.order start after := by
  intro key
  rw [hheaders, hfollows key, ← changed_or, hphases, appliedChange_concat]

theorem Follows.runHeaderPhase (hfollows : Follows engine.order start before)
    (hok : runHeaderPhase engine level chain before = .ok after) :
    Follows engine.order start after := by
  unfold EventGateway.runHeaderPhase at hok
  split at hok
  · cases hok
  · split_ifs at hok
    obtain rfl := Except.ok.inj hok
    exact hfollows.of_phase rfl fun key => lookup_modifyHeaders_merged _ engine.order _ _ key

theorem Follows.runBodyPhase (hfollows : Follows engine.order start before)
    (hok : runBodyPhase engine level chain before = .ok after) :
    Follows engine.order start after := by
  unfold EventGateway.runBodyPhase at hok
  split at hok
  · cases hok
  · next result _ =>
      split_ifs at hok with hstopped
      obtain rfl := Except.ok.inj hok
      -- the result of a phase that went through carries no changes
      have hresult : (mapRequestBodyResult engine.topicOf result).headers = {} := by
        rw [mapRequestBodyResult, ExecutionResult.finalAction, if_neg hstopped]
      refine hfollows.of_phase rfl fun key => ?_
      show (modifyHeaders _ _ toLower (mapRequestBodyResult engine.topicOf result).headers
        before.msg.headers).lookup key = _
      have hmerged := lookup_modifyHeaders_merged [] engine.order before.phases.length
        before.msg.headers key
      rw [applied_header_nil] at hmerged
      rw [hresult]
      exact hmerged

theorem Follows.runChain {chainKey : String} (hfollows : Follows engine.order start before)
    (hok : runChain engine level chainKey before = .ok after) :
    Follows engine.order start after := by
  unfold EventGateway.runChain at hok
  split at hok
  · obtain rfl := Except.ok.inj hok
    exact hfollows
  · obtain ⟨middle, hheader, hbody⟩ := bind_eq_ok.mp hok
    have hmiddle := hfollows.runHeaderPhase hheader
    split_ifs at hbody
    · exact hmiddle.runBodyPhase hbody
    · obtain rfl := Except.ok.inj hbody
      exact hmiddle

theorem Follows.processLevels {channelLevel : Level} {hubKey : String}
    {keyOf : ChannelChainKeySet → String} {channelOf : String → String} {binding : ChannelBinding}
    (hfollows : Follows engine.order start before)
    (hok : processLevels engine level channelLevel hubKey keyOf channelOf binding before =
      .ok after) : Follows engine.order start after := by
  obtain ⟨middle, hhub, hchannel⟩ := bind_eq_ok.mp hok
  have hmiddle := hfollows.runChain hhub
  split_ifs at hchannel
  · obtain rfl := Except.ok.inj hchannel
    exact hmiddle
  · exact hmiddle.runChain hchannel

inductive Processed (engine : HubEngine World Params) (bindings : GoMap String ChannelBinding)
    (bindingName : String) (msg : EventMessage) (world : World) (progress : Progress World) : Prop
  | subscribe (hok : processSubscribe engine bindings bindingName msg world = .ok progress)
  | unsubscribe (hok : processUnsubscribe engine bindings bindingName msg world = .ok progress)
  | inbound (hok : processInbound engine bindings bindingName msg world = .ok progress)
  | outbound (hok : processOutbound engine bindings bindingName msg world = .ok progress)
  | byChainKey (chainKey : String)
      (hok : processByChainKey engine bindings bindingName msg world chainKey = .ok progress)

theorem withBinding_ok {bindings : GoMap String ChannelBinding} {bindingName : String}
    {run : ChannelBinding → Except Stop (Progress World)}
    (hok : withBinding bindings bindingName run = .ok after) :
    ∃ binding, run binding = .ok after := by
  unfold withBinding at hok
  split at hok
  · cases hok
  · exact ⟨_, hok⟩

theorem Processed.follows {bindings : GoMap String ChannelBinding} {bindingName : String}
    {msg : EventMessage} {world : World} {progress : Progress World}
    (hprocessed : Processed engine bindings bindingName msg world progress) :
    Follows engine.order msg.headers progress := by
  have hstart : Follows engine.order msg.headers (⟨msg, [], world⟩ : Progress World) := fun _ => rfl
  cases hprocessed with
  | subscribe hok | unsubscribe hok | inbound hok =>
    obtain ⟨binding, hrun⟩ := withBinding_ok hok
    exact hstart.processLevels hrun
  | outbound hok =>
    obtain ⟨binding, hrun⟩ := withBinding_ok hok
    unfold dropResponse at hrun
    split at hrun
    · cases hrun
    · exact hstart.processLevels hrun
  | byChainKey chainKey hok =>
    unfold processByChainKey at hok
    split_ifs at hok
    · obtain rfl := Except.ok.inj hok
      exact hstart
    · obtain ⟨binding, hrun⟩ := withBinding_ok hok
      exact hstart.runChain hrun

theorem shows_iff {headers : Headers} {key : String} (hkey : toLower key = key)
    (change : Option String) : Shows headers key change ↔
      headers.lookup key = change.map ([·]) ∧
        ∀ other ∈ headers, toLower other = key → other = key := by
  cases change with
  | some value => rfl
  | none =>
    constructor
    · refine fun habsent => ⟨AList.lookup_eq_none.mpr fun hmem => habsent key hmem hkey, ?_⟩
      exact fun other hother hspelled => absurd hspelled (habsent other hother)
    · rintro ⟨hnone, hcasing⟩ other hother hspelled
      rw [hcasing other hother hspelled] at hother
      exact AList.lookup_eq_none.mp hnone hother

/-- The message has the lower-cased name in no other spelling, and what reaches the message under it
is the change. -/
structure Reaches (order : MapIteration String) (start : Headers) (phases : List PhaseTrace)
    (key : String) (change : Option String) : Prop where
  casing : ∀ other ∈ start, toLower other = key → other = key
  applied : changed (appliedChange order phases key) (start.lookup key) = change.map ([·])

theorem Follows.shows_iff_reaches {progress : Progress World}
    (hfollows : Follows engine.order start progress) {key : String} (hkey : toLower key = key)
    (change : Option String) : Shows progress.msg.headers key change ↔
      Reaches engine.order start progress.phases key change := by
  have hothers : ∀ other ≠ key, toLower other = key →
      (other ∈ progress.msg.headers ↔ other ∈ start) := by
    intro other hne hspelled
    have hlower : toLower other ≠ other := fun heq => hne (heq.symm.trans hspelled)
    rw [← AList.lookup_isSome, ← AList.lookup_isSome, hfollows other,
      appliedChange_of_not_lower hlower, changed]
  have hcasing : (∀ other ∈ progress.msg.headers, toLower other = key → other = key) ↔
      ∀ other ∈ start, toLower other = key → other = key := by
    refine forall_congr' fun other => ?_
    by_cases hne : other = key
    · simp [hne]
    · constructor
      · exact fun hall hmem hspelled => hall ((hothers other hne hspelled).mpr hmem) hspelled
      · exact fun hall hmem hspelled => hall ((hothers other hne hspelled).mp hmem) hspelled
  rw [shows_iff hkey, hfollows key, hcasing]
  exact ⟨fun ⟨happlied, hspelled⟩ => ⟨hspelled, happlied⟩,
    fun hreaches => ⟨hreaches.applied, hreaches.casing⟩⟩

end Phases

/-! ## A stripped credential -/

def policyMode (header : HeaderProcessingMode) (body : BodyProcessingMode) : ProcessingMode :=
  ⟨header, body, .skip, .skip⟩

def headerPolicy (mods : HeaderModifications) : ChainEntry Unit Unit where
  policy :=
    { mode := policyMode .process .skip
      onRequestHeaders := some fun _ _ world =>
        (some (.modifications { toHeaderModifications := mods }), world) }
  spec := ⟨"header-policy", "v1", true, (), none⟩

def bodyPolicy (mods : HeaderModifications) : ChainEntry Unit Unit where
  policy :=
    { mode := policyMode .skip .buffer
      requestPolicy := some { onRequestBody := fun _ _ world =>
        (some (.modifications { toHeaderModifications := mods }), world) } }
  spec := ⟨"body-policy", "v1", true, (), none⟩

def testEngine (entries : List (ChainEntry Unit Unit)) : HubEngine Unit Unit where
  executor := ⟨none, .ok, fun path _ => path, fun path _ => path, fun _ => storedOrder String⟩
  getChain := fun _ => some (PolicyChain.ofEntries entries)
  newSharedContext := id
  topicOf := fun _ => ""
  order := storedOrder String

def testBindings : GoMap String ChannelBinding :=
  (∅ : GoMap String ChannelBinding).insert "shop"
    ⟨"u1", "shop", "websub", "/shop", "v1", "*", ⟨"", "", "SUB", ""⟩, ∅, ∅⟩

def credentialMessage (name : String) : EventMessage :=
  ⟨[], (∅ : Headers).insert name ["secret"], "", ∅⟩

def inbound (entries : List (ChainEntry Unit Unit)) (name : String) :
    Except Stop (Progress Unit) :=
  processInbound (testEngine entries) testBindings "shop" (credentialMessage name) ()

def forwardedKeys (outcome : Except Stop (Progress Unit)) : Option (List String) :=
  outcome.toOption.map (·.msg.headers.keys)

def forwardedChange (outcome : Except Stop (Progress Unit)) (key : String) :
    Option (Option (Option String)) :=
  outcome.toOption.map fun progress => lastChange (allChanges progress.phases) key

def stripCredential : HeaderModifications :=
  { headersToRemove := ["Authorization"] }

end ApiPlatform.EventGateway
