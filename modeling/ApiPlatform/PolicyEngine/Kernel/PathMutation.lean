import ApiPlatform.PolicyEngine.Kernel.Streaming
import ApiPlatform.PolicyEngine.Kernel.Translator

/-!
# The path that the upstream receives

The executor applies the path changes of the body-phase policies to
`requestBodyCtx.Path`, one policy after the other.  The translators start from the
path that it leaves and go through the same changes once more, with two
differences: a policy's own `Path` never enters the variable that they edit, and it
takes the place of whatever was collected before.
-/

namespace ApiPlatform.PolicyEngine

open Foundation

/-! ## The changes of a list of policies -/

def UpstreamRequestHeaderModifications.changesPath (mods : UpstreamRequestHeaderModifications) :
    Bool :=
  mods.path.isSome || mods.queryParametersToAdd.isSome || mods.queryParametersToRemove.isSome

def lastPathChange (mods : List UpstreamRequestHeaderModifications) :
    Option UpstreamRequestHeaderModifications :=
  mods.reverse.find? (·.changesPath)

namespace PathEditor

variable (editor : PathEditor) {mods header body : List UpstreamRequestHeaderModifications}
  {last : UpstreamRequestHeaderModifications} {path : String}

def pathAfter (mods : List UpstreamRequestHeaderModifications) (path : String) : String :=
  mods.foldl editor.editPath path

def replay (mods : List UpstreamRequestHeaderModifications) (path : String) : String :=
  mods.foldl editor.editQuery path

theorem editQuery_of_not_changesPath (hlast : last.changesPath = false) :
    editor.editQuery path last = path := by
  simp only [UpstreamRequestHeaderModifications.changesPath, Bool.or_eq_false_iff,
    Option.isSome_eq_false_iff, Option.isNone_iff_eq_none] at hlast
  simp [editQuery, hlast.1.2, hlast.2]

theorem editPath_of_not_changesPath (hlast : last.changesPath = false) :
    editor.editPath path last = path := by
  have hpath : last.path = none := by
    simp only [UpstreamRequestHeaderModifications.changesPath, Bool.or_eq_false_iff,
      Option.isSome_eq_false_iff, Option.isNone_iff_eq_none] at hlast
    exact hlast.1.1
  rw [editPath, hpath, Option.getD_none, editor.editQuery_of_not_changesPath hlast]

end PathEditor

section LastChange

variable {mods header body : List UpstreamRequestHeaderModifications}
  {last : UpstreamRequestHeaderModifications}

theorem lastPathChange_concat : lastPathChange (mods ++ [last]) =
    if last.changesPath then some last else lastPathChange mods := by
  rw [lastPathChange, List.reverse_append, List.reverse_singleton, List.singleton_append,
    List.find?_cons]
  cases last.changesPath <;> rfl

theorem lastPathChange_append :
    lastPathChange (header ++ body) = (lastPathChange body).or (lastPathChange header) := by
  rw [lastPathChange, List.reverse_append, List.find?_append]
  rfl

theorem any_changesPath : mods.any (·.changesPath) = (lastPathChange mods).isSome := by
  rw [lastPathChange, List.isSome_find?, List.any_reverse]

end LastChange

namespace PathEditor

variable (editor : PathEditor) {mods : List UpstreamRequestHeaderModifications}
  {last : UpstreamRequestHeaderModifications} {path : String}

theorem replay_of_unchanged (hmods : lastPathChange mods = none) :
    editor.replay mods path = path := by
  induction mods using List.reverseRecOn with
  | nil => rfl
  | append_singleton mods final ih =>
    rw [lastPathChange_concat] at hmods
    cases hfinal : final.changesPath with
    | true => simp [hfinal] at hmods
    | false =>
      rw [replay, List.foldl_concat, ← replay, ih (by simpa [hfinal] using hmods)]
      exact editor.editQuery_of_not_changesPath hfinal

theorem pathAfter_eq : editor.pathAfter mods path =
    match lastPathChange mods with
    | none => path
    | some last =>
      match last.path with
      | some rewritten => editor.editQuery rewritten last
      | none => editor.pathAfter mods path := by
  induction mods using List.reverseRecOn with
  | nil => rfl
  | append_singleton mods final ih =>
    rw [lastPathChange_concat]
    have hstep : editor.pathAfter (mods ++ [final]) path =
        editor.editPath (editor.pathAfter mods path) final := List.foldl_concat ..
    cases hfinal : final.changesPath with
    | true =>
      cases hpath : final.path with
      | none => simp [hpath]
      | some rewritten => simp [hstep, editPath, hpath]
    | false =>
      rw [hstep, editor.editPath_of_not_changesPath hfinal]
      simpa using ih

end PathEditor

/-! ## The executor -/

section Executor

variable {World Params : Type} {executor : ChainExecutor World Params}
  {chain : PolicyChain World Params} {context : RequestContext} {world : World}
  {out : ExecutionResult World RequestContext RequestAction}

theorem path_executeRequestPolicies
    (hrun : executeRequestPolicies executor chain context world = .ok out) :
    out.context.path =
      executor.pathEditor.pathAfter (Kernel.requestModifications out.results) context.path := by
  refine Phase.execute_ok_induction
    (fun _ context out => out.context.path =
      executor.pathEditor.pathAfter (Kernel.requestModifications out.results) context.path)
    ?_ ?_ ?_ ?_ ?_ hrun
  · exact fun _ _ => rfl
  · exact fun _ _ _ _ _ _ ih => ih
  · exact fun _ _ _ _ _ _ ih => ih
  · intro entry position rest context action world _ hstops
    match action, hstops with
    | some (.immediate response), _ => rfl
  · intro entry position rest context action out _ hgoes ih
    cases action with
    | none => exact ih
    | some action =>
      cases action with
      | immediate response => cases hgoes
      | modifications mods => exact ih

end Executor

namespace Kernel

/-! ## The translators -/

section Translators

variable {StructValue : Type} {translator : Translator StructValue} {execCtx : TranslatorContext}
  {mods : List UpstreamRequestHeaderModifications}

theorem eq_of_emit {answer : GoMap String StructValue → RequestTranslation StructValue}
    {analyticsData analyticsMetadata metadata : GoMap String AnalyticsValue}
    {translation : RequestTranslation StructValue}
    (hemit : emit translator execCtx answer analyticsData analyticsMetadata =
      .ok (translation, metadata)) : ∃ fields, translation = answer fields := by
  obtain ⟨fields, -, hemit⟩ := map_eq_ok.mp hemit
  exact ⟨fields, (Prod.mk.inj hemit).1.symm⟩

variable {finalAction : Option RequestAction}
  {results : List (PolicyResult RequestContext RequestAction)} {mutations : RequestMutations}
  {data : GoMap String StructValue}
  {metadata : GoMap String AnalyticsValue}

theorem mutations_of_core
    (htranslated : translateRequestActionsCore translator execCtx finalAction results =
      .ok (.forward mutations data, metadata)) :
    mutations = requestMutations translator execCtx (requestModifications results) := by
  unfold translateRequestActionsCore emitShortCircuit at htranslated
  split at htranslated
  · obtain ⟨fields, hanswer⟩ := eq_of_emit htranslated
    cases hanswer
  · obtain ⟨fields, hanswer⟩ := eq_of_emit htranslated
    cases hanswer
    rfl

theorem mutations_of_merge
    {headerResults : List (PolicyResult RequestHeaderContext RequestHeaderAction)}
    (htranslated : translateRequestHeaderActionsWithBodyMerge translator execCtx headerResults
      finalAction results = .ok (.forward mutations data, metadata)) :
    mutations = requestMutations translator execCtx
      (headerModifications headerResults ++ requestModifications results) := by
  unfold translateRequestHeaderActionsWithBodyMerge at htranslated
  split at htranslated
  · obtain ⟨fields, hanswer⟩ := eq_of_emit htranslated
    cases hanswer
  · obtain ⟨fields, hanswer⟩ := eq_of_emit htranslated
    cases hanswer
    rfl

theorem PathLoop.collect_eq (editor : PathEditor) (loop : PathLoop)
    (mods : UpstreamRequestHeaderModifications) :
    loop.collect editor mods =
      { path := editor.editQuery loop.path mods
        mutation :=
          if mods.changesPath then
            match mods.path with
            | some path => .policyPath path
            | none => .loopPath
          else loop.mutation } := by
  unfold PathLoop.collect PathEditor.editQuery UpstreamRequestHeaderModifications.changesPath
  cases mods.queryParametersToAdd <;> cases mods.queryParametersToRemove <;>
    cases mods.path <;> rfl

theorem path_collect (editor : PathEditor) (loop : PathLoop) :
    (mods.foldl (PathLoop.collect editor) loop).path = editor.replay mods loop.path := by
  induction mods generalizing loop with
  | nil => rfl
  | cons first rest ih =>
    rw [List.foldl_cons, ih, PathLoop.collect_eq]
    rfl

theorem deref_collect (editor : PathEditor) (path : String) :
    (mods.foldl (PathLoop.collect editor) ⟨path, .nil⟩).deref =
      (lastPathChange mods).map fun last => last.path.getD (editor.replay mods path) := by
  have hmutation : (mods.foldl (PathLoop.collect editor) ⟨path, .nil⟩).mutation =
      match lastPathChange mods with
      | none => .nil
      | some last => last.path.elim .loopPath .policyPath := by
    induction mods using List.reverseRecOn with
    | nil => rfl
    | append_singleton mods final ih =>
      rw [List.foldl_concat, PathLoop.collect_eq, lastPathChange_concat]
      cases final.changesPath with
      | true => cases hpath : final.path <;> simp [hpath]
      | false => simpa using ih
  rw [PathLoop.deref, hmutation, path_collect]
  cases lastPathChange mods with
  | none => rfl
  | some last => cases hpath : last.path <;> simp [hpath]

def redirects (execCtx : TranslatorContext) (mods : List UpstreamRequestHeaderModifications) :
    Bool :=
  (redirectDirective mods).any fun name => (execCtx.upstreamDefinitionPaths.lookup name).isSome

theorem pathMutation_eq : pathMutation translator execCtx mods =
    match lastPathChange mods with
    | some last => some (last.path.getD (translator.editor.replay mods execCtx.requestPath))
    | none => if redirects execCtx mods then some execCtx.requestPath else none := by
  rw [pathMutation, deref_collect, redirects]
  cases redirectDirective mods with
  | none => cases lastPathChange mods <;> rfl
  | some name =>
    cases hlookup : execCtx.upstreamDefinitionPaths.lookup name <;>
      cases lastPathChange mods <;> simp [hlookup]

end Translators

/-! ## Agreement -/

/-- The path that an answer should carry when the policies have left `contextPath`. -/
def expectedPath (mods : List UpstreamRequestHeaderModifications) (contextPath : String) :
    Option String :=
  if mods.any (·.changesPath) then some contextPath else none

/-- Going through the path changes a second time does no harm.  If the last policy that
changes the path sets `Path`, its own query parameters leave that path as it is;
otherwise the query parameters of all policies leave the path as it is that the body
policies make of the request path.  Without any change there is no redirect. -/
def SecondPassHarmless (executorEditor translatorEditor : PathEditor) (requestPath : String)
    (redirected : Bool) (header body : List UpstreamRequestHeaderModifications) : Prop :=
  match lastPathChange body, lastPathChange header with
  | some last, _ =>
    match last.path with
    | some path => executorEditor.editQuery path last = path
    | none =>
      translatorEditor.replay (header ++ body) (executorEditor.pathAfter body requestPath) =
        executorEditor.pathAfter body requestPath
  | none, some last =>
    match last.path with
    | some path => path = requestPath
    | none => translatorEditor.replay header requestPath = requestPath
  | none, none => redirected = false

section Agreement

variable {StructValue : Type} {translator : Translator StructValue} {execCtx : TranslatorContext}
  {body : List UpstreamRequestHeaderModifications} {editor : PathEditor} {requestPath : String}

theorem pathMutation_eq_expectedPath_iff (header : List UpstreamRequestHeaderModifications)
    (hleft : execCtx.requestPath = editor.pathAfter body requestPath) :
    pathMutation translator execCtx (header ++ body) =
        expectedPath (header ++ body) execCtx.requestPath ↔
      SecondPassHarmless editor translator.editor requestPath
        (redirects execCtx (header ++ body)) header body := by
  rw [pathMutation_eq, expectedPath, any_changesPath, lastPathChange_append, SecondPassHarmless]
  have hafter := hleft.trans editor.pathAfter_eq
  cases hbody : lastPathChange body with
  | some last =>
    cases hpath : last.path with
    | some path =>
      simp only [hbody, hpath] at hafter
      simp [hafter, eq_comm, hpath]
    | none => simp [hleft, hpath]
  | none =>
    simp only [hbody] at hafter
    cases lastPathChange header with
    | some last =>
      cases hpath : last.path with
      | some path => simp [hafter, hpath]
      | none =>
        have hreplay : translator.editor.replay (header ++ body) requestPath =
            translator.editor.replay header requestPath := by
          rw [PathEditor.replay, List.foldl_append]
          exact translator.editor.replay_of_unchanged hbody
        simp [hafter, hpath, hreplay]
    | none => cases redirects execCtx (header ++ body) <;> simp

/-- The path that the translators send is the one that the executor left in the context
exactly when a second pass over the path changes does no harm. -/
theorem path_sent_iff_secondPassHarmless {World Params URL StructValue : Type}
    (netUrl : NetUrl URL) (executorOrder translatorOrder rangeOrder : MapIteration String)
    (codec : StructCodec StructValue) (executor : ChainExecutor World Params)
    (chain : PolicyChain World Params) (context : RequestContext) (world : World)
    (out : ExecutionResult World RequestContext RequestAction) (execCtx : TranslatorContext)
    (headerResults : List (PolicyResult RequestHeaderContext RequestHeaderAction))
    (hrun : executeRequestPolicies
      (executor.editingWith (requestModification netUrl executorOrder)) chain context world =
        .ok out) :
    let translator : Translator StructValue :=
      { editor := requestModification netUrl translatorOrder, codec := codec
        rangeOrder := rangeOrder }
    let execCtx := execCtx.reading out.context
    let header := headerModifications headerResults
    let body := requestModifications out.results
    let harmless (header : List UpstreamRequestHeaderModifications) :=
      SecondPassHarmless (requestModification netUrl executorOrder)
        (requestModification netUrl translatorOrder) context.path
        (redirects execCtx (header ++ body)) header body
    (∀ mutations data metadata,
      translateRequestActionsCore translator execCtx out.finalAction out.results =
        .ok (.forward mutations data, metadata) →
      (mutations.path = expectedPath body out.context.path ↔ harmless [])) ∧
    ∀ mutations data metadata,
      translateRequestHeaderActionsWithBodyMerge translator execCtx headerResults out.finalAction
        out.results = .ok (.forward mutations data, metadata) →
      (mutations.path = expectedPath (header ++ body) out.context.path ↔ harmless header) := by
  intro translator execCtx' header body harmless
  have hleft : execCtx'.requestPath =
      (requestModification netUrl executorOrder).pathAfter body context.path :=
    path_executeRequestPolicies hrun
  constructor
  · intro mutations data metadata htranslated
    rw [mutations_of_core htranslated]
    exact pathMutation_eq_expectedPath_iff [] hleft
  · intro mutations data metadata htranslated
    rw [mutations_of_merge htranslated]
    exact pathMutation_eq_expectedPath_iff header hleft

end Agreement

/-! ## One policy that adds a query parameter -/

def plainUrl : NetUrl (List Char × List Char) where
  parse path :=
    let rest := path.toList.dropWhile (· ≠ '?')
    some (path.toList.takeWhile (· ≠ '?'), rest.drop 1)
  query url :=
    (url.2.splitOn '&').foldl (fun values pair =>
      if pair = [] then values
      else
        let name := String.ofList (pair.takeWhile (· ≠ '='))
        let value := String.ofList ((pair.dropWhile (· ≠ '=')).drop 1)
        values.insert name ((values.lookup name).getD [] ++ [value])) ∅
  withRawQuery url rawQuery := (url.1, rawQuery.toList)
  string url := String.ofList (if url.2 = [] then url.1 else url.1 ++ '?' :: url.2)
  encode values :=
    let names := values.keys.mergeSort fun first second => decide (first.toList ≤ second.toList)
    "&".intercalate (names.flatMap fun name =>
      ((values.lookup name).getD []).map fun value => name ++ "=" ++ value)
  queryEscape := id

def plainTranslator : Translator String where
  editor := requestModification plainUrl (storedOrder String)
  codec :=
    { convertToStructValue := fun value =>
        match value with
        | .json text => .ok text
        | .headers _ => .ok ""
        | .unencodable description => .error description
      newStringValue := id }
  rangeOrder := storedOrder String

def plainTranslatorContext : TranslatorContext where
  requestPath := "/orders"
  requestHeaders := ∅
  sharedCtx := {}
  upstreamDefinitionPaths := ∅
  analyticsMetadata := ∅

def bodyPolicy (action : RequestAction) : ChainEntry Unit Unit where
  spec := plainSpec "body-policy"
  policy :=
    { mode :=
        { requestHeaderMode := .skip, requestBodyMode := .buffer
          responseHeaderMode := .skip, responseBodyMode := .skip }
      requestPolicy := some { onRequestBody := fun _ _ world => (some action, world) } }

def ordersContext : RequestContext where
  path := "/orders"
  method := "POST"
  authority := ""
  scheme := ""
  headers := ∅
  body := none

def ordersRun (mods : UpstreamRequestModifications) :
    Except ExecutionError (ExecutionResult Unit RequestContext RequestAction) :=
  executeRequestPolicies
    (plainServer.executor.editingWith (requestModification plainUrl (storedOrder String)))
    (PolicyChain.ofEntries [bodyPolicy (.modifications mods)]) ordersContext ()

def sentPaths (out : ExecutionResult Unit RequestContext RequestAction) :
    List (Option (Option String)) :=
  let execCtx := plainTranslatorContext.reading out.context
  [translateRequestActionsCore plainTranslator execCtx out.finalAction out.results,
   translateRequestHeaderActionsWithBodyMerge plainTranslator execCtx [] out.finalAction
     out.results].map fun result =>
    match result with
    | .ok (.forward mutations _, _) => some mutations.path
    | _ => none

theorem added_parameter_sent_twice :
    ∃ out, ordersRun { queryParametersToAdd := some (insertAll ∅ [("page", ["1"])]) } = .ok out ∧
      expectedPath (requestModifications out.results) out.context.path = some "/orders?page=1" ∧
      sentPaths out =
        [some (some "/orders?page=1&page=1"), some (some "/orders?page=1&page=1")] :=
  ⟨_, rfl, by decide +kernel, by decide +kernel⟩

theorem rewritten_path_sent :
    ∃ out, ordersRun { path := some "/items" } = .ok out ∧
      ∃ mutations data metadata,
        translateRequestActionsCore plainTranslator (plainTranslatorContext.reading out.context)
          out.finalAction out.results = .ok (.forward mutations data, metadata) ∧
        mutations.path = expectedPath (requestModifications out.results) out.context.path :=
  ⟨_, rfl, _, _, _, rfl,
    ((path_sent_iff_secondPassHarmless plainUrl (storedOrder String) (storedOrder String)
      (storedOrder String) plainTranslator.codec plainServer.executor
      (PolicyChain.ofEntries [bodyPolicy (.modifications { path := some "/items" })])
      ordersContext () _ plainTranslatorContext [] rfl).1 _ _ _ rfl).mpr rfl⟩

end Kernel

end ApiPlatform.PolicyEngine
