import ApiPlatform.Foundation.Runs
import ApiPlatform.EventGateway.Resources

/-!
# Snapshots and the tables of the runtime

A call of `HandleResources` that succeeds is a sequence of writes to the tables of
the runtime, which are keyed by name, for a difference that is computed by UUID.
The tables are those of a fresh runtime as long as no write for one resource hits
the name of another one and nothing is left under a name that no resource has.
-/

namespace ApiPlatform.EventGateway

open Foundation EventGateway.Runtime

variable {world : AddWorld} {runtime : Runtime} {ecr : EventChannelResource} {uuid : String}
  {handler : Handler}

/-! ## Entries -/

@[ext]
structure TableEntry where
  binding : Option ChannelBinding
  brokerDriver : Option BrokerDriverSpec
  receiver : Option Receiver
  deriving DecidableEq

def TableEntry.absent : TableEntry :=
  ⟨none, none, none⟩

def Runtime.entry (runtime : Runtime) (name : String) : TableEntry where
  binding := runtime.bindings.lookup name
  brokerDriver := runtime.activeBrokerDrivers.lookup name
  receiver := runtime.activeReceivers.lookup name

def Addition.entry (addition : Addition) : TableEntry :=
  ⟨some addition.binding, some addition.brokerDriver, some addition.receiver⟩

theorem Runtime.entry_add {addition : Addition} (hok : (runtime.add world addition).2 = none) :
    (runtime.add world addition).1.entry =
      Function.update runtime.entry addition.name addition.entry := by
  rw [add_ok hok]
  funext name
  by_cases hname : name = addition.name
  · rw [hname, Function.update_self]
    simp [entry, installed, registerBinding, trackBrokerDriver,
      trackReceiver, Addition.entry]
  · rw [Function.update_of_ne hname]
    simp [entry, installed, registerBinding, trackBrokerDriver,
      trackReceiver, AList.lookup_insert_ne hname]

theorem Runtime.entry_removeTables (runtime : Runtime) (name : String) :
    (runtime.removeTables name).entry = Function.update runtime.entry name .absent := by
  funext other
  by_cases hname : other = name
  · rw [hname, Function.update_self]
    simp [entry, removeTables, TableEntry.absent]
  · rw [Function.update_of_ne hname]
    simp [entry, removeTables, AList.lookup_erase_ne hname]

variable (cfg : HandlerConfig)

def EventChannelResource.entry (ecr : EventChannelResource) : TableEntry :=
  ((ecr.addition cfg).map Addition.entry).getD .absent

def EventChannelResource.Supported (ecr : EventChannelResource) : Prop :=
  ecr.kind = "WebSubApi" ∨ ecr.kind = "WebBrokerApi"

theorem entry_removeBinding (hsupported : ecr.Supported) (runtime : Runtime) :
    (removeBinding runtime ecr).1.entry = Function.update runtime.entry ecr.name .absent := by
  rcases hsupported with hkind | hkind
  · simp only [removeBinding, hkind, if_true]
    exact runtime.entry_removeTables ecr.name
  · simp only [removeBinding, hkind, String.reduceEq, if_false, if_true]
    exact runtime.entry_removeTables ecr.name

variable {cfg} in
theorem entry_addBinding (hok : (addBinding cfg world runtime ecr).2 = none) :
    ecr.Supported ∧ (addBinding cfg world runtime ecr).1.entry =
      Function.update runtime.entry ecr.name (ecr.entry cfg) := by
  rw [addBinding_eq] at hok ⊢
  cases haddition : ecr.addition cfg with
  | none =>
    rw [haddition] at hok
    cases hok
  | some addition =>
    rw [haddition, Option.elim_some] at hok
    rw [Option.elim_some]
    have hentry : ecr.entry cfg = addition.entry := by
      rw [EventChannelResource.entry, haddition, Option.map_some, Option.getD_some]
    unfold EventChannelResource.addition at haddition
    split_ifs at haddition with hwebSub hwebBroker
    · obtain rfl := Option.some.inj haddition
      exact ⟨.inl hwebSub, by rw [hentry, entry_add hok]; rfl⟩
    · obtain rfl := Option.some.inj haddition
      exact ⟨.inr hwebBroker, by rw [hentry, entry_add hok]; rfl⟩

/-! ## A call as a sequence of writes -/

abbrev ResourceMap := GoMap String EventChannelResource

def ResourceMap.Supported (resources : ResourceMap) : Prop :=
  ∀ uuid ecr, resources.lookup uuid = some ecr → ecr.Supported

/-- The resource that is not in the snapshot any more is removed. -/
def removalWrites (current incoming : ResourceMap) (uuid : String) : List (String × TableEntry) :=
  match current.lookup uuid with
  | some old => if uuid ∈ incoming then [] else [(old.name, .absent)]
  | none => []

def resourceWrites (current : ResourceMap) (ecr : EventChannelResource) (uuid : String) :
    List (String × TableEntry) :=
  match current.lookup uuid with
  | some old => if old = ecr then [] else [(old.name, .absent), (ecr.name, ecr.entry cfg)]
  | none => [(ecr.name, ecr.entry cfg)]

def additionWrites (current incoming : ResourceMap) (uuid : String) :
    List (String × TableEntry) :=
  match incoming.lookup uuid with
  | some ecr => resourceWrites cfg current ecr uuid
  | none => []

variable {cfg} {current incoming : ResourceMap}

theorem entry_removeAbsent (hsupported : current.Supported) :
    ∀ (uuids : List String) (runtime : Runtime),
      (uuids.foldl (removeAbsent current incoming) runtime).entry =
        writeAll runtime.entry (uuids.flatMap (removalWrites current incoming)) := by
  intro uuids
  induction uuids with
  | nil => exact fun _ => rfl
  | cons uuid rest ih =>
    intro runtime
    rw [List.foldl_cons, ih, List.flatMap_cons, writeAll_append]
    congr 1
    unfold removeAbsent removalWrites
    cases hlookup : current.lookup uuid with
    | none => rfl
    | some old =>
      by_cases hincoming : uuid ∈ incoming
      · simp only [if_pos hincoming]
        rfl
      · simp only [if_neg hincoming]
        exact entry_removeBinding (hsupported uuid old hlookup) runtime

theorem entry_applyResource (hsupported : current.Supported)
    (hok : (applyResource cfg world current runtime ecr uuid).2 = none) :
    ecr.Supported ∧ (applyResource cfg world current runtime ecr uuid).1.entry =
      writeAll runtime.entry (resourceWrites cfg current ecr uuid) := by
  unfold applyResource resourceWrites at *
  cases hlookup : current.lookup uuid with
  | none =>
    rw [hlookup] at hok
    exact entry_addBinding hok
  | some old =>
    rw [hlookup] at hok
    by_cases hsame : old = ecr
    · simp only [if_pos hsame]
      exact ⟨hsame ▸ hsupported uuid old hlookup, rfl⟩
    · simp only [if_neg hsame] at hok ⊢
      obtain ⟨hkind, hentry⟩ := entry_addBinding hok
      rw [hentry, entry_removeBinding (hsupported uuid old hlookup)]
      exact ⟨hkind, rfl⟩

theorem entry_applyResources {world : String → AddWorld} (hsupported : current.Supported) :
    ∀ (uuids : List String) {runtime : Runtime},
      (applyResources cfg world current incoming runtime uuids).2 = none →
      (∀ uuid ∈ uuids, ∀ ecr, incoming.lookup uuid = some ecr → ecr.Supported) ∧
      (applyResources cfg world current incoming runtime uuids).1.entry =
        writeAll runtime.entry (uuids.flatMap (additionWrites cfg current incoming)) := by
  intro uuids
  induction uuids with
  | nil => exact fun _ => ⟨nofun, rfl⟩
  | cons uuid rest ih =>
    intro runtime hok
    rw [List.flatMap_cons, writeAll_append, additionWrites]
    cases hlookup : incoming.lookup uuid with
    | none =>
      simp only [applyResources, hlookup] at hok ⊢
      obtain ⟨hrest, hentry⟩ := ih hok
      refine ⟨List.forall_mem_cons.mpr ⟨fun ecr hecr => ?_, hrest⟩, hentry⟩
      rw [hlookup] at hecr
      cases hecr
    | some ecr =>
      simp only [applyResources, hlookup] at hok ⊢
      have hstep : ∀ {result : Runtime × Option String},
          applyResource cfg (world uuid) current runtime ecr uuid = result → result.2 = none →
          ecr.Supported ∧ result.1.entry =
            writeAll runtime.entry (resourceWrites cfg current ecr uuid) := by
        rintro result rfl hnone
        exact entry_applyResource hsupported hnone
      revert hok
      cases hresult : applyResource cfg (world uuid) current runtime ecr uuid with
      | mk next problem =>
        cases problem with
        | some problem => nofun
        | none =>
          intro hok
          obtain ⟨hkind, hnext⟩ := hstep hresult rfl
          obtain ⟨hrest, hentry⟩ := ih hok
          rw [hentry, hnext]
          refine ⟨List.forall_mem_cons.mpr ⟨fun found hfound => ?_, hrest⟩, rfl⟩
          rw [hlookup] at hfound
          exact Option.some.inj hfound ▸ hkind

theorem handleResources_ok {call : SnapshotCall}
    (hsupported : ResourceMap.Supported handler.current)
    (hok : (handleResources cfg handler call).2 = none) :
    let incoming := incomingResources call.resources
    (handleResources cfg handler call).1.current = incoming ∧
      ResourceMap.Supported incoming ∧
      (handleResources cfg handler call).1.runtime.entry =
        writeAll handler.runtime.entry
          ((call.iteration.order 0 handler.current.keys).flatMap
              (removalWrites handler.current incoming) ++
            (call.iteration.order 1 incoming.keys).flatMap
              (additionWrites cfg handler.current incoming)) := by
  intro incoming
  rw [writeAll_append, ← entry_removeAbsent hsupported]
  have hwrites : ∀ removed : Runtime,
      (applyResources cfg call.world handler.current incoming removed
        (call.iteration.order 1 incoming.keys)).2 = none → _ :=
    fun _ => entry_applyResources hsupported _
  specialize hwrites ((call.iteration.order 0 handler.current.keys).foldl
    (removeAbsent handler.current incoming) handler.runtime)
  unfold handleResources at hok ⊢
  revert hok hwrites
  simp only
  cases applyResources cfg call.world handler.current incoming _
      (call.iteration.order 1 incoming.keys) with
  | mk runtime problem =>
    cases problem with
    | some problem => nofun
    | none =>
      intro _ hwrites
      obtain ⟨hkinds, hentry⟩ := hwrites rfl
      refine ⟨rfl, fun uuid ecr hlookup => hkinds uuid ?_ ecr hlookup, hentry⟩
      exact (call.iteration.perm 1 incoming.keys).mem_iff.mpr
        (mem_of_lookup hlookup)

/-! ## Names of the snapshot -/

/-- The tables are those of the snapshot: the entry of each of its resources, and nothing under
other names. -/
structure Holds (cfg : HandlerConfig) (incoming : ResourceMap) (table : String → TableEntry) :
    Prop where
  resource : ∀ uuid ecr, incoming.lookup uuid = some ecr → table ecr.name = ecr.entry cfg
  absent : ∀ name, (∀ uuid ecr, incoming.lookup uuid = some ecr → ecr.name ≠ name) →
    table name = .absent

theorem Holds.unique {left right : String → TableEntry} (hleft : Holds cfg incoming left)
    (hright : Holds cfg incoming right) : left = right := by
  funext name
  by_cases hname : ∃ uuid ecr, incoming.lookup uuid = some ecr ∧ ecr.name = name
  · obtain ⟨uuid, ecr, hlookup, rfl⟩ := hname
    rw [hleft.resource uuid ecr hlookup, hright.resource uuid ecr hlookup]
  · have hunused : ∀ uuid ecr, incoming.lookup uuid = some ecr → ecr.name ≠ name :=
      fun uuid ecr hlookup heq => hname ⟨uuid, ecr, hlookup, heq⟩
    rw [hleft.absent name hunused, hright.absent name hunused]

/-- No write for one resource of the snapshot hits the name of another one, and nothing is left
over: names are distinct; a resource that is not changed has its entry; the name of a resource that
is changed or removed is its own, or that of a resource added after its removal; and every entry is
under the name of a resource that is in the snapshot or is changed or removed. -/
structure Separable (cfg : HandlerConfig) (handler : Handler) (incoming : ResourceMap) :
    Prop where
  distinct : ∀ uuid ecr other another, incoming.lookup uuid = some ecr →
    incoming.lookup other = some another → ecr.name = another.name → uuid = other
  intact : ∀ uuid ecr, incoming.lookup uuid = some ecr → handler.current.lookup uuid = some ecr →
    handler.runtime.entry ecr.name = ecr.entry cfg
  owned : ∀ uuid old other ecr, handler.current.lookup uuid = some old →
    incoming.lookup uuid ≠ some old → incoming.lookup other = some ecr → old.name = ecr.name →
      uuid = other ∨ incoming.lookup uuid = none ∧ handler.current.lookup other ≠ some ecr
  known : ∀ name, handler.runtime.entry name ≠ .absent →
    (∃ uuid ecr, incoming.lookup uuid = some ecr ∧ ecr.name = name) ∨
      ∃ uuid old, handler.current.lookup uuid = some old ∧ incoming.lookup uuid ≠ some old ∧
        old.name = name

theorem mem_removalWrites {write : String × TableEntry} :
    write ∈ removalWrites current incoming uuid ↔ ∃ old, current.lookup uuid = some old ∧
      incoming.lookup uuid = none ∧ write = (old.name, .absent) := by
  unfold removalWrites
  cases hlookup : current.lookup uuid with
  | none => simp
  | some old =>
    by_cases hincoming : uuid ∈ incoming
    · have hsome := AList.lookup_isSome.mpr hincoming
      simp only [if_pos hincoming, List.not_mem_nil, Option.some.injEq, false_iff]
      rintro ⟨found, -, hnone, -⟩
      rw [hnone] at hsome
      cases hsome
    · simp [hincoming, AList.lookup_eq_none.mpr hincoming]

theorem mem_additionWrites {write : String × TableEntry} :
    write ∈ additionWrites cfg current incoming uuid ↔ ∃ ecr, incoming.lookup uuid = some ecr ∧
      current.lookup uuid ≠ some ecr ∧ (write = (ecr.name, ecr.entry cfg) ∨
        ∃ old, current.lookup uuid = some old ∧ write = (old.name, .absent)) := by
  unfold additionWrites resourceWrites
  cases hincoming : incoming.lookup uuid with
  | none => simp
  | some ecr =>
    cases hcurrent : current.lookup uuid with
    | none => simp
    | some old =>
      by_cases hsame : old = ecr
      · simp [hsame]
      · simp [hsame, or_comm]

theorem Separable.addition_ne (hseparable : Separable cfg handler incoming) {other : String}
    (hlookup : incoming.lookup uuid = some ecr) (hne : other ≠ uuid) :
    ∀ write ∈ additionWrites cfg handler.current incoming other, write.1 ≠ ecr.name := by
  intro write hwrite hname
  obtain ⟨another, hanother, hchanged, hwrite⟩ := mem_additionWrites.mp hwrite
  rcases hwrite with rfl | ⟨old, hold, rfl⟩
  · exact hne (hseparable.distinct other another uuid ecr hanother hlookup hname)
  · have hdiffers : incoming.lookup other ≠ some old := by
      intro hsame
      rw [hanother] at hsame
      exact hchanged (hold.trans hsame.symm)
    rcases hseparable.owned other old uuid ecr hold hdiffers hlookup hname with heq | ⟨hnone, -⟩
    · exact hne heq
    · rw [hanother] at hnone
      cases hnone

theorem Separable.holds {removals additions : List String}
    (hseparable : Separable cfg handler incoming) (hremovals : removals.Perm handler.current.keys)
    (hadditions : additions.Perm incoming.keys) :
    Holds cfg incoming (writeAll handler.runtime.entry
      (removals.flatMap (removalWrites handler.current incoming) ++
        additions.flatMap (additionWrites cfg handler.current incoming))) := by
  have hmem : ∀ {uuid ecr}, incoming.lookup uuid = some ecr → uuid ∈ additions :=
    fun hlookup => hadditions.mem_iff.mpr (mem_of_lookup hlookup)
  have hmemCurrent : ∀ {uuid old}, handler.current.lookup uuid = some old → uuid ∈ removals :=
    fun hlookup => hremovals.mem_iff.mpr (mem_of_lookup hlookup)
  constructor
  · intro uuid ecr hlookup
    by_cases hunchanged : handler.current.lookup uuid = some ecr
    · -- no write hits the name of a resource that is skipped
      rw [writeAll_of_not_written, hseparable.intact uuid ecr hlookup hunchanged]
      intro write hwrite
      rcases List.mem_append.mp hwrite with hremoval | haddition
      · obtain ⟨other, -, hother⟩ := List.mem_flatMap.mp hremoval
        obtain ⟨old, hold, hnone, rfl⟩ := mem_removalWrites.mp hother
        intro hname
        have hdiffers : incoming.lookup other ≠ some old := by
          rw [hnone]
          nofun
        rcases hseparable.owned other old uuid ecr hold hdiffers hlookup hname with heq | ⟨-, hnew⟩
        · rw [heq, hlookup] at hnone
          cases hnone
        · exact hnew hunchanged
      · obtain ⟨other, -, hother⟩ := List.mem_flatMap.mp haddition
        by_cases heq : other = uuid
        · obtain ⟨found, hfound, hchanged, -⟩ := mem_additionWrites.mp (heq ▸ hother)
          rw [hlookup] at hfound
          exact absurd (Option.some.inj hfound ▸ hunchanged) hchanged
        · exact hseparable.addition_ne hlookup heq write hother
    · -- its own addition is the last write to the name
      obtain ⟨before, after, rfl⟩ := List.append_of_mem (hmem hlookup)
      have hnodup : uuid ∉ after := by
        have hkeys := hadditions.nodup_iff.mpr incoming.keys_nodup
        exact (List.nodup_cons.mp (List.nodup_append.mp hkeys).2.1).1
      rw [writeAll_append, List.flatMap_append, writeAll_append, List.flatMap_cons, writeAll_append,
        writeAll_of_not_written]
      · have hown : additionWrites cfg handler.current incoming uuid =
            resourceWrites cfg handler.current ecr uuid := by
          rw [additionWrites, hlookup]
        rw [hown, resourceWrites]
        cases hcurrent : handler.current.lookup uuid with
        | none => simp [writeAll]
        | some old =>
          have hchanged : old ≠ ecr := by
            rintro rfl
            exact hunchanged hcurrent
          simp [writeAll, hchanged]
      · intro write hwrite
        obtain ⟨other, hother, hmemWrite⟩ := List.mem_flatMap.mp hwrite
        have hne : other ≠ uuid := by
          rintro rfl
          exact hnodup hother
        exact hseparable.addition_ne hlookup hne write hmemWrite
  · intro name hunused
    apply writeAll_eq_of_forall
    · -- only removals write to the name
      intro write hwrite hname
      rcases List.mem_append.mp hwrite with hremoval | haddition
      · obtain ⟨uuid, -, huuid⟩ := List.mem_flatMap.mp hremoval
        obtain ⟨old, -, -, rfl⟩ := mem_removalWrites.mp huuid
        rfl
      · obtain ⟨uuid, -, huuid⟩ := List.mem_flatMap.mp haddition
        obtain ⟨ecr, hecr, -, rfl | ⟨old, -, rfl⟩⟩ := mem_additionWrites.mp huuid
        · exact absurd hname (hunused uuid ecr hecr)
        · rfl
    · intro hunwritten
      by_contra hpresent
      rcases hseparable.known name hpresent with
        ⟨uuid, ecr, hlookup, hname⟩ | ⟨uuid, old, hold, hchanged, rfl⟩
      · exact hunused uuid ecr hlookup hname
      · cases hlookup : incoming.lookup uuid with
        | none =>
          have hwrite : (old.name, TableEntry.absent) ∈
              removalWrites handler.current incoming uuid :=
            mem_removalWrites.mpr ⟨old, hold, hlookup, rfl⟩
          exact hunwritten _ (List.mem_append_left _
            (List.mem_flatMap.mpr ⟨uuid, hmemCurrent hold, hwrite⟩)) rfl
        | some ecr =>
          have hdiffers : handler.current.lookup uuid ≠ some ecr := by
            intro hsame
            exact hchanged (by rw [hlookup, ← hsame, hold])
          have hwrite : (old.name, TableEntry.absent) ∈
              additionWrites cfg handler.current incoming uuid :=
            mem_additionWrites.mpr ⟨ecr, hlookup, hdiffers, .inr ⟨old, hold, rfl⟩⟩
          exact hunwritten _ (List.mem_append_right _
            (List.mem_flatMap.mpr ⟨uuid, hmem hlookup, hwrite⟩)) rfl

/-! ## Runs -/

def Handler.step (cfg : HandlerConfig) (handler : Handler) (call : SnapshotCall) : Handler :=
  (handleResources cfg handler call).1

theorem Handler.step_supported (hsupported : ResourceMap.Supported handler.current)
    (call : SnapshotCall) : ResourceMap.Supported (handler.step cfg call).current := by
  cases hok : (handleResources cfg handler call).2 with
  | none =>
    obtain ⟨hcurrent, hincoming, -⟩ := handleResources_ok hsupported hok
    rw [Handler.step, hcurrent]
    exact hincoming
  | some problem =>
    -- a call that fails remembers the old snapshot
    unfold Handler.step
    unfold handleResources at hok ⊢
    simp only at hok ⊢
    split at hok
    · exact hsupported
    · cases hok

theorem separable_new (hdistinct : ∀ uuid ecr other another, incoming.lookup uuid = some ecr →
    incoming.lookup other = some another → ecr.name = another.name → uuid = other) :
    Separable cfg .new incoming where
  distinct := hdistinct
  intact := by simp [Handler.new]
  owned := by simp [Handler.new]
  known := fun name hpresent => absurd rfl hpresent

theorem handleResources_holds {call : SnapshotCall}
    (hsupported : ResourceMap.Supported handler.current)
    (hseparable : Separable cfg handler (incomingResources call.resources))
    (hok : (handleResources cfg handler call).2 = none) :
    Holds cfg (incomingResources call.resources)
      (handleResources cfg handler call).1.runtime.entry := by
  obtain ⟨-, -, hentry⟩ := handleResources_ok hsupported hok
  rw [hentry]
  exact hseparable.holds (call.iteration.perm 0 _) (call.iteration.perm 1 _)

/-- When every snapshot of a run is separable in the state that it meets, whatever has failed
before, a call that succeeds leaves the tables that its snapshot gives on an empty runtime. -/
theorem tables_of_last_snapshot (cfg : HandlerConfig) (calls : List SnapshotCall)
    (hconforms : Conforms (Handler.step cfg)
      (fun handler call => Separable cfg handler (incomingResources call.resources)) .new calls) :
    ∀ pre call, pre ++ [call] <+: calls →
      (handleResources cfg (run (Handler.step cfg) .new pre) call).2 = none →
      ∀ fresh : SnapshotCall, fresh.resources = call.resources →
        (handleResources cfg .new fresh).2 = none →
        (handleResources cfg (run (Handler.step cfg) .new pre) call).1.runtime.entry =
          (handleResources cfg .new fresh).1.runtime.entry := by
  intro pre call hpre hok fresh hresources hfresh
  obtain ⟨post, rfl⟩ := hpre
  rw [List.append_assoc] at hconforms
  have hseparable := hconforms.allowed
  have hstart : ResourceMap.Supported Handler.new.current := by
    intro uuid ecr hlookup
    cases hlookup
  have hstep : ∀ (handler : Handler) (call : SnapshotCall),
      ResourceMap.Supported handler.current →
        Separable cfg handler (incomingResources call.resources) →
        ResourceMap.Supported (handler.step cfg call).current :=
    fun _ call hcurrent _ => Handler.step_supported hcurrent call
  have hsupported := Conforms.invariant hstep hstart hconforms.of_append
  have hfreshHolds := handleResources_holds hstart
    (separable_new (hresources ▸ hseparable.distinct)) hfresh
  rw [hresources] at hfreshHolds
  exact (handleResources_holds hsupported hseparable hok).unique hfreshHolds

def testHandlerConfig : HandlerConfig :=
  ⟨⟨id, ⟨[]⟩⟩, "local"⟩

def plainApi (uuid name : String) : EventChannelResource where
  uuid := uuid
  name := name
  kind := "WebSubApi"
  context := "/" ++ name
  version := "v1"
  deleted := false
  channels := .absent
  receiver := ⟨"", ""⟩
  brokerDriver := ⟨"", "", ""⟩
  policies := ∅

def snapshot (failing : List String) (resources : List EventChannelResource) : SnapshotCall where
  resources := resources
  iteration := storedOrder String
  world := fun uuid =>
    ⟨fun _ _ => none, if uuid ∈ failing then some "unreachable" else none, none, none⟩

theorem retried_snapshot_restores_tables :
    (handleResources testHandlerConfig .new (snapshot ["u1"] [plainApi "u1" "shop"])).2 ≠ none ∧
    (handleResources testHandlerConfig (run (Handler.step testHandlerConfig) .new
        [snapshot ["u1"] [plainApi "u1" "shop"]])
          (snapshot [] [plainApi "u1" "shop"])).1.runtime.entry =
      (handleResources testHandlerConfig .new
        (snapshot [] [plainApi "u1" "shop"])).1.runtime.entry := by
  have hlookup : ∀ uuid ecr, (incomingResources [plainApi "u1" "shop"]).lookup uuid = some ecr →
      uuid = "u1" ∧ ecr = plainApi "u1" "shop" := by
    intro uuid ecr hfound
    rcases lookup_insert_eq_some_iff.mp hfound with ⟨huuid, hecr⟩ | ⟨-, hnone⟩
    · exact ⟨huuid, hecr.symm⟩
    · cases hnone
  have hdistinct : ∀ uuid ecr other another,
      (incomingResources [plainApi "u1" "shop"]).lookup uuid = some ecr →
      (incomingResources [plainApi "u1" "shop"]).lookup other = some another →
      ecr.name = another.name → uuid = other := by
    intro uuid ecr other another hecr hanother _
    rw [(hlookup uuid ecr hecr).1, (hlookup other another hanother).1]
  have hfailed : Separable testHandlerConfig (Handler.step testHandlerConfig .new
      (snapshot ["u1"] [plainApi "u1" "shop"])) (incomingResources [plainApi "u1" "shop"]) := by
    have hcurrent : (Handler.step testHandlerConfig .new
        (snapshot ["u1"] [plainApi "u1" "shop"])).current = ∅ := by
      decide +kernel
    refine ⟨hdistinct, ?_, ?_, ?_⟩
    · rw [hcurrent]
      nofun
    · rw [hcurrent]
      nofun
    · intro name hpresent
      left
      refine ⟨"u1", plainApi "u1" "shop", by decide +kernel, ?_⟩
      by_contra hname
      apply hpresent
      have habsent : ∀ {Value : Type} (map : GoMap String Value), map.keys ⊆ ["shop"] →
          map.lookup name = none := by
        intro Value map hkeys
        refine AList.lookup_eq_none.mpr fun hmem => hname ?_
        exact (List.mem_singleton.mp (hkeys hmem)).symm
      rw [entry, habsent _ (by decide +kernel), habsent _ (by decide +kernel),
        habsent _ (by decide +kernel)]
      rfl
  refine ⟨by decide +kernel, ?_⟩
  exact tables_of_last_snapshot testHandlerConfig
    [snapshot ["u1"] [plainApi "u1" "shop"], snapshot [] [plainApi "u1" "shop"]]
    ⟨separable_new hdistinct, hfailed, trivial⟩ [_] _ (List.prefix_refl _) (by decide +kernel) _ rfl
    (by decide +kernel)

/-- Two APIs swap their names: the tables lose one of them, although every call succeeds.  An API of
a snapshot that failed half-way stays when it is not in the next one. -/
theorem swapped_and_abandoned_names :
    let before := run (Handler.step testHandlerConfig) .new
      [snapshot [] [plainApi "u1" "a", plainApi "u2" "b"]]
    let swap := snapshot [] [plainApi "u1" "b", plainApi "u2" "a"]
    let abandoned := run (Handler.step testHandlerConfig) .new
      [snapshot ["u2"] [plainApi "u2" "b", plainApi "u1" "a"]]
    let next := snapshot [] [plainApi "u2" "b"]
    ((handleResources testHandlerConfig before swap).2 = none ∧
      (handleResources testHandlerConfig .new swap).2 = none ∧
      (handleResources testHandlerConfig before swap).1.runtime.entry "a" = .absent ∧
      (handleResources testHandlerConfig .new swap).1.runtime.entry "a" ≠ .absent) ∧
    (handleResources testHandlerConfig abandoned next).2 = none ∧
      (handleResources testHandlerConfig .new next).2 = none ∧
      (handleResources testHandlerConfig abandoned next).1.runtime.entry "a" ≠ .absent ∧
      (handleResources testHandlerConfig .new next).1.runtime.entry "a" = .absent := by
  decide +kernel

end ApiPlatform.EventGateway
