import ApiPlatform.EventGateway.SubscriptionStore

/-!
# Subscription records

`subscription/sync.go`, `reconciler.go` and `watcher.go`: subscriptions are
published as records of a topic, and a store is rebuilt from the records.  A
tombstone is known by its key only, which is cut at the first colon.
-/

namespace ApiPlatform.EventGateway

open Foundation InMemoryStore

variable {subs : Subscriptions}

/-! ## Records -/

/-- A record of the sync topic; no value for a tombstone.  The value is written without its JSON
form. -/
structure SyncRecord where
  key : String
  value : Option Subscription
  deriving DecidableEq

def syncKey (topic callbackURL : String) : String :=
  topic ++ ":" ++ callbackURL

def parseSyncKey (key : String) : Option (String × String) :=
  if ':' ∈ key.toList then
    some (String.ofList (key.toList.takeWhile (· ≠ ':')),
      String.ofList (key.toList.dropWhile (· ≠ ':')).tail)
  else none

theorem parseSyncKey_syncKey {topic : String} (callbackURL : String) (htopic : ':' ∉ topic.toList) :
    parseSyncKey (syncKey topic callbackURL) = some (topic, callbackURL) := by
  have hkey : (syncKey topic callbackURL).toList =
      topic.toList ++ ':' :: callbackURL.toList := by
    simp [syncKey]
  have hall : ∀ char ∈ topic.toList, decide (char ≠ ':') = true := by
    intro char hmem
    exact decide_eq_true fun hcolon => htopic (hcolon ▸ hmem)
  rw [parseSyncKey, hkey, if_pos (by simp), List.takeWhile_append_of_pos hall,
    List.dropWhile_append_of_pos hall]
  simp

/-- What is published: a subscription, by the runtime with the ID, or the end of one. -/
inductive Publication where
  | subscription (runtimeID : String) (sub : Subscription)
  | tombstone (topic callbackURL : String)
  deriving DecidableEq

def publishSubscription (runtimeID : String) (sub : Subscription) : SyncRecord :=
  ⟨syncKey sub.topic sub.callbackURL, some { sub with runtimeID := runtimeID }⟩

def publishTombstone (topic callbackURL : String) : SyncRecord :=
  ⟨syncKey topic callbackURL, none⟩

def Publication.record : Publication → SyncRecord
  | .subscription runtimeID sub => publishSubscription runtimeID sub
  | .tombstone topic callbackURL => publishTombstone topic callbackURL

/-! ## Replay -/

/-- One record, as it is applied to the store; `newID` makes the UUIDs for empty IDs. -/
def applyRecord (newID : Nat → String) (store : InMemoryStore) (record : SyncRecord) :
    InMemoryStore :=
  match record.value with
  | none =>
    match parseSyncKey record.key with
    | none => store
    | some (topic, callbackURL) => (store.remove topic callbackURL).1
  | some sub => store.add (newID store.objects.length) sub

def reconcile (newID : Nat → String) (store : InMemoryStore) (records : List SyncRecord) :
    InMemoryStore :=
  records.foldl (applyRecord newID) store

def handleMessage (newID : Nat → String) (store : InMemoryStore) (record : SyncRecord) :
    InMemoryStore :=
  applyRecord newID store record

def watch (newID : Nat → String) (store : InMemoryStore) (records : List SyncRecord) :
    InMemoryStore :=
  records.foldl (handleMessage newID) store

theorem watch_eq_reconcile (newID : Nat → String) (store : InMemoryStore)
    (records : List SyncRecord) : watch newID store records = reconcile newID store records :=
  rfl

def lastRecord (log : List Publication) (pair : String × String) : Option Subscription :=
  log.foldl (fun last publication =>
    match publication with
    | .subscription runtimeID sub =>
      if pair = sub.pair then some { sub with runtimeID := runtimeID } else last
    | .tombstone topic callbackURL => if pair = (topic, callbackURL) then none else last) none

/-- A subscription is published with the ID of the one that its pair has, or else with one that
no pair has; a tombstone is for a topic without a colon. -/
def Publication.Follows (log : List Publication) : Publication → Prop
  | .subscription _ sub => sub.id ≠ "" ∧ ∀ pair old, lastRecord log pair = some old →
      (old.id = sub.id ↔ pair = sub.pair)
  | .tombstone topic _ => ':' ∉ topic.toList

def Replayable (log : List Publication) : Prop :=
  Conforms (fun pre publication => pre ++ [publication])
    (fun pre publication => publication.Follows pre) [] log

/-! ## What a replay restores -/

section Replay

variable {newID : Nat → String} {runtimeID : String} {log : List Publication}

theorem lastRecord_append (log : List Publication) (publication : Publication)
    (pair : String × String) :
    lastRecord (log ++ [publication]) pair =
      match publication with
      | .subscription runtimeID sub =>
        if pair = sub.pair then some { sub with runtimeID := runtimeID } else lastRecord log pair
      | .tombstone topic callbackURL =>
        if pair = (topic, callbackURL) then none else lastRecord log pair := by
  rw [lastRecord, List.foldl_append]
  rfl

theorem run_log (log : List Publication) :
    run (fun pre publication => pre ++ [publication]) [] log = log := by
  induction log using List.reverseRecOn with
  | nil => rfl
  | append_singleton log last ih =>
    rw [run_append, ih]
    rfl

variable {publication : Publication}

theorem replayable_append (hreplay : Replayable (log ++ [publication])) :
    Replayable log ∧ publication.Follows log := by
  refine ⟨Conforms.of_append hreplay, ?_⟩
  have hallowed := Conforms.allowed hreplay
  rwa [run_log] at hallowed

theorem lastRecord_some (hreplay : Replayable log) {pair : String × String} {record : Subscription}
    (hrecord : lastRecord log pair = some record) : record.id ≠ "" ∧ record.pair = pair := by
  induction log using List.reverseRecOn with
  | nil => cases hrecord
  | append_singleton log publication ih =>
    obtain ⟨hlog, hfollows⟩ := replayable_append hreplay
    rw [lastRecord_append] at hrecord
    cases publication with
    | subscription runtimeID sub =>
      simp only at hrecord
      split_ifs at hrecord with hpair
      · obtain rfl := Option.some.inj hrecord
        exact ⟨hfollows.1, hpair.symm⟩
      · exact ih hlog hrecord
    | tombstone topic callbackURL =>
      simp only at hrecord
      split_ifs at hrecord
      exact ih hlog hrecord

structure Represents (runtimeID : String) (log : List Publication) (subs : Subscriptions) :
    Prop where
  sound : subs.Sound
  coherent : subs.Coherent
  runtime : subs.store.runtimeID = runtimeID
  latest : ∀ pair, (subs.latest.lookup pair).bind (subs.store.objects[·]?) =
    (lastRecord log pair).map ((new runtimeID).complete "")

def Publication.call (newID : Nat → String) (subs : Subscriptions) : Publication → StoreCall
  | .subscription runtimeID sub =>
    .add { sub with runtimeID := runtimeID } (newID subs.store.objects.length)
  | .tombstone topic callbackURL => .remove topic callbackURL

theorem applyRecord_record (hfollows : publication.Follows log) :
    applyRecord newID subs.store publication.record =
      (subs.step (publication.call newID subs)).store := by
  cases publication with
  | subscription runtimeID sub => rfl
  | tombstone topic callbackURL =>
    rw [Publication.record, publishTombstone, applyRecord]
    simp only [parseSyncKey_syncKey callbackURL hfollows]
    rfl

theorem complete_of_id {store : InMemoryStore} (hruntime : store.runtimeID = runtimeID)
    (sub : Subscription) (hid : sub.id ≠ "") (generated : String) :
    store.complete generated sub = (new runtimeID).complete "" sub := by
  rw [complete, complete, hruntime, if_neg hid, if_neg hid]
  rfl

theorem runtimeID_step (subs : Subscriptions) (publication : Publication) :
    (subs.step (publication.call newID subs)).store.runtimeID = subs.store.runtimeID := by
  cases publication with
  | subscription runtimeID sub => rfl
  | tombstone topic callbackURL =>
    rw [Publication.call, Subscriptions.step, remove]
    split
    · rfl
    · split <;> rfl

theorem Represents.renews (hsubs : Represents runtimeID log subs) (hreplay : Replayable log)
    (hfollows : publication.Follows log) : subs.Renews (publication.call newID subs) := by
  cases publication with
  | tombstone topic callbackURL => trivial
  | subscription producer sub =>
    intro id ref old hbyID hold
    obtain ⟨found, hobject, rfl, hlatest⟩ := (hsubs.coherent.byID id ref).mp hbyID
    obtain rfl := Option.some.inj (hold.symm.trans hobject)
    have hrecord := hsubs.latest old.pair
    rw [hlatest, Option.bind_some, hold] at hrecord
    obtain ⟨record, hlast, rfl⟩ := Option.map_eq_some_iff.mp hrecord.symm
    obtain ⟨hid, hpair⟩ := lastRecord_some hreplay hlast
    have hids : ((new runtimeID).complete "" record).id = record.id := if_neg hid
    have hadded : (subs.store.complete (newID subs.store.objects.length)
        { sub with runtimeID := producer }).id = sub.id := if_neg hfollows.1
    rw [hids, hadded]
    exact hfollows.2 _ record hlast

theorem Represents.step (hsubs : Represents runtimeID log subs) (hreplay : Replayable log)
    (hfollows : publication.Follows log) :
    Represents runtimeID (log ++ [publication]) (subs.step (publication.call newID subs)) := by
  refine ⟨hsubs.sound.step _, ?_, ?_, fun pair => ?_⟩
  · exact (Subscriptions.renews_iff_coherent hsubs.sound hsubs.coherent _).mp
      (hsubs.renews hreplay hfollows)
  · rw [runtimeID_step, hsubs.runtime]
  · rw [lastRecord_append]
    cases publication with
    | subscription producer sub =>
      simp only [Publication.call, Subscriptions.step, add]
      by_cases hpair : pair = sub.pair
      · have hlookup : (subs.latest.insert (Subscription.pair { sub with runtimeID := producer })
            subs.store.objects.length).lookup pair = some subs.store.objects.length := by
          rw [hpair]
          exact AList.lookup_insert _
        rw [if_pos hpair, hlookup, Option.bind_some, List.getElem?_concat_length,
          Option.map_some]
        exact congrArg some (complete_of_id hsubs.runtime { sub with runtimeID := producer }
          hfollows.1 _)
      · have hlookup : (subs.latest.insert (Subscription.pair { sub with runtimeID := producer })
            subs.store.objects.length).lookup pair = subs.latest.lookup pair :=
          AList.lookup_insert_ne hpair
        rw [if_neg hpair, hlookup, ← hsubs.latest]
        cases hlatest : subs.latest.lookup pair with
        | none => rfl
        | some ref =>
          obtain ⟨old, hold, -⟩ := hsubs.sound pair ref hlatest
          rw [Option.bind_some, Option.bind_some,
            List.getElem?_append_left (lt_of_getElem hold)]
    | tombstone topic callbackURL =>
      simp only [Publication.call, Subscriptions.step, objects_remove]
      rw [lookup_erase_eq]
      split
      · rfl
      · exact hsubs.latest pair

theorem exists_represents (newID : Nat → String) (runtimeID : String) :
    ∀ {log : List Publication}, Replayable log → ∃ subs, Represents runtimeID log subs ∧
      subs.store = reconcile newID (.new runtimeID) (log.map Publication.record) := by
  intro log
  induction log using List.reverseRecOn with
  | nil =>
    intro _
    refine ⟨.start runtimeID, ⟨sound_start runtimeID, coherent_start runtimeID, rfl, ?_⟩, rfl⟩
    simp [Subscriptions.start, lastRecord]
  | append_singleton log publication ih =>
    intro hreplay
    obtain ⟨hlog, hfollows⟩ := replayable_append hreplay
    obtain ⟨subs, hsubs, hstore⟩ := ih hlog
    refine ⟨subs.step (publication.call newID subs), hsubs.step hlog hfollows, ?_⟩
    rw [← applyRecord_record hfollows, hstore, reconcile, reconcile, List.map_append,
      List.foldl_append]
    rfl

theorem Subscriptions.Coherent.mem_getAll_iff (hcoherent : subs.Coherent) {sub : Subscription} :
    sub ∈ subs.store.getAll ↔
      (subs.latest.lookup sub.pair).bind (subs.store.objects[·]?) = some sub := by
  rw [getAll, List.mem_filterMap]
  constructor
  · rintro ⟨⟨id, ref⟩, hmem, hobject⟩
    obtain ⟨found, hfound, -, hlatest⟩ :=
      (hcoherent.byID id ref).mp (AList.mem_lookup_iff.mpr hmem)
    obtain rfl := Option.some.inj (hobject.symm.trans hfound)
    rw [hlatest, Option.bind_some]
    exact hobject
  · intro hbind
    obtain ⟨ref, hlatest, hobject⟩ := Option.bind_eq_some_iff.mp hbind
    have hbyID := (hcoherent.byID sub.id ref).mpr ⟨sub, hobject, rfl, hlatest⟩
    exact ⟨⟨sub.id, ref⟩, AList.mem_lookup_iff.mp hbyID, hobject⟩

theorem mem_getActive_reconcile (newID : Nat → String) (runtimeID : String) {log : List Publication}
    (hreplay : Replayable log) (sub : Subscription) :
    sub ∈ (reconcile newID (.new runtimeID) (log.map Publication.record)).getActive ↔
      sub.state = .active ∧ ∃ record, lastRecord log sub.pair = some record ∧
        sub = (new runtimeID).complete "" record := by
  obtain ⟨subs, hsubs, hstore⟩ := exists_represents newID runtimeID hreplay
  rw [← hstore, getActive, List.mem_filter, decide_eq_true_iff, and_comm,
    hsubs.coherent.mem_getAll_iff, hsubs.latest, Option.map_eq_some_iff]
  simp only [eq_comm]

/-- A replay of the records restores the active subscriptions among the last records of the
pairs, and nothing else, at the start and by the watcher. -/
theorem replay_restores_lastRecords (newID : Nat → String) (runtimeID : String)
    {log : List Publication} (hreplay : Replayable log) (sub : Subscription) :
    (sub ∈ (reconcile newID (.new runtimeID) (log.map Publication.record)).getActive ↔
        sub.state = .active ∧ ∃ record, lastRecord log sub.pair = some record ∧
          sub = (new runtimeID).complete "" record) ∧
      (sub ∈ (watch newID (.new runtimeID) (log.map Publication.record)).getActive ↔
        sub.state = .active ∧ ∃ record, lastRecord log sub.pair = some record ∧
          sub = (new runtimeID).complete "" record) := by
  rw [watch_eq_reconcile, and_self]
  exact mem_getActive_reconcile newID runtimeID hreplay sub

end Replay

def renewedLog : List Publication :=
  [.subscription "r1" (leased "first" 60), .tombstone "returns" "https://cb:8080",
    .subscription "r1" (leased "first" 120)]

theorem renewedLog_restored :
    (leased "first" 120 ∈
        (reconcile (fun _ => "") (.new "r1") (renewedLog.map Publication.record)).getActive) ∧
      ¬ leased "first" 60 ∈
        (reconcile (fun _ => "") (.new "r1") (renewedLog.map Publication.record)).getActive := by
  have hreplay : Replayable renewedLog := by
    have hcolon : ':' ∉ "returns".toList := by decide +kernel
    refine ⟨⟨by decide, nofun⟩, hcolon, ⟨by decide, ?_⟩, trivial⟩
    intro pair old hlast
    simp only [lastRecord, List.nil_append, List.cons_append, List.foldl_cons, List.foldl_nil]
      at hlast
    split_ifs at hlast with hreturns hpair
    obtain rfl := Option.some.inj hlast
    exact iff_of_true rfl hpair
  have hlast : lastRecord renewedLog ("orders", "https://cb") = some (leased "first" 120) := by
    decide +kernel
  constructor
  · exact (replay_restores_lastRecords (fun _ => "") "r1" hreplay (leased "first" 120)).1.mpr
      ⟨rfl, leased "first" 120, hlast, by decide +kernel⟩
  · intro hmem
    obtain ⟨-, record, hrecord, hsub⟩ :=
      (replay_restores_lastRecords (fun _ => "") "r1" hreplay (leased "first" 60)).1.mp hmem
    obtain rfl := Option.some.inj (hlast.symm.trans hrecord)
    exact absurd hsub (by decide +kernel)

def staleLog : List Publication :=
  [.subscription "r1" (leased "first" 60), .subscription "r1" (leased "second" 120)]

def colonLog : List Publication :=
  [.subscription "r1" { leased "first" 60 with topic := "urn:orders" },
    .tombstone "urn:orders" "https://cb"]

theorem stale_and_ended_restored :
    leased "first" 60 ∈
        (reconcile (fun _ => "") (.new "r1") (staleLog.map Publication.record)).getActive ∧
      lastRecord staleLog ("orders", "https://cb") = some (leased "second" 120) ∧
      { leased "first" 60 with topic := "urn:orders" } ∈
        (watch (fun _ => "") (.new "r1") (colonLog.map Publication.record)).getActive ∧
      lastRecord colonLog ("urn:orders", "https://cb") = none := by
  decide +kernel

end ApiPlatform.EventGateway
