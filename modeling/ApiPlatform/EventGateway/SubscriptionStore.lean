import ApiPlatform.Foundation.GoMaps
import ApiPlatform.Foundation.Runs

/-!
# The subscription store

`InMemoryStore` of `subscription/store.go`.  Both maps hold pointers, so the
subscriptions are kept in a heap and the maps have references to it.  One map is
keyed by the ID, the other one by topic and callback; they hold the same
subscriptions as long as a pair is renewed under its ID.
-/

namespace ApiPlatform.EventGateway

open Foundation

variable {ref : Nat}

inductive SubscriptionState where
  | pending
  | active
  | inactive
  | expired
  deriving DecidableEq

structure Subscription where
  id : String
  topic : String
  callbackURL : String
  secret : String
  leaseSeconds : Int
  expiresAt : Option Int
  state : SubscriptionState
  createdAt : Int
  runtimeID : String
  deriving DecidableEq

def Subscription.pair (sub : Subscription) : String × String :=
  (sub.topic, sub.callbackURL)

def Subscription.isExpired (sub : Subscription) (now : Int) : Bool :=
  decide (0 < sub.leaseSeconds) && sub.expiresAt.any (· < now)

structure InMemoryStore where
  objects : List Subscription
  byID : GoMap String Nat
  byTopic : GoMap String (GoMap String Nat)
  runtimeID : String

namespace InMemoryStore

def new (runtimeID : String) : InMemoryStore :=
  ⟨[], ∅, ∅, runtimeID⟩

variable (store : InMemoryStore)

def complete (generated : String) (sub : Subscription) : Subscription :=
  { sub with
    id := if sub.id = "" then generated else sub.id
    runtimeID := if sub.runtimeID = "" then store.runtimeID else sub.runtimeID }

/-- Adds a new object; `generated` is the UUID that is made for an empty ID. -/
def add (generated : String) (sub : Subscription) : InMemoryStore :=
  let sub := store.complete generated sub
  { store with
    objects := store.objects ++ [sub]
    byID := store.byID.insert sub.id store.objects.length
    byTopic := insertIn store.byTopic sub.topic sub.callbackURL store.objects.length }

def drop (id : String) (sub : Subscription) : InMemoryStore :=
  { store with
    byID := store.byID.erase id
    byTopic := dropEmpty (eraseIn store.byTopic sub.topic sub.callbackURL) sub.topic }

def remove (topic callbackURL : String) : InMemoryStore × Option String :=
  match store.byTopic.lookup topic with
  | none => (store, some ("no subscriptions for topic: " ++ topic))
  | some topicSubs =>
    match (topicSubs.lookup callbackURL).bind (store.objects[·]?) with
    | none =>
      (store, some ("subscription not found: topic=" ++ topic ++ " callback=" ++ callbackURL))
    | some sub =>
      ({ store with
         byID := store.byID.erase sub.id
         byTopic := dropEmpty (eraseIn store.byTopic topic callbackURL) topic }, none)

def updateState (id : String) (state : SubscriptionState) : InMemoryStore × Option String :=
  match store.byID.lookup id with
  | none => (store, some ("subscription not found: " ++ id))
  | some ref =>
    ({ store with objects := store.objects.modify ref fun sub => { sub with state := state } },
      none)

def expiredEntries (now : Int) : List (String × Subscription) :=
  store.byID.entries.filterMap fun entry =>
    (store.objects[entry.2]?).bind fun sub =>
      if sub.isExpired now then some (entry.1, sub) else none

def cleanExpired (now : Int) : InMemoryStore × Nat :=
  ((store.expiredEntries now).foldl (fun cleaned entry => cleaned.drop entry.1 entry.2) store,
    (store.expiredEntries now).length)

def getAll : List Subscription :=
  store.byID.entries.filterMap fun entry => store.objects[entry.2]?

def getActive : List Subscription :=
  store.getAll.filter (·.state = .active)

end InMemoryStore

/-! ## The latest subscriptions -/

/-- The store, and for each pair the object that was added last and neither removed nor found
expired since. -/
structure Subscriptions where
  store : InMemoryStore
  latest : GoMap (String × String) Nat

inductive StoreCall where
  | add (sub : Subscription) (generated : String)
  | remove (topic callbackURL : String)
  | updateState (id : String) (state : SubscriptionState)
  | cleanExpired (now : Int)
  deriving DecidableEq

namespace Subscriptions

def start (runtimeID : String) : Subscriptions :=
  ⟨.new runtimeID, ∅⟩

variable (subs : Subscriptions)

def expiredPairs (now : Int) : List (String × String) :=
  subs.latest.keys.filter fun pair =>
    ((subs.latest.lookup pair).bind (subs.store.objects[·]?)).any (·.isExpired now)

def step : StoreCall → Subscriptions
  | .add sub generated =>
    ⟨subs.store.add generated sub, subs.latest.insert sub.pair subs.store.objects.length⟩
  | .remove topic callbackURL =>
    ⟨(subs.store.remove topic callbackURL).1, subs.latest.erase (topic, callbackURL)⟩
  | .updateState id state => ⟨(subs.store.updateState id state).1, subs.latest⟩
  | .cleanExpired now =>
    ⟨(subs.store.cleanExpired now).1, eraseAll subs.latest (subs.expiredPairs now)⟩

def Sound : Prop :=
  ∀ pair ref, subs.latest.lookup pair = some ref →
    ∃ sub, subs.store.objects[ref]? = some sub ∧ sub.pair = pair

/-- Both maps hold the latest subscription of each pair, and nothing else. -/
structure Coherent : Prop where
  byID : ∀ id ref, subs.store.byID.lookup id = some ref ↔
    ∃ sub, subs.store.objects[ref]? = some sub ∧ sub.id = id ∧
      subs.latest.lookup sub.pair = some ref
  byTopic : ∀ topic callbackURL ref, lookupIn subs.store.byTopic topic callbackURL = some ref ↔
    subs.latest.lookup (topic, callbackURL) = some ref

/-- A stored subscription has the ID of the added one if and only if it has its pair. -/
def Renews : StoreCall → Prop
  | .add sub generated => ∀ id ref old, subs.store.byID.lookup id = some ref →
      subs.store.objects[ref]? = some old →
      (id = (subs.store.complete generated sub).id ↔ old.pair = sub.pair)
  | _ => True

end Subscriptions

/-! ## Calls -/

section Calls

variable {subs : Subscriptions}

theorem sound_start (runtimeID : String) : (Subscriptions.start runtimeID).Sound := by
  intro pair ref hlatest
  simp [Subscriptions.start] at hlatest

theorem coherent_start (runtimeID : String) : (Subscriptions.start runtimeID).Coherent := by
  constructor
  · intro id ref
    simp [Subscriptions.start, InMemoryStore.new]
  · intro topic callbackURL ref
    simp [Subscriptions.start, InMemoryStore.new, lookupIn]

theorem getElem_updateState {store : InMemoryStore} {id : String} {state : SubscriptionState}
    (keep : Subscription → Prop) (hkeep : ∀ sub, keep { sub with state := state } ↔ keep sub)
    (ref : Nat) :
    (∃ sub, (store.updateState id state).1.objects[ref]? = some sub ∧ keep sub) ↔
      ∃ sub, store.objects[ref]? = some sub ∧ keep sub := by
  rw [InMemoryStore.updateState]
  split
  · rfl
  · next other _ =>
      simp only [List.getElem?_modify]
      cases hsub : store.objects[ref]? with
      | none => simp
      | some sub =>
        by_cases hother : other = ref
        · simp [hother, hkeep]
        · simp [hother]

variable {entries : List (String × Subscription)}

theorem lookup_foldl_drop :
    ∀ {store : InMemoryStore} {id : String},
      (entries.foldl (fun cleaned entry => cleaned.drop entry.1 entry.2) store).byID.lookup id =
        if id ∈ entries.map (·.1) then none else store.byID.lookup id := by
  induction entries with
  | nil => simp
  | cons entry rest ih =>
    intro store id
    rw [List.foldl_cons, ih, InMemoryStore.drop, lookup_erase_eq]
    by_cases hentry : id = entry.1 <;> simp only [hentry, List.map_cons, List.mem_cons, true_or,
      false_or, if_true, if_false, ite_self]

theorem lookupIn_foldl_drop :
    ∀ {store : InMemoryStore} {topic callbackURL : String},
      lookupIn (entries.foldl (fun cleaned entry => cleaned.drop entry.1 entry.2) store).byTopic
          topic callbackURL =
        if (topic, callbackURL) ∈ entries.map (·.2.pair) then none
        else lookupIn store.byTopic topic callbackURL := by
  induction entries with
  | nil => simp
  | cons entry rest ih =>
    intro store topic callbackURL
    rw [List.foldl_cons, ih, InMemoryStore.drop, lookupIn_dropEmpty, lookupIn_eraseIn]
    by_cases hentry : topic = entry.2.topic ∧ callbackURL = entry.2.callbackURL
    · have hmem : (topic, callbackURL) ∈ (entry :: rest).map (·.2.pair) := by
        rw [hentry.1, hentry.2]
        exact List.mem_cons_self
      rw [if_pos hentry, ite_self, if_pos hmem]
    · have hpair : (topic, callbackURL) ≠ entry.2.pair := fun hsame =>
        hentry (Prod.mk.inj hsame)
      simp only [List.map_cons, List.mem_cons, hpair, false_or, hentry, if_false]

theorem objects_foldl_drop :
    ∀ {store : InMemoryStore},
      (entries.foldl (fun cleaned entry => cleaned.drop entry.1 entry.2) store).objects =
        store.objects := by
  induction entries with
  | nil => simp
  | cons entry rest ih =>
    intro store
    rw [List.foldl_cons, ih, InMemoryStore.drop]

variable {sub : Subscription}

theorem mem_expiredEntries {store : InMemoryStore} {now : Int} {id : String} :
    (id, sub) ∈ store.expiredEntries now ↔
      ∃ ref, store.byID.lookup id = some ref ∧ store.objects[ref]? = some sub ∧
        sub.isExpired now = true := by
  rw [InMemoryStore.expiredEntries, List.mem_filterMap]
  constructor
  · rintro ⟨⟨key, ref⟩, hmem, hentry⟩
    obtain ⟨found, hfound, hexpired⟩ := Option.bind_eq_some_iff.mp hentry
    split_ifs at hexpired with hnow
    obtain ⟨rfl, rfl⟩ := Prod.mk.inj (Option.some.inj hexpired)
    exact ⟨ref, AList.mem_lookup_iff.mpr hmem, hfound, hnow⟩
  · rintro ⟨ref, hlookup, hsub, hnow⟩
    exact ⟨⟨id, ref⟩, AList.mem_lookup_iff.mp hlookup, by simp [hsub, hnow]⟩

theorem mem_expiredPairs {now : Int} {pair : String × String} :
    pair ∈ subs.expiredPairs now ↔ ∃ ref sub, subs.latest.lookup pair = some ref ∧
      subs.store.objects[ref]? = some sub ∧ sub.isExpired now = true := by
  rw [Subscriptions.expiredPairs, List.mem_filter]
  constructor
  · rintro ⟨-, hany⟩
    cases hsub : (subs.latest.lookup pair).bind (subs.store.objects[·]?) with
    | none => simp [hsub] at hany
    | some sub =>
      obtain ⟨ref, hlatest, hobject⟩ := Option.bind_eq_some_iff.mp hsub
      exact ⟨ref, sub, hlatest, hobject, by simpa [hsub] using hany⟩
  · rintro ⟨ref, sub, hlatest, hobject, hnow⟩
    exact ⟨mem_of_lookup hlatest, by simp [hlatest, hobject, hnow]⟩

theorem lt_of_getElem {store : InMemoryStore} {old : Subscription}
    (hold : store.objects[ref]? = some old) : ref < store.objects.length :=
  (List.getElem?_eq_some_iff.mp hold).1

theorem getElem_add {store : InMemoryStore} {old : Subscription}
    (hold : store.objects[ref]? = some old) {generated : String} :
    (store.add generated sub).objects[ref]? = some old := by
  rw [InMemoryStore.add, List.getElem?_append_left (lt_of_getElem hold), hold]

theorem remove_of_none {store : InMemoryStore} {topic callbackURL : String}
    (hnone : lookupIn store.byTopic topic callbackURL = none) :
    (store.remove topic callbackURL).1 = store := by
  rw [InMemoryStore.remove]
  rw [lookupIn] at hnone
  split
  · rfl
  · next topicSubs htopic =>
      rw [htopic, Option.bind_some] at hnone
      rw [hnone]
      rfl

theorem remove_of_some {store : InMemoryStore} {topic callbackURL : String}
    (hsome : lookupIn store.byTopic topic callbackURL = some ref)
    (hsub : store.objects[ref]? = some sub) :
    store.remove topic callbackURL =
      ({ store with
         byID := store.byID.erase sub.id
         byTopic := dropEmpty (eraseIn store.byTopic topic callbackURL) topic }, none) := by
  obtain ⟨topicSubs, htopic, hcallback⟩ := Option.bind_eq_some_iff.mp hsome
  simp only [InMemoryStore.remove, htopic, hcallback, Option.bind_some, hsub]

theorem objects_remove (store : InMemoryStore) (topic callbackURL : String) :
    (store.remove topic callbackURL).1.objects = store.objects := by
  rw [InMemoryStore.remove]
  split
  · rfl
  · split <;> rfl

theorem Subscriptions.Sound.step (hsound : subs.Sound) (call : StoreCall) :
    (subs.step call).Sound := by
  intro pair ref hlatest
  cases call with
  | add sub generated =>
    rcases lookup_insert_eq_some_iff.mp hlatest with ⟨hpair, rfl⟩ | ⟨-, hlatest⟩
    · exact ⟨subs.store.complete generated sub, List.getElem?_concat_length, hpair.symm⟩
    · obtain ⟨old, hold, hsame⟩ := hsound pair ref hlatest
      exact ⟨old, getElem_add hold, hsame⟩
  | remove topic callbackURL =>
    rw [Subscriptions.step, objects_remove]
    exact hsound pair ref (lookup_erase_eq_some_iff.mp hlatest).2
  | updateState id state =>
    exact (getElem_updateState (·.pair = pair) (fun _ => Iff.rfl) ref).mpr
      (hsound pair ref hlatest)
  | cleanExpired now =>
    rw [Subscriptions.step, lookup_eraseAll] at hlatest
    split_ifs at hlatest
    rw [Subscriptions.step, InMemoryStore.cleanExpired, objects_foldl_drop]
    exact hsound pair ref hlatest

section Coherent

variable (hsound : subs.Sound) (hcoherent : subs.Coherent)

include hsound in
theorem Subscriptions.Sound.getElem_of_append {pair : String × String} {added : Subscription}
    (hlatest : subs.latest.lookup pair = some ref)
    (hsub : (subs.store.objects ++ [added])[ref]? = some sub) :
    subs.store.objects[ref]? = some sub := by
  obtain ⟨stored, hstored, -⟩ := hsound pair ref hlatest
  rwa [List.getElem?_append_left (lt_of_getElem hstored)] at hsub

include hsound hcoherent in
theorem byID_add {generated : String} (hrenews : subs.Renews (.add sub generated)) (id : String)
    (ref : Nat) :
    (subs.step (.add sub generated)).store.byID.lookup id = some ref ↔
      ∃ found, (subs.step (.add sub generated)).store.objects[ref]? = some found ∧
        found.id = id ∧
        (subs.step (.add sub generated)).latest.lookup found.pair = some ref := by
  simp only [Subscriptions.step, InMemoryStore.add]
  by_cases hid : id = (subs.store.complete generated sub).id
  · rw [hid, AList.lookup_insert]
    constructor
    · rintro ⟨⟩
      exact ⟨subs.store.complete generated sub, List.getElem?_concat_length, rfl,
        AList.lookup_insert _⟩
    · rintro ⟨old, hold, hsame, hlatest⟩
      rcases lookup_insert_eq_some_iff.mp hlatest with ⟨-, hnew⟩ | ⟨hpair, hlatest⟩
      · exact congrArg some hnew
      · -- the ID would be that of another pair
        have hstored := hsound.getElem_of_append hlatest hold
        have hbyID := (hcoherent.byID old.id ref).mpr ⟨old, hstored, rfl, hlatest⟩
        exact absurd ((hrenews old.id ref old hbyID hstored).mp hsame) hpair
  · rw [AList.lookup_insert_ne hid, hcoherent.byID]
    constructor
    · rintro ⟨old, hold, rfl, hlatest⟩
      have hbyID := (hcoherent.byID old.id ref).mpr ⟨old, hold, rfl, hlatest⟩
      have hpair : old.pair ≠ sub.pair := fun hpair =>
        hid ((hrenews old.id ref old hbyID hold).mpr hpair)
      refine ⟨old, ?_, rfl, ?_⟩
      · rw [List.getElem?_append_left (lt_of_getElem hold), hold]
      · rw [AList.lookup_insert_ne hpair, hlatest]
    · rintro ⟨old, hold, rfl, hlatest⟩
      rcases lookup_insert_eq_some_iff.mp hlatest with ⟨-, rfl⟩ | ⟨-, hlatest⟩
      · rw [List.getElem?_concat_length] at hold
        exact absurd (congrArg Subscription.id (Option.some.inj hold)).symm hid
      · exact ⟨old, hsound.getElem_of_append hlatest hold, rfl, hlatest⟩

include hcoherent in
theorem byTopic_add (sub : Subscription) (generated : String) (topic callbackURL : String)
    (ref : Nat) :
    lookupIn (subs.step (.add sub generated)).store.byTopic topic callbackURL = some ref ↔
      (subs.step (.add sub generated)).latest.lookup (topic, callbackURL) = some ref := by
  simp only [Subscriptions.step, InMemoryStore.add, lookupIn_insertIn, InMemoryStore.complete,
    lookup_insert_eq, Subscription.pair, Prod.mk.injEq]
  split
  · rfl
  · exact hcoherent.byTopic topic callbackURL ref

theorem Subscriptions.Coherent.drop (hcoherent : subs.Coherent) {next : Subscriptions}
    (gone : Nat → Prop) (hobjects : next.store.objects = subs.store.objects)
    (hbyID : ∀ id ref, next.store.byID.lookup id = some ref ↔
      subs.store.byID.lookup id = some ref ∧ ¬ gone ref)
    (hbyTopic : ∀ topic callbackURL ref, lookupIn next.store.byTopic topic callbackURL = some ref ↔
      lookupIn subs.store.byTopic topic callbackURL = some ref ∧ ¬ gone ref)
    (hlatest : ∀ pair ref, next.latest.lookup pair = some ref ↔
      subs.latest.lookup pair = some ref ∧ ¬ gone ref) : next.Coherent := by
  constructor
  · intro id ref
    rw [hbyID, hcoherent.byID, hobjects]
    simp only [hlatest]
    constructor
    · rintro ⟨⟨sub, hsub, hid, hpair⟩, hkept⟩
      exact ⟨sub, hsub, hid, hpair, hkept⟩
    · rintro ⟨sub, hsub, hid, hpair, hkept⟩
      exact ⟨⟨sub, hsub, hid, hpair⟩, hkept⟩
  · intro topic callbackURL ref
    rw [hbyTopic, hlatest, hcoherent.byTopic]

include hsound hcoherent in
theorem Subscriptions.Coherent.remove (topic callbackURL : String) :
    (subs.step (.remove topic callbackURL)).Coherent := by
  cases hlatest : subs.latest.lookup (topic, callbackURL) with
  | none =>
    -- nothing is stored for the pair
    have hnone : lookupIn subs.store.byTopic topic callbackURL = none :=
      Option.eq_none_iff_forall_ne_some.mpr fun ref hfound => by
        rw [hcoherent.byTopic, hlatest] at hfound
        cases hfound
    have hstore := remove_of_none hnone
    refine hcoherent.drop (fun _ => False) ?_ ?_ ?_ ?_
    · exact objects_remove subs.store topic callbackURL
    · simp [Subscriptions.step, hstore]
    · simp [Subscriptions.step, hstore]
    · intro pair ref
      rw [Subscriptions.step, lookup_erase_eq_some_iff, and_comm, not_false_iff]
      refine and_congr_right fun hfound => iff_true_intro ?_
      rintro rfl
      rw [hlatest] at hfound
      cases hfound
  | some ref =>
    obtain ⟨sub, hsub, hpair⟩ := hsound _ _ hlatest
    have hbyTopic := (hcoherent.byTopic topic callbackURL ref).mpr hlatest
    have hbyID := (hcoherent.byID sub.id ref).mpr ⟨sub, hsub, rfl, hpair ▸ hlatest⟩
    have hstore := congrArg Prod.fst (remove_of_some hbyTopic hsub)
    refine hcoherent.drop (· = ref) ?_ ?_ ?_ ?_
    · exact objects_remove subs.store topic callbackURL
    · intro id other
      rw [Subscriptions.step, hstore, lookup_erase_eq_some_iff, and_comm]
      refine and_congr_right fun hfound => not_congr ⟨?_, ?_⟩
      · rintro rfl
        exact Option.some.inj (hfound.symm.trans hbyID)
      · rintro rfl
        obtain ⟨found, hobject, rfl, -⟩ := (hcoherent.byID id other).mp hfound
        rw [hsub] at hobject
        rw [Option.some.inj hobject]
    · intro topic' callbackURL' other
      rw [Subscriptions.step, hstore, lookupIn_dropEmpty, lookupIn_eraseIn]
      by_cases hsame : topic' = topic ∧ callbackURL' = callbackURL
      · obtain ⟨rfl, rfl⟩ := hsame
        simp [hbyTopic, eq_comm]
      · rw [if_neg hsame, iff_self_and]
        rintro hfound rfl
        rw [hcoherent.byTopic] at hfound
        obtain ⟨found, hobject, hother⟩ := hsound _ _ hfound
        rw [hsub] at hobject
        rw [← Option.some.inj hobject, hpair] at hother
        exact hsame (Prod.mk.inj hother.symm)
    · intro pair other
      rw [Subscriptions.step, lookup_erase_eq_some_iff, and_comm]
      refine and_congr_right fun hfound => not_congr ⟨?_, ?_⟩
      · rintro rfl
        exact Option.some.inj (hfound.symm.trans hlatest)
      · rintro rfl
        obtain ⟨found, hobject, hother⟩ := hsound _ _ hfound
        rw [hsub] at hobject
        rw [← hother, ← Option.some.inj hobject, hpair]

def InMemoryStore.Expired (store : InMemoryStore) (now : Int) (ref : Nat) : Prop :=
  ∃ sub, store.objects[ref]? = some sub ∧ sub.isExpired now = true

include hsound hcoherent in
theorem Subscriptions.Coherent.cleanExpired (now : Int) :
    (subs.step (.cleanExpired now)).Coherent := by
  refine hcoherent.drop (subs.store.Expired now) ?_ ?_ ?_ ?_
  · rw [Subscriptions.step, InMemoryStore.cleanExpired, objects_foldl_drop]
  · intro id ref
    rw [Subscriptions.step, InMemoryStore.cleanExpired, lookup_foldl_drop,
      Option.ite_none_left_eq_some, and_comm]
    refine and_congr_right fun hfound => not_congr ?_
    rw [List.mem_map]
    constructor
    · rintro ⟨⟨key, sub⟩, hmem, rfl⟩
      obtain ⟨other, hother, hsub, hexpired⟩ := mem_expiredEntries.mp hmem
      obtain rfl := Option.some.inj (hother.symm.trans hfound)
      exact ⟨sub, hsub, hexpired⟩
    · rintro ⟨sub, hsub, hexpired⟩
      exact ⟨(id, sub), mem_expiredEntries.mpr ⟨ref, hfound, hsub, hexpired⟩, rfl⟩
  · intro topic callbackURL ref
    rw [Subscriptions.step, InMemoryStore.cleanExpired, lookupIn_foldl_drop,
      Option.ite_none_left_eq_some, and_comm]
    refine and_congr_right fun hfound => not_congr ?_
    have hlatest := (hcoherent.byTopic topic callbackURL ref).mp hfound
    rw [List.mem_map]
    constructor
    · rintro ⟨⟨key, sub⟩, hmem, hpair⟩
      obtain ⟨other, hother, hsub, hexpired⟩ := mem_expiredEntries.mp hmem
      obtain ⟨found, hobject, -, hrecent⟩ := (hcoherent.byID key other).mp hother
      obtain rfl := Option.some.inj (hsub.symm.trans hobject)
      rw [hpair, hlatest] at hrecent
      obtain rfl := Option.some.inj hrecent
      exact ⟨sub, hsub, hexpired⟩
    · rintro ⟨sub, hsub, hexpired⟩
      obtain ⟨found, hobject, hpair⟩ := hsound _ _ hlatest
      obtain rfl := Option.some.inj (hsub.symm.trans hobject)
      have hbyID := (hcoherent.byID sub.id ref).mpr ⟨sub, hsub, rfl, hpair ▸ hlatest⟩
      exact ⟨(sub.id, sub), mem_expiredEntries.mpr ⟨ref, hbyID, hsub, hexpired⟩, hpair⟩
  · intro pair ref
    rw [Subscriptions.step, lookup_eraseAll, Option.ite_none_left_eq_some, and_comm]
    refine and_congr_right fun hfound => not_congr ?_
    rw [mem_expiredPairs]
    constructor
    · rintro ⟨other, sub, hother, hsub, hexpired⟩
      obtain rfl := Option.some.inj (hother.symm.trans hfound)
      exact ⟨sub, hsub, hexpired⟩
    · rintro ⟨sub, hsub, hexpired⟩
      exact ⟨ref, sub, hfound, hsub, hexpired⟩

theorem Subscriptions.Coherent.updateState (hcoherent : subs.Coherent) (id : String)
    (state : SubscriptionState) : (subs.step (.updateState id state)).Coherent := by
  have hmaps : (subs.store.updateState id state).1.byID = subs.store.byID ∧
      (subs.store.updateState id state).1.byTopic = subs.store.byTopic := by
    rw [InMemoryStore.updateState]
    split <;> exact ⟨rfl, rfl⟩
  constructor
  · intro key ref
    rw [Subscriptions.step, hmaps.1, hcoherent.byID]
    exact (getElem_updateState
      (fun sub => sub.id = key ∧ subs.latest.lookup sub.pair = some ref) (fun _ => Iff.rfl)
      ref).symm
  · intro topic callbackURL ref
    rw [Subscriptions.step, hmaps.2, hcoherent.byTopic]

include hsound hcoherent in
theorem Subscriptions.renews_iff_coherent (call : StoreCall) :
    subs.Renews call ↔ (subs.step call).Coherent := by
  cases call with
  | add sub generated =>
    constructor
    · exact fun hrenews => ⟨byID_add hsound hcoherent hrenews, byTopic_add hcoherent sub generated⟩
    · intro hnext id ref old hbyID hold
      obtain ⟨found, hobject, rfl, hlatest⟩ := (hcoherent.byID id ref).mp hbyID
      obtain rfl := Option.some.inj (hold.symm.trans hobject)
      have hne : ref ≠ subs.store.objects.length := (lt_of_getElem hold).ne
      constructor
      · intro hid
        by_contra hpair
        -- the map by topic still has the old object, the map by ID has the new one
        have hkept : (subs.step (.add sub generated)).latest.lookup old.pair = some ref := by
          rw [Subscriptions.step, AList.lookup_insert_ne hpair, hlatest]
        have hbyID' := (hnext.byID old.id ref).mpr ⟨old, getElem_add hold, rfl, hkept⟩
        rw [Subscriptions.step, InMemoryStore.add, hid, AList.lookup_insert] at hbyID'
        exact hne (Option.some.inj hbyID').symm
      · intro hpair
        by_contra hid
        -- the map by ID still has the old object, which is not the latest of the pair
        have hkept : (subs.step (.add sub generated)).store.byID.lookup old.id = some ref := by
          rw [Subscriptions.step, InMemoryStore.add]
          rw [AList.lookup_insert_ne hid, hbyID]
        obtain ⟨stale, hstale, -, hrecent⟩ := (hnext.byID old.id ref).mp hkept
        obtain rfl := Option.some.inj (hstale.symm.trans (getElem_add hold))
        rw [Subscriptions.step, hpair, AList.lookup_insert] at hrecent
        exact hne (Option.some.inj hrecent).symm
  | remove topic callbackURL =>
    exact iff_of_true trivial (Subscriptions.Coherent.remove hsound hcoherent topic callbackURL)
  | updateState id state => exact iff_of_true trivial (hcoherent.updateState id state)
  | cleanExpired now =>
    exact iff_of_true trivial (Subscriptions.Coherent.cleanExpired hsound hcoherent now)

end Coherent

end Calls

/-! ## Runs -/

/-- The runs in which both maps hold the latest subscriptions in every state are those in which
every pair is renewed under its ID. -/
theorem coherent_iff_renews (runtimeID : String) (calls : List StoreCall) :
    (∀ pre, pre <+: calls → (run Subscriptions.step (.start runtimeID) pre).Coherent) ↔
      Conforms Subscriptions.step Subscriptions.Renews (.start runtimeID) calls := by
  have hvalid : ∀ (subs : Subscriptions) (call : StoreCall), subs.Sound → (subs.step call).Sound :=
    fun _ call hsound => hsound.step call
  have hstep : ∀ (subs : Subscriptions) (call : StoreCall), subs.Sound → subs.Coherent →
      (subs.Renews call ↔ (subs.step call).Coherent) :=
    fun _ call hsound hcoherent => Subscriptions.renews_iff_coherent hsound hcoherent call
  apply Iff.symm
  exact conforms_iff_forall_prefix hvalid hstep (sound_start runtimeID) (coherent_start runtimeID)

def leased (id : String) (expiresAt : Int) : Subscription where
  id := id
  topic := "orders"
  callbackURL := "https://cb"
  secret := ""
  leaseSeconds := 60
  expiresAt := some expiresAt
  state := .active
  createdAt := 0
  runtimeID := "r1"

def renewal : List StoreCall :=
  [.add (leased "first" 60) "", .add (leased "second" 120) "", .cleanExpired 90]

/-- The renewed subscription is the latest one but gone from the map by topic. -/
theorem renewal_dropped :
    (run Subscriptions.step (.start "r1") renewal).latest.lookup ("orders", "https://cb") =
        some 1 ∧
      (run Subscriptions.step (.start "r1") renewal).store.getAll = [leased "second" 120] ∧
      lookupIn (run Subscriptions.step (.start "r1") renewal).store.byTopic "orders" "https://cb" =
        none ∧
      ¬ (run Subscriptions.step (.start "r1") renewal).Coherent := by
  have hlatest : (run Subscriptions.step (.start "r1") renewal).latest.lookup
      ("orders", "https://cb") = some 1 := by
    decide +kernel
  have hnone : lookupIn (run Subscriptions.step (.start "r1") renewal).store.byTopic "orders"
      "https://cb" = none := by
    decide +kernel
  refine ⟨hlatest, by decide +kernel, hnone, fun hcoherent => ?_⟩
  have hfound := (hcoherent.byTopic "orders" "https://cb" 1).mpr hlatest
  cases hfound

end ApiPlatform.EventGateway
