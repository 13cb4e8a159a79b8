import ApiPlatform.Foundation.Runs
import ApiPlatform.EventGateway.WebSub

/-!
# Topics and secrets of the subscriptions

A consumer has one secret for all its topics.  While all topics of a callback
share their secret, and it is empty when one of several topics is removed, the
consumer of a callback reads its topics and signs with their secret.  A topic
whose consumer could not be created counts as subscribed, so that the call
succeeds when it is repeated, without a consumer.
-/

namespace ApiPlatform.EventGateway

open Foundation EventGateway.System

variable {managed : ManagedConsumer} {topics : Finset String} {event : Event}

/-! ## The property -/

def System.secretOf (system : System) (callbackURL kafkaTopic : String) : Option String :=
  system.secrets.lookup (callbackURL, kafkaTopic)

/-- The callback has a started consumer for exactly its subscribed topics, or neither topics nor
a consumer. -/
def System.Serves (system : System) (callbackURL : String) : Prop :=
  match (system.manager.lookup callbackURL).bind (·.consumer) with
  | none => ∀ kafkaTopic, system.secretOf callbackURL kafkaTopic = none
  | some consumer => consumer.started = true ∧ consumer.topics.Nonempty ∧
      ∀ kafkaTopic, kafkaTopic ∈ consumer.topics ↔
        (system.secretOf callbackURL kafkaTopic).isSome = true

/-- The request carries the signature of the body under the secret; with an empty secret only
the lines of the message itself. -/
def SignedWith (sign : String → List UInt8 → String) (secret : String) (message : Message)
    (request : DeliveryRequest) : Prop :=
  request.body = message.value ∧ request.header.values signatureHeader =
    if secret = "" then (forwardedHeader message).values signatureHeader
    else ["sha256=" ++ sign secret message.value]

def System.Correct (sign : String → List UInt8 → String) (maxRetries : Nat) (system : System)
    (event : Event) : Prop :=
  match event with
  | .add callbackURL _ _ _ | .remove callbackURL _ _ =>
    (system.call event).2 = none → (system.step event).Serves callbackURL
  | .message callbackURL kafkaTopic processed _ =>
    ∀ message, processed = some message → ∀ request ∈ system.deliveries sign maxRetries event,
      request.url = callbackURL ∧ ∃ secret, system.secretOf callbackURL kafkaTopic = some secret ∧
        SignedWith sign secret message request

/-! ## The condition -/

/-- The other topics of the callback are its subscribed ones, with the given secret. -/
def System.OthersShare (system : System) (callbackURL kafkaTopic secret : String) : Prop :=
  ∀ other, other ≠ kafkaTopic → system.secretOf callbackURL other =
    if other ∈ system.topics callbackURL then some secret else none

/-- A topic is added again only with the secret of the running consumer, a new one with the
secret of the other topics, and a topic is removed when the others have no secret.  Nothing is
asked of calls that fail. -/
def System.Uniform (system : System) : Event → Prop
  | .add callbackURL secret kafkaTopic outcome =>
    if kafkaTopic ∈ system.topics callbackURL then
      (system.running callbackURL).map (·.secret) = some secret
    else outcome = .started → system.OthersShare callbackURL kafkaTopic secret
  | .remove callbackURL kafkaTopic outcome =>
    outcome = .started ∨ (system.topics callbackURL).erase kafkaTopic = ∅ →
      system.OthersShare callbackURL kafkaTopic ""
  | .message _ _ _ _ => True

/-! ## Requests -/

section Requests

variable {sign : String → List UInt8 → String}

theorem values_append (header : Header) (lines : Header) (name : String) :
    (header ++ lines).values name = header.values name ++ Header.values lines name := by
  simp [Header.values]

theorem values_set_self (header : Header) (name value : String) :
    (header.set name value).values name = [value] := by
  have hnone : Header.values (header.filter (!equalFold ·.1 name)) name = [] := by
    rw [Header.values, List.filter_filter, List.map_eq_nil_iff, List.filter_eq_nil_iff]
    simp
  have hself : equalFold name name = true := by simp [equalFold]
  rw [Header.set, values_append, hnone]
  simp [Header.values, hself]

theorem values_set_ne (header : Header) {name other : String} (value : String)
    (hother : equalFold name other = false) :
    (header.set name value).values other = header.values other := by
  have hkept : Header.values (header.filter (!equalFold ·.1 name)) other = header.values other := by
    rw [Header.values, Header.values, List.filter_filter]
    simp only [equalFold, beq_eq_false_iff_ne] at hother ⊢
    grind
  rw [Header.set, values_append, hkept]
  simp [Header.values, hother]

theorem signedWith_deliveryRequest (callbackURL secret : String) (message : Message) :
    SignedWith sign secret message (deliveryRequest sign callbackURL secret message) := by
  have hlink : equalFold "Link" signatureHeader = false := by decide +kernel
  have htype : equalFold "Content-Type" signatureHeader = false := by decide +kernel
  have htyped : ∀ header : Header, Header.values (if (header.values "Content-Type").headD "" = ""
      then header.set "Content-Type" "application/octet-stream" else header) signatureHeader =
      header.values signatureHeader := by
    intro header
    split
    · exact values_set_ne header _ htype
    · rfl
  have hlinked : ∀ header : Header, Header.values (if message.topic ≠ "" then
      header ++ [("Link", "<" ++ message.topic ++ ">; rel=\"self\"")] else header)
        signatureHeader = header.values signatureHeader := by
    intro header
    split
    · rw [values_append]
      simp [Header.values, hlink]
    · rfl
  refine ⟨rfl, ?_⟩
  simp only [deliveryRequest, hlinked]
  by_cases hsecret : secret = ""
  · rw [if_neg (not_not.mpr hsecret), if_pos hsecret, htyped]
  · rw [if_pos hsecret, if_neg hsecret, values_set_self]

theorem mem_deliverWithRetry {request sent : DeliveryRequest} {retries : Nat} :
    ∀ {responses : List (Option Nat)}, sent ∈ deliverWithRetry request retries responses →
      sent = request := by
  induction retries with
  | zero => exact fun hmem => List.mem_singleton.mp hmem
  | succ retries ih =>
    intro responses hmem
    cases responses with
    | nil => exact List.mem_singleton.mp hmem
    | cons response rest =>
      rw [deliverWithRetry] at hmem
      split at hmem
      · exact List.mem_singleton.mp hmem
      · rcases List.mem_cons.mp hmem with hsent | hmem
        · exact hsent
        · exact ih hmem

end Requests

/-! ## Calls -/

inductive Launched (manager : ConsumerManager) (callbackURL secret : String)
    (topics : Finset String) (outcome : BrokerOutcome) : ConsumerManager × Option String → Prop
  | failed (managed : ManagedConsumer) (problem : String) (htopics : managed.topics = topics)
      (hstopped : ∀ consumer, managed.consumer = some consumer → consumer.started = false) :
      Launched manager callbackURL secret topics outcome
        (manager.insert callbackURL managed, some problem)
  | started (houtcome : outcome = .started) :
      Launched manager callbackURL secret topics outcome
        (manager.insert callbackURL ⟨some ⟨secret, topics, true⟩, topics⟩, none)

theorem launched_launch {manager : ConsumerManager} {callbackURL create start secret : String}
    {outcome : BrokerOutcome} (htopics : managed.topics = topics)
    (hstopped : ∀ consumer, managed.consumer = some consumer → consumer.started = false) :
    Launched manager callbackURL secret topics outcome
      (launch manager callbackURL managed create start secret outcome) := by
  subst htopics
  cases outcome with
  | refused problem => exact .failed _ _ rfl hstopped
  | startFailed problem =>
    exact .failed _ _ rfl fun consumer hconsumer => by rw [← Option.some.inj hconsumer]
  | started => exact .started rfl

section Calls

variable {system : System} {callbackURL secret kafkaTopic : String} {outcome : BrokerOutcome}

theorem topics_of_lookup (hentry : system.manager.lookup callbackURL = some managed) :
    system.topics callbackURL = managed.topics := by
  rw [topics, hentry]
  rfl

theorem addSubscription_cases (system : System) (callbackURL secret kafkaTopic : String)
    (outcome : BrokerOutcome) :
    kafkaTopic ∈ system.topics callbackURL ∧
        addSubscription system.manager callbackURL secret kafkaTopic outcome =
          (system.manager, none) ∨
      kafkaTopic ∉ system.topics callbackURL ∧
        Launched system.manager callbackURL secret (insert kafkaTopic (system.topics callbackURL))
          outcome (addSubscription system.manager callbackURL secret kafkaTopic outcome) := by
  rw [addSubscription]
  cases hentry : system.manager.lookup callbackURL with
  | none =>
    have hnone : system.topics callbackURL = ∅ := by
      rw [topics, hentry]
      rfl
    refine .inr ⟨by simp [hnone], ?_⟩
    rw [hnone]
    exact launched_launch rfl nofun
  | some managed =>
    rw [topics_of_lookup hentry]
    by_cases hmem : kafkaTopic ∈ managed.topics
    · exact .inl ⟨hmem, if_pos hmem⟩
    · refine .inr ⟨hmem, ?_⟩
      simp only [if_neg hmem]
      refine launched_launch rfl ?_
      intro consumer hconsumer
      obtain ⟨old, -, rfl⟩ := Option.map_eq_some_iff.mp hconsumer
      rfl

theorem removeSubscription_cases (system : System) (callbackURL kafkaTopic : String)
    (outcome : BrokerOutcome) :
    (system.topics callbackURL).erase kafkaTopic = ∅ ∧
        (removeSubscription system.manager callbackURL kafkaTopic outcome).2 = none ∧
        (∀ other,
          (removeSubscription system.manager callbackURL kafkaTopic outcome).1.lookup other =
          if other = callbackURL then none else system.manager.lookup other) ∨
      (system.topics callbackURL).erase kafkaTopic ≠ ∅ ∧
        Launched system.manager callbackURL "" ((system.topics callbackURL).erase kafkaTopic)
          outcome (removeSubscription system.manager callbackURL kafkaTopic outcome) := by
  rw [removeSubscription]
  cases hentry : system.manager.lookup callbackURL with
  | none =>
    have hnone : system.topics callbackURL = ∅ := by
      rw [topics, hentry]
      rfl
    refine .inl ⟨by rw [hnone]; rfl, rfl, fun other => ?_⟩
    by_cases hother : other = callbackURL
    · rw [if_pos hother, hother]
      exact hentry
    · rw [if_neg hother]
  | some managed =>
    rw [topics_of_lookup hentry]
    by_cases hempty : managed.topics.erase kafkaTopic = ∅
    · simp only [if_pos hempty]
      exact .inl ⟨hempty, trivial, fun other => lookup_erase_eq callbackURL⟩
    · simp only [if_neg hempty]
      exact .inr ⟨hempty, launched_launch rfl nofun⟩

/-- The entry of a callback against its secrets: a started consumer reads the subscribed topics
and has their secret. -/
def ExactAt (entry : Option ManagedConsumer) (secretOf : String → Option String) : Prop :=
  ∀ managed, entry = some managed → managed.topics.Nonempty ∧
    ∀ consumer, managed.consumer = some consumer → consumer.started = true →
      consumer.topics = managed.topics ∧
        ∀ topic, secretOf topic = if topic ∈ managed.topics then some consumer.secret else none

def System.Exact (system : System) : Prop :=
  ∀ callbackURL, ExactAt (system.manager.lookup callbackURL) (system.secretOf callbackURL)

theorem exact_initial : initial.Exact := by
  intro callbackURL managed hentry
  simp [initial] at hentry

theorem ExactAt.of_stopped {secretOf : String → Option String} (htopics : managed.topics.Nonempty)
    (hstopped : ∀ consumer, managed.consumer = some consumer → consumer.started = false) :
    ExactAt (some managed) secretOf := by
  rintro _ ⟨⟩
  refine ⟨htopics, fun consumer hconsumer hstarted => ?_⟩
  rw [hstopped consumer hconsumer] at hstarted
  cases hstarted

theorem ExactAt.of_started {secretOf : String → Option String} (htopics : topics.Nonempty)
    (hsecret : ∀ topic, secretOf topic = if topic ∈ topics then some secret else none) :
    ExactAt (some ⟨some ⟨secret, topics, true⟩, topics⟩) secretOf := by
  rintro _ ⟨⟩
  refine ⟨htopics, ?_⟩
  rintro consumer ⟨⟩ -
  exact ⟨rfl, hsecret⟩

theorem System.Exact.serves (hexact : system.Exact) {consumer : Consumer}
    (hrunning : system.running callbackURL = some consumer) : system.Serves callbackURL := by
  obtain ⟨managed, hentry, hfilter⟩ := Option.bind_eq_some_iff.mp hrunning
  obtain ⟨hconsumer, hstarted⟩ := Option.filter_eq_some_iff.mp hfilter
  obtain ⟨htopics, hall⟩ := hexact callbackURL managed hentry
  obtain ⟨hsame, hsecret⟩ := hall consumer hconsumer hstarted
  rw [System.Serves, hentry, Option.bind_some, hconsumer]
  refine ⟨hstarted, hsame ▸ htopics, fun topic => ?_⟩
  rw [hsame, hsecret]
  by_cases hmem : topic ∈ managed.topics
  · simp [hmem]
  · simp [hmem]

theorem lookup_subscribed_add (other topic : String) :
    (system.subscribed (.add callbackURL secret kafkaTopic outcome)).lookup (other, topic) =
      if other = callbackURL ∧ topic = kafkaTopic then some secret
      else system.secretOf other topic := by
  simp only [System.subscribed, secretOf, lookup_insert_eq, Prod.mk.injEq]

theorem lookup_subscribed_remove (other topic : String) :
    (system.subscribed (.remove callbackURL kafkaTopic outcome)).lookup (other, topic) =
      if other = callbackURL ∧ topic = kafkaTopic then none
      else system.secretOf other topic := by
  simp only [System.subscribed, secretOf, lookup_erase_eq, Prod.mk.injEq]

theorem System.Exact.insert {next : System} (hexact : system.Exact)
    (hmanager : next.manager = system.manager.insert callbackURL managed)
    (hothers : ∀ other, other ≠ callbackURL → ∀ topic,
      next.secretOf other topic = system.secretOf other topic)
    (hentry : ExactAt (some managed) (next.secretOf callbackURL)) : next.Exact := by
  intro other
  rw [hmanager, lookup_insert_eq]
  split
  next hsame => exact hsame ▸ hentry
  next hother => exact funext (hothers other hother) ▸ hexact other

theorem System.Exact.launched (hexact : system.Exact)
    (hlaunched : Launched system.manager callbackURL secret topics outcome (system.call event))
    (htopics : topics.Nonempty) (hothers : ∀ other, other ≠ callbackURL → ∀ topic,
      (system.subscribed event).lookup (other, topic) = system.secretOf other topic)
    (hsecret : outcome = .started → ∀ topic, (system.subscribed event).lookup (callbackURL, topic) =
      if topic ∈ topics then some secret else none) :
    (system.step event).Exact ∧
      ((system.call event).2 = none → (system.step event).Serves callbackURL) := by
  rw [step]
  generalize system.call event = result at hlaunched
  cases hlaunched with
  | failed managed problem hsame hstopped =>
    refine ⟨hexact.insert rfl (fun _ _ _ => rfl) (.of_stopped (hsame ▸ htopics) hstopped), ?_⟩
    exact fun hnone => absurd hnone (by simp)
  | started houtcome =>
    have hnext : System.Exact ⟨system.manager.insert callbackURL
        ⟨some ⟨secret, topics, true⟩, topics⟩, system.subscribed event⟩ :=
      hexact.insert rfl hothers (.of_started htopics (hsecret houtcome))
    have hrunning : running ⟨system.manager.insert callbackURL
        ⟨some ⟨secret, topics, true⟩, topics⟩, system.subscribed event⟩ callbackURL =
        some ⟨secret, topics, true⟩ := by
      simp [running]
    exact ⟨hnext, fun _ => hnext.serves hrunning⟩

theorem exact_add (hexact : system.Exact)
    (huniform : system.Uniform (.add callbackURL secret kafkaTopic outcome)) :
    (system.step (.add callbackURL secret kafkaTopic outcome)).Exact ∧
      ((system.call (.add callbackURL secret kafkaTopic outcome)).2 = none →
        (system.step (.add callbackURL secret kafkaTopic outcome)).Serves callbackURL) := by
  rw [System.Uniform] at huniform
  rcases addSubscription_cases system callbackURL secret kafkaTopic outcome with
    ⟨hmem, hcall⟩ | ⟨hmem, hlaunched⟩
  · -- the topic is known: the running consumer has the secret already
    rw [if_pos hmem] at huniform
    obtain ⟨consumer, hrunning, rfl⟩ := Option.map_eq_some_iff.mp huniform
    obtain ⟨managed, hentry, hfilter⟩ := Option.bind_eq_some_iff.mp hrunning
    obtain ⟨hconsumer, hstarted⟩ := Option.filter_eq_some_iff.mp hfilter
    obtain ⟨-, hsecret⟩ := (hexact callbackURL managed hentry).2 consumer hconsumer hstarted
    rw [topics_of_lookup hentry] at hmem
    have hsame : ∀ other topic,
        (system.step (.add callbackURL consumer.secret kafkaTopic outcome)).secretOf other topic =
          system.secretOf other topic := by
      intro other topic
      rw [step, call, hcall, if_pos rfl, secretOf, lookup_subscribed_add]
      split
      · next hpair =>
          obtain ⟨rfl, rfl⟩ := hpair
          rw [hsecret, if_pos hmem]
      · rfl
    have hmanager : (system.step (.add callbackURL consumer.secret kafkaTopic outcome)).manager =
        system.manager := by
      rw [step, call, hcall]
    have hnext : (system.step (.add callbackURL consumer.secret kafkaTopic outcome)).Exact := by
      intro other
      rw [hmanager, funext (hsame other)]
      exact hexact other
    rw [running, ← hmanager] at hrunning
    exact ⟨hnext, fun _ => hnext.serves hrunning⟩
  · rw [if_neg hmem] at huniform
    refine hexact.launched hlaunched (Finset.insert_nonempty _ _) ?_ ?_
    · intro other hother topic
      rw [lookup_subscribed_add, if_neg (hother ·.1)]
    · intro houtcome topic
      rw [lookup_subscribed_add]
      by_cases htopic : topic = kafkaTopic
      · simp [htopic]
      · rw [if_neg (htopic ·.2), huniform houtcome topic htopic]
        simp [htopic]

theorem exact_remove (hexact : system.Exact)
    (huniform : system.Uniform (.remove callbackURL kafkaTopic outcome)) :
    (system.step (.remove callbackURL kafkaTopic outcome)).Exact ∧
      ((system.call (.remove callbackURL kafkaTopic outcome)).2 = none →
        (system.step (.remove callbackURL kafkaTopic outcome)).Serves callbackURL) := by
  rcases removeSubscription_cases system callbackURL kafkaTopic outcome with
    ⟨hempty, hnone, hlookup⟩ | ⟨hrest, hlaunched⟩
  · have hothers := huniform (.inr hempty)
    have hmanager : ∀ other,
        (system.step (.remove callbackURL kafkaTopic outcome)).manager.lookup other =
          if other = callbackURL then none else system.manager.lookup other := hlookup
    have hsecrets : ∀ other topic,
        (system.step (.remove callbackURL kafkaTopic outcome)).secretOf other topic =
          if other = callbackURL then none else system.secretOf other topic := by
      intro other topic
      rw [step, call, if_pos hnone, secretOf, lookup_subscribed_remove]
      by_cases hother : other = callbackURL
      · subst hother
        by_cases htopic : topic = kafkaTopic
        · simp [htopic]
        · have hgone : topic ∉ system.topics other := fun hmem =>
            Finset.notMem_empty topic (hempty ▸ Finset.mem_erase.mpr ⟨htopic, hmem⟩)
          simp [htopic, hothers topic htopic, hgone]
      · simp [hother]
    refine ⟨fun other => ?_, fun _ => ?_⟩
    · by_cases hother : other = callbackURL
      · simp [ExactAt, hmanager, hother]
      · have hsame : (system.step (.remove callbackURL kafkaTopic outcome)).secretOf other =
            system.secretOf other := funext fun topic => by rw [hsecrets, if_neg hother]
        rw [hmanager, if_neg hother, hsame]
        exact hexact other
    · rw [System.Serves, hmanager, if_pos rfl]
      exact fun topic => by rw [hsecrets, if_pos rfl]
  · refine hexact.launched hlaunched (Finset.nonempty_iff_ne_empty.mpr hrest) ?_ ?_
    · intro other hother topic
      rw [lookup_subscribed_remove, if_neg (hother ·.1)]
    · intro houtcome topic
      rw [lookup_subscribed_remove]
      by_cases htopic : topic = kafkaTopic
      · simp [htopic]
      · rw [if_neg (htopic ·.2), huniform (.inl houtcome) topic htopic]
        simp [htopic]

end Calls

/-! ## Runs -/

section Runs

variable {sign : String → List UInt8 → String} {maxRetries : Nat} {system : System}

theorem System.Exact.secretOf_running (hexact : system.Exact) {callbackURL kafkaTopic : String}
    {consumer : Consumer} (hrunning : system.running callbackURL = some consumer)
    (hmem : kafkaTopic ∈ consumer.topics) :
    system.secretOf callbackURL kafkaTopic = some consumer.secret := by
  obtain ⟨managed, hentry, hfilter⟩ := Option.bind_eq_some_iff.mp hrunning
  obtain ⟨hconsumer, hstarted⟩ := Option.filter_eq_some_iff.mp hfilter
  obtain ⟨hsame, hsecret⟩ := (hexact callbackURL managed hentry).2 consumer hconsumer hstarted
  rw [hsecret, if_pos (hsame ▸ hmem)]

theorem System.Exact.step (hexact : system.Exact) (huniform : system.Uniform event) :
    (system.step event).Exact := by
  cases event with
  | add callbackURL secret kafkaTopic outcome => exact (exact_add hexact huniform).1
  | remove callbackURL kafkaTopic outcome => exact (exact_remove hexact huniform).1
  | message callbackURL kafkaTopic processed responses => exact hexact

theorem System.Exact.correct (hexact : system.Exact) (huniform : system.Uniform event) :
    system.Correct sign maxRetries event := by
  cases event with
  | add callbackURL secret kafkaTopic outcome => exact (exact_add hexact huniform).2
  | remove callbackURL kafkaTopic outcome => exact (exact_remove hexact huniform).2
  | message callbackURL kafkaTopic processed responses =>
    rintro message rfl request hmem
    rw [deliveries] at hmem
    split at hmem
    · next consumer hrunning =>
        split at hmem
        · next htopic =>
            rw [mem_deliverWithRetry hmem]
            exact ⟨rfl, consumer.secret, hexact.secretOf_running hrunning htopic,
              signedWith_deliveryRequest callbackURL consumer.secret message⟩
        · cases hmem
    · cases hmem

/-- In every run of uniform steps each call leaves its callback served, and each delivery is
signed with the secret of its subscription. -/
theorem correct_of_uniform {events pre post : List Event} {event : Event}
    (hconforms : Conforms step System.Uniform .initial events)
    (hevents : events = pre ++ event :: post) :
    (run step .initial pre).Correct sign maxRetries event := by
  subst hevents
  have hpre : (run step .initial pre).Exact :=
    Conforms.invariant (fun _ _ hexact huniform => hexact.step huniform) exact_initial
      hconforms.of_append
  exact hpre.correct hconforms.allowed

end Runs

def exampleSign (secret : String) (_ : List UInt8) : String :=
  "mac-" ++ secret

def order : Message :=
  { topic := "orders", headers := [], value := [1, 2] }

def sharedSecret : List Event :=
  [.add "https://cb" "s" "orders" .started, .add "https://cb" "s" "returns" .started,
    .message "https://cb" "orders" (some order) [none, some 200],
    .remove "https://cb" "orders" (.refused "no broker")]

theorem shared_secret_signs :
    (run step .initial (sharedSecret.take 2)).Correct exampleSign 3
        (.message "https://cb" "orders" (some order) [none, some 200]) ∧
      ((run step .initial (sharedSecret.take 2)).deliveries exampleSign 3
        (.message "https://cb" "orders" (some order) [none, some 200])).map
          (·.header.values signatureHeader) = [["sha256=mac-s"], ["sha256=mac-s"]] := by
  have hfirst : (run step .initial (sharedSecret.take 1)).OthersShare "https://cb"
      "returns" "s" := by
    intro other hother
    have htopics : (run step .initial (sharedSecret.take 1)).topics "https://cb" =
        {"orders"} := by
      decide +kernel
    have hsecrets : (run step .initial (sharedSecret.take 1)).secrets =
        (∅ : GoMap _ _).insert ("https://cb", "orders") "s" := rfl
    rw [secretOf, htopics, hsecrets, lookup_insert_eq]
    simp
  have hconforms : Conforms step System.Uniform .initial sharedSecret := by
    refine ⟨?_, ?_, trivial, ?_, trivial⟩
    · simp [System.Uniform, System.OthersShare, topics, initial, secretOf]
    · rw [System.Uniform, if_neg (by decide +kernel)]
      exact fun _ => hfirst
    · rintro (houtcome | hempty)
      · cases houtcome
      · exact absurd hempty (by decide +kernel)
  exact ⟨correct_of_uniform hconforms rfl, by decide +kernel⟩

def removedTopic : List Event :=
  [.add "https://cb" "s" "orders" .started, .add "https://cb" "s" "returns" .started,
    .remove "https://cb" "returns" .started]

def refusedTopic : List Event :=
  [.add "https://cb" "s" "orders" (.refused "no broker")]

/-- After the removal of another topic the deliveries are not signed, and a repeated call succeeds
without a consumer. -/
theorem unsigned_and_unserved :
    (run step .initial removedTopic).secretOf "https://cb" "orders" = some "s" ∧
      ((run step .initial removedTopic).deliveries exampleSign 3
        (.message "https://cb" "orders" (some order) [some 200])).map
          (·.header.values signatureHeader) = [[]] ∧
      ¬ (run step .initial removedTopic).Correct exampleSign 3
        (.message "https://cb" "orders" (some order) [some 200]) ∧
      ((run step .initial refusedTopic).call
        (.add "https://cb" "s" "orders" .started)).2 = none ∧
      ¬ (run step .initial refusedTopic).Correct exampleSign 3
        (.add "https://cb" "s" "orders" .started) := by
  have hsecret : (run step .initial removedTopic).secretOf "https://cb" "orders" =
      some "s" := by
    decide +kernel
  have hunsigned : ((run step .initial removedTopic).deliveries exampleSign 3
      (.message "https://cb" "orders" (some order) [some 200])).map
        (·.header.values signatureHeader) = [[]] := by
    decide +kernel
  have hnil : ((run step .initial refusedTopic).call
      (.add "https://cb" "s" "orders" .started)).2 = none := by
    decide +kernel
  refine ⟨hsecret, hunsigned, fun hcorrect => ?_, hnil, fun hcorrect => ?_⟩
  · obtain ⟨request, hmem, hvalues⟩ := List.mem_map.mp (hunsigned ▸ List.mem_singleton_self _ :
      [] ∈ ((run step .initial removedTopic).deliveries exampleSign 3
        (.message "https://cb" "orders" (some order) [some 200])).map
          (·.header.values signatureHeader))
    obtain ⟨-, secret, hfound, -, hsigned⟩ := hcorrect order rfl request hmem
    rw [hvalues, ← Option.some.inj hfound] at hsigned
    exact absurd hsigned (by decide +kernel)
  · have hserved := hcorrect hnil "orders"
    revert hserved
    decide +kernel

end ApiPlatform.EventGateway
