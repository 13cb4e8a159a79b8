import Mathlib.Logic.Function.Basic
import ApiPlatform.Foundation.SelfDelimiting

/-!
# Broker topics of WebSub APIs

The topic of a channel is the SHA-256 digest of the API name, the version and the
channel name, each written behind its length. A Go string is any sequence of bytes.
-/

namespace ApiPlatform.EventGateway

open Foundation

abbrev Bytes := List UInt8

def goBytes (text : String) : Bytes :=
  text.toUTF8.data.toList

/-! ## Joining the parts of a topic -/

def decimal (number : Nat) : Bytes :=
  (Nat.toDigits 10 number).map Char.toUInt8

def topicPart (part : Bytes) : Bytes :=
  lengthFramed decimal ':'.toUInt8 '|'.toUInt8 part

def hexByte (byte : UInt8) : List Char :=
  [Nat.digitChar (byte.toNat / 16), Nat.digitChar (byte.toNat % 16)]

def joinNormalizedTopic (sha256 : Bytes → Bytes) (parts : List Bytes) : String :=
  if parts = [] then ""
  else String.ofList ((sha256 (parts.flatMap topicPart)).flatMap hexByte)

def webSubApiTopicName (sha256 : Bytes → Bytes) (apiName version channelName : Bytes) : String :=
  joinNormalizedTopic sha256 [apiName, version, channelName]

/-- The part of the runtime configuration that names the sync topics. -/
structure WebSubTopics where
  subscriptionsTopicName : Bytes
  deriving DecidableEq

def WebSubTopics.suffix (cfg : WebSubTopics) : Bytes :=
  if cfg.subscriptionsTopicName ≠ [] then cfg.subscriptionsTopicName
  else goBytes "__subscriptions"

def webSubApiSubscriptionTopic (sha256 : Bytes → Bytes) (apiName version : Bytes) : String :=
  joinNormalizedTopic sha256 [apiName, version, goBytes "__subscriptions"]

def webSubSubscriptionSyncTopic (sha256 : Bytes → Bytes) (cfg : WebSubTopics)
    (apiName version : Bytes) : String :=
  webSubApiTopicName sha256 apiName version cfg.suffix

theorem digitChar_toUInt8 : ∀ digit < 10,
    Char.ofNat (Nat.digitChar digit).toUInt8.toNat = Nat.digitChar digit ∧
      (Nat.digitChar digit).toUInt8 ≠ ':'.toUInt8 := by
  decide

theorem decimal_injective : Function.Injective decimal := by
  intro left right heq
  have hback : ∀ number, (decimal number).map (fun byte => Char.ofNat byte.toNat) =
      Nat.toDigits 10 number := by
    intro number
    rw [decimal, List.map_map]
    refine List.map_congr_left (g := id) ?_ |>.trans (List.map_id _)
    intro char hchar
    obtain ⟨digit, hdigit, rfl⟩ := exists_digit_of_mem_toDigits (by decide) hchar
    exact (digitChar_toUInt8 digit hdigit).1
  have hdigits := congrArg (List.map fun byte : UInt8 => Char.ofNat byte.toNat) heq
  rw [hback, hback] at hdigits
  exact toDigits_inj (by decide) (by decide) hdigits

theorem colon_not_mem_decimal (number : Nat) : ':'.toUInt8 ∉ decimal number := by
  intro hmem
  obtain ⟨char, hchar, heq⟩ := List.mem_map.mp hmem
  obtain ⟨digit, hdigit, rfl⟩ := exists_digit_of_mem_toDigits (by decide) hchar
  exact (digitChar_toUInt8 digit hdigit).2 heq

theorem topicParts_injective : Function.Injective (List.flatMap topicPart) := by
  apply SelfDelimiting.flatMap_injective
  · exact lengthFramed_selfDelimiting decimal_injective colon_not_mem_decimal _
  · intro part
    simp [topicPart, lengthFramed]

theorem hexBytes_injective : Function.Injective (List.flatMap hexByte) := by
  apply SelfDelimiting.flatMap_injective
  · have hlength : ∀ byte, (hexByte byte).length = 2 := fun _ => rfl
    refine selfDelimiting_of_length ?_ hlength
    intro left right heq
    obtain ⟨hhigh, hrest⟩ := List.cons.inj heq
    have hlow := List.singleton_inj.mp hrest
    have hleft := left.toNat_lt
    have hright := right.toNat_lt
    have hhighEq := digitChar_inj _ (by omega) _ (by omega) hhigh
    have hlowEq := digitChar_inj _ (by omega) _ (by omega) hlow
    exact UInt8.toNat_inj.mp (by omega)
  · intro byte
    simp [hexByte]

theorem joinNormalizedTopic_inj {sha256 : Bytes → Bytes} (hsha256 : Function.Injective sha256)
    {left right : List Bytes} (hleft : left ≠ []) (hright : right ≠ [])
    (heq : joinNormalizedTopic sha256 left = joinNormalizedTopic sha256 right) : left = right := by
  rw [joinNormalizedTopic, joinNormalizedTopic, if_neg hleft, if_neg hright] at heq
  exact topicParts_injective (hsha256 (hexBytes_injective (String.ofList_injective heq)))

theorem webSubApiTopicName_inj {sha256 : Bytes → Bytes} (hsha256 : Function.Injective sha256)
    {apiName version channelName otherName otherVersion otherChannel : Bytes} :
    webSubApiTopicName sha256 apiName version channelName =
        webSubApiTopicName sha256 otherName otherVersion otherChannel ↔
      apiName = otherName ∧ version = otherVersion ∧ channelName = otherChannel := by
  constructor
  · intro heq
    have hparts := joinNormalizedTopic_inj hsha256 (by simp) (by simp) heq
    simpa using hparts
  · rintro ⟨rfl, rfl, rfl⟩
    rfl

/-! ## Escaping a topic segment -/

def passesUnchanged (rune : Char) : Bool :=
  ('a' ≤ rune ∧ rune ≤ 'z') ∨ ('A' ≤ rune ∧ rune ≤ 'Z') ∨ ('0' ≤ rune ∧ rune ≤ '9') ∨
    rune = '.' ∨ rune = '-'

def normalizeRune (rune : Char) : List Char :=
  if passesUnchanged rune then [rune]
  else if rune = '_' then ['_', '_']
  else '_' :: (Nat.toDigits 16 rune.toNat ++ ['_'])

def normalizeTopicSegment (value : String) : String :=
  String.ofList (value.toList.flatMap normalizeRune)

def TopicSafe (char : Char) : Prop :=
  passesUnchanged char ∨ char = '_'

theorem underscore_not_passesUnchanged : ¬ passesUnchanged '_' := by
  decide

theorem digitChar_passesUnchanged : ∀ digit < 16, passesUnchanged (Nat.digitChar digit) := by
  decide

theorem passesUnchanged_of_mem_toDigits {number : Nat} {char : Char}
    (hchar : char ∈ Nat.toDigits 16 number) : passesUnchanged char := by
  obtain ⟨digit, hdigit, rfl⟩ := exists_digit_of_mem_toDigits (by decide) hchar
  exact digitChar_passesUnchanged digit hdigit

theorem underscore_not_mem_toDigits (number : Nat) : '_' ∉ Nat.toDigits 16 number := fun hmem =>
  underscore_not_passesUnchanged (passesUnchanged_of_mem_toDigits hmem)

theorem normalizeRune_selfDelimiting : SelfDelimiting normalizeRune := by
  have hpass : ∀ {rune other : Char} {rest otherRest : List Char}, passesUnchanged rune →
      ¬ passesUnchanged other → rune :: rest ≠ '_' :: otherRest := by
    intro rune other rest otherRest hrune _ heq
    exact underscore_not_passesUnchanged ((List.cons.inj heq).1 ▸ hrune)
  -- after an underscore comes an underscore or the first of the digits
  have hdouble : ∀ {number : Nat} {rest otherRest : List Char},
      '_' :: rest ≠ Nat.toDigits 16 number ++ '_' :: otherRest := by
    intro number rest otherRest heq
    obtain ⟨first, digits, hdigits⟩ :=
      List.exists_cons_of_ne_nil (Nat.toDigits_ne_nil (n := number) (b := 16))
    rw [hdigits] at heq
    apply underscore_not_mem_toDigits number
    rw [hdigits, (List.cons.inj heq).1]
    exact List.mem_cons_self
  intro left right leftRest rightRest heq
  unfold normalizeRune at heq
  split_ifs at heq with hleft hright hrightMark hleftMark hright hrightMark hright hrightMark
  · simpa using heq
  · exact absurd heq (hpass hleft hright)
  · exact absurd heq (hpass hleft hright)
  · exact absurd heq.symm (hpass hright hleft)
  · exact ⟨hleftMark.trans hrightMark.symm, by simpa using heq⟩
  · exact absurd (by simpa using heq) hdouble
  · exact absurd heq.symm (hpass hright hleft)
  · exact absurd (by simpa using heq.symm) hdouble
  · have hcodes : Nat.toDigits 16 left.toNat ++ '_' :: leftRest =
        Nat.toDigits 16 right.toNat ++ '_' :: rightRest := by
      simpa using heq
    obtain ⟨hdigits, hrest⟩ := (append_mark_inj (underscore_not_mem_toDigits _)
      (underscore_not_mem_toDigits _)).mp hcodes
    exact ⟨Char.toNat_inj.mp (toDigits_inj (by decide) (by decide) hdigits), hrest⟩

theorem normalizeTopicSegment_injective : Function.Injective normalizeTopicSegment := by
  intro left right heq
  have hne : ∀ rune, normalizeRune rune ≠ [] := by
    intro rune
    unfold normalizeRune
    split_ifs <;> simp
  exact String.toList_inj.mp (normalizeRune_selfDelimiting.flatMap_injective hne
    (String.ofList_injective heq))

theorem topicSafe_normalizeTopicSegment (value : String) :
    ∀ char ∈ (normalizeTopicSegment value).toList, TopicSafe char := by
  intro char hchar
  rw [normalizeTopicSegment, String.toList_ofList] at hchar
  obtain ⟨rune, -, hmem⟩ := List.mem_flatMap.mp hchar
  unfold normalizeRune at hmem
  split_ifs at hmem with hpass hmark
  · rw [List.mem_singleton.mp hmem]
    exact .inl hpass
  · exact .inr (by simpa using hmem)
  · rcases List.mem_cons.mp hmem with rfl | htail
    · exact .inr rfl
    · rcases List.mem_append.mp htail with hdigit | hlast
      · exact .inl (passesUnchanged_of_mem_toDigits hdigit)
      · exact .inr (List.mem_singleton.mp hlast)

/-! ## Which topics are kept apart -/

/-- Channel topics are equal for the same API, version and channel only, and the topic of a
channel is no API's sync topic exactly when the channel is not named as the sync topics are. -/
theorem topics_kept_apart_iff (sha256 : Bytes → Bytes) (hsha256 : Function.Injective sha256)
    (cfg : WebSubTopics) :
    (∀ apiName version channelName otherName otherVersion otherChannel,
      webSubApiTopicName sha256 apiName version channelName =
          webSubApiTopicName sha256 otherName otherVersion otherChannel →
        apiName = otherName ∧ version = otherVersion ∧ channelName = otherChannel) ∧
    (∀ apiName version channelName,
      (∀ otherName otherVersion, webSubApiTopicName sha256 apiName version channelName ≠
          webSubSubscriptionSyncTopic sha256 cfg otherName otherVersion) ↔
        channelName ≠ cfg.suffix) ∧
    Function.Injective normalizeTopicSegment ∧
    ∀ value, ∀ char ∈ (normalizeTopicSegment value).toList, TopicSafe char := by
  refine ⟨fun _ _ _ _ _ _ heq => (webSubApiTopicName_inj hsha256).mp heq, ?_,
    normalizeTopicSegment_injective, topicSafe_normalizeTopicSegment⟩
  intro apiName version channelName
  constructor
  · rintro hapart rfl
    exact hapart apiName version rfl
  · intro hne otherName otherVersion heq
    exact hne ((webSubApiTopicName_inj hsha256).mp heq).2.2

theorem topics_kept_apart_for_identity :
    Function.Injective (id : Bytes → Bytes) ∧
    (∀ otherName otherVersion, webSubApiTopicName id (goBytes "shop") (goBytes "v1")
        (goBytes "orders") ≠ webSubSubscriptionSyncTopic id ⟨[]⟩ otherName otherVersion) :=
  ⟨Function.injective_id,
    ((topics_kept_apart_iff id Function.injective_id ⟨[]⟩).2.1 _ _ _).mpr (by decide +kernel)⟩

/-- A channel named as the sync topics are has its data in the sync topic of its API. -/
theorem subscriptions_channel_shares_sync_topic :
    (∀ sha256, webSubApiTopicName sha256 (goBytes "shop") (goBytes "v1")
        (goBytes "__subscriptions") =
      webSubSubscriptionSyncTopic sha256 ⟨[]⟩ (goBytes "shop") (goBytes "v1")) ∧
    ∀ sha256, webSubApiTopicName sha256 (goBytes "shop") (goBytes "v1")
        (goBytes "__subscriptions") =
      webSubApiSubscriptionTopic sha256 (goBytes "shop") (goBytes "v1") :=
  ⟨fun _ => rfl, fun _ => rfl⟩

end ApiPlatform.EventGateway
