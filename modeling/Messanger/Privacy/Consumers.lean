import Messanger.Library.Uuid
import Messanger.Privacy.ProjectionCore

/-!
The consumers that bring blocks, contacts and privacy settings from the topic of the profiles into
the chats.  Kafka delivers an event again when its handling failed and sometimes when it did not;
`EventIdempotencyGuard` keeps a key for the events that a group has seen.
-/

namespace Messanger

/-- `EventIdempotencyGuard`: the keys of processed events, each with the second it expires in. -/
structure EventIdempotencyGuard where
  keys : String → Option Nat := fun _ => none

def processedKey (group : String) (eventId : Nat) : String :=
  "consumers:processed:" ++ group ++ ":" ++ Python.strUuid eventId

namespace EventIdempotencyGuard

def ttlSeconds : Nat := 7 * 24 * 3600

variable (guard : EventIdempotencyGuard) (now : Nat) (group : String) (eventId : Fin (2 ^ 128))

def held : Bool := (guard.keys (processedKey group eventId)).any fun expiry => decide (now < expiry)

/-- `SET key 1 EX ttl NX`. -/
def tryAcquire : Bool × EventIdempotencyGuard :=
  if guard.held now group eventId then (false, guard)
  else
    (true, { keys := (Function.update guard.keys (processedKey group eventId)
      (some (now + ttlSeconds))) })

def release : EventIdempotencyGuard where
  keys := Function.update guard.keys (processedKey group eventId) none

end EventIdempotencyGuard

structure DictEventDTO (Payload : Type) where
  eventName : String
  eventId : Fin (2 ^ 128)
  payload : Payload
  createdAt : Nat
  deriving DecidableEq

inductive ProjectionCommand where
  | applyUserBlock (ownerId targetId : UserId) (blocked : Bool)
  | applyUserContact (ownerId contactId : UserId) (added : Bool)
  | applyProfilePrivacy (event : PrivacyEvent)
  deriving DecidableEq, Repr

def ProjectionCommand.handle (db : Projection) (now : Nat) : ProjectionCommand → Projection
  | .applyUserBlock ownerId targetId blocked => db.applyUserBlock ownerId targetId blocked
  | .applyUserContact ownerId contactId added => db.applyUserContact ownerId contactId added
  | .applyProfilePrivacy event => db.applyPrivacy now event

structure UserBlockPayload where
  ownerId : UserId
  targetId : UserId

structure UserContactPayload where
  ownerId : UserId
  contactId : UserId

structure PrivacyUpdatedPayload where
  userId : UserId
  rules : List (String × String) := []
  exceptions : List (String × ExceptionBuckets) := []

/-- `model_validate` of the three payload models; none when it raises `ValidationError`. -/
structure PayloadModels (Payload : Type) where
  userBlock : Payload → Option UserBlockPayload
  userContact : Payload → Option UserContactPayload
  privacyUpdated : Payload → Option PrivacyUpdatedPayload

/-- What the handlers differ in; `command` is none when the payload of the event is refused. -/
structure Consumer (Payload : Type) where
  groupId : String
  listens : String → Bool
  command : DictEventDTO Payload → Option ProjectionCommand

def blockEventStates : List (String × Bool) :=
  [("profiles.user.blocked", true), ("profiles.user.unblocked", false)]

def contactEventStates : List (String × Bool) :=
  [("profiles.contact.added", true), ("profiles.contact.removed", false)]

section Consumers

variable {Payload : Type} (models : PayloadModels Payload)

def projectUserBlock : Consumer Payload where
  groupId := "chat_block_projection"
  listens name := (blockEventStates.lookup name).isSome
  command event := do
    let blocked ← blockEventStates.lookup event.eventName
    let payload ← models.userBlock event.payload
    return .applyUserBlock payload.ownerId payload.targetId blocked

def projectUserContact : Consumer Payload where
  groupId := "chat_contacts_projection"
  listens name := (contactEventStates.lookup name).isSome
  command event := do
    let added ← contactEventStates.lookup event.eventName
    let payload ← models.userContact event.payload
    return .applyUserContact payload.ownerId payload.contactId added

def projectProfilePrivacy : Consumer Payload where
  groupId := "chat_privacy_projection"
  listens name := decide (name = "profiles.privacy.updated")
  command event := do
    let payload ← models.privacyUpdated event.payload
    return .applyProfilePrivacy
      ⟨payload.userId, payload.rules, payload.exceptions, event.createdAt⟩

def projections : List (Consumer Payload) :=
  [projectUserBlock models, projectUserContact models, projectProfilePrivacy models]

end Consumers

/-- How `handle_command` ends: it returns, it raises an `Exception`, or it is cancelled, with its
transaction committed or not. -/
inductive Ending where
  | returned
  | raised (committed : Bool)
  | cancelled (committed : Bool)
  deriving DecidableEq, Repr

structure Delivery (Payload : Type) where
  consumer : Consumer Payload
  event : DictEventDTO Payload
  now : Nat
  ending : Ending

structure ProjectionEffect where
  group : String
  eventId : Fin (2 ^ 128)
  command : ProjectionCommand
  now : Nat
  deriving DecidableEq, Repr

def ProjectionEffect.key (effect : ProjectionEffect) : String × Fin (2 ^ 128) :=
  (effect.group, effect.eventId)

/-- Redis and the projection, with what was committed and what was skipped so far. -/
structure Projecting where
  guard : EventIdempotencyGuard := {}
  db : Projection := {}
  effects : List ProjectionEffect := []
  skipped : List (String × Fin (2 ^ 128)) := []

namespace Projecting

def commit (site : Projecting) (effect : ProjectionEffect) : Projecting :=
  { site with
    db := effect.command.handle site.db effect.now
    effects := site.effects ++ [effect] }

def commitIf (site : Projecting) (effect : ProjectionEffect) (committed : Bool) : Projecting :=
  if committed then site.commit effect else site

variable {Payload : Type}

def deliver (site : Projecting) (delivery : Delivery Payload) : Projecting :=
  let event := delivery.event
  let group := delivery.consumer.groupId
  if delivery.consumer.listens event.eventName then
    match site.guard.tryAcquire delivery.now group event.eventId with
    | (false, _) => { site with skipped := site.skipped ++ [(group, event.eventId)] }
    | (true, guard) =>
        -- `model_validate` stands before the `try`
        match delivery.consumer.command event with
        | none => { site with guard := guard }
        | some command =>
            let effect : ProjectionEffect := ⟨group, event.eventId, command, delivery.now⟩
            match delivery.ending with
            | .returned => { site.commit effect with guard := guard }
            | .raised committed =>
                { site.commitIf effect committed with guard := guard.release group event.eventId }
            | .cancelled committed => { site.commitIf effect committed with guard := guard }
  else site

/-- The payload is one the model accepts, the key of a processed event has not expired yet, and a
command that comes to its end as an exception has not committed, or is one that was cancelled later. -/
structure Smooth (site : Projecting) (delivery : Delivery Payload) : Prop where
  readable : delivery.consumer.listens delivery.event.eventName = true →
    (delivery.consumer.command delivery.event).isSome
  ending : delivery.ending ≠ .raised true ∧ delivery.ending ≠ .cancelled false
  kept : (site.guard.keys (processedKey delivery.consumer.groupId delivery.event.eventId)).isSome →
    site.guard.held delivery.now delivery.consumer.groupId delivery.event.eventId = true

/-- The states that deliveries to the three consumers lead to, each meeting the condition. -/
inductive Reached (models : PayloadModels Payload)
    (Holds : Projecting → Delivery Payload → Prop) (initial : Projection) : Projecting → Prop
  | start : Reached models Holds initial { db := initial }
  | deliver {site : Projecting} {delivery : Delivery Payload} :
      Reached models Holds initial site → delivery.consumer ∈ projections models →
      Holds site delivery → Reached models Holds initial (site.deliver delivery)

/-- What the guard is for: no event counts twice for a group, none is skipped that does not count,
and keys are held for those that do. -/
structure ExactlyOnce (initial : Projection) (site : Projecting) : Prop where
  once : (site.effects.map ProjectionEffect.key).Nodup
  skipped : ∀ event ∈ site.skipped, event ∈ site.effects.map ProjectionEffect.key
  held : ∀ group (eventId : Fin (2 ^ 128)), (site.guard.keys (processedKey group eventId)).isSome →
    (group, eventId) ∈ site.effects.map ProjectionEffect.key
  replayed : site.db =
    site.effects.foldl (fun db effect => effect.command.handle db effect.now) initial

end Projecting

section Keys

theorem length_uuidChars (id : Nat) : (Python.uuidChars id).length = 36 := by
  simp [Python.uuidChars, Python.length_hexDigits]

theorem keyed_injective {front group other middle : String} {id otherId : List Char}
    (lengths : id.length = otherId.length)
    (same : front ++ group ++ middle ++ String.ofList id =
      front ++ other ++ middle ++ String.ofList otherId) : group = other ∧ id = otherId := by
  have chars := congrArg String.toList same
  simp only [String.toList_append, String.toList_ofList] at chars
  obtain ⟨start, ids⟩ := List.append_inj' chars lengths
  have groups := List.append_cancel_left (List.append_cancel_right start)
  exact ⟨String.toList_inj.mp groups, ids⟩

theorem processedKey_injective {group otherGroup : String} {eventId otherId : Nat}
    (bounded : eventId < 2 ^ 128) (otherBounded : otherId < 2 ^ 128)
    (same : processedKey group eventId = processedKey otherGroup otherId) :
    group = otherGroup ∧ eventId = otherId := by
  have lengths : (Python.uuidChars eventId).length = (Python.uuidChars otherId).length := by
    rw [length_uuidChars, length_uuidChars]
  unfold processedKey Python.strUuid at same
  have parts : group = otherGroup ∧ Python.uuidChars eventId = Python.uuidChars otherId :=
    keyed_injective lengths same
  obtain ⟨groups, ids⟩ := parts
  refine ⟨groups, Python.strUuid_injective bounded otherBounded ?_⟩
  rw [Python.strUuid, ids, Python.strUuid]

end Keys

namespace Projecting

variable {Payload : Type} {models : PayloadModels Payload} {initial : Projection}
  {site : Projecting} {delivery : Delivery Payload}

theorem deliver_cases (smooth : Smooth site delivery) :
    site.deliver delivery = site ∨
    ((site.guard.keys
        (processedKey delivery.consumer.groupId delivery.event.eventId)).isSome = true ∧
      site.deliver delivery = { site with
        skipped := (site.skipped ++ [(delivery.consumer.groupId, delivery.event.eventId)]) }) ∨
    ∃ command,
      site.guard.keys (processedKey delivery.consumer.groupId delivery.event.eventId) = none ∧
      site.deliver delivery = { site.commit
        ⟨delivery.consumer.groupId, delivery.event.eventId, command, delivery.now⟩ with
        guard := ⟨Function.update site.guard.keys
          (processedKey delivery.consumer.groupId delivery.event.eventId)
          (some (delivery.now + EventIdempotencyGuard.ttlSeconds))⟩ } := by
  obtain ⟨readable, ⟨notRaised, notCancelled⟩, kept⟩ := smooth
  simp only [deliver]
  cases listens : delivery.consumer.listens delivery.event.eventName with
  | false => exact .inl rfl
  | true =>
      obtain ⟨command, read⟩ := Option.isSome_iff_exists.mp (readable listens)
      simp only [EventIdempotencyGuard.tryAcquire, if_true]
      cases held : site.guard.held delivery.now delivery.consumer.groupId
          delivery.event.eventId with
      | true =>
          refine .inr (.inl ⟨?_, rfl⟩)
          simp only [EventIdempotencyGuard.held, Option.any_eq_true] at held
          obtain ⟨expiry, present, _⟩ := held
          rw [present]
          rfl
      | false =>
          have absent : site.guard.keys
              (processedKey delivery.consumer.groupId delivery.event.eventId) = none := by
            cases present : site.guard.keys
                (processedKey delivery.consumer.groupId delivery.event.eventId) with
            | none => rfl
            | some expiry =>
                have still := kept (by rw [present]; rfl)
                rw [held] at still
                cases still
          simp only [Bool.false_eq_true, if_false, read]
          cases ending : delivery.ending with
          | returned => exact .inr (.inr ⟨command, absent, rfl⟩)
          | raised committed =>
              cases committed with
              | true => exact absurd ending notRaised
              | false =>
                  refine .inl ?_
                  simp only [commitIf, Bool.false_eq_true, if_false, EventIdempotencyGuard.release,
                    Function.update_idem]
                  rw [← absent, Function.update_eq_self]
          | cancelled committed =>
              cases committed with
              | false => exact absurd ending notCancelled
              | true => exact .inr (.inr ⟨command, absent, rfl⟩)

/-- Keys are held for the events that count, and for no others. -/
structure Guarded (initial : Projection) (site : Projecting) : Prop extends
    ExactlyOnce initial site where
  keyed : ∀ effect ∈ site.effects, (site.guard.keys (processedKey effect.group effect.eventId)).isSome

theorem guarded_deliver (guarded : Guarded initial site) (smooth : Smooth site delivery) :
    Guarded initial (site.deliver delivery) := by
  obtain ⟨⟨once, skipped, held, replayed⟩, keyed⟩ := guarded
  rcases deliver_cases smooth with same | ⟨present, same⟩ | ⟨command, absent, same⟩
  · rw [same]
    exact ⟨⟨once, skipped, held, replayed⟩, keyed⟩
  · rw [same]
    refine ⟨⟨once, ?_, held, replayed⟩, keyed⟩
    intro event member
    rcases List.mem_append.mp member with earlier | last
    · exact skipped event earlier
    · rw [List.mem_singleton.mp last]
      exact held _ _ present
  · rw [same]
    refine ⟨⟨?_, ?_, ?_, ?_⟩, ?_⟩
    · simp only [commit, List.map_append, List.map_cons, List.map_nil]
      refine List.nodup_append.mpr ⟨once, List.nodup_singleton _, ?_⟩
      rintro _ member _ last rfl
      obtain ⟨effect, earlier, key⟩ := List.mem_map.mp member
      have present := keyed effect earlier
      rw [List.mem_singleton] at last
      obtain ⟨sameGroup, sameId⟩ := Prod.mk.inj (key.trans last)
      rw [sameGroup, sameId, absent] at present
      cases present
    · intro event member
      simp only [commit, List.map_append]
      exact List.mem_append_left _ (skipped event member)
    · intro group eventId present
      simp only [commit, List.map_append]
      by_cases here : processedKey group eventId =
          processedKey delivery.consumer.groupId delivery.event.eventId
      · obtain ⟨rfl, sameId⟩ := processedKey_injective eventId.isLt delivery.event.eventId.isLt here
        rw [Fin.ext sameId]
        exact List.mem_append_right _ (List.mem_singleton_self _)
      · refine List.mem_append_left _ (held group eventId ?_)
        simpa only [Function.update_of_ne here] using present
    · simp only [commit, List.foldl_append, replayed]
      rfl
    · intro effect member
      by_cases here : processedKey effect.group effect.eventId =
          processedKey delivery.consumer.groupId delivery.event.eventId
      · simp only [here, Function.update_self, Option.isSome_some]
      · simp only [Function.update_of_ne here]
        rcases List.mem_append.mp member with earlier | last
        · exact keyed effect earlier
        · rw [List.mem_singleton.mp last] at here
          exact absurd rfl here

/-- Every event counts once for each group, however often it is delivered. -/
theorem deliveries_exactlyOnce (models : PayloadModels Payload) (initial : Projection)
    (site : Projecting) (reached : Reached models Smooth initial site) :
    ExactlyOnce initial site := by
  have guarded : Guarded initial site := by
    induction reached with
    | start =>
        refine ⟨⟨List.nodup_nil, ?_, ?_, rfl⟩, ?_⟩
        · intro event member
          cases member
        · intro group eventId present
          cases present
        · intro effect member
          cases member
    | deliver _ _ smooth ih => exact guarded_deliver ih smooth
  exact guarded.toExactlyOnce

section Redelivered

def numberModels : PayloadModels (List (String × Nat)) where
  userBlock payload := do
    return ⟨← payload.lookup "owner_id", ← payload.lookup "target_id"⟩
  userContact payload := do
    return ⟨← payload.lookup "owner_id", ← payload.lookup "contact_id"⟩
  privacyUpdated payload := do
    return ⟨← payload.lookup "user_id", [], []⟩

def blockedEvent (payload : List (String × Nat)) : DictEventDTO (List (String × Nat)) :=
  ⟨"profiles.user.blocked", 1, payload, 50⟩

def blockedAt (payload : List (String × Nat)) (now : Nat) (ending : Ending) :
    Delivery (List (String × Nat)) :=
  ⟨projectUserBlock numberModels, blockedEvent payload, now, ending⟩

def readablePayload : List (String × Nat) := [("owner_id", 3), ("target_id", 4)]

def shortPayload : List (String × Nat) := [("owner_id", 3)]

theorem deliveries_exactlyOnce_redelivered : ∃ site, ExactlyOnce {} site ∧
    site.effects.length = 1 ∧ site.skipped.length = 1 ∧ (3, 4) ∈ site.db.blocks := by
  have failed : Reached numberModels Smooth {}
      (deliver { db := {} } (blockedAt readablePayload 60 (.raised false))) :=
    .deliver .start List.mem_cons_self ⟨by decide +kernel, by decide, by decide +kernel⟩
  have handled := @Reached.deliver _ _ _ _ _ (blockedAt readablePayload 61 .returned) failed
    List.mem_cons_self ⟨by decide +kernel, by decide, by decide +kernel⟩
  have again := @Reached.deliver _ _ _ _ _ (blockedAt readablePayload 62 .returned) handled
    List.mem_cons_self ⟨by decide +kernel, by decide, by decide +kernel⟩
  exact ⟨_, deliveries_exactlyOnce numberModels {} _ again, by decide +kernel, by decide +kernel,
    by decide +kernel⟩

/-- An event whose payload was refused is skipped when it comes again. -/
theorem refused_payload_skipped : ¬ ∀ (models : PayloadModels (List (String × Nat)))
    (initial : Projection) (site : Projecting),
    Reached models (fun site delivery =>
      (delivery.ending = .returned ∨ delivery.ending = .raised false) ∧
      ((site.guard.keys (processedKey delivery.consumer.groupId delivery.event.eventId)).isSome →
        site.guard.held delivery.now delivery.consumer.groupId delivery.event.eventId = true))
      initial site → ExactlyOnce initial site := by
  intro claim
  have refused := claim numberModels {}
    ((deliver { db := {} } (blockedAt shortPayload 60 .returned)).deliver
      (blockedAt shortPayload 61 .returned))
    (.deliver (.deliver .start List.mem_cons_self ⟨.inl rfl, by decide +kernel⟩)
      List.mem_cons_self ⟨.inl rfl, by decide +kernel⟩)
  have skipped := refused.skipped ("chat_block_projection", 1) (by decide +kernel)
  exact absurd skipped (by decide +kernel)

end Redelivered

end Projecting

end Messanger
