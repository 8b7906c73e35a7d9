import Messanger.Privacy.Convergence
import Messanger.Privacy.ProfilesCore

/-!
The chats decide as the profiles do.  What an event says about a user determines what every rule
lets every viewer do, and the chats read the same from the rows that the event leaves.
-/

namespace Messanger

open Relational

namespace ProfilePrivacy

/-- The aggregates that `set_rule` and `replace_exceptions` lead to. -/
inductive Reachable : ProfilePrivacy → Prop
  | create (userId : UserId) : Reachable (create userId)
  | setRule {privacy : ProfilePrivacy} (rule : PrivacyRule) (visibility : PrivacyVisibility) :
      Reachable privacy → Reachable (privacy.setRule rule visibility)
  | replaceExceptions {privacy next : ProfilePrivacy} {rule : PrivacyRule}
      {allow deny : List UserId} : Reachable privacy →
      privacy.replaceExceptions rule allow deny = .ok next → Reachable next

structure Sound (privacy : ProfilePrivacy) : Prop where
  unique : (privacy.exceptions.map fun item => (item.rule, item.targetId)).Nodup
  foreign : ∀ item ∈ privacy.exceptions, item.targetId ≠ privacy.userId

variable {privacy next : ProfilePrivacy} {rule : PrivacyRule} {allow deny : List UserId}

@[simp] theorem setRule_userId (visibility : PrivacyVisibility) :
    (privacy.setRule rule visibility).userId = privacy.userId := by cases rule <;> rfl

@[simp] theorem setRule_exceptions (visibility : PrivacyVisibility) :
    (privacy.setRule rule visibility).exceptions = privacy.exceptions := by cases rule <;> rfl

theorem mem_others {target : UserId} {userIds : List UserId} :
    target ∈ privacy.others userIds ↔ target ∈ userIds ∧ target ≠ privacy.userId := by
  simp [others]

theorem nodup_others (userIds : List UserId) : (privacy.others userIds).Nodup := List.nodup_dedup _

theorem replaceExceptions_ok (ok : privacy.replaceExceptions rule allow deny = .ok next) :
    next = { privacy with
      exceptions := (privacy.exceptions.filter (fun item => item.rule ≠ rule) ++
        ((privacy.others allow).insertionSort (· ≤ ·)).map
          (fun target => ⟨privacy.userId, rule, target, true⟩) ++
        (((privacy.others deny).filter (· ∉ privacy.others allow)).insertionSort (· ≤ ·)).map
          fun target => ⟨privacy.userId, rule, target, false⟩) } := by
  simp only [replaceExceptions] at ok
  split at ok
  · cases ok
  · exact (Except.ok.inj ok).symm

theorem sound_replaceExceptions (sound : Sound privacy)
    (ok : privacy.replaceExceptions rule allow deny = .ok next) : Sound next := by
  rw [replaceExceptions_ok ok]
  obtain ⟨unique, foreign⟩ := sound
  constructor
  · simp only [List.map_append, List.map_map, Function.comp_def]
    have pairs (targets : List UserId) (distinct : targets.Nodup) :
        ((targets.insertionSort (· ≤ ·)).map fun target => (rule, target)).Nodup := by
      refine List.Nodup.map (fun _ _ same => (Prod.mk.inj same).2) ?_
      exact (List.perm_insertionSort _ targets).nodup_iff.mpr distinct
    refine List.nodup_append.mpr ⟨List.nodup_append.mpr ⟨?_, pairs _ (nodup_others allow), ?_⟩,
      pairs _ ((nodup_others deny).filter _), ?_⟩
    · exact unique.sublist (List.filter_sublist.map _)
    · rintro _ old _ new rfl
      obtain ⟨item, kept, key⟩ := List.mem_map.mp old
      obtain ⟨target, _, same⟩ := List.mem_map.mp new
      have away := (List.mem_filter.mp kept).2
      exact of_decide_eq_true away (congrArg Prod.fst (key.trans same.symm))
    · rintro _ old _ new rfl
      obtain ⟨target, denied, same⟩ := List.mem_map.mp new
      rw [(List.perm_insertionSort _ _).mem_iff, List.mem_filter] at denied
      rcases List.mem_append.mp old with earlier | allowed
      · obtain ⟨item, kept, key⟩ := List.mem_map.mp earlier
        have away := (List.mem_filter.mp kept).2
        exact of_decide_eq_true away (congrArg Prod.fst (key.trans same.symm))
      · obtain ⟨other, allowed, key⟩ := List.mem_map.mp allowed
        rw [(List.perm_insertionSort _ _).mem_iff] at allowed
        have targets : other = target := congrArg Prod.snd (key.trans same.symm)
        exact of_decide_eq_true denied.2 (targets ▸ allowed)
  · intro item member
    simp only [List.mem_append, List.mem_map, (List.perm_insertionSort _ _).mem_iff,
      List.mem_filter, mem_others] at member
    rcases member with (⟨kept, _⟩ | ⟨target, ⟨_, other⟩, rfl⟩) | ⟨target, ⟨⟨_, other⟩, _⟩, rfl⟩
    · exact foreign item kept
    · exact other
    · exact other

theorem sound_reachable (reachable : Reachable privacy) : Sound privacy := by
  induction reachable with
  | create userId => exact ⟨List.nodup_nil, fun _ member => (by cases member)⟩
  | setRule rule visibility _ ih =>
      refine ⟨?_, ?_⟩
      · rw [setRule_exceptions]
        exact ih.unique
      · rw [setRule_exceptions, setRule_userId]
        exact ih.foreign
  | replaceExceptions _ ok ih => exact sound_replaceExceptions ih ok

def exception? (privacy : ProfilePrivacy) (rule : PrivacyRule) (targetId : UserId) : Option Bool :=
  (privacy.exceptions.find? fun item => item.rule = rule ∧ item.targetId = targetId).map
    ProfilePrivacyException.allow

theorem exception?_eq_some_iff (sound : Sound privacy) {targetId : UserId} {allowed : Bool} :
    privacy.exception? rule targetId = some allowed ↔
      ∃ item ∈ privacy.exceptions,
        item.rule = rule ∧ item.targetId = targetId ∧ item.allow = allowed := by
  simp only [exception?, Option.map_eq_some_iff]
  constructor
  · rintro ⟨item, found, same⟩
    have matched : item.rule = rule ∧ item.targetId = targetId := by
      simpa using List.find?_some found
    exact ⟨item, List.mem_of_find?_eq_some found, matched.1, matched.2, same⟩
  · rintro ⟨item, member, sameRule, sameTarget, same⟩
    cases found : privacy.exceptions.find? fun item => item.rule = rule ∧ item.targetId = targetId with
    | none =>
        have absent := (List.find?_eq_none.mp found) item member
        simp [sameRule, sameTarget] at absent
    | some other =>
        have matched : other.rule = rule ∧ other.targetId = targetId := by
          simpa using List.find?_some found
        have one : other = item := by
          refine List.inj_on_of_nodup_map sound.unique (List.mem_of_find?_eq_some found) member ?_
          rw [matched.1, matched.2, sameRule, sameTarget]
        exact ⟨other, rfl, by rw [one, same]⟩

theorem mem_bucket {targetId : UserId} {allowed : Bool} :
    targetId ∈ privacy.bucket rule allowed ↔ ∃ item ∈ privacy.exceptions,
      item.rule = rule ∧ item.targetId = targetId ∧ item.allow = allowed := by
  simp only [bucket, (List.perm_insertionSort _ _).mem_iff, List.mem_map, List.mem_filter,
    decide_eq_true_eq]
  constructor
  · rintro ⟨item, ⟨member, sameRule, same⟩, sameTarget⟩
    exact ⟨item, member, sameRule, sameTarget, same⟩
  · rintro ⟨item, member, sameRule, sameTarget, same⟩
    exact ⟨item, ⟨member, sameRule, same⟩, sameTarget⟩

theorem mem_exceptionRows (sound : Sound privacy) {row : ChatUserPrivacyException} :
    row ∈ Projection.exceptionRows privacy.userId privacy.exceptionsSnapshot ↔
      row.ownerId = privacy.userId ∧ ∃ item ∈ privacy.exceptions,
        item.rule.value = row.rule ∧ item.targetId = row.targetId ∧ item.allow = row.allow := by
  have known (rule : PrivacyRule) :
      (PrivacyRule.all.any fun known => known.value == rule.value) = true :=
    List.any_eq_true.mpr ⟨rule, PrivacyRule.mem_all rule, beq_self_eq_true _⟩
  simp only [Projection.exceptionRows, exceptionsSnapshot, List.mem_flatMap, List.mem_map,
    exists_exists_and_eq_and, known, if_true, List.mem_filterMap, List.mem_append,
    Option.ite_none_right_eq_some, Option.some.injEq]
  constructor
  · rintro ⟨rule, _, ⟨targetId, allowed⟩, listed, _, rfl⟩
    refine ⟨rfl, ?_⟩
    rcases listed with ⟨target, member, same⟩ | ⟨target, member, same⟩
    · obtain ⟨rfl, rfl⟩ := Prod.mk.inj same
      obtain ⟨item, inside, rfl, rfl, allowed⟩ := mem_bucket.mp member
      exact ⟨item, inside, rfl, rfl, allowed⟩
    · obtain ⟨rfl, rfl⟩ := Prod.mk.inj same
      obtain ⟨item, inside, rfl, rfl, allowed⟩ := mem_bucket.mp member
      exact ⟨item, inside, rfl, rfl, allowed⟩
  · rintro ⟨owner, item, inside, sameRule, sameTarget, same⟩
    refine ⟨item.rule, PrivacyRule.mem_all _, (row.targetId, row.allow), ?_, ?_, ?_⟩
    · cases allowed : row.allow with
      | true => exact .inl ⟨_, mem_bucket.mpr ⟨item, inside, rfl, sameTarget, same.trans allowed⟩, rfl⟩
      | false => exact .inr ⟨_, mem_bucket.mpr ⟨item, inside, rfl, sameTarget, same.trans allowed⟩, rfl⟩
    · rw [← sameTarget]
      exact sound.foreign item inside
    · rw [← owner, sameRule]

theorem stored_exception (sound : Sound privacy) (createdAt : Nat) (targetId : UserId) :
    (((privacy.registerUpdated createdAt).stored.find? fun row =>
        decide (row.key = (privacy.userId, rule.value, targetId))).map
      ChatUserPrivacyException.allow) = privacy.exception? rule targetId := by
  have stored : (privacy.registerUpdated createdAt).stored.find?
      (fun row => decide (row.key = (privacy.userId, rule.value, targetId))) =
        (Projection.exceptionRows privacy.userId privacy.exceptionsSnapshot).find?
          fun row => decide (row.key = (privacy.userId, rule.value, targetId)) := by
    exact Table.find?_foldl_insert _ _ _
  rw [stored]
  refine Option.ext fun allowed => ?_
  rw [exception?_eq_some_iff sound, Option.map_eq_some_iff]
  constructor
  · rintro ⟨row, found, rfl⟩
    have key := List.find?_some found
    obtain ⟨_, item, inside, sameRule, sameTarget, same⟩ :=
      (mem_exceptionRows sound).mp (List.mem_of_find?_eq_some found)
    obtain ⟨_, ruleKey, targetKey⟩ : row.ownerId = privacy.userId ∧ row.rule = rule.value ∧
        row.targetId = targetId := by simpa [ChatUserPrivacyException.key] using key
    exact ⟨item, inside, PrivacyRule.value_injective (sameRule.trans ruleKey),
      sameTarget.trans targetKey, same⟩
  · rintro ⟨item, inside, rfl, rfl, rfl⟩
    have written : (⟨privacy.userId, item.rule.value, item.targetId, item.allow⟩ :
        ChatUserPrivacyException) ∈
          Projection.exceptionRows privacy.userId privacy.exceptionsSnapshot :=
      (mem_exceptionRows sound).mpr ⟨rfl, item, inside, rfl, rfl, rfl⟩
    cases found : (Projection.exceptionRows privacy.userId privacy.exceptionsSnapshot).find?
        fun row => decide (row.key = (privacy.userId, item.rule.value, item.targetId)) with
    | none =>
        have absent := (List.find?_eq_none.mp found) _ written
        simp [ChatUserPrivacyException.key] at absent
    | some row =>
        have key := List.find?_some found
        obtain ⟨_, other, otherInside, sameRule, sameTarget, same⟩ :=
          (mem_exceptionRows sound).mp (List.mem_of_find?_eq_some found)
        obtain ⟨_, ruleKey, targetKey⟩ : row.ownerId = privacy.userId ∧
            row.rule = item.rule.value ∧ row.targetId = item.targetId := by
          simpa [ChatUserPrivacyException.key] using key
        have one : other = item := by
          refine List.inj_on_of_nodup_map sound.unique otherInside inside ?_
          rw [PrivacyRule.value_injective (sameRule.trans ruleKey), sameTarget.trans targetKey]
        exact ⟨row, rfl, by rw [← same, one]⟩

end ProfilePrivacy

/-- How the chats come to what they hold of a user: by the last event of its aggregate, if there
was one, on whatever they held before, and by anything that is not a newer event of the user. -/
inductive Follows (owner : UserId) : Option ProfilePrivacy → Projection → Prop
  | silent {db : Projection} : Untouched db owner → Follows owner none db
  | created {db : Projection} : Follows owner none db → Follows owner (some (.create owner)) db
  | applied {privacy : ProfilePrivacy} {db after : Projection} {now createdAt : Nat} :
      privacy.Reachable → privacy.userId = owner →
      db.upsertPrivacy now (privacy.registerUpdated createdAt) = (true, after) →
      Follows owner (some privacy) (after.replaceExceptions owner privacy.exceptionsSnapshot)
  | profile {privacy : Option ProfilePrivacy} {db : Projection} (now : Nat) (event : ProfileEvent) :
      Follows owner privacy db → Follows owner privacy (db.applyProfile now event)
  | privacy {privacy : Option ProfilePrivacy} {db : Projection} (now : Nat) (event : PrivacyEvent) :
      event.userId ≠ owner ∨ (db.upsertPrivacy now event).1 = false → Follows owner privacy db →
      Follows owner privacy (db.applyPrivacy now event)
  | contact {privacy : Option ProfilePrivacy} {db : Projection} (ownerId contactId : UserId)
      (added : Bool) : Follows owner privacy db →
      Follows owner privacy (db.applyUserContact ownerId contactId added)
  | block {privacy : Option ProfilePrivacy} {db : Projection} (ownerId targetId : UserId)
      (blocked : Bool) : Follows owner privacy db →
      Follows owner privacy (db.applyUserBlock ownerId targetId blocked)

/-- The chats read of a user what its aggregate says. -/
structure Mirrors (owner : UserId) (privacy : Option ProfilePrivacy) (db : Projection) : Prop where
  visible : ∀ rule, ChatUserProfile.parseVisibility ((db.privacyOf owner).visibility rule) =
    (privacy.map fun privacy => privacy.visibility rule).getD .default
  excepted : ∀ (rule : PrivacyRule) targetId,
    ((db.exceptionsOf owner).find? fun row => decide (row.key = (owner, rule.value, targetId))).map
      ChatUserPrivacyException.allow = privacy.bind fun privacy => privacy.exception? rule targetId

section Mirroring

variable {owner : UserId} {privacy : Option ProfilePrivacy} {db after : Projection}

theorem Mirrors.of_same (mirrors : Mirrors owner privacy db)
    (columns : after.privacyOf owner = db.privacyOf owner)
    (exceptions : after.exceptionsOf owner = db.exceptionsOf owner) :
    Mirrors owner privacy after := by
  refine ⟨fun rule => ?_, fun rule targetId => ?_⟩
  · rw [columns]
    exact mirrors.visible rule
  · rw [exceptions]
    exact mirrors.excepted rule targetId

theorem parseVisibility_default :
    ChatUserProfile.parseVisibility PrivacyVisibility.default.value = .default := by decide

theorem parseVisibility_privacyColumns (privacy : ProfilePrivacy) (rule : PrivacyRule) :
    ChatUserProfile.parseVisibility (privacyColumns privacy.rulesSnapshot rule) =
      privacy.visibility rule := by
  have found : privacy.rulesSnapshot.lookup rule.value = some (privacy.visibility rule).value := by
    cases rule <;> rfl
  rw [privacyColumns, found, Option.getD_some]
  cases privacy.visibility rule <;> decide

theorem mirrors_applied {privacy : ProfilePrivacy} {now createdAt : Nat}
    (reachable : privacy.Reachable)
    (written : db.upsertPrivacy now (privacy.registerUpdated createdAt) = (true, after)) :
    Mirrors privacy.userId (some privacy)
      (after.replaceExceptions privacy.userId privacy.exceptionsSnapshot) := by
  have columns : after.privacyOf privacy.userId = (privacy.registerUpdated createdAt).columns :=
    privacyOf_upsertPrivacy written
  have kept : (after.replaceExceptions privacy.userId
      privacy.exceptionsSnapshot).privacyOf privacy.userId = after.privacyOf privacy.userId := rfl
  have exceptions : (after.replaceExceptions privacy.userId
      privacy.exceptionsSnapshot).exceptionsOf privacy.userId =
        (privacy.registerUpdated createdAt).stored :=
    exceptionsOf_replaceExceptions (privacy.registerUpdated createdAt)
  refine ⟨fun rule => ?_, fun rule targetId => ?_⟩
  · rw [kept, columns]
    exact parseVisibility_privacyColumns privacy rule
  · rw [exceptions]
    exact ProfilePrivacy.stored_exception (ProfilePrivacy.sound_reachable reachable) createdAt
      targetId

theorem mirrors_follows (follows : Follows owner privacy db) : Mirrors owner privacy db := by
  induction follows with
  | silent untouched =>
      obtain ⟨absent, none⟩ := untouched
      refine ⟨fun rule => ?_, fun rule targetId => ?_⟩
      · rw [Projection.privacyOf, absent]
        exact parseVisibility_default
      · rw [none]
        rfl
  | created _ ih =>
      refine ⟨fun rule => ?_, ih.excepted⟩
      rw [ih.visible rule]
      cases rule <;> rfl
  | applied reachable here written =>
      subst here
      exact mirrors_applied reachable written
  | @profile _ db now event _ ih =>
      have kept := applyProfile_privacy db now event owner
      exact ih.of_same kept.1 kept.2
  | @privacy _ db now event away _ ih =>
      rcases away with other | refused
      · have kept := applyEvent_other db now (.privacy event) other
        refine ih.of_same ?_ kept.2
        have row : (db.applyPrivacy now event).profile? owner = db.profile? owner := kept.1
        rw [Projection.privacyOf, row, Projection.privacyOf]
      · rcases upsertPrivacy_cases db now event with
          ⟨_, _, _, written⟩ | ⟨_, written, _⟩
        · rw [Projection.applyPrivacy, written]
          exact ih
        · rw [written] at refused
          cases refused
  | contact ownerId contactId added _ ih =>
      refine ih.of_same ?_ ?_
      · cases added <;> rfl
      · cases added <;> rfl
  | block ownerId targetId blocked _ ih =>
      refine ih.of_same ?_ ?_
      · cases blocked <;> rfl
      · cases blocked <;> rfl

end Mirroring

section Deciding

variable {viewer : Option UserId} {owners : Finset UserId}

theorem allowedBy_congr {visibility otherVisibility : Finset UserId → UserId → Option PrivacyVisibility}
    {exceptions otherExceptions : Finset UserId → UserId → Option Bool}
    {contacts otherContacts : Finset UserId → Finset UserId}
    (sameVisibility : ∀ asked ⊆ owners, ∀ owner ∈ asked,
      (visibility asked owner).getD .default = (otherVisibility asked owner).getD .default)
    (sameExceptions : ∀ asked ⊆ owners, ∀ owner ∈ asked,
      exceptions asked owner = otherExceptions asked owner)
    (sameContacts : ∀ asked, contacts asked = otherContacts asked) :
    allowedBy visibility exceptions contacts viewer owners =
      allowedBy otherVisibility otherExceptions otherContacts viewer owners := by
  simp only [allowedBy, sameContacts]
  split
  · rfl
  · have inside : owners.filter (fun owner => viewer ≠ some owner) ⊆ owners :=
      Finset.filter_subset _ owners
    have needed : (owners.filter fun owner => viewer ≠ some owner).filter (fun owner =>
          exceptions (owners.filter fun owner => viewer ≠ some owner) owner = none ∧
          (visibility (owners.filter fun owner => viewer ≠ some owner) owner).getD .default =
            .contacts) =
        (owners.filter fun owner => viewer ≠ some owner).filter fun owner =>
          otherExceptions (owners.filter fun owner => viewer ≠ some owner) owner = none ∧
          (otherVisibility (owners.filter fun owner => viewer ≠ some owner) owner).getD .default =
            .contacts := by
      refine Finset.filter_congr fun owner member => ?_
      rw [sameVisibility _ inside owner member, sameExceptions _ inside owner member]
    rw [needed]
    congr 1
    refine Finset.filter_congr fun owner member => ?_
    rw [sameVisibility _ inside owner member, sameExceptions _ inside owner member]

end Deciding

/-- The chats let a viewer do what the profiles do, for every rule and every set of owners. -/
theorem Projection.allowedBy_mirrors (store : ProfileStore) (db : Projection) (rule : PrivacyRule)
    (viewer : UserId) (owners : Finset UserId)
    (follows : ∀ owner ∈ owners, Follows owner (store.privacy? owner) db)
    (contacts : ∀ owner contact,
      (owner, contact) ∈ store.contacts ↔ (owner, contact) ∈ db.contacts) :
    db.allowedBy rule viewer owners = store.allowedBy rule (some viewer) owners := by
  refine allowedBy_congr ?_ ?_ ?_
  · intro asked inside owner member
    have visible := (mirrors_follows (follows owner (inside member))).visible rule
    rw [Projection.visibilityMap, ProfileStore.visibilityMap, if_pos member, if_pos member,
      ← visible, Projection.privacyOf]
    cases db.profile? owner with
    | some row => rfl
    | none => exact parseVisibility_default.symm
  · intro asked inside owner member
    have excepted := (mirrors_follows (follows owner (inside member))).excepted rule viewer
    rw [Option.bind_some, Projection.exceptionsFor, ProfileStore.exceptionsFor, if_pos member,
      if_pos member]
    refine Eq.trans ?_ excepted
    rw [Projection.exceptionsOf, Table.select, List.find?_filter, Table.find?]
    congr 2
    funext row
    by_cases here : row.key = (owner, rule.value, viewer)
    · have owned : row.ownerId = owner := congrArg Prod.fst here
      simp [here, owned]
    · simp [here]
  · intro asked
    rw [Option.map_some, Option.getD_some]
    refine Finset.filter_congr fun owner _ => ?_
    exact (contacts owner viewer).symm

section Settings

def closedMessages : ProfilePrivacy where
  userId := 7
  messages := .nobody
  exceptions := [⟨7, .messages, 3, true⟩, ⟨7, .messages, 4, false⟩]

theorem reachable_closedMessages : closedMessages.Reachable := by
  have closed : ((ProfilePrivacy.create 7).setRule .messages .nobody).Reachable :=
    .setRule _ _ (.create 7)
  exact @ProfilePrivacy.Reachable.replaceExceptions _ closedMessages .messages [3, 7] [4, 3] closed rfl

def closedProjection : Projection := (({} : Projection).applyPrivacy 1 (closedMessages.registerUpdated 5))

def closedStore : ProfileStore where
  privacies := Table.empty.insert closedMessages

theorem Projection.allowedBy_mirrors_closed :
    closedProjection.allowedBy .messages 3 {3, 7, 8} =
      closedStore.allowedBy .messages (some 3) {3, 7, 8} ∧
    closedStore.allowedBy .messages (some 4) {7, 8} = {8} := by
  refine ⟨Projection.allowedBy_mirrors closedStore closedProjection .messages 3 {3, 7, 8} ?_ ?_,
    by decide⟩
  · intro owner member
    have cases : owner = 3 ∨ owner = 7 ∨ owner = 8 := by simpa using member
    rcases cases with rfl | rfl | rfl
    · exact .silent ⟨by decide, by decide⟩
    · exact @Follows.applied 7 closedMessages {} _ 1 5 reachable_closedMessages rfl rfl
    · exact .silent ⟨by decide, by decide⟩
  · intro owner contact
    exact Iff.rfl

end Settings

end Messanger
