import Messanger.Library.Latest
import Messanger.Privacy.ProjectionCore

/-!
The order in which the events of a user reach the chats.  A profile row holds two registers, one
for each kind of event, and the exceptions follow the second.
-/

namespace Messanger

open Relational

inductive ProjectionEvent where
  | profile (event : ProfileEvent)
  | privacy (event : PrivacyEvent)
  deriving DecidableEq, Repr

namespace ProjectionEvent

def userId : ProjectionEvent → UserId
  | .profile event => event.userId
  | .privacy event => event.userId

def profile? : ProjectionEvent → Option ProfileEvent
  | .profile event => some event
  | .privacy _ => none

def privacy? : ProjectionEvent → Option PrivacyEvent
  | .profile _ => none
  | .privacy event => some event

end ProjectionEvent

/-- The columns a profile event sets. -/
structure ProfileColumns where
  username : Option String := none
  displayName : Option String := none
  avatarS3Key : Option String := none
  lastEventId : Option EventId := none
  sourceUpdatedAt : Option Nat := none
  deriving DecidableEq, Repr

/-- The columns a privacy event sets. -/
structure PrivacyColumns where
  visibility : PrivacyRule → String := fun _ => PrivacyVisibility.default.value
  sourceUpdatedAt : Option Nat := none

namespace ChatUserProfile

def profileColumns (row : ChatUserProfile) : ProfileColumns :=
  ⟨row.username, row.displayName, row.avatarS3Key, row.lastEventId, row.sourceUpdatedAt⟩

def privacyColumns (row : ChatUserProfile) : PrivacyColumns :=
  ⟨row.privacyColumn, row.privacySourceUpdatedAt⟩

/-- The row without the times at which it was written. -/
def untimed (row : ChatUserProfile) : ChatUserProfile := { row with createdAt := 0, updatedAt := 0 }

theorem untimed_eq {left right : ChatUserProfile} (userId : left.userId = right.userId)
    (profile : left.profileColumns = right.profileColumns)
    (privacy : left.privacyColumns = right.privacyColumns) : left.untimed = right.untimed := by
  simp only [profileColumns, ProfileColumns.mk.injEq] at profile
  simp only [privacyColumns, PrivacyColumns.mk.injEq] at privacy
  obtain ⟨columns, sourceUpdatedAt⟩ := privacy
  obtain ⟨username, displayName, avatar, eventId, source⟩ := profile
  have lastSeen := congrFun columns .lastSeen
  have photo := congrFun columns .photo
  have messages := congrFun columns .messages
  have groupInvites := congrFun columns .groupInvites
  have calls := congrFun columns .calls
  simp only [privacyColumn] at lastSeen photo messages groupInvites calls
  simp only [untimed, ChatUserProfile.mk.injEq]
  exact ⟨userId, username, displayName, avatar, eventId, source, lastSeen, photo, messages,
    groupInvites, calls, sourceUpdatedAt, trivial, trivial⟩

end ChatUserProfile

def ProfileEvent.columns (event : ProfileEvent) : ProfileColumns :=
  ⟨event.username, event.displayName, event.avatarS3Key, event.eventId, some event.sourceUpdatedAt⟩

def PrivacyEvent.columns (event : PrivacyEvent) : PrivacyColumns :=
  ⟨privacyColumns event.rules, some event.sourceUpdatedAt⟩

/-- The exceptions an event leaves its user with. -/
def PrivacyEvent.stored (event : PrivacyEvent) : List ChatUserPrivacyException :=
  ((({} : Projection).replaceExceptions event.userId event.exceptions).exceptions).rows

namespace Projection

/-- What is kept of the profile of a user; a user without a row has the values of a new one. -/
def profileOf (db : Projection) (userId : UserId) : ProfileColumns :=
  ((db.profile? userId).map ChatUserProfile.profileColumns).getD {}

def privacyOf (db : Projection) (userId : UserId) : PrivacyColumns :=
  ((db.profile? userId).map ChatUserProfile.privacyColumns).getD {}

def exceptionsOf (db : Projection) (userId : UserId) : List ChatUserPrivacyException :=
  db.exceptions.select fun row => decide (row.ownerId = userId)

def applyEvent (db : Projection) (now : Nat) : ProjectionEvent → Projection
  | .profile event => db.applyProfile now event
  | .privacy event => db.applyPrivacy now event

/-- The events one after the other, each with the time it is applied at. -/
def applyEvents (db : Projection) (events : List (Nat × ProjectionEvent)) : Projection :=
  events.foldl (fun db (now, event) => db.applyEvent now event) db

end Projection

/-- The profile events of a user, in the order they are applied. -/
def profileEvents (userId : UserId) (events : List (Nat × ProjectionEvent)) : List ProfileEvent :=
  events.filterMap fun (_, event) => event.profile?.filter fun event => decide (event.userId = userId)

def privacyEvents (userId : UserId) (events : List (Nat × ProjectionEvent)) : List PrivacyEvent :=
  events.filterMap fun (_, event) => event.privacy?.filter fun event => decide (event.userId = userId)

section Writing

variable {db : Projection} {now : Nat} {userId : UserId}

theorem upsertRow_cases (db : Projection) (fresh : ChatUserProfile) (accepts : ChatUserProfile → Bool)
    (change : ChatUserProfile → ChatUserProfile) (keeps : ∀ row, (change row).userId = row.userId) :
    (∃ row, db.profile? fresh.userId = some row ∧ accepts row = false ∧
      db.upsertRow fresh accepts change keeps = (false, db)) ∨
    ∃ after, db.upsertRow fresh accepts change keeps = (true, after) ∧
      after.exceptions = db.exceptions ∧
      (∀ row, db.profile? fresh.userId = some row → accepts row = true) ∧
      (after.profile? fresh.userId =
        some (((db.profile? fresh.userId).map change).getD fresh)) ∧
      ∀ userId, userId ≠ fresh.userId → after.profile? userId = db.profile? userId := by
  cases found : db.profile? fresh.userId with
  | none =>
      have written : db.upsertRow fresh accepts change keeps =
          (true, { db with profiles := db.profiles.insert fresh }) := by
        simp only [Projection.upsertRow, found]
      refine .inr ⟨_, written, rfl, fun _ none => (by cases none), ?_, fun userId other => ?_⟩
      · exact Table.find?_insert_self db.profiles fresh found
      · exact Table.find?_insert_other db.profiles fresh userId (Ne.symm other)
  | some row =>
      have key : row.userId = fresh.userId := Table.key_of_find? found
      cases taken : accepts row with
      | false =>
          refine .inl ⟨row, rfl, taken, ?_⟩
          simp only [Projection.upsertRow, found, taken, Bool.false_eq_true, if_false]
      | true =>
          have written : db.upsertRow fresh accepts change keeps =
              (true, { db with profiles := (db.profiles.update
                (fun row => decide (row.userId = fresh.userId)) change keeps) }) := by
            simp only [Projection.upsertRow, found, taken, if_true]
          refine .inr ⟨_, written, rfl, ?_, ?_, fun userId other => ?_⟩
          · intro other same
            cases same
            exact taken
          · have here : db.profiles.find? fresh.userId = some row := found
            simp only [Projection.profile?, Table.find?_update, here, Option.map_some, key,
              decide_true, if_true, Option.getD_some]
          · refine Table.find?_update_other db.profiles _ change keeps userId fun row here => ?_
            exact decide_eq_false fun same => other (here.symm.trans same)

theorem upsertProfile_cases (db : Projection) (now : Nat) (event : ProfileEvent) :
    (∃ row, db.profile? event.userId = some row ∧
      (row.sourceUpdatedAt.all fun seen => decide (seen < event.sourceUpdatedAt)) = false ∧
      db.upsertProfile now event = (false, db)) ∨
    ∃ after, db.upsertProfile now event = (true, after) ∧
      after.exceptions = db.exceptions ∧
      (∀ row, db.profile? event.userId = some row →
        (row.sourceUpdatedAt.all fun seen => decide (seen < event.sourceUpdatedAt)) = true) ∧
      after.profile? event.userId = some
        (((db.profile? event.userId).map (event.updated now)).getD (event.inserted now)) ∧
      ∀ userId, userId ≠ event.userId → after.profile? userId = db.profile? userId :=
  upsertRow_cases db (event.inserted now) _ (event.updated now) fun _ => rfl

theorem upsertPrivacy_cases (db : Projection) (now : Nat) (event : PrivacyEvent) :
    (∃ row, db.profile? event.userId = some row ∧
      (row.privacySourceUpdatedAt.all fun seen => decide (seen < event.sourceUpdatedAt)) = false ∧
      db.upsertPrivacy now event = (false, db)) ∨
    ∃ after, db.upsertPrivacy now event = (true, after) ∧
      after.exceptions = db.exceptions ∧
      (∀ row, db.profile? event.userId = some row →
        (row.privacySourceUpdatedAt.all fun seen => decide (seen < event.sourceUpdatedAt)) = true) ∧
      after.profile? event.userId = some
        (((db.profile? event.userId).map (event.updated now)).getD (event.inserted now)) ∧
      ∀ userId, userId ≠ event.userId → after.profile? userId = db.profile? userId :=
  upsertRow_cases db (event.inserted now) _ (event.updated now) fun _ => rfl

end Writing

section Exceptions

variable {db : Projection} {ownerId userId : UserId}

theorem owner_of_exceptionRow {exceptions : List (String × ExceptionBuckets)}
    {row : ChatUserPrivacyException} (member : row ∈ Projection.exceptionRows ownerId exceptions) :
    row.ownerId = ownerId ∧ row.targetId ≠ ownerId := by
  simp only [Projection.exceptionRows, List.mem_flatMap] at member
  obtain ⟨⟨rule, buckets⟩, _, member⟩ := member
  split at member
  · obtain ⟨⟨targetId, allow⟩, _, made⟩ := List.mem_filterMap.mp member
    simp only [Option.ite_none_right_eq_some, Option.some.injEq] at made
    obtain ⟨other, rfl⟩ := made
    exact ⟨rfl, other⟩
  · cases member

theorem select_inserted (rows : List ChatUserPrivacyException)
    (owned : ∀ row ∈ rows, row.ownerId = ownerId)
    (table alone : Table ChatUserPrivacyException (UserId × String × UserId)
      ChatUserPrivacyException.key)
    (same : table.select (fun row => decide (row.ownerId = ownerId)) = alone.rows) :
    (rows.foldl (fun table row => table.insert row) table).select
        (fun row => decide (row.ownerId = ownerId)) =
      (rows.foldl (fun table row => table.insert row) alone).rows := by
  induction rows generalizing table alone with
  | nil => exact same
  | cons row rows ih =>
      have here : row.ownerId = ownerId := owned row List.mem_cons_self
      have agree : alone.find? row.key = table.find? row.key := by
        refine Option.ext fun other => ?_
        rw [Table.find?_some_iff, Table.find?_some_iff, ← same]
        simp only [Table.select, List.mem_filter, decide_eq_true_eq]
        constructor
        · rintro ⟨⟨member, _⟩, key⟩
          exact ⟨member, key⟩
        · rintro ⟨member, key⟩
          exact ⟨⟨member, (congrArg Prod.fst key).trans here⟩, key⟩
      have step : (table.insert row).select (fun row => decide (row.ownerId = ownerId)) =
          (alone.insert row).rows := by
        cases taken : table.find? row.key with
        | some other =>
            rw [Table.insert_taken table row (by rw [taken]; rfl),
              Table.insert_taken alone row (by rw [agree, taken]; rfl)]
            exact same
        | none =>
            rw [Table.select, Table.rows_insert table row taken, List.filter_append,
              Table.rows_insert alone row (agree.trans taken), ← same]
            simp [Table.select, here]
      exact ih (fun other member => owned other (List.mem_cons_of_mem _ member)) _ _ step

theorem select_inserted_other (rows : List ChatUserPrivacyException)
    (owned : ∀ row ∈ rows, row.ownerId = ownerId) (other : userId ≠ ownerId)
    (table : Table ChatUserPrivacyException (UserId × String × UserId) ChatUserPrivacyException.key) :
    (rows.foldl (fun table row => table.insert row) table).select
        (fun row => decide (row.ownerId = userId)) =
      table.select fun row => decide (row.ownerId = userId) := by
  induction rows generalizing table with
  | nil => rfl
  | cons row rows ih =>
      have away : row.ownerId ≠ userId := by
        rw [owned row List.mem_cons_self]
        exact Ne.symm other
      rw [List.foldl_cons, ih (fun other member => owned other (List.mem_cons_of_mem _ member))]
      cases taken : table.find? row.key with
      | some held => rw [Table.insert_taken table row (by rw [taken]; rfl)]
      | none => simp [Table.select, Table.rows_insert table row taken, away]

theorem exceptionsOf_replaceExceptions (event : PrivacyEvent) :
    (db.replaceExceptions event.userId event.exceptions).exceptionsOf event.userId = event.stored := by
  refine select_inserted _ (fun row member => (owner_of_exceptionRow member).1) _ _ ?_
  simp [Table.select, Table.delete, List.filter_filter]

theorem exceptionsOf_replaceExceptions_other (event : PrivacyEvent) (other : userId ≠ event.userId) :
    (db.replaceExceptions event.userId event.exceptions).exceptionsOf userId =
      db.exceptionsOf userId := by
  have inserted := select_inserted_other (Projection.exceptionRows event.userId event.exceptions)
    (fun row member => (owner_of_exceptionRow member).1) other
      (db.exceptions.delete fun row => decide (row.ownerId = event.userId))
  refine inserted.trans ?_
  simp only [Projection.exceptionsOf, Table.select, Table.delete, List.filter_filter]
  refine List.filter_congr fun row _ => ?_
  by_cases here : row.ownerId = userId
  · simp [here, other]
  · simp [here]

end Exceptions

structure LastTaken (db : Projection) (userId : UserId) (profile : Option ProfileEvent)
    (privacy : Option PrivacyEvent) : Prop where
  profileOf : db.profileOf userId = (profile.map ProfileEvent.columns).getD {}
  privacyOf : db.privacyOf userId = (privacy.map PrivacyEvent.columns).getD {}
  exceptionsOf : db.exceptionsOf userId = (privacy.map PrivacyEvent.stored).getD []
  row : (db.profile? userId).isSome = (profile.isSome || privacy.isSome)

section Settling

variable {db after : Projection} {userId : UserId} {profile : Option ProfileEvent}
  {privacy : Option PrivacyEvent} {row : ChatUserProfile} {now : Nat}

/-- A user without a row and without exceptions. -/
def Untouched (db : Projection) (userId : UserId) : Prop :=
  db.profile? userId = none ∧ db.exceptionsOf userId = []

theorem lastTaken_untouched (untouched : Untouched db userId) : LastTaken db userId none none := by
  obtain ⟨absent, empty⟩ := untouched
  refine ⟨?_, ?_, empty, ?_⟩
  · simp only [Projection.profileOf, absent, Option.map_none]
  · simp only [Projection.privacyOf, absent, Option.map_none]
  · simp only [absent, Option.isSome_none, Bool.or_self]

theorem LastTaken.of_same (taken : LastTaken db userId profile privacy)
    (row : after.profile? userId = db.profile? userId)
    (exceptions : after.exceptionsOf userId = db.exceptionsOf userId) :
    LastTaken after userId profile privacy := by
  obtain ⟨profileOf, privacyOf, exceptionsOf, present⟩ := taken
  refine ⟨?_, ?_, exceptions.trans exceptionsOf, by rw [row, present]⟩
  · rw [← profileOf, Projection.profileOf, row, Projection.profileOf]
  · rw [← privacyOf, Projection.privacyOf, row, Projection.privacyOf]

theorem LastTaken.source (taken : LastTaken db userId profile privacy)
    (found : db.profile? userId = some row) :
    row.sourceUpdatedAt = profile.map ProfileEvent.sourceUpdatedAt := by
  have same := congrArg ProfileColumns.sourceUpdatedAt taken.profileOf
  simp only [Projection.profileOf, found, Option.map_some, Option.getD_some] at same
  cases profile <;> exact same

theorem LastTaken.privacySource (taken : LastTaken db userId profile privacy)
    (found : db.profile? userId = some row) :
    row.privacySourceUpdatedAt = privacy.map PrivacyEvent.sourceUpdatedAt := by
  have same := congrArg PrivacyColumns.sourceUpdatedAt taken.privacyOf
  simp only [Projection.privacyOf, found, Option.map_some, Option.getD_some] at same
  cases privacy <;> exact same

theorem LastTaken.nothing_absent (taken : LastTaken db userId profile privacy)
    (absent : db.profile? userId = none) : profile = none ∧ privacy = none := by
  have present := taken.row
  rw [absent] at present
  cases profile <;> cases privacy <;> simp_all

theorem privacyOf_upsertPrivacy {event : PrivacyEvent}
    (written : db.upsertPrivacy now event = (true, after)) :
    after.privacyOf event.userId = event.columns := by
  rcases upsertPrivacy_cases db now event with
    ⟨_, _, _, refused⟩ | ⟨other, taken, _, _, row, _⟩
  · rw [written] at refused
    cases refused
  · obtain rfl : after = other := congrArg Prod.snd (written.symm.trans taken)
    rw [Projection.privacyOf, row]
    cases db.profile? event.userId with
    | none =>
        exact congrArg (PrivacyColumns.mk · _) (ChatUserProfile.privacyColumn_withPrivacy _ _)
    | some row =>
        exact congrArg (PrivacyColumns.mk · _) (ChatUserProfile.privacyColumn_withPrivacy _ _)

theorem keep_taken {Event : Type} {stamp : Event → Nat} {held : Option Event} {event : Event}
    {found : Option ChatUserProfile} {source : ChatUserProfile → Option Nat}
    (kept : ∀ row, found = some row → source row = held.map stamp)
    (absent : found = none → held = none)
    (accepted : ∀ row, found = some row →
      (source row).all (fun seen => decide (seen < stamp event)) = true) :
    Latest.keep stamp held event = some event := by
  rw [Latest.keep, if_pos]
  cases found with
  | none =>
      rw [absent rfl]
      rfl
  | some row =>
      have accepts := accepted row rfl
      rw [kept row rfl, Option.all_map] at accepts
      exact accepts

theorem keep_stale {Event : Type} {stamp : Event → Nat} {held : Option Event} {event : Event}
    {source : Option Nat} (kept : source = held.map stamp)
    (stale : source.all (fun seen => decide (seen < stamp event)) = false) :
    Latest.keep stamp held event = held := by
  rw [kept, Option.all_map] at stale
  rw [Latest.keep, if_neg]
  intro newer
  exact Bool.false_ne_true (stale.symm.trans newer)

theorem applyProfile_privacy (db : Projection) (now : Nat) (event : ProfileEvent)
    (userId : UserId) :
    (db.applyProfile now event).privacyOf userId = db.privacyOf userId ∧
      (db.applyProfile now event).exceptionsOf userId = db.exceptionsOf userId := by
  rw [Projection.applyProfile]
  rcases upsertProfile_cases db now event with
    ⟨_, _, _, written⟩ | ⟨after, written, exceptions, _, row, others⟩
  · rw [written]
    exact ⟨rfl, rfl⟩
  · rw [written]
    refine ⟨?_, by rw [Projection.exceptionsOf, exceptions, Projection.exceptionsOf]⟩
    by_cases here : userId = event.userId
    · subst here
      rw [Projection.privacyOf, row, Projection.privacyOf]
      cases db.profile? event.userId with
      | some row => rfl
      | none =>
          refine congrArg (PrivacyColumns.mk · none) (funext fun rule => ?_)
          cases rule <;> rfl
    · rw [Projection.privacyOf, others userId here, Projection.privacyOf]

theorem applyPrivacy_profile (db : Projection) (now : Nat) (event : PrivacyEvent)
    (userId : UserId) : (db.applyPrivacy now event).profileOf userId = db.profileOf userId := by
  rw [Projection.applyPrivacy]
  rcases upsertPrivacy_cases db now event with
    ⟨_, _, _, written⟩ | ⟨after, written, _, _, row, others⟩
  · rw [written]
  · rw [written]
    have kept : after.profileOf userId = db.profileOf userId := by
      by_cases here : userId = event.userId
      · subst here
        rw [Projection.profileOf, row, Projection.profileOf]
        cases db.profile? event.userId <;> rfl
      · rw [Projection.profileOf, others userId here, Projection.profileOf]
    exact kept

theorem lastTaken_applyProfile (taken : LastTaken db userId profile privacy) (event : ProfileEvent)
    (here : event.userId = userId) :
    LastTaken (db.applyProfile now event) userId
      (Latest.keep ProfileEvent.sourceUpdatedAt profile event) privacy := by
  subst here
  rw [Projection.applyProfile]
  rcases upsertProfile_cases db now event with
    ⟨row, found, stale, written⟩ | ⟨after, written, _, accepted, row, _⟩
  · rw [written, keep_stale (taken.source found) stale]
    exact taken
  · rw [written, keep_taken (fun _ => taken.source)
      (fun absent => (taken.nothing_absent absent).1) accepted]
    have privacy := applyProfile_privacy db now event event.userId
    rw [Projection.applyProfile, written] at privacy
    refine ⟨?_, privacy.1.trans taken.privacyOf, privacy.2.trans taken.exceptionsOf, ?_⟩
    · rw [Projection.profileOf, row]
      cases db.profile? event.userId <;> rfl
    · rw [row]
      rfl

theorem lastTaken_applyPrivacy (taken : LastTaken db userId profile privacy) (event : PrivacyEvent)
    (here : event.userId = userId) :
    LastTaken (db.applyPrivacy now event) userId profile
      (Latest.keep PrivacyEvent.sourceUpdatedAt privacy event) := by
  subst here
  rw [Projection.applyPrivacy]
  rcases upsertPrivacy_cases db now event with
    ⟨row, found, stale, written⟩ | ⟨after, written, _, accepted, row, _⟩
  · rw [written, keep_stale (taken.privacySource found) stale]
    exact taken
  · rw [written, keep_taken (fun _ => taken.privacySource)
      (fun absent => (taken.nothing_absent absent).2) accepted]
    have profile := applyPrivacy_profile db now event event.userId
    rw [Projection.applyPrivacy, written] at profile
    refine ⟨profile.trans taken.profileOf, ?_, exceptionsOf_replaceExceptions event, ?_⟩
    · have columns := privacyOf_upsertPrivacy written
      exact columns
    · exact (congrArg Option.isSome row).trans (Bool.or_true _).symm

theorem applyEvent_other (db : Projection) (now : Nat) (event : ProjectionEvent)
    (other : event.userId ≠ userId) :
    (db.applyEvent now event).profile? userId = db.profile? userId ∧
      (db.applyEvent now event).exceptionsOf userId = db.exceptionsOf userId := by
  cases event with
  | profile event =>
      rw [Projection.applyEvent, Projection.applyProfile]
      rcases upsertProfile_cases db now event with
        ⟨row, _, _, written⟩ | ⟨after, written, exceptions, _, _, others⟩
      · rw [written]
        exact ⟨rfl, rfl⟩
      · rw [written]
        refine ⟨others userId (Ne.symm other), ?_⟩
        rw [Projection.exceptionsOf, Projection.exceptionsOf, exceptions]
  | privacy event =>
      rw [Projection.applyEvent, Projection.applyPrivacy]
      rcases upsertPrivacy_cases db now event with
        ⟨row, _, _, written⟩ | ⟨after, written, exceptions, _, _, others⟩
      · rw [written]
        exact ⟨rfl, rfl⟩
      · rw [written]
        refine ⟨others userId (Ne.symm other), ?_⟩
        refine (exceptionsOf_replaceExceptions_other event (Ne.symm other)).trans ?_
        rw [Projection.exceptionsOf, Projection.exceptionsOf, exceptions]

theorem lastTaken_applyEvents (untouched : Untouched db userId)
    (events : List (Nat × ProjectionEvent)) :
    LastTaken (db.applyEvents events) userId
      (Latest.latest ProfileEvent.sourceUpdatedAt (profileEvents userId events))
      (Latest.latest PrivacyEvent.sourceUpdatedAt (privacyEvents userId events)) := by
  induction events using List.reverseRecOn with
  | nil => exact lastTaken_untouched untouched
  | append_singleton events last ih =>
      obtain ⟨now, event⟩ := last
      have step : db.applyEvents (events ++ [(now, event)]) =
          (db.applyEvents events).applyEvent now event := by
        rw [Projection.applyEvents, List.foldl_append]
        rfl
      rw [step, profileEvents, privacyEvents, List.filterMap_append, List.filterMap_append]
      by_cases here : event.userId = userId
      · cases event with
        | profile event =>
            have taken : decide (event.userId = userId) = true := decide_eq_true here
            simp only [ProjectionEvent.profile?, ProjectionEvent.privacy?, List.filterMap_cons,
              List.filterMap_nil, Option.filter_some, taken, if_true, Option.filter_none,
              List.append_nil, Latest.latest_concat]
            exact lastTaken_applyProfile ih event here
        | privacy event =>
            have taken : decide (event.userId = userId) = true := decide_eq_true here
            simp only [ProjectionEvent.profile?, ProjectionEvent.privacy?, List.filterMap_cons,
              List.filterMap_nil, Option.filter_some, taken, if_true, Option.filter_none,
              List.append_nil, Latest.latest_concat]
            exact lastTaken_applyPrivacy ih event here
      · have none : (event.profile?.filter fun event => decide (event.userId = userId)) = none ∧
            (event.privacy?.filter fun event => decide (event.userId = userId)) = none := by
          cases event with
          | profile event => exact ⟨if_neg (by simpa [ProjectionEvent.userId] using here), rfl⟩
          | privacy event => exact ⟨rfl, if_neg (by simpa [ProjectionEvent.userId] using here)⟩
        simp only [List.filterMap_cons, List.filterMap_nil, none, List.append_nil]
        have kept := applyEvent_other (db.applyEvents events) now event here
        exact ih.of_same kept.1 kept.2

theorem mem_profileEvents {events : List (Nat × ProjectionEvent)} {event : ProfileEvent} :
    event ∈ profileEvents userId events ↔
      .profile event ∈ events.map Prod.snd ∧ event.userId = userId := by
  simp only [profileEvents, List.mem_filterMap, List.mem_map, Option.filter_eq_some_iff,
    decide_eq_true_eq]
  constructor
  · rintro ⟨⟨now, other⟩, member, found, here⟩
    cases other with
    | privacy other => cases found
    | profile other =>
        cases found
        exact ⟨⟨_, member, rfl⟩, here⟩
  · rintro ⟨⟨entry, member, found⟩, here⟩
    exact ⟨entry, member, by rw [found]; rfl, here⟩

theorem mem_privacyEvents {events : List (Nat × ProjectionEvent)} {event : PrivacyEvent} :
    event ∈ privacyEvents userId events ↔
      .privacy event ∈ events.map Prod.snd ∧ event.userId = userId := by
  simp only [privacyEvents, List.mem_filterMap, List.mem_map, Option.filter_eq_some_iff,
    decide_eq_true_eq]
  constructor
  · rintro ⟨⟨now, other⟩, member, found, here⟩
    cases other with
    | profile other => cases found
    | privacy other =>
        cases found
        exact ⟨⟨_, member, rfl⟩, here⟩
  · rintro ⟨⟨entry, member, found⟩, here⟩
    exact ⟨entry, member, by rw [found]; rfl, here⟩

variable {events others : List (Nat × ProjectionEvent)}

theorem latest_profile (same : ∀ event : ProjectionEvent, event.userId = userId →
      (event ∈ events.map Prod.snd ↔ event ∈ others.map Prod.snd))
    (distinct : Latest.Distinct ProfileEvent.sourceUpdatedAt (profileEvents userId events)) :
    Latest.latest ProfileEvent.sourceUpdatedAt (profileEvents userId events) =
      Latest.latest ProfileEvent.sourceUpdatedAt (profileEvents userId others) := by
  refine Latest.latest_eq distinct fun event => ?_
  rw [mem_profileEvents, mem_profileEvents]
  constructor
  · rintro ⟨member, here⟩
    exact ⟨(same (.profile event) here).mp member, here⟩
  · rintro ⟨member, here⟩
    exact ⟨(same (.profile event) here).mpr member, here⟩

theorem latest_privacy (same : ∀ event : ProjectionEvent, event.userId = userId →
      (event ∈ events.map Prod.snd ↔ event ∈ others.map Prod.snd))
    (distinct : Latest.Distinct PrivacyEvent.sourceUpdatedAt (privacyEvents userId events)) :
    Latest.latest PrivacyEvent.sourceUpdatedAt (privacyEvents userId events) =
      Latest.latest PrivacyEvent.sourceUpdatedAt (privacyEvents userId others) := by
  refine Latest.latest_eq distinct fun event => ?_
  rw [mem_privacyEvents, mem_privacyEvents]
  constructor
  · rintro ⟨member, here⟩
    exact ⟨(same (.privacy event) here).mp member, here⟩
  · rintro ⟨member, here⟩
    exact ⟨(same (.privacy event) here).mpr member, here⟩

theorem LastTaken.agree {one two : Projection} (first : LastTaken one userId profile privacy)
    (second : LastTaken two userId profile privacy) :
    (one.profile? userId).map ChatUserProfile.untimed =
        (two.profile? userId).map ChatUserProfile.untimed ∧
      one.exceptionsOf userId = two.exceptionsOf userId := by
  refine ⟨?_, first.exceptionsOf.trans second.exceptionsOf.symm⟩
  have present := first.row.trans second.row.symm
  have profiles := first.profileOf.trans second.profileOf.symm
  have privacies := first.privacyOf.trans second.privacyOf.symm
  rw [Projection.profileOf, Projection.profileOf] at profiles
  rw [Projection.privacyOf, Projection.privacyOf] at privacies
  cases left : one.profile? userId with
  | none =>
      rw [left, Option.isSome_none] at present
      have absent : two.profile? userId = none := Option.isSome_eq_false_iff.mp present.symm |>
        Option.isNone_iff_eq_none.mp
      rw [absent]
  | some row =>
      rw [left, Option.isSome_some] at present
      obtain ⟨other, right⟩ := Option.isSome_iff_exists.mp present.symm
      rw [left, right] at profiles privacies
      have owner : row.userId = other.userId :=
        (Table.key_of_find? left).trans (Table.key_of_find? right).symm
      rw [right, Option.map_some, Option.map_some,
        ChatUserProfile.untimed_eq owner profiles privacies]

end Settling

/-- Whatever the order in which the events of a user are applied and however often each is, the
row ends the same but for the times at which it was written, and so do the exceptions: the newest
profile event and the newest privacy event each decide their own columns. -/
theorem Projection.applyEvents_converges (db : Projection) (userId : UserId)
    (events others : List (Nat × ProjectionEvent)) (untouched : Untouched db userId)
    (profiles : Latest.Distinct ProfileEvent.sourceUpdatedAt (profileEvents userId events))
    (privacies : Latest.Distinct PrivacyEvent.sourceUpdatedAt (privacyEvents userId events))
    (same : ∀ event : ProjectionEvent, event.userId = userId →
      (event ∈ events.map Prod.snd ↔ event ∈ others.map Prod.snd)) :
    ((db.applyEvents events).profile? userId).map ChatUserProfile.untimed =
        ((db.applyEvents others).profile? userId).map ChatUserProfile.untimed ∧
      (db.applyEvents events).exceptionsOf userId = (db.applyEvents others).exceptionsOf userId ∧
      (∀ event ∈ profileEvents userId events,
        (∀ other ∈ profileEvents userId events, other.sourceUpdatedAt ≤ event.sourceUpdatedAt) →
        (db.applyEvents events).profileOf userId = event.columns) ∧
      (∀ event ∈ privacyEvents userId events,
        (∀ other ∈ privacyEvents userId events, other.sourceUpdatedAt ≤ event.sourceUpdatedAt) →
        (db.applyEvents events).privacyOf userId = event.columns ∧
        (db.applyEvents events).exceptionsOf userId = event.stored) ∧
      (∀ (db : Projection) now event userId,
        (db.applyProfile now event).privacyOf userId = db.privacyOf userId ∧
        (db.applyProfile now event).exceptionsOf userId = db.exceptionsOf userId) ∧
      ∀ (db : Projection) now event userId,
        (db.applyPrivacy now event).profileOf userId = db.profileOf userId := by
  have first := lastTaken_applyEvents untouched events
  have second := lastTaken_applyEvents untouched others
  rw [← latest_profile same profiles, ← latest_privacy same privacies] at second
  obtain ⟨row, exceptions⟩ := first.agree second
  refine ⟨row, exceptions, ?_, ?_, applyProfile_privacy, applyPrivacy_profile⟩
  · intro event member greatest
    rw [first.profileOf, Latest.latest_greatest profiles member greatest]
    rfl
  · intro event member greatest
    have newest := Latest.latest_greatest privacies member greatest
    constructor
    · rw [first.privacyOf, newest]
      rfl
    · rw [first.exceptionsOf, newest]
      rfl

section Orders

def renamed : ProfileEvent := ⟨7, some "neo", some "Neo", none, 3600, some 1⟩

def renamedAgain : ProfileEvent := ⟨7, some "neo", some "The One", none, 7200, some 2⟩

def closedToAll : PrivacyEvent where
  userId := 7
  rules := [("messages", "nobody")]
  exceptions := [("messages", ⟨[3], [3, 7]⟩)]
  sourceUpdatedAt := 3600

/-- A row written in the order of the edits tells when the second came, the other row does not. -/
theorem Projection.applyEvents_times_differ : ¬ ∀ (db : Projection) (userId : UserId)
    (events others : List (Nat × ProjectionEvent)), Untouched db userId →
    Latest.Distinct ProfileEvent.sourceUpdatedAt (profileEvents userId events) →
    Latest.Distinct PrivacyEvent.sourceUpdatedAt (privacyEvents userId events) →
    (events.map Prod.snd).Perm (others.map Prod.snd) →
    (db.applyEvents events).profile? userId = (db.applyEvents others).profile? userId := by
  intro same
  have ends := same {} 7 [(1, .profile renamed), (2, .profile renamedAgain)]
    [(1, .profile renamedAgain), (2, .profile renamed)] ⟨rfl, rfl⟩ (by unfold Latest.Distinct; decide)
    (by unfold Latest.Distinct; decide) (List.Perm.swap _ _ _)
  exact absurd ends (by decide)

theorem Projection.applyEvents_converges_orders :
    Untouched {} 7 ∧ ((({} : Projection).applyEvents
      [(1, .privacy closedToAll), (2, .profile renamedAgain), (3, .profile renamed)]).profileOf 7 =
        renamedAgain.columns) := by
  have untouched : Untouched {} 7 := ⟨rfl, rfl⟩
  have ends := Projection.applyEvents_converges {} 7
    [(1, .privacy closedToAll), (2, .profile renamedAgain), (3, .profile renamed)]
    [(4, .profile renamed), (5, .profile renamedAgain), (6, .privacy closedToAll),
      (7, .profile renamed)] untouched (by unfold Latest.Distinct; decide)
    (by unfold Latest.Distinct; decide) (fun event _ => by simp; tauto)
  exact ⟨untouched, ends.2.2.1 renamedAgain (by decide) (by decide)⟩

end Orders

end Messanger
