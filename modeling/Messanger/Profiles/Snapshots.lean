import Messanger.Privacy.Convergence
import Messanger.Profiles.MainPhoto

/-!
What the chats keep of a profile.  Each change of a profile tells the whole of it, with the time at
which its transaction began, and the chats keep what the message with the latest such time says.
-/

namespace Messanger.Profiles

open Relational Processes

section Avatars

def chatAvatarSize : Nat := 64

def avatarFormatPreference : List String := ["jpg", "webp", "avif"]

def distance (left right : Nat) : Nat := (left - right) + (right - left)

/-- The sizes in the order in which they stand in for the wanted one. -/
def candidates (avatars : AvatarMap) : List Nat :=
  chatAvatarSize :: (avatars.map Prod.fst).insertionSort fun left right =>
    distance left chatAvatarSize < distance right chatAvatarSize ∨
      (distance left chatAvatarSize = distance right chatAvatarSize ∧ right ≤ left)

def pickAvatarKey (avatars : AvatarMap) : Option String :=
  (candidates avatars).findSome? fun size =>
    (avatars.lookup size).bind fun variants =>
      avatarFormatPreference.findSome? fun fmt => (variants.lookup fmt).filter (· ≠ "")

end Avatars

/-- What `route_profile_delivery_event` applies of a message. -/
def OutboxMessage.event (message : OutboxMessage) : ProfileEvent where
  userId := message.payload.userId
  username := some message.payload.username
  displayName := message.payload.displayName
  avatarS3Key := pickAvatarKey message.payload.avatars
  sourceUpdatedAt := message.createdAt
  eventId := some message.id

def Write.message? : Write → Option OutboxMessage
  | .publish message => some message
  | _ => none

def Db.messagesOf (db : Db) (userId : UserId) : List OutboxMessage :=
  db.outbox.filter fun message => message.payload.userId == userId

structure Tells (payload : ProfilePayload) (profile : Profile) : Prop where
  username : payload.username = profile.username
  displayName : payload.displayName = profile.displayName
  avatar : pickAvatarKey payload.avatars = pickAvatarKey profile.avatars

/-- The messages about a user came one after the other, and the last one tells the row. -/
structure Current (db : Db) (userId : UserId) : Prop where
  rising : (db.messagesOf userId).Pairwise fun earlier later => earlier.createdAt < later.createdAt
  tells : ∀ profile, db.profile? userId = some profile →
    ∃ message, (db.messagesOf userId).getLast? = some message ∧ Tells message.payload profile

section Terms

def StampedLast (userId : UserId) (db : Db) (log : List Write) : Prop :=
  ∀ message ∈ log.filterMap Write.message?, message.payload.userId = userId →
    ∀ earlier ∈ db.messagesOf userId, earlier.createdAt < message.createdAt

instance (userId : UserId) (db : Db) (log : List Write) : Decidable (StampedLast userId db log) := by
  unfold StampedLast
  infer_instance

structure Unmoved (name : Option String) (read now : Profile) : Prop where
  username : now.username = read.username
  avatar : pickAvatarKey now.avatars = pickAvatarKey read.avatars
  displayName : read.displayName = name → now.displayName = read.displayName

instance (name : Option String) (read now : Profile) : Decidable (Unmoved name read now) :=
  decidable_of_iff (now.username = read.username ∧
      pickAvatarKey now.avatars = pickAvatarKey read.avatars ∧
        (read.displayName = name → now.displayName = read.displayName))
    ⟨fun ⟨username, avatar, name⟩ => ⟨username, avatar, name⟩,
      fun unmoved => ⟨unmoved.username, unmoved.avatar, unmoved.displayName⟩⟩

def StillAsRead (userId : UserId) (scene : ProfileScene) (index : Nat) : Command → Prop
  | .updateProfile update => update.profileId = userId → ∀ entry ∈ scene.own index,
      entry.label = .getById userId → ∀ read ∈ (entry.before.db.profile? userId).toList,
        ∀ now ∈ (scene.world.db.profile? userId).toList, Unmoved update.displayName read now
  | _ => True

instance (userId : UserId) (scene : ProfileScene) (index : Nat) (command : Command) :
    Decidable (StillAsRead userId scene index command) := by
  cases command <;> (unfold StillAsRead; infer_instance)

def TellsLast (userId : UserId) (scene : ProfileScene) (index : Nat) (command : Command) : Op → Prop
  | .commit log => StampedLast userId scene.world.db log ∧ StillAsRead userId scene index command
  | _ => True

instance (userId : UserId) (scene : ProfileScene) (index : Nat) (command : Command) (op : Op) :
    Decidable (TellsLast userId scene index command op) := by
  cases op <;> (unfold TellsLast; infer_instance)

def tellsLast (userId : UserId) : ProfileTerms where
  Acts scene index command op _ := rowLocks.Waits scene index op ∧
    TellsLast userId scene index command op

end Terms

section Telling

variable {services : Services} {db after : Db} {userId user : UserId} {log : List Write}
  {message : OutboxMessage} {profile new : Profile}

theorem outbox_write {write : Write} (written : db.write write = .ok after) :
    after.outbox = db.outbox ++ write.message?.toList := by
  cases write with
  | publish message => rw [write_publish written]; rfl
  | deletePhoto id => cases written; exact (List.append_nil _).symm
  | insertProfile row =>
      simp only [Db.write] at written
      split at written
      · cases written
      · cases written; exact (List.append_nil _).symm
  | updateProfile id change =>
      simp only [Db.write] at written
      split at written
      · cases written
      · cases written; exact (List.append_nil _).symm
  | insertPhoto row =>
      simp only [Db.write] at written
      split at written
      · cases written
      · cases written; exact (List.append_nil _).symm
  | updatePhoto id time =>
      simp only [Db.write] at written
      split at written
      · cases written
      · cases written; exact (List.append_nil _).symm

theorem outbox_writeAll (written : db.writeAll log = .ok after) :
    after.outbox = db.outbox ++ log.filterMap Write.message? := by
  induction log generalizing db with
  | nil => rw [writeAll_nil written, List.filterMap_nil, List.append_nil]
  | cons first rest ih =>
      obtain ⟨middle, done, left⟩ := writeAll_cons written
      rw [ih left, outbox_write done, List.append_assoc]
      cases found : first.message? with
      | none => rw [List.filterMap_cons_none found]; rfl
      | some message => rw [List.filterMap_cons_some found]; rfl

theorem published_of_outbox (written : db.writeAll log = .ok after)
    (outbox : after.outbox = db.outbox ++ [message]) : message ∈ log.filterMap Write.message? := by
  rw [outbox_writeAll written] at outbox
  rw [List.append_cancel_left outbox]
  exact List.mem_cons_self

theorem current_same (current : Current db userId) (row : after.profile? userId = db.profile? userId)
    (messages : after.messagesOf userId = db.messagesOf userId) : Current after userId := by
  refine ⟨?_, fun profile found => ?_⟩
  · rw [messages]
    exact current.rising
  · rw [messages]
    exact current.tells profile (row ▸ found)

theorem current_next (current : Current db userId) (written : db.writeAll log = .ok after)
    (newest : StampedLast userId db log) (outbox : after.outbox = db.outbox ++ [message])
    (about : message.payload.userId = userId)
    (tells : ∀ profile, after.profile? userId = some profile → Tells message.payload profile) :
    Current after userId := by
  have messages : after.messagesOf userId = db.messagesOf userId ++ [message] := by
    simp [Db.messagesOf, outbox, about]
  refine ⟨?_, fun profile found => ⟨message, ?_, tells profile found⟩⟩
  · rw [messages, List.pairwise_append]
    refine ⟨current.rising, List.pairwise_singleton _ _, fun earlier before later last => ?_⟩
    rw [List.mem_singleton.mp last]
    exact newest message (published_of_outbox written outbox) about earlier before
  · rw [messages, List.getLast?_concat]

theorem tells_payload (payload : message.payload = profile.payload) : Tells message.payload profile := by
  rw [payload]
  exact ⟨rfl, rfl, rfl⟩

theorem current_row (current : Current db userId) (written : db.writeAll log = .ok after)
    (newest : StampedLast userId db log) (outbox : after.outbox = db.outbox ++ [message])
    (row : after.profile? userId = some profile) (payload : message.payload = profile.payload) :
    Current after userId := by
  have own : profile.id = userId := Table.key_of_find? row
  refine current_next current written newest outbox ?_ fun other found => ?_
  · rw [payload]
    exact own
  · rw [row] at found
    cases found
    exact tells_payload payload

theorem tells_updated {name : Option String} {current : Profile}
    (changed : Updated name profile new) (unmoved : Unmoved name profile current)
    (payload : message.payload = new.payload) :
    Tells message.payload ((profile.difference new).apply current) := by
  rw [payload]
  refine ⟨?_, ?_, ?_⟩
  · have kept : ((profile.difference new).apply current).username = current.username :=
      getD_unchanged changed.username.symm _
    rw [kept, unmoved.username]
    exact changed.username
  · by_cases same : profile.displayName = new.displayName
    · have kept : ((profile.difference new).apply current).displayName = current.displayName :=
        getD_unchanged same _
      rw [kept, unmoved.displayName (same.trans changed.displayName)]
      exact same.symm
    · exact (getD_written same current.displayName).symm
  · have kept : ((profile.difference new).apply current).avatars = current.avatars :=
      getD_unchanged changed.avatars.symm _
    rw [kept, unmoved.avatar]
    exact congrArg pickAvatarKey changed.avatars

theorem current_change {scene : ProfileScene} {index : Nat} {command : Command}
    {known : World → Prop} (current : Current scene.world.db userId)
    (written : scene.world.db.writeAll log = .ok after)
    (newest : StampedLast userId scene.world.db log)
    (asRead : StillAsRead userId scene index command)
    (change : Change services known scene index userId after command) : Current after userId := by
  cases change with
  | added _ _ _ _ row _ outbox payload => exact current_row current written newest outbox row payload
  | dropped found _ _ row _ outbox =>
      refine current_same current (row.trans found.symm) ?_
      rw [Db.messagesOf, outbox, Db.messagesOf]
  | replaced _ _ row outbox payload => exact current_row current written newest outbox row payload
  | promoted _ _ _ row _ outbox payload => exact current_row current written newest outbox row payload
  | created _ row _ _ outbox payload => exact current_row current written newest outbox row payload
  | renamed _ row _ outbox payload => exact current_row current written newest outbox row payload
  | @updated update profile new message entry read label found changed own row _ outbox payload =>
      have about : message.payload.userId = userId := by
        rw [payload, own, ← Table.key_of_find? found]
        exact changed.id
      refine current_next current written newest outbox about fun shown there => ?_
      rw [row] at there
      obtain ⟨current, before, rfl⟩ := Option.map_eq_some_iff.mp there
      rw [own] at before asRead
      have unmoved := asRead rfl entry read label profile (Option.mem_toList.mpr found) current
        (Option.mem_toList.mpr before)
      exact tells_updated changed unmoved payload

theorem upholds_current (services : Services) (userId : UserId) :
    Upholds services (tellsLast userId) fun world => Current world.db userId where
  waits _ _ _ _ _ acts := acts.1
  calm world after current rows _ := by
    rw [rows]
    exact current
  commit scene index command user log _ after current acts written change others := by
    obtain ⟨_, newest, asRead⟩ := acts
    by_cases own : user = userId
    · subst own
      exact current_change current written newest asRead change
    · have gallery := others userId (Ne.symm own)
      refine current_same current (congrArg Gallery.profile gallery) ?_
      obtain quiet | ⟨message, outbox, about⟩ := change.outbox_cases
      · rw [Db.messagesOf, quiet, Db.messagesOf]
      · have apart : (message.payload.userId == userId) = false := by
          rw [about]
          exact beq_false_of_ne own
        simp only [Db.messagesOf, outbox, List.filter_append, List.filter_cons, apart,
          Bool.false_eq_true, if_false, List.filter_nil, List.append_nil]

end Telling

section Chats

variable {services : Services} {db : Db} {userId : UserId} {chats : Projection}
  {events : List (Nat × ProjectionEvent)}

/-- Exactly the messages about the user have been applied, in whatever order and however often. -/
def Applied (db : Db) (userId : UserId) (events : List (Nat × ProjectionEvent)) : Prop :=
  ∀ event : ProfileEvent, event.userId = userId →
    (.profile event ∈ events.map Prod.snd ↔ ∃ message ∈ db.outbox, message.event = event)

/-- What the chats keep of the user is what the row has. -/
def InChats (chats : Projection) (profile : Profile) : Prop :=
  ∃ row, chats.profile? profile.id = some row ∧ row.username = some profile.username ∧
    row.displayName = profile.displayName ∧ row.avatarS3Key = pickAvatarKey profile.avatars

theorem mem_applied (applied : Applied db userId events) {event : ProfileEvent} :
    event ∈ profileEvents userId events ↔
      ∃ message ∈ db.messagesOf userId, message.event = event := by
  rw [mem_profileEvents]
  constructor
  · rintro ⟨member, here⟩
    obtain ⟨message, sent, rfl⟩ := (applied event here).mp member
    exact ⟨message, List.mem_filter.mpr ⟨sent, beq_iff_eq.mpr here⟩, rfl⟩
  · rintro ⟨message, sent, rfl⟩
    obtain ⟨member, here⟩ := List.mem_filter.mp sent
    have own : message.event.userId = userId := beq_iff_eq.mp here
    exact ⟨(applied _ own).mpr ⟨message, member, rfl⟩, own⟩

theorem rising_eq {messages : List OutboxMessage} {left right : OutboxMessage}
    (rising : messages.Pairwise fun earlier later => earlier.createdAt < later.createdAt)
    (leftMember : left ∈ messages) (rightMember : right ∈ messages)
    (same : left.createdAt = right.createdAt) : left = right := by
  induction messages with
  | nil => cases leftMember
  | cons first rest ih =>
      obtain ⟨before, rising⟩ := List.pairwise_cons.mp rising
      rcases List.mem_cons.mp leftMember with rfl | leftRest
      · rcases List.mem_cons.mp rightMember with rfl | rightRest
        · rfl
        · have less := before right rightRest
          omega
      · rcases List.mem_cons.mp rightMember with rfl | rightRest
        · have less := before left leftRest
          omega
        · exact ih rising leftRest rightRest

theorem inChats_of_current (current : Current db userId) (untouched : Untouched chats userId)
    (applied : Applied db userId events) {profile : Profile}
    (found : db.profile? userId = some profile) : InChats (chats.applyEvents events) profile := by
  obtain ⟨message, last, tells⟩ := current.tells profile found
  obtain ⟨front, whole⟩ := List.getLast?_eq_some_iff.mp last
  have taken := lastTaken_applyEvents untouched events
  have distinct : Latest.Distinct ProfileEvent.sourceUpdatedAt (profileEvents userId events) := by
    intro left leftMember right rightMember same
    obtain ⟨one, oneSent, rfl⟩ := (mem_applied applied).mp leftMember
    obtain ⟨two, twoSent, rfl⟩ := (mem_applied applied).mp rightMember
    rw [rising_eq current.rising oneSent twoSent same]
  have member : message ∈ db.messagesOf userId := List.mem_of_getLast? last
  have newest : Latest.latest ProfileEvent.sourceUpdatedAt (profileEvents userId events) =
      some message.event := by
    refine Latest.latest_greatest distinct ((mem_applied applied).mpr ⟨message, member, rfl⟩) ?_
    intro other inside
    obtain ⟨earlier, sent, rfl⟩ := (mem_applied applied).mp inside
    rw [whole] at sent
    rcases List.mem_append.mp sent with before | same
    · have rising := current.rising
      rw [whole, List.pairwise_append] at rising
      exact Nat.le_of_lt (rising.2.2 earlier before message List.mem_cons_self)
    · rw [List.mem_singleton.mp same]
  rw [newest] at taken
  have key : profile.id = userId := Table.key_of_find? found
  obtain ⟨row, stored⟩ := Option.isSome_iff_exists.mp taken.row
  have columns := taken.profileOf
  rw [Projection.profileOf, stored] at columns
  simp only [Option.map_some, Option.getD_some, ChatUserProfile.profileColumns,
    ProfileEvent.columns, OutboxMessage.event, ProfileColumns.mk.injEq] at columns
  obtain ⟨username, displayName, avatar, _, _⟩ := columns
  refine ⟨row, by rw [key]; exact stored, ?_, ?_, ?_⟩
  · rw [username, tells.username]
  · rw [displayName, tells.displayName]
  · rw [avatar, tells.avatar]

/-- As long as each commit is stamped last and says what is still so, the chats that have every
message have the row. -/
theorem inChats_of_tellsLast {site : ProfileSite} (current : Current db userId)
    (untouched : Untouched chats userId)
    (run : Runs (Command.handle services) (tellsLast userId) (start db) site)
    (applied : Applied site.world.db userId events) :
    ∀ profile, site.world.db.profile? userId = some profile →
      InChats (chats.applyEvents events) profile := fun _ found =>
  inChats_of_current (known_of_runs (upholds_current services userId) current run) untouched applied
    found

end Chats

section Example

def createdMessage : OutboxMessage where
  id := 1000
  eventName := .created
  payload := { id := 1, username := "neo" : Profile }.payload
  createdAt := 0

def toldProfile : Db := { onlyProfile with outbox := [createdMessage] }

def laterServices : Services := { steadyServices with transactionTime := fun turn => turn + 1 }

def rename : Command := .changeProfileUsername ⟨1, "the_one"⟩

def introduce : Command :=
  .updateProfile { profileId := 1, displayName := some "Neo", userJwtData := { id := 1 } }

theorem current_toldProfile : Current toldProfile 1 := by
  refine ⟨List.pairwise_singleton _ _, fun profile found => ⟨createdMessage, rfl, ?_⟩⟩
  cases found
  exact ⟨rfl, rfl, rfl⟩

def newestFirst (db : Db) : List (Nat × ProjectionEvent) :=
  db.outbox.reverse.map fun message => (0, .profile message.event)

theorem applied_newestFirst (db : Db) (userId : UserId) : Applied db userId (newestFirst db) := by
  intro event _
  simp only [newestFirst, List.map_map, List.mem_map, List.mem_reverse, Function.comp_apply,
    ProjectionEvent.profile.injEq]

def orderlyMoves : List (Move Command) :=
  Move.start introduce :: List.replicate 6 (Move.exec 0) ++
    Move.start rename :: List.replicate 5 (Move.exec 1)

def orderlySite : Option ProfileSite :=
  (start toldProfile).steps (Command.handle laterServices) (fun _ _ => true)
    (fun scene index command op _ => decide (rowLocks.Waits scene index op ∧
      TellsLast 1 scene index command op)) orderlyMoves

theorem inChats_after_renaming : ∃ site profile, orderlySite = some site ∧
    site.world.db.profile? 1 = some profile ∧ profile.username = "the_one" ∧
      profile.displayName = some "Neo" ∧
        InChats (({} : Projection).applyEvents (newestFirst site.world.db)) profile := by
  have found : orderlySite.map (fun site => (site.world.db.profile? 1).map fun profile =>
      (profile.username, profile.displayName)) = some (some ("the_one", some "Neo")) := by
    decide +kernel
  obtain ⟨site, reached, same⟩ := Option.map_eq_some_iff.mp found
  obtain ⟨profile, row, columns⟩ := Option.map_eq_some_iff.mp same
  obtain ⟨username, displayName⟩ := Prod.mk.inj columns
  have run : Runs (Command.handle laterServices) (tellsLast 1) (start toldProfile) site :=
    runs_of_steps orderlyMoves (fun _ _ _ => trivial)
      (fun scene index command op _ checked => of_decide_eq_true
        (p := rowLocks.Waits scene index op ∧ TellsLast 1 scene index command op) checked)
      .refl reached
  exact ⟨site, profile, reached, row, username, displayName, inChats_of_tellsLast
    current_toldProfile ⟨rfl, rfl⟩ run (applied_newestFirst _ _) profile row⟩

def overtakenMoves : List (Move Command) :=
  [Move.start introduce, Move.exec 0, Move.exec 0, Move.start rename] ++
    List.replicate 5 (Move.exec 1) ++
    List.replicate 4 (Move.exec 0)

def overtakenSite : Option ProfileSite :=
  (start toldProfile).steps (Command.handle laterServices) (fun _ _ => true)
    (fun scene index _ op _ => decide (rowLocks.Waits scene index op)) overtakenMoves

/-- Both commands have ended and both messages are applied, but the chats never get the new display
name: its message counts as older than the one of the new username. -/
theorem update_overtaken : ¬∀ (services : Services) (db : Db) (userId : UserId)
    (chats : Projection) (events : List (Nat × ProjectionEvent)) (site : ProfileSite),
      StrictMono services.now → StrictMono services.transactionTime → Current db userId →
      Untouched chats userId → Runs (Command.handle services) waiting (start db) site →
      site.toScene.ended = true → Applied site.world.db userId events →
      ∀ profile, site.world.db.profile? userId = some profile →
        InChats (chats.applyEvents events) profile := by
  intro always
  have found : overtakenSite.map (fun site => (site.toScene.ended, (site.world.db.profile? 1).map
      (fun profile => (profile.id, profile.displayName)),
      ((({} : Projection).applyEvents (newestFirst site.world.db)).profile? 1).map
        ChatUserProfile.displayName)) = some (true, some (1, some "Neo"), some none) := by
    decide +kernel
  obtain ⟨site, reached, same⟩ := Option.map_eq_some_iff.mp found
  obtain ⟨ended, rows⟩ := Prod.mk.inj same
  obtain ⟨stored, kept⟩ := Prod.mk.inj rows
  obtain ⟨profile, row, columns⟩ := Option.map_eq_some_iff.mp stored
  obtain ⟨key, displayName⟩ := Prod.mk.inj columns
  have run : Runs (Command.handle laterServices) waiting (start toldProfile) site :=
    runs_of_steps overtakenMoves (fun _ _ _ => trivial)
      (fun scene index _ op _ checked =>
        of_decide_eq_true (p := rowLocks.Waits scene index op) checked) .refl reached
  have rises : StrictMono laterServices.transactionTime := fun _ _ less => Nat.succ_lt_succ less
  obtain ⟨shown, there, _, shownName, _⟩ := always laterServices toldProfile 1 {} _ site
    strictMono_id rises current_toldProfile ⟨rfl, rfl⟩ run ended (applied_newestFirst _ _) profile row
  rw [key] at there
  rw [there, Option.map_some, shownName, displayName] at kept
  cases kept

end Example

end Messanger.Profiles
