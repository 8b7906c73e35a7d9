import Mathlib.Data.List.Pairwise
import Messanger.Websockets.Deliveries
import Messanger.Websockets.FanoutCore

/-!
Whom the entries of a fan-out name and whom its offline signal lists, while the tables and the
route sets change between the reads.  Members are read in an order that rises, so that each is
looked up once, and one lookup decides both whether he is named and whether he is listed.
-/

namespace Messanger.Fanout

section Routes

variable {routes : RouteMap} {gatewayId : String} {userId : Int}

def RouteMap.Covers (routes : RouteMap) (gatewayId : String) (userId : Int) : Prop :=
  ∃ users, (gatewayId, users) ∈ routes.entries ∧ userId ∈ users

theorem not_covers_empty : ¬({} : RouteMap).Covers gatewayId userId := by
  rintro ⟨users, listed, _⟩
  exact List.not_mem_nil listed

theorem covers_add {otherGateway : String} {other : Int} :
    (routes.add otherGateway other).Covers gatewayId userId ↔
      routes.Covers gatewayId userId ∨ gatewayId = otherGateway ∧ userId = other := by
  simp only [RouteMap.Covers, RouteMap.add, RouteMap.insertUser]
  split
  · rename_i known
    constructor
    · rintro ⟨users, listed, member⟩
      obtain ⟨⟨name, before⟩, inside, same⟩ := List.mem_map.mp listed
      split at same
      · rename_i here
        cases same
        rcases List.mem_insert_iff.mp member with rfl | old
        · exact .inr ⟨here, rfl⟩
        · exact .inl ⟨before, inside, old⟩
      · cases same
        exact .inl ⟨users, inside, member⟩
    · rintro (⟨users, inside, member⟩ | ⟨rfl, rfl⟩)
      · refine ⟨_, List.mem_map.mpr ⟨(gatewayId, users), inside, Prod.ext ?_ rfl⟩, ?_⟩
        · split
          · rfl
          · rfl
        · split
          · exact List.mem_insert_of_mem member
          · exact member
      · obtain ⟨⟨name, users⟩, inside, rfl⟩ := List.mem_map.mp known
        exact ⟨users.insert userId, List.mem_map.mpr ⟨(name, users), inside, if_pos rfl⟩,
          List.mem_insert_self⟩
  · constructor
    · rintro ⟨users, listed, member⟩
      rcases List.mem_append.mp listed with old | new
      · exact .inl ⟨users, old, member⟩
      · cases List.mem_singleton.mp new
        exact .inr ⟨rfl, List.mem_singleton.mp member⟩
    · rintro (⟨users, inside, member⟩ | ⟨rfl, rfl⟩)
      · exact ⟨users, List.mem_append_left _ inside, member⟩
      · exact ⟨[userId], List.mem_append_right _ (List.mem_singleton_self _),
          List.mem_singleton_self _⟩

def LeadsTo (routeSet : List String) (gatewayId : String) : Prop :=
  ∃ route ∈ routeSet, ∃ connectionId, userRoute? route = some (gatewayId, connectionId)

theorem covers_addRoutes {found : Int × List String} :
    (addRoutes routes found).Covers gatewayId userId ↔
      routes.Covers gatewayId userId ∨ userId = found.1 ∧ LeadsTo found.2 gatewayId := by
  obtain ⟨owner, routeSet⟩ := found
  simp only [addRoutes]
  induction routeSet generalizing routes with
  | nil => simp [LeadsTo]
  | cons route rest ih =>
      rw [List.foldl_cons, ih]
      have first : LeadsTo (route :: rest) gatewayId ↔
          (∃ connectionId, userRoute? route = some (gatewayId, connectionId)) ∨
            LeadsTo rest gatewayId := by simp [LeadsTo]
      rw [first]
      cases parsed : userRoute? route with
      | none => simp
      | some pair =>
          obtain ⟨otherGateway, connectionId⟩ := pair
          simp only [covers_add, Option.some.injEq, Prod.mk.injEq]
          constructor
          · rintro ((old | ⟨rfl, rfl⟩) | ⟨rfl, later⟩)
            · exact .inl old
            · exact .inr ⟨rfl, .inl ⟨connectionId, rfl, rfl⟩⟩
            · exact .inr ⟨rfl, .inr later⟩
          · rintro (old | ⟨rfl, ⟨_, rfl, _⟩ | later⟩)
            · exact .inl (.inl old)
            · exact .inl (.inr ⟨rfl, rfl⟩)
            · exact .inr ⟨rfl, later⟩

theorem covers_foldl {found : List (Int × List String)} :
    (found.foldl addRoutes routes).Covers gatewayId userId ↔
      routes.Covers gatewayId userId ∨
        ∃ routeSet, (userId, routeSet) ∈ found ∧ LeadsTo routeSet gatewayId := by
  induction found generalizing routes with
  | nil => simp
  | cons first rest ih =>
      rw [List.foldl_cons, ih, covers_addRoutes, or_assoc]
      refine or_congr_right ?_
      constructor
      · rintro (⟨rfl, leads⟩ | ⟨routeSet, member, leads⟩)
        · exact ⟨first.2, List.mem_cons_self, leads⟩
        · exact ⟨routeSet, List.mem_cons_of_mem _ member, leads⟩
      · rintro ⟨routeSet, member, leads⟩
        rcases List.mem_cons.mp member with rfl | later
        · exact .inl ⟨rfl, leads⟩
        · exact .inr ⟨routeSet, later, leads⟩

theorem mem_smembers {course : Course} {reads : Nat} {userIds : List Int} {found : Int × List String} :
    found ∈ smembers course reads userIds ↔ ∃ index, userIds[index]? = some found.1 ∧
      found.2 = (course (reads + index)).userRoutes found.1 := by
  induction userIds generalizing reads with
  | nil => simp [smembers]
  | cons first rest ih =>
      rw [smembers, List.mem_cons, ih]
      constructor
      · rintro (rfl | ⟨index, known, same⟩)
        · exact ⟨0, rfl, rfl⟩
        · exact ⟨index + 1, known, by rw [same, Nat.add_right_comm, Nat.add_assoc]⟩
      · rintro ⟨index, known, same⟩
        cases index with
        | zero =>
            cases known
            exact .inl (Prod.ext rfl same)
        | succ index => exact .inr ⟨index, known, by rw [same, Nat.add_right_comm, Nat.add_assoc]⟩

theorem covers_lookup {course : Course} {reads : Nat} {userIds : List Int} :
    (lookupOnlineRoutes course reads userIds).Covers gatewayId userId ↔
      ∃ index, userIds[index]? = some userId ∧
        LeadsTo ((course (reads + index)).userRoutes userId) gatewayId := by
  rw [lookupOnlineRoutes, covers_foldl]
  constructor
  · rintro (none | ⟨routeSet, member, leads⟩)
    · exact (not_covers_empty none).elim
    · obtain ⟨index, known, same⟩ := mem_smembers.mp member
      exact ⟨index, known, same ▸ leads⟩
  · rintro ⟨index, known, leads⟩
    exact .inr ⟨_, mem_smembers.mpr ⟨index, known, rfl⟩, leads⟩

end Routes

section Entries

variable {gatewayId : String} {userId : Int}

def timesNamed (entries : List Entry) (gatewayId : String) (userId : Int) : Nat :=
  ((entries.filter fun entry => entry.gatewayId == gatewayId).flatMap (·.recipients)).count userId

@[simp] theorem timesNamed_nil : timesNamed [] gatewayId userId = 0 := rfl

@[simp] theorem timesNamed_append (entries others : List Entry) :
    timesNamed (entries ++ others) gatewayId userId =
      timesNamed entries gatewayId userId + timesNamed others gatewayId userId := by
  simp only [timesNamed, List.filter_append, List.flatMap_append, List.count_append]

theorem timesNamed_gateway {sizes : Sizes} {event : RoutedEvent} {required : Bool}
    {name : String} {users : List Int} :
    timesNamed (gatewayEntries sizes event required name users) gatewayId userId =
      if name = gatewayId then users.count userId else 0 := by
  unfold timesNamed gatewayEntries
  split
  · rename_i here
    rw [List.filter_eq_self.mpr (by simp [here]), List.flatMap_map, List.flatMap_id', chunks,
      flatten_chunksAfter, List.nil_append]
    exact (List.perm_insertionSort _ _).count_eq _
  · rename_i other
    rw [List.filter_eq_nil_iff.mpr (by simp [other])]
    rfl

theorem timesNamed_rows {sizes : Sizes} {event : RoutedEvent} {required : Bool}
    (rows : List (String × List Int)) (distinct : (rows.map Prod.fst).Nodup)
    (apart : ∀ row ∈ rows, row.2.Nodup) :
    timesNamed (rows.flatMap fun row => gatewayEntries sizes event required row.1 row.2)
      gatewayId userId ≤ 1 ∧
    (timesNamed (rows.flatMap fun row => gatewayEntries sizes event required row.1 row.2)
      gatewayId userId = 1 ↔ ∃ users, (gatewayId, users) ∈ rows ∧ userId ∈ users) := by
  induction rows with
  | nil => simp
  | cons row rest ih =>
      obtain ⟨fresh, others⟩ := List.nodup_cons.mp (List.map_cons ▸ distinct)
      obtain ⟨most, named⟩ := ih others fun row member => apart row (List.mem_cons_of_mem _ member)
      have count := List.nodup_iff_count_le_one.mp (apart row List.mem_cons_self) userId
      rw [List.flatMap_cons, timesNamed_append, timesNamed_gateway]
      split
      · rename_i here
        have none : ¬∃ users, (gatewayId, users) ∈ rest ∧ userId ∈ users := by
          rintro ⟨users, inside, _⟩
          exact fresh (List.mem_map.mpr ⟨_, inside, here.symm⟩)
        have never := mt named.mp none
        refine ⟨by omega, ?_⟩
        constructor
        · intro once
          have member : userId ∈ row.2 := List.count_pos_iff.mp (by omega)
          exact ⟨row.2, here ▸ List.mem_cons_self, member⟩
        · rintro ⟨users, inside, member⟩
          rcases List.mem_cons.mp inside with same | later
          · have whole : users = row.2 := congrArg Prod.snd same
            have positive := List.count_pos_iff.mpr (whole ▸ member)
            omega
          · exact (none ⟨users, later, member⟩).elim
      · rename_i other
        rw [Nat.zero_add]
        refine ⟨most, named.trans ?_⟩
        constructor
        · rintro ⟨users, inside, member⟩
          exact ⟨users, List.mem_cons_of_mem _ inside, member⟩
        · rintro ⟨users, inside, member⟩
          rcases List.mem_cons.mp inside with rfl | later
          · exact (other rfl).elim
          · exact ⟨users, later, member⟩

theorem timesNamed_enqueue {sizes : Sizes} {routes : RouteMap} {event : RoutedEvent}
    {required : Bool} :
    timesNamed (enqueueGatewayDeliveries sizes routes event required) gatewayId userId ≤ 1 ∧
      (timesNamed (enqueueGatewayDeliveries sizes routes event required) gatewayId userId = 1 ↔
        routes.Covers gatewayId userId) :=
  timesNamed_rows routes.entries routes.gateways routes.users

theorem timesNamed_flatMap {Source : Type} {sources : List Source} {write : Source → List Entry}
    {Names : Source → Prop}
    (each : ∀ source ∈ sources, timesNamed (write source) gatewayId userId ≤ 1 ∧
      (timesNamed (write source) gatewayId userId = 1 ↔ Names source))
    (apart : sources.Pairwise fun left right => Names left → ¬Names right) :
    timesNamed (sources.flatMap write) gatewayId userId ≤ 1 ∧
      (timesNamed (sources.flatMap write) gatewayId userId = 1 ↔
        ∃ source ∈ sources, Names source) := by
  induction sources with
  | nil => simp
  | cons source rest ih =>
      obtain ⟨others, later⟩ := List.pairwise_cons.mp apart
      obtain ⟨most, named⟩ := each source List.mem_cons_self
      obtain ⟨restMost, restNamed⟩ :=
        ih (fun source member => each source (List.mem_cons_of_mem _ member)) later
      rw [List.flatMap_cons, timesNamed_append, List.exists_mem_cons_iff]
      by_cases here : Names source
      · have none : ¬∃ source ∈ rest, Names source := by
          rintro ⟨other, inside, names⟩
          exact others other inside here names
        have once := named.mpr here
        have never := mt restNamed.mp none
        refine ⟨by omega, ?_⟩
        constructor
        · exact fun _ => .inl here
        · intro _
          omega
      · have never := mt named.mp here
        have sum : timesNamed (write source) gatewayId userId +
            timesNamed (rest.flatMap write) gatewayId userId =
              timesNamed (rest.flatMap write) gatewayId userId := by omega
        rw [sum]
        refine ⟨restMost, restNamed.trans ?_⟩
        constructor
        · exact .inr
        · rintro (own | other)
          · exact (here own).elim
          · exact other

end Entries

section Lookups

variable {sizes : Sizes} {course : Course} {event : RoutedEvent}

structure Lookup where
  reads : Nat
  members : List DeliveryMember

namespace Lookup

variable (course event) (lookup : Lookup)

def routes : RouteMap := lookupOnlineRoutes course lookup.reads (lookedUp event lookup.members)

def done : Nat := lookup.reads + (lookedUp event lookup.members).length

def offline : List Int :=
  match offlineSignal? event with
  | some senderId =>
      offlineRecipients senderId (unmuted (course (lookup.done event)).now lookup.members)
        (lookup.routes course event)
  | none => []

end Lookup

def Lookup.Within (course : Course) (event : RoutedEvent) (final : Nat) (lookup : Lookup) : Prop :=
  lookup.done event < final ∧ ∃ read < lookup.reads, ∀ member ∈ lookup.members,
    member ∈ (course read).deliveryMembers event.chatId

structure Told (sizes : Sizes) (course : Course) (event : RoutedEvent) (before after : Routing)
    (lookups : List Lookup) : Prop where
  entries : after.entries = before.entries ++ lookups.flatMap fun lookup =>
    enqueueGatewayDeliveries sizes (lookup.routes course event) event false
  offline : after.offlineUserIds = before.offlineUserIds ++
    lookups.flatMap (Lookup.offline course event)

theorem Told.trans {before middle after : Routing} {first second : List Lookup}
    (early : Told sizes course event before middle first)
    (late : Told sizes course event middle after second) :
    Told sizes course event before after (first ++ second) where
  entries := by rw [late.entries, early.entries, List.append_assoc, List.flatMap_append]
  offline := by rw [late.offline, early.offline, List.append_assoc, List.flatMap_append]

theorem told_batches (sizes : Sizes) (course : Course) (event : RoutedEvent)
    (batches : List (List DeliveryMember)) (routing : Routing) :
    ∃ lookups, Told sizes course event routing
        (batches.foldl (routeMemberBatch sizes course event) routing) lookups ∧
      lookups.map Lookup.members = batches ∧
      routing.reads ≤ (batches.foldl (routeMemberBatch sizes course event) routing).reads ∧
      ∀ lookup ∈ lookups, routing.reads ≤ lookup.reads ∧ lookup.done event ≤
        (batches.foldl (routeMemberBatch sizes course event) routing).reads := by
  induction batches generalizing routing with
  | nil => exact ⟨[], ⟨by simp, by simp⟩, rfl, Nat.le_refl _, by simp⟩
  | cons batch rest ih =>
      obtain ⟨lookups, told, members, more, within⟩ :=
        ih (routeMemberBatch sizes course event routing batch)
      have here : (routeMemberBatch sizes course event routing batch).reads =
          (Lookup.mk routing.reads batch).done event := rfl
      have step : routing.reads ≤ (Lookup.mk routing.reads batch).done event := Nat.le_add_right _ _
      have first : Told sizes course event routing
          (routeMemberBatch sizes course event routing batch) [⟨routing.reads, batch⟩] := by
        constructor
        · rw [List.flatMap_singleton]
          rfl
        · rw [List.flatMap_singleton]
          rfl
      refine ⟨⟨routing.reads, batch⟩ :: lookups, first.trans told, by rw [List.map_cons, members],
        ?_, ?_⟩
      · rw [List.foldl_cons]
        omega
      · intro lookup member
        rw [List.foldl_cons]
        rcases List.mem_cons.mp member with rfl | later
        · exact ⟨Nat.le_refl _, by omega⟩
        · obtain ⟨starts, ends⟩ := within lookup later
          exact ⟨by omega, ends⟩

theorem told_pages {pages : Nat} {lastUserId : Int} {routing final : Routing}
    (routed : routePages sizes course event pages lastUserId routing = some final) :
    ∃ sources batches lookups,
      Walking.Walks DeliveryMember.userId sizes.memberBatch (some lastUserId) sources batches ∧
      (∀ items ∈ sources, ∃ read < final.reads,
        items = (course read).deliveryMembers event.chatId) ∧
      (lookups.map Lookup.members).flatten = batches.flatten ∧
      Told sizes course event routing final lookups ∧
      routing.reads < final.reads ∧ ∀ lookup ∈ lookups, lookup.Within course event final.reads := by
  induction pages generalizing lastUserId routing with
  | zero => cases routed
  | succ pages ih =>
      rw [routePages] at routed
      split at routed
      · rename_i empty
        cases routed
        refine ⟨[(course routing.reads).deliveryMembers event.chatId], [], [], .ends ?_, ?_, rfl,
          ⟨by simp, by simp⟩, Nat.lt_succ_self _, by simp⟩
        · exact List.getLast?_eq_none_iff.mp empty
        · intro items member
          exact ⟨routing.reads, Nat.lt_succ_self _, List.mem_singleton.mp member⟩
      · rename_i last ends
        obtain ⟨sources, batches, lookups, walks, known, whole, told, more, within⟩ := ih routed
        obtain ⟨own, ownTold, members, ownMore, ownWithin⟩ := told_batches sizes course event
          (chunks sizes.routeLookupBatch
            ((course routing.reads).memberPage event.chatId lastUserId sizes.memberBatch))
          { routing with reads := routing.reads + 1 }
        have start : routing.reads < final.reads := by
          simp only at ownMore
          omega
        refine ⟨_ :: sources, _ :: batches, own ++ lookups, .goesOn ends walks, ?_, ?_,
          Told.trans ⟨ownTold.entries, ownTold.offline⟩ told, start, ?_⟩
        · intro items member
          rcases List.mem_cons.mp member with rfl | later
          · exact ⟨routing.reads, start, rfl⟩
          · exact known items later
        · rw [List.map_append, List.flatten_append, members, whole, chunks, flatten_chunksAfter,
            List.nil_append, List.flatten_cons]
          rfl
        · intro lookup member
          rcases List.mem_append.mp member with here | later
          · obtain ⟨starts, ends⟩ := ownWithin lookup here
            refine ⟨by omega, routing.reads, Nat.lt_of_succ_le starts, ?_⟩
            intro delivered inside
            have chunk : lookup.members ∈ chunks sizes.routeLookupBatch
                ((course routing.reads).memberPage event.chatId lastUserId sizes.memberBatch) :=
              members ▸ List.mem_map_of_mem here
            exact (Walking.mem_batch (mem_chunks.mp ⟨_, chunk, inside⟩)).1
          · exact within lookup later

end Lookups

section Outcome

variable {sizes : Sizes} {course : Course} {event : RoutedEvent} {chatId : ChatId} {userId : Int}
  {gatewayId : String}

def World.Active (world : World) (chatId : ChatId) (userId : Int) : Prop :=
  ∃ member ∈ world.deliveryMembers chatId, member.userId = userId

theorem deliveryMembers_distinct (world : World) (chatId : ChatId) :
    ((world.deliveryMembers chatId).map DeliveryMember.userId).Nodup := by
  simp only [World.deliveryMembers, Relational.Table.select, List.map_map]
  have keys := world.db.members.unique.sublist ((List.filter_sublist (p := fun member : ChatMember =>
    member.chatId == chatId && !member.isBanned world.now)).map ChatMember.key)
  refine List.Nodup.of_map (fun userId : Int => (chatId, userId.toNat)) ?_
  rw [List.map_map]
  refine (List.map_congr_left fun member inside => ?_) ▸ keys
  have here := (Bool.and_eq_true _ _ ▸ (List.mem_filter.mp inside).2).1
  exact Prod.ext (beq_iff_eq.mp here) rfl

theorem mem_lookedUp {members : List DeliveryMember} : userId ∈ lookedUp event members ↔
    (∃ member ∈ members, member.userId = userId) ∧
      userId ∉ event.excludeUserIds.map Int.ofNat := by
  simp only [lookedUp, List.mem_filter, List.mem_map, Bool.not_eq_true', List.contains_eq_mem,
    decide_eq_false_iff_not]

theorem mem_offlineRecipients {senderId : Option UserId} {lookupBatch : List Int}
    {routes : RouteMap} : userId ∈ offlineRecipients senderId lookupBatch routes ↔
      userId ∈ lookupBatch ∧ (∀ gatewayId, ¬routes.Covers gatewayId userId) ∧
        senderId.map Int.ofNat ≠ some userId := by
  rw [offlineRecipients, List.mem_insertionSort, List.mem_filter, List.mem_eraseDups]
  simp only [RouteMap.Covers, Bool.and_eq_true, Bool.not_eq_true', List.any_eq_false,
    decide_eq_false_iff_not, List.contains_eq_mem, Prod.forall, not_exists, not_and]
  exact and_congr_right fun _ => and_congr_left fun _ =>
    ⟨fun none gatewayId users listed => by simpa using none gatewayId users listed,
      fun none gatewayId users listed => by simpa using none gatewayId users listed⟩

theorem nodup_offlineRecipients (senderId : Option UserId) (lookupBatch : List Int)
    (routes : RouteMap) : (offlineRecipients senderId lookupBatch routes).Nodup :=
  (List.perm_insertionSort _ _).nodup_iff.mpr
    ((Relational.nodup_eraseDups lookupBatch).sublist List.filter_sublist)

/-- The entries name each user at each gateway at most once, none but active members who had a
route there, and all who were members with such a route at every read. -/
structure NamesMembers (course : Course) (event : RoutedEvent) (final : Routing) : Prop where
  once : ∀ gatewayId userId, timesNamed final.entries gatewayId userId ≤ 1
  sound : ∀ gatewayId userId, timesNamed final.entries gatewayId userId = 1 →
    userId ∉ event.excludeUserIds.map Int.ofNat ∧ ∃ seen found, seen < found ∧ found < final.reads ∧
      (course seen).Active event.chatId userId ∧
        LeadsTo ((course found).userRoutes userId) gatewayId
  complete : ∀ gatewayId userId, userId ∉ event.excludeUserIds.map Int.ofNat →
    (∀ read < final.reads, (course read).Active event.chatId userId ∧
      LeadsTo ((course read).userRoutes userId) gatewayId) →
    timesNamed final.entries gatewayId userId = 1

/-- The offline list of a message that notifies: active members who were not muted, had no route
and have not sent the message, each once.  Nobody is both named and listed, and who stayed a
member and was never muted is one of the two. -/
structure ListsOffline (course : Course) (event : RoutedEvent) (final : Routing)
    (senderId : Option UserId) : Prop where
  once : final.offlineUserIds.Nodup
  sound : ∀ userId ∈ final.offlineUserIds, senderId.map Int.ofNat ≠ some userId ∧
    ∃ seen asked, seen < asked ∧ asked < final.reads ∧
      ∃ member ∈ (course seen).deliveryMembers event.chatId, member.userId = userId ∧
        member.isUnmuted (course asked).now = true
  unreached : ∀ userId ∈ final.offlineUserIds, userId ∉ event.excludeUserIds.map Int.ofNat →
    (∀ gatewayId, timesNamed final.entries gatewayId userId = 0) ∧
      ∃ found < final.reads, ∀ gatewayId, ¬LeadsTo ((course found).userRoutes userId) gatewayId
  complete : ∀ userId, senderId.map Int.ofNat ≠ some userId →
    userId ∉ event.excludeUserIds.map Int.ofNat →
    (∀ read < final.reads, (course read).Active event.chatId userId) →
    (∀ seen asked, seen < asked → asked < final.reads →
      ∀ member ∈ (course seen).deliveryMembers event.chatId, member.userId = userId →
        member.isUnmuted (course asked).now = true) →
    userId ∈ final.offlineUserIds ∨ ∃ gatewayId, timesNamed final.entries gatewayId userId = 1

structure Looked (sizes : Sizes) (course : Course) (event : RoutedEvent) (final : Routing)
    (lookups : List Lookup) : Prop where
  told : Told sizes course event {} final lookups
  rising : (lookups.flatMap Lookup.members).Pairwise fun left right => left.userId < right.userId
  within : ∀ lookup ∈ lookups, lookup.Within course event final.reads
  complete : ∀ userId, (∀ read < final.reads, (course read).Active event.chatId userId) →
    ∃ lookup ∈ lookups, ∃ member ∈ lookup.members, member.userId = userId

theorem looked_of_routed {pages : Nat} {final : Routing}
    (routed : routeFanoutOnWrite sizes course event pages = some final) :
    ∃ lookups, Looked sizes course event final lookups := by
  obtain ⟨sources, batches, lookups, walks, known, whole, told, _, within⟩ := told_pages routed
  have distinct : ∀ items ∈ sources, (items.map DeliveryMember.userId).Nodup := by
    intro items member
    obtain ⟨read, _, rfl⟩ := known items member
    exact deliveryMembers_distinct _ _
  have flat : lookups.flatMap Lookup.members = batches.flatten := by
    rw [List.flatMap_def, whole]
  refine ⟨lookups, told, flat ▸ Walking.walks_sorted walks distinct, within, ?_⟩
  intro userId active
  have first : ∃ items, items ∈ sources := by
    cases walks with
    | ends _ => exact ⟨_, List.mem_cons_self⟩
    | goesOn _ _ => exact ⟨_, List.mem_cons_self⟩
  have ahead : Walking.Past (some (-1 : Int)) userId := by
    obtain ⟨items, member⟩ := first
    obtain ⟨read, before, rfl⟩ := known items member
    obtain ⟨found, inside, rfl⟩ := active read before
    obtain ⟨row, _, rfl⟩ := List.mem_map.mp inside
    exact Walking.past_some.mpr (by simp only; omega)
  obtain ⟨found, inside, same⟩ := Walking.walks_complete walks sizes.memberBatch_pos distinct
    (fun items member => by
      obtain ⟨read, before, rfl⟩ := known items member
      exact active read before) ahead
  obtain ⟨lookup, listed, own⟩ := List.mem_flatMap.mp (flat ▸ inside)
  exact ⟨lookup, listed, found, own, same⟩

section Looked

variable {final : Routing} {lookups : List Lookup} (looked : Looked sizes course event final lookups)
include looked

theorem Looked.apart : lookups.Pairwise fun left right => ∀ userId,
    (∃ member ∈ left.members, member.userId = userId) →
      ¬∃ member ∈ right.members, member.userId = userId := by
  have rising := looked.rising
  rw [List.flatMap_def, List.pairwise_flatten, List.pairwise_map] at rising
  refine rising.2.imp ?_
  rintro left right less userId ⟨first, early, rfl⟩ ⟨second, late, same⟩
  exact absurd same (ne_of_gt (less first early second late))

theorem Looked.named : timesNamed final.entries gatewayId userId ≤ 1 ∧
    (timesNamed final.entries gatewayId userId = 1 ↔
      ∃ lookup ∈ lookups, (lookup.routes course event).Covers gatewayId userId) := by
  have entries := looked.told.entries
  rw [List.nil_append] at entries
  rw [entries]
  refine timesNamed_flatMap (fun lookup _ => timesNamed_enqueue) (looked.apart.imp ?_)
  intro left right apart first second
  obtain ⟨index, known, _⟩ := covers_lookup.mp first
  obtain ⟨other, found, _⟩ := covers_lookup.mp second
  exact apart userId (mem_lookedUp.mp (List.mem_of_getElem? known)).1
    (mem_lookedUp.mp (List.mem_of_getElem? found)).1

theorem Looked.covers {lookup : Lookup} (member : lookup ∈ lookups)
    (covers : (lookup.routes course event).Covers gatewayId userId) :
    userId ∉ event.excludeUserIds.map Int.ofNat ∧ ∃ seen found, seen < found ∧
      found < final.reads ∧ (course seen).Active event.chatId userId ∧
        LeadsTo ((course found).userRoutes userId) gatewayId := by
  obtain ⟨index, known, leads⟩ := covers_lookup.mp covers
  obtain ⟨⟨row, inside, same⟩, kept⟩ := mem_lookedUp.mp (List.mem_of_getElem? known)
  obtain ⟨bounded, seen, before, rows⟩ := looked.within lookup member
  have short := (List.getElem?_eq_some_iff.mp known).1
  unfold Lookup.done at bounded
  exact ⟨kept, seen, lookup.reads + index, by omega, by omega, ⟨row, rows row inside, same⟩, leads⟩

theorem Looked.namesMembers : NamesMembers course event final where
  once _ _ := looked.named.1
  sound _ _ named := by
    obtain ⟨lookup, member, covers⟩ := looked.named.2.mp named
    exact looked.covers member covers
  complete gatewayId userId kept lasting := by
    obtain ⟨lookup, member, row, inside, same⟩ :=
      looked.complete userId fun read before => (lasting read before).1
    obtain ⟨index, known⟩ := List.mem_iff_getElem?.mp
      (mem_lookedUp.mpr ⟨⟨row, inside, same⟩, kept⟩)
    have short := (List.getElem?_eq_some_iff.mp known).1
    have bounded := (looked.within lookup member).1
    unfold Lookup.done at bounded
    refine looked.named.2.mpr ⟨lookup, member, covers_lookup.mpr ⟨index, known, ?_⟩⟩
    exact (lasting (lookup.reads + index) (by omega)).2

theorem Looked.same {userId : Int} {first second : Lookup} (early : first ∈ lookups)
    (late : second ∈ lookups) (own : ∃ member ∈ first.members, member.userId = userId)
    (other : ∃ member ∈ second.members, member.userId = userId) : first = second := by
  by_contra different
  have apart : lookups.Pairwise fun left right => ¬((∃ member ∈ left.members,
      member.userId = userId) ∧ ∃ member ∈ right.members, member.userId = userId) :=
    looked.apart.imp fun disjoint both => disjoint userId both.1 both.2
  have : Std.Symm fun left right : Lookup => ¬((∃ member ∈ left.members,
      member.userId = userId) ∧ ∃ member ∈ right.members, member.userId = userId) :=
    ⟨fun _ _ disjoint both => disjoint both.symm⟩
  exact apart.forall early late different ⟨own, other⟩

section Signalled

variable {senderId : Option UserId} (signal : offlineSignal? event = some senderId)
include signal

omit looked in
theorem mem_offline {lookup : Lookup} : userId ∈ lookup.offline course event ↔
    (∃ member ∈ lookup.members, member.isUnmuted (course (lookup.done event)).now = true ∧
      member.userId = userId) ∧
    (∀ gatewayId, ¬(lookup.routes course event).Covers gatewayId userId) ∧
      senderId.map Int.ofNat ≠ some userId := by
  rw [Lookup.offline, signal]
  simp only [mem_offlineRecipients, unmuted, List.mem_map, List.mem_filter, and_assoc]

theorem Looked.nodup_offline : final.offlineUserIds.Nodup := by
  have offline := looked.told.offline
  rw [List.nil_append] at offline
  rw [offline, List.nodup_flatMap]
  constructor
  · intro lookup _
    rw [Lookup.offline, signal]
    exact nodup_offlineRecipients _ _ _
  · refine looked.apart.imp ?_
    intro left right disjoint userId first second
    obtain ⟨⟨row, inside, _, same⟩, _⟩ := (mem_offline signal).mp first
    obtain ⟨⟨other, found, _, equal⟩, _⟩ := (mem_offline signal).mp second
    exact disjoint userId ⟨row, inside, same⟩ ⟨other, found, equal⟩

omit signal in
theorem Looked.mem_final : userId ∈ final.offlineUserIds ↔
    ∃ lookup ∈ lookups, userId ∈ lookup.offline course event := by
  have offline := looked.told.offline
  rw [List.nil_append] at offline
  rw [offline, List.mem_flatMap]

theorem Looked.listsOffline : ListsOffline course event final senderId where
  once := looked.nodup_offline signal
  sound userId listed := by
    obtain ⟨lookup, member, own⟩ := (looked.mem_final).mp listed
    obtain ⟨⟨row, inside, awake, same⟩, _, other⟩ := (mem_offline signal).mp own
    obtain ⟨bounded, seen, before, rows⟩ := looked.within lookup member
    refine ⟨other, seen, lookup.done event, ?_, bounded, row, rows row inside, same, awake⟩
    exact Nat.lt_of_lt_of_le before (Nat.le_add_right _ _)
  unreached userId listed kept := by
    obtain ⟨lookup, member, own⟩ := (looked.mem_final).mp listed
    obtain ⟨⟨row, inside, _, same⟩, uncovered, _⟩ := (mem_offline signal).mp own
    constructor
    · intro gatewayId
      have never : timesNamed final.entries gatewayId userId ≠ 1 := by
        intro named
        obtain ⟨other, found, covers⟩ := looked.named.2.mp named
        obtain ⟨index, known, _⟩ := covers_lookup.mp covers
        have theirs := (mem_lookedUp.mp (List.mem_of_getElem? known)).1
        rw [looked.same found member theirs ⟨row, inside, same⟩] at covers
        exact uncovered gatewayId covers
      have most : timesNamed final.entries gatewayId userId ≤ 1 := looked.named.1
      omega
    · obtain ⟨index, known⟩ := List.mem_iff_getElem?.mp
        (mem_lookedUp.mpr ⟨⟨row, inside, same⟩, kept⟩)
      have short := (List.getElem?_eq_some_iff.mp known).1
      have bounded := (looked.within lookup member).1
      unfold Lookup.done at bounded
      refine ⟨lookup.reads + index, by omega, fun gatewayId leads => ?_⟩
      exact uncovered gatewayId (covers_lookup.mpr ⟨index, known, leads⟩)
  complete userId other kept active awake := by
    obtain ⟨lookup, member, row, inside, same⟩ := looked.complete userId active
    by_cases reached : ∃ gatewayId, (lookup.routes course event).Covers gatewayId userId
    · obtain ⟨gatewayId, covers⟩ := reached
      exact .inr ⟨gatewayId, looked.named.2.mpr ⟨lookup, member, covers⟩⟩
    · left
      obtain ⟨bounded, seen, before, rows⟩ := looked.within lookup member
      refine (looked.mem_final).mpr ⟨lookup, member, (mem_offline signal).mpr
        ⟨⟨row, inside, ?_, same⟩, fun gatewayId covers => reached ⟨gatewayId, covers⟩, other⟩⟩
      exact awake seen (lookup.done event) (Nat.lt_of_lt_of_le before (Nat.le_add_right _ _))
        bounded row (rows row inside) same

end Signalled

end Looked

theorem routePages_isSome {userIds : List Int}
    (known : ∀ read, ∀ member ∈ (course read).deliveryMembers event.chatId,
      member.userId ∈ userIds) (pages : Nat) (lastUserId : Int) (routing : Routing)
    (enough : Walking.remaining (some lastUserId) userIds < pages) :
    (routePages sizes course event pages lastUserId routing).isSome := by
  induction pages generalizing lastUserId routing with
  | zero => omega
  | succ pages ih =>
      rw [routePages]
      split
      · rfl
      · rename_i last ends
        have member := (Walking.mem_batch (List.mem_of_getLast? ends)).1
        have fewer := Walking.remaining_lt ends (known routing.reads last member)
        exact ih last.userId _ (by omega)

/-- Over any changes between its reads a fan-out ends, names members, and lists who is offline. -/
theorem fanout_on_write {userIds : List Int} {pages : Nat}
    (known : ∀ read, ∀ member ∈ (course read).deliveryMembers event.chatId,
      member.userId ∈ userIds) (enough : userIds.length < pages) :
    ∃ final, routeFanoutOnWrite sizes course event pages = some final ∧
      NamesMembers course event final ∧
      (∀ senderId, offlineSignal? event = some senderId →
        ListsOffline course event final senderId) ∧
      (offlineSignal? event = none → final.offlineUserIds = []) := by
  have ends : (routePages sizes course event pages (-1) {}).isSome :=
    routePages_isSome known pages (-1) {} (Nat.lt_of_le_of_lt List.countP_le_length enough)
  obtain ⟨final, routed⟩ := Option.isSome_iff_exists.mp ends
  obtain ⟨lookups, looked⟩ := looked_of_routed routed
  refine ⟨final, routed, looked.namesMembers, fun senderId => looked.listsOffline, fun silent => ?_⟩
  have offline := looked.told.offline
  rw [List.nil_append] at offline
  rw [offline, List.flatMap_eq_nil_iff]
  intro lookup _
  rw [Lookup.offline, silent]

end Outcome

section Unchanging

variable (sizes : Sizes) (world : World) (event : RoutedEvent)

theorem excludes_nobody {senderId : Option UserId} (signal : offlineSignal? event = some senderId) :
    event.excludeUserIds = [] := by
  unfold offlineSignal? at signal
  split at signal
  · rfl
  · cases signal

variable {sizes world event}

theorem names_exactly {final : Routing} (names : NamesMembers (fun _ => world) event final)
    (gatewayId : String) (userId : Int) :
    timesNamed final.entries gatewayId userId = 1 ↔ userId ∉ event.excludeUserIds.map Int.ofNat ∧
      world.Active event.chatId userId ∧ LeadsTo (world.userRoutes userId) gatewayId := by
  constructor
  · intro named
    obtain ⟨kept, _, _, _, _, active, leads⟩ := names.sound gatewayId userId named
    exact ⟨kept, active, leads⟩
  · rintro ⟨kept, active, leads⟩
    exact names.complete gatewayId userId kept fun _ _ => ⟨active, leads⟩

theorem lists_exactly {final : Routing} {senderId : Option UserId}
    (names : NamesMembers (fun _ => world) event final)
    (lists : ListsOffline (fun _ => world) event final senderId)
    (signal : offlineSignal? event = some senderId) (userId : Int) :
    userId ∈ final.offlineUserIds ↔
      (∃ member ∈ world.deliveryMembers event.chatId, member.userId = userId ∧
        member.isUnmuted world.now = true) ∧
      (∀ gatewayId, ¬LeadsTo (world.userRoutes userId) gatewayId) ∧
      senderId.map Int.ofNat ≠ some userId := by
  have kept : userId ∉ event.excludeUserIds.map Int.ofNat := by
    rw [excludes_nobody event signal]
    exact List.not_mem_nil
  constructor
  · intro listed
    obtain ⟨other, _, _, _, _, member, inside, same, awake⟩ := lists.sound userId listed
    obtain ⟨_, _, _, nowhere⟩ := lists.unreached userId listed kept
    exact ⟨⟨member, inside, same, awake⟩, nowhere, other⟩
  · rintro ⟨⟨member, inside, same, awake⟩, nowhere, other⟩
    have own : ∀ found ∈ world.deliveryMembers event.chatId, found.userId = userId →
        found.isUnmuted world.now = true := by
      intro found listed equal
      have one : found = member := List.inj_on_of_nodup_map
        (deliveryMembers_distinct world event.chatId) listed inside (equal.trans same.symm)
      rw [one]
      exact awake
    rcases lists.complete userId other kept (fun _ _ => ⟨member, inside, same⟩)
      (fun _ _ _ _ => own) with listed | ⟨gatewayId, named⟩
    · exact listed
    · exact absurd ((names_exactly names gatewayId userId).mp named).2.2 (nowhere gatewayId)

variable (sizes world event)

theorem routeFanoutOnWrite_exact (more : Nat) :
    ∃ final, routeFanoutOnWrite sizes (fun _ => world) event
        ((world.deliveryMembers event.chatId).length + 1 + more) = some final ∧
      (∀ gatewayId userId, timesNamed final.entries gatewayId userId ≤ 1 ∧
        (timesNamed final.entries gatewayId userId = 1 ↔
          userId ∉ event.excludeUserIds.map Int.ofNat ∧ world.Active event.chatId userId ∧
            LeadsTo (world.userRoutes userId) gatewayId)) ∧
      ∀ senderId, offlineSignal? event = some senderId → final.offlineUserIds.Nodup ∧
        ∀ userId, userId ∈ final.offlineUserIds ↔
          (∃ member ∈ world.deliveryMembers event.chatId, member.userId = userId ∧
            member.isUnmuted world.now = true) ∧
          (∀ gatewayId, ¬LeadsTo (world.userRoutes userId) gatewayId) ∧
          senderId.map Int.ofNat ≠ some userId := by
  have enough : ((world.deliveryMembers event.chatId).map DeliveryMember.userId).length <
      (world.deliveryMembers event.chatId).length + 1 + more := by
    rw [List.length_map]
    omega
  obtain ⟨final, routed⟩ := Option.isSome_iff_exists.mp (@routePages_isSome sizes (fun _ => world)
    event _ (fun _ _ member => List.mem_map_of_mem member) _ (-1) {}
    (Nat.lt_of_le_of_lt List.countP_le_length enough))
  obtain ⟨lookups, looked⟩ := looked_of_routed routed
  have names := looked.namesMembers
  refine ⟨final, routed, fun gatewayId userId => ⟨names.once gatewayId userId,
    names_exactly names gatewayId userId⟩, fun senderId signal => ?_⟩
  have lists := looked.listsOffline signal
  exact ⟨lists.once, lists_exactly names lists signal⟩

end Unchanging

section Example

open Relational

def joiningDb (joined : Bool) : Db :=
  applyAll
    ([Write.insertChat { id := 1, type := .group, createdBy := 1, memberCount := 2 },
      Write.insertMember 1 1 .owner, Write.insertMember 1 2 .member] ++
      if joined then [Write.insertMember 1 3 .member] else []) {}

def joiningCourse : Course := fun read =>
  { db := joiningDb (decide (2 ≤ read))
    now := 5
    userRoutes := fun userId =>
      if userId = 1 then ["a:x"] else if userId = 2 then ["b:y", "a:", "a:z", "b:w"] else [] }

def oneByOne : Sizes where
  memberBatch := 1
  routeLookupBatch := 1
  usersPerEntry := 1
  memberBatch_pos := Nat.one_pos
  routeLookupBatch_pos := Nat.one_pos
  usersPerEntry_pos := Nat.one_pos

def greeting : RoutedEvent := .broker (.sendedMessage 10 1 1 (some 1) .text true)

theorem joining_known (read : Nat) :
    ∀ member ∈ (joiningCourse read).deliveryMembers greeting.chatId,
      member.userId ∈ [(1 : Int), 2, 3] := by
  unfold joiningCourse
  cases decide (2 ≤ read) with
  | false => decide +kernel
  | true => decide +kernel

/-- The third member joins after the first page and is listed; the second is named twice, once
for each of his gateways. -/
theorem fanout_while_joining : ∃ final,
    routeFanoutOnWrite oneByOne joiningCourse greeting 4 = some final ∧
      final.offlineUserIds = [3] ∧
      final.entries.map (fun entry => (entry.gatewayId, entry.recipients)) =
        [("a", [1]), ("b", [2]), ("a", [2])] ∧
      NamesMembers joiningCourse greeting final ∧
      ListsOffline joiningCourse greeting final (some 1) := by
  obtain ⟨final, routed, names, lists, _⟩ :=
    @fanout_on_write oneByOne joiningCourse greeting [1, 2, 3] 4 joining_known (by decide)
  have shown : (routeFanoutOnWrite oneByOne joiningCourse greeting 4).map (fun final =>
      (final.offlineUserIds, final.entries.map fun entry => (entry.gatewayId, entry.recipients))) =
        some ([3], [("a", [1]), ("b", [2]), ("a", [2])]) := by decide +kernel
  rw [routed, Option.map_some, Option.some.injEq, Prod.mk.injEq] at shown
  exact ⟨final, routed, shown.1, shown.2, names, lists (some 1) rfl⟩

end Example

end Messanger.Fanout
