import Messanger.Chats.CommandsCore

/-!
The members of a new chat.  The list of the client is taken as it comes, less one occurrence of the
creator.
-/

namespace Messanger

def Chat.founderRole : ChatType → ChatRoleId
  | .direct => .directMember
  | .group => .owner
  | .supergroup => .owner
  | .channel => .owner

/-- What a created chat should be: the creator and the other listed users are its members, once each
and with the roles of the type; they are counted, within the limit, and the event names the others. -/
structure CreatedChat.Founded (created : CreatedChat) (createdBy : UserId) (new : NewChat) :
    Prop where
  distinct : (created.roles.map Prod.fst).Nodup
  creator : (createdBy, Chat.founderRole new.chatType) ∈ created.roles
  listed : ∀ userId ∈ new.memberIds, userId ≠ createdBy →
    (userId, Chat.defaultMemberRole new.chatType) ∈ created.roles
  only : ∀ userId ∈ created.roles.map Prod.fst, userId = createdBy ∨ userId ∈ new.memberIds
  counted : created.chat.memberCount = created.roles.length
  limited : created.roles.length ≤ Chat.memberLimit new.chatType
  announced : created.memberIds.Perm
    ((created.roles.map Prod.fst).filter fun userId => userId != createdBy)

/-- The checks of `Chat.create` on the list that is left and on the slow mode. -/
def NewChat.Refused (new : NewChat) (createdBy : UserId) : Prop :=
  let memberIds := new.memberIds.erase createdBy
  (new.chatType = .direct ∧ (memberIds.length ≠ 1 ∨ memberIds.head? = some createdBy)) ∨
    200000 < memberIds.length ∨ Chat.memberLimit new.chatType < memberIds.length + 1 ∨
    new.slowModeSeconds < 0 ∨ 86400 < new.slowModeSeconds

section Creation

variable {createdBy : UserId} {new : NewChat} {id : ChatId}

theorem initialRoles_eq {memberIds : List UserId}
    (single : new.chatType = .direct → memberIds.length = 1) :
    initialRoles new.chatType createdBy memberIds =
      (createdBy, Chat.founderRole new.chatType) ::
        memberIds.map (·, Chat.defaultMemberRole new.chatType) := by
  cases chatType : new.chatType with
  | direct =>
      rw [initialRoles, List.take_of_length_le (Nat.le_of_eq (single chatType))]
      rfl
  | group => rfl
  | supergroup => rfl
  | channel => rfl

theorem validateSlowMode_ok {seconds : Int} :
    validateSlowMode seconds = .ok () ↔ ¬ (seconds < 0 ∨ 86400 < seconds) := by
  unfold validateSlowMode
  split
  · rename_i outside
    simp [outside]
  · rename_i inside
    simp [inside]

theorem create_shape {created : CreatedChat} (built : Chat.create createdBy new id = .ok created) :
    created.memberIds = new.memberIds.erase createdBy ∧
      created.roles = initialRoles new.chatType createdBy (new.memberIds.erase createdBy) ∧
      created.chat.memberCount = created.roles.length := by
  simp only [Chat.create, bind, Except.bind, pure, Except.pure, throw, throwThe,
    MonadExceptOf.throw] at built
  repeat' split at built
  all_goals cases built
  exact ⟨rfl, rfl, rfl⟩

theorem create_built (passed : ¬ new.Refused createdBy) :
    ∃ created, Chat.create createdBy new id = .ok created ∧
      created.memberIds = new.memberIds.erase createdBy ∧
      created.roles = (createdBy, Chat.founderRole new.chatType) ::
        (new.memberIds.erase createdBy).map (·, Chat.defaultMemberRole new.chatType) ∧
      created.chat.memberCount = created.roles.length ∧
      created.roles.length ≤ Chat.memberLimit new.chatType := by
  simp only [NewChat.Refused, not_or] at passed
  obtain ⟨direct, few, fits, slow⟩ := passed
  have mode := validateSlowMode_ok.mpr (not_or.mpr slow)
  have single : new.chatType = .direct → (new.memberIds.erase createdBy).length = 1 := by
    intro isDirect
    by_contra other
    exact direct ⟨isDirect, .inl other⟩
  have built : ∃ created, Chat.create createdBy new id = .ok created := by
    simp only [Chat.create, bind, Except.bind, pure, Except.pure, throw, throwThe,
      MonadExceptOf.throw, if_neg direct, if_neg few, if_neg fits, mode]
    exact ⟨_, rfl⟩
  obtain ⟨created, built⟩ := built
  obtain ⟨memberIds, roles, counted⟩ := create_shape built
  rw [initialRoles_eq single] at roles
  refine ⟨created, built, memberIds, roles, counted, ?_⟩
  rw [roles, List.length_cons, List.length_map]
  omega

theorem create_refused (refused : new.Refused createdBy) :
    ∃ error, Chat.create createdBy new id = .error error := by
  simp only [Chat.create, bind, Except.bind, pure, Except.pure, throw, throwThe, MonadExceptOf.throw]
  by_cases direct : new.chatType = .direct ∧ ((new.memberIds.erase createdBy).length ≠ 1 ∨
      (new.memberIds.erase createdBy).head? = some createdBy)
  · exact ⟨_, by rw [if_pos direct]⟩
  · by_cases many : 200000 < (new.memberIds.erase createdBy).length
    · exact ⟨_, by rw [if_neg direct, if_pos many]⟩
    · by_cases full : Chat.memberLimit new.chatType < (new.memberIds.erase createdBy).length + 1
      · exact ⟨_, by rw [if_neg direct, if_neg many, if_pos full]⟩
      · rcases refused with one | two | three | slow
        · exact absurd one direct
        · exact absurd two many
        · exact absurd three full
        · have mode : validateSlowMode new.slowModeSeconds =
              .error (.slowModeOutOfRange new.slowModeSeconds) := if_pos slow
          refine ⟨.slowModeOutOfRange new.slowModeSeconds, ?_⟩
          simp only [if_neg direct, if_neg many, if_neg full, mode]

theorem nodup_cons_erase (memberIds : List UserId) (createdBy : UserId) :
    (createdBy :: memberIds.erase createdBy).Nodup ↔ memberIds.Nodup := by
  by_cases listed : createdBy ∈ memberIds
  · exact (List.perm_cons_erase listed).nodup_iff.symm
  · rw [List.erase_of_not_mem listed, List.nodup_cons]
    exact ⟨And.right, fun distinct => ⟨listed, distinct⟩⟩

theorem founded_iff {created : CreatedChat}
    (memberIds : created.memberIds = new.memberIds.erase createdBy)
    (roles : created.roles = (createdBy, Chat.founderRole new.chatType) ::
      (new.memberIds.erase createdBy).map (·, Chat.defaultMemberRole new.chatType))
    (counted : created.chat.memberCount = created.roles.length)
    (limited : created.roles.length ≤ Chat.memberLimit new.chatType) :
    created.Founded createdBy new ↔ new.memberIds.Nodup := by
  have users : created.roles.map Prod.fst = createdBy :: new.memberIds.erase createdBy := by
    rw [roles, List.map_cons, List.map_map]
    exact congrArg (createdBy :: ·) (List.map_id _)
  rw [← nodup_cons_erase new.memberIds createdBy, ← users]
  refine ⟨fun founded => founded.distinct, fun distinct => ?_⟩
  refine ⟨distinct, ?_, fun userId listed apart => ?_, fun userId member => ?_, counted, limited, ?_⟩
  · rw [roles]
    exact List.mem_cons_self
  · rw [roles]
    refine List.mem_cons_of_mem _ (List.mem_map.mpr ⟨userId, ?_, rfl⟩)
    exact (List.mem_erase_of_ne apart).mpr listed
  · rw [users] at member
    exact (List.mem_cons.mp member).imp_right List.mem_of_mem_erase
  · rw [users, List.nodup_cons] at distinct
    rw [memberIds, users, List.filter_cons_of_neg (by simp), List.filter_eq_self.mpr]
    intro userId member
    exact bne_iff_ne.mpr fun same => distinct.1 (same ▸ member)

/-- A chat is created as it should be just when the request is refused or nobody is listed twice. -/
theorem create_founded_iff (createdBy : UserId) (new : NewChat) (id : ChatId) :
    (∀ created, Chat.create createdBy new id = .ok created → created.Founded createdBy new) ↔
      new.Refused createdBy ∨ new.memberIds.Nodup := by
  by_cases refused : new.Refused createdBy
  · obtain ⟨error, raised⟩ := @create_refused createdBy new id refused
    refine ⟨fun _ => .inl refused, fun _ created built => ?_⟩
    cases raised.symm.trans built
  · obtain ⟨created, built, memberIds, roles, counted, limited⟩ :=
      @create_built createdBy new id refused
    have sharp := founded_iff memberIds roles counted limited
    rw [or_iff_right refused, ← sharp]
    refine ⟨fun founded => founded created built, fun founded other same => ?_⟩
    cases built.symm.trans same
    exact founded

/-- User 2 is listed twice. -/
theorem listed_twice : ¬ ∀ (createdBy : UserId) (new : NewChat) (id : ChatId) (created : CreatedChat),
    Chat.create createdBy new id = .ok created → created.Founded createdBy new := by
  intro claim
  have founded := claim 1 { chatType := .group, memberIds := [2, 2] } 7 _ rfl
  exact absurd founded.distinct (by decide)

end Creation

end Messanger
