import Mathlib.Algebra.GroupWithZero.Nat
import Messanger.Statements
import Messanger.Chats.CommandsCore

/-!
The usage of invite links while users join through them, links are revoked and requests approved.
`consume` is conditional and keeps the link locked until the join commits; `credit_usage` of an
approval is not, and is only made to links that have no limit.
-/

namespace Messanger

open Relational

inductive InviteCommand where
  | join (user : UserJWTData) (now : Nat) (code : String)
  | revoke (user : UserJWTData) (now : Nat) (chatId : ChatId) (inviteId : InviteId)
  | approve (user : UserJWTData) (now : Nat) (chatId : ChatId) (userIds : List UserId)
  deriving DecidableEq, Repr

def InviteCommand.program : InviteCommand → Handler Unit
  | .join user now code => (joinChatByInvite user now code).void
  | .revoke user now chatId inviteId => (revokeInviteLink user now chatId inviteId).void
  | .approve user now chatId userIds => (approveJoinRequests user now chatId userIds).void

section Counting

def Write.usageOf (inviteId : InviteId) : Write → Nat
  | .addUsage target count => if target = inviteId then count else 0
  | _ => 0

def Write.revokes? (inviteId : InviteId) : Write → Option Nat
  | .revokeInvite target revokedAt => if target = inviteId then some revokedAt else none
  | _ => none

def Write.admits (request : ChatJoinRequest) : Write → Bool
  | .insertMember chatId userId _ => chatId == request.chatId && userId == request.userId
  | _ => false

def Db.usageCount (db : Db) (inviteId : InviteId) : Nat :=
  ((db.invites.find? inviteId).map (·.usageCount)).getD 0

end Counting

section Links

def Asked (initial : Db) (request : ChatJoinRequest) : Prop :=
  ∀ inviteId, request.inviteLinkId = some inviteId →
    ∃ invite, initial.invites.find? inviteId = some invite ∧ invite.createsJoinRequest = true

def KeepsLinks (initial : Db) : Write → Prop
  | .insertInvite _ => False
  | .insertJoinRequest request => Asked initial request
  | .updateJoinRequest request => Asked initial request
  | _ => True

variable {initial db : Db} {inviteId : InviteId}

end Links

section Committing

variable {initial db : Db} {command : InviteCommand} {log : List Write}

end Committing

section Programs

variable {initial db : Db} {command : InviteCommand} {held : List RowKey} {log : List Write}

structure Plain (initial : Db) (write : Write) : Prop where
  keeps : KeepsLinks initial write
  unused : ∀ inviteId, write.usageOf inviteId = 0
  unrevoked : ∀ inviteId, write.revokes? inviteId = none

section Approval

variable {user : UserJWTData} {now : Nat} {chatId : ChatId} {userIds : List UserId}
  {target : ChatId} {role : ChatRoleId} {events : List ChatEvent} {seats : List Write}
  {accepted : List ChatJoinRequest} {added : ChatJoinRequest → Bool}

end Approval

end Programs

section Running

variable {initial : Db}

end Running

end Messanger
