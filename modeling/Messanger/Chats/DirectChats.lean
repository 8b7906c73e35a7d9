import Messanger.Library.Journal
import Messanger.Chats.CommandsCore

/-!
Direct chats of two users while the chats are created, left and deleted.  `get_direct_chat` is all
that keeps a second one from being made: it reads without a lock, sees private chats only and does
not look at `deleted_at`.
-/

namespace Messanger

open Relational

inductive DirectCommand where
  | create (user : UserJWTData) (new : NewChat) (id : ChatId)
  | leave (user : UserJWTData) (chatId : ChatId)
  | delete (user : UserJWTData) (now : Nat) (chatId : ChatId)
  deriving DecidableEq, Repr

abbrev DirectJournal := Journal Db Write RowKey (Except ChatError Chat) DirectCommand

/-- The handler of a command; the session of a created chat ends with the answer. -/
def DirectCommand.program : DirectCommand → Tx Db Write RowKey (Except ChatError Chat) Unit
  | .create user new id => (createChat user new id).reporting
  | .leave user chatId => (leaveChat user chatId).mapError .error
  | .delete user now chatId => (deleteChat user now chatId).mapError .error

/-- The chat that the session of a creation has answered with. -/
def DirectJournal.answer (journal : DirectJournal) (index : Nat) : Option Chat :=
  match journal.system.sessions[index]? with
  | some ⟨_, _, .raise (.ok chat)⟩ => some chat
  | _ => none

section Rows

variable {a b : UserId} {db : Db} {chat : Chat}

def Quiet : Write → Prop
  | .patchChat _ patch => patch.deletedAt ≠ some none
  | .shiftMemberCount _ _ => True
  | .deleteMember _ _ _ => True
  | .publish _ => True
  | _ => False

end Rows

section Creation

variable {a b : UserId} {user : UserJWTData} {new : NewChat} {id : ChatId} {created : CreatedChat}

section Committed

variable {db : Db} {chat : Chat}

end Committed

end Creation

section Running

variable {a b : UserId}

variable {db : Db} {command : DirectCommand} {held : List RowKey} {log : List Write}

end Running

end Messanger
