import Messanger.Chats.ServicesCore

/-!
The message, pin and attachment handlers and the message queries.  Fresh ids, the answer of
the slow-mode script in Redis and the match of the text search in Postgres are arguments.
-/

namespace Messanger

open Relational

/-- A message row with the attachments loaded for it. -/
structure LoadedMessage where
  message : Message
  attachments : List MessageAttachment
  deriving DecidableEq, Repr

/-- `MessageDTO` as `message_load_options` fills it.  A nested message that the same answer also
lists may carry its own nested messages, which that entry of the list shows as well. -/
structure MessageDTO where
  body : LoadedMessage
  replyTo : Option LoadedMessage := none
  forwardedFrom : Option LoadedMessage := none
  deriving DecidableEq, Repr

namespace Db

variable (db : Db)

def attachmentsOf (messageId : MessageId) : List MessageAttachment :=
  (db.attachments.select fun attachment => attachment.messageId == some messageId).insertionSort
    fun left right => left.id ≤ right.id

def load (message : Message) : LoadedMessage := ⟨message, db.attachmentsOf message.id⟩

/-- `message_load_options()`: the nested messages are loaded by id alone. -/
def loadNested (message : Message) : MessageDTO where
  body := db.load message
  replyTo := (message.replyToId.bind db.message?).map db.load
  forwardedFrom := (message.forwardedFromMessageId.bind db.message?).map db.load

/-- `MessageRepository.get_by_id`. -/
def liveMessage? (messageId : MessageId) : Option Message :=
  (db.message? messageId).filter fun message => !message.isDeleted

def attachmentsByIds (ids : List AttachmentId) : List MessageAttachment :=
  db.attachments.select fun attachment => ids.contains attachment.id

/-- The messages of the chat that are not deleted and pass the further conditions. -/
def liveMessages (chatId : ChatId) (wanted : Message → Bool) : List Message :=
  db.messages.select fun message =>
    message.chatId == chatId && !message.isDeleted && wanted message

def pinnedCount (chatId : ChatId) : Nat :=
  db.pins.count fun pin => pin.chatId == chatId && (db.liveMessage? pin.messageId).isSome

variable {db}

theorem liveMessage_id {messageId : MessageId} {message : Message}
    (found : db.liveMessage? messageId = some message) : message.id = messageId :=
  Table.key_of_find? (Option.filter_eq_some_iff.mp found).1

theorem attachmentsByIds_wanted {ids : List AttachmentId}
    {attachment : MessageAttachment} (member : attachment ∈ db.attachmentsByIds ids) :
    attachment.id ∈ ids := by
  simp only [attachmentsByIds, Table.select, List.mem_filter, List.contains_iff_mem] at member
  exact member.2

end Db

section Statements

def getMessage (messageId : MessageId) : Handler (Option Message) :=
  Tx.read fun db => db.liveMessage? messageId

def getLoadedMessage (messageId : MessageId) : Handler (Option MessageDTO) :=
  Tx.read fun db => (db.liveMessage? messageId).map db.loadNested

def insertMessage (message : Message) : Handler Unit :=
  insertRow (.message message.id) (fun db => (db.message? message.id).isSome)
    (.insertMessage message)

def insertAttachment (attachment : MessageAttachment) : Handler Unit :=
  insertRow (.attachment attachment.id) (fun db => (db.attachment? attachment.id).isSome)
    (.insertAttachment attachment)

def bindAttachment (messageId : MessageId) (seq : Nat) (attachment : MessageAttachment) :
    Handler Unit :=
  updateRow (.attachment attachment.id) (fun db => (db.attachment? attachment.id).isSome)
    (.bindAttachment attachment.id messageId seq)

def sentEvent (message : Message) (notify : Bool) : ChatEvent :=
  .sendedMessage message.id message.chatId message.seq message.authorId message.type notify

/-- `DELETE … RETURNING message_id` over the pins of a chat. -/
def deletePins (chatId : ChatId) (wanted : ChatPinnedMessage → Bool) : Handler (List MessageId) :=
  let matched := fun (db : Db) => db.pins.select fun pin => pin.chatId == chatId && wanted pin
  Tx.statement (fun db => (matched db).map fun pin => .pin chatId pin.messageId)
    (fun db => (matched db).map fun pin => .deletePin chatId pin.messageId)
    fun db => .ok ((matched db).map (·.messageId))

end Statements

section Sending

variable (user : UserJWTData) (now : Nat)

/-- `MessageService.is_slow`; `slowTtl` is the rest of the time of a key already set. -/
def isSlow (now : Nat) (chat : Chat) (member : ChatMember) (slowTtl : Option Nat) :
    Except ChatError Unit :=
  if decide (chat.slowModeSeconds ≤ 0) || canBypassSlowMode now (some member) then .ok ()
  else
    match slowTtl with
    | none => .ok ()
    | some ttl => .error (.slowModeLimit chat.id (max 1 ttl))

structure NewMessage where
  content : Option String
  replyToId : Option MessageId := none
  messageType : MessageType := .text
  uploadTokens : List AttachmentId := []
  deriving DecidableEq, Repr

def sendMessage (chatId : ChatId) (new : NewMessage) (slowTtl : Option Nat) (id : MessageId) :
    Handler MessageDTO := do
  let found ← getChatAndMember chatId user.id
  Tx.require (canSendMessage user now found.chat (some found.member))
    (.accessDeniedChat chatId user.id)
  checked fun db => db.ensureCanMessage found.chat user.id
  Tx.ofExcept (isSlow now found.chat found.member slowTtl)
  let claimed ← Tx.read fun db => db.attachmentsByIds new.uploadTokens
  Tx.require (claimed.isEmpty || new.uploadTokens.length == claimed.length)
    (.attachmentNotFound none)
  checked fun db =>
    match new.replyToId with
    | none => .ok ()
    | some replyToId =>
        if (db.liveMessage? replyToId).isSome then .ok () else .error (.notFoundMessage replyToId)
  let allocated ← allocateMessageSeq chatId now 1
  let seq ← Tx.orRaise allocated (.notFoundChat chatId)
  let created ← Tx.ofExcept (Message.create
    { senderId := some user.id
      chatId := chatId
      content := new.content
      replyToId := new.replyToId
      messageType := new.messageType
      attachments := some claimed } id seq)
  insertMessage created.1
  Tx.each (bindAttachment id seq) created.2
  publish [sentEvent created.1 true]
  Tx.commitNow
  return { body := ⟨created.1, created.2⟩ }

/-- The copies `create_for_forward` makes of the attachments that were processed. -/
def forwardAttachments (attachments : List MessageAttachment) (chatId : ChatId)
    (fresh : Nat → AttachmentId) : List MessageAttachment :=
  (attachments.filter fun attachment => attachment.attachmentStatus == .success).mapIdx
    fun index attachment => attachment.createForForward (fresh index) chatId

theorem forwardAttachments_ok {attachments : List MessageAttachment} {chatId : ChatId}
    {fresh : Nat → AttachmentId} :
    ∀ copy ∈ forwardAttachments attachments chatId fresh,
      copy.chatId = chatId ∧ copy.sourceAttachmentId.isSome := by
  intro copy member
  obtain ⟨index, _, rfl⟩ := List.mem_mapIdx.mp member
  exact ⟨rfl, rfl⟩

def saveMessage (created : Message × List MessageAttachment) : Handler Unit := do
  insertMessage created.1
  Tx.each insertAttachment created.2

structure ForwardSource where
  chatId : ChatId
  messageId : MessageId
  deriving DecidableEq, Repr

def forwardMessage (source : ForwardSource) (targetChatId : ChatId) (comment : Option String)
    (slowTtl : Option Nat) (id : MessageId) (fresh : Nat → AttachmentId) : Handler MessageDTO := do
  let sourceRow ← getMemberChat source.chatId user.id
  let sourceMember ← Tx.orRaise sourceRow (.notChatMember source.chatId user.id)
  let loaded ← getLoadedMessage source.messageId
  let original ← Tx.orRaise loaded (.notFoundMessage source.messageId)
  Tx.require (original.body.message.chatId == source.chatId) (.notFoundMessage source.messageId)
  Tx.require (hasPermissions user now (some sourceMember) [.messageRead])
    (.accessDeniedChat source.chatId user.id)
  let target ← getChatAndMember targetChatId user.id
  Tx.require (canSendMessage user now target.chat (some target.member))
    (.accessDeniedChat targetChatId user.id)
  checked fun db => db.ensureCanMessage target.chat user.id
  Tx.ofExcept (isSlow now target.chat target.member slowTtl)
  let allocated ← allocateMessageSeq targetChatId now 1
  let seq ← Tx.orRaise allocated (.notFoundChat targetChatId)
  let message := original.body.message
  let created ← Tx.ofExcept (Message.create
    { senderId := some user.id
      chatId := targetChatId
      content := (comment.filter fun text => text.length != 0).or message.content
      messageType := .forward
      forwardedFromChatId := message.forwardedFromChatId.or (some message.chatId)
      forwardedFromMessageId := message.forwardedFromMessageId.or (some message.id)
      forwardedFromAuthorId := message.forwardedFromAuthorId.or message.authorId
      attachments := some (forwardAttachments original.body.attachments target.chat.id fresh) }
    id seq)
  saveMessage created
  publish [sentEvent created.1 true]
  Tx.commitNow
  return { body := ⟨created.1, created.2⟩ }

/-- `Message.create_forward`: the draft of one copy. -/
def forwardDraft (senderId : UserId) (chatId : ChatId) (hideAuthor notify : Bool)
    (fresh : Nat → AttachmentId) (source : LoadedMessage) : Message.Draft :=
  let attachments := some (forwardAttachments source.attachments chatId fresh)
  let message := source.message
  if hideAuthor then
    { senderId := some senderId
      chatId := chatId
      content := message.content
      messageType := message.copyType source.attachments
      attachments := attachments
      notify := notify }
  else
    let isForward := message.type = .forward
    { senderId := some senderId
      chatId := chatId
      content := message.content
      messageType := .forward
      forwardedFromChatId := if isForward then message.forwardedFromChatId else some message.chatId
      forwardedFromMessageId := if isForward then message.forwardedFromMessageId else some message.id
      forwardedFromAuthorId := if isForward then message.forwardedFromAuthorId else message.authorId
      attachments := attachments
      notify := notify }

/-- `_build_messages`: the comment first, then the copies, with consecutive numbers. -/
def forwardDrafts (senderId : UserId) (chatId : ChatId) (hideAuthor : Bool)
    (comment : Option String) (fresh : Nat → Nat → AttachmentId) (sources : List LoadedMessage) :
    List Message.Draft :=
  (match comment with
    | none => []
    | some text =>
        [{ senderId := some senderId, chatId := chatId, content := some text
           messageType := .text, notify := false }]) ++
    sources.mapIdx fun index source =>
      forwardDraft senderId chatId hideAuthor (index + 1 == sources.length) (fresh index) source

theorem forwardDrafts_ok {senderId : UserId} {chatId : ChatId} {hideAuthor : Bool}
    {comment : Option String} {fresh : Nat → Nat → AttachmentId} {sources : List LoadedMessage} :
    ∀ draft ∈ forwardDrafts senderId chatId hideAuthor comment fresh sources,
      draft.senderId = some senderId ∧ draft.chatId = chatId ∧ draft.replyToId = none ∧
        ∀ copy ∈ draft.attachments.getD [],
          copy.chatId = chatId ∧ copy.sourceAttachmentId.isSome := by
  intro draft member
  rcases List.mem_append.mp member with commented | copied
  · cases comment with
    | none => cases commented
    | some text =>
        rw [List.mem_singleton.mp commented]
        simp
  · obtain ⟨index, _, rfl⟩ := List.mem_mapIdx.mp copied
    unfold forwardDraft
    split
    · exact ⟨rfl, rfl, rfl, forwardAttachments_ok⟩
    · exact ⟨rfl, rfl, rfl, forwardAttachments_ok⟩

/-- Creates the drafts with the numbers from `seq` on. -/
def buildMessages (ids : Nat → MessageId) (firstSeq : Nat) (drafts : List Message.Draft) :
    Except ChatError (List (Message × List MessageAttachment)) :=
  (drafts.mapIdx fun index draft => (index, draft)).mapM fun (index, draft) =>
    Message.create draft (ids index) (firstSeq + index)

theorem mapM_ok {Item Made Error : Type} {make : Item → Except Error Made} :
    ∀ {items : List Item} {made : List Made}, items.mapM make = .ok made →
      List.Forall₂ (fun item result => make item = .ok result) items made := by
  intro items
  induction items with
  | nil =>
      intro made mapped
      cases mapped
      exact .nil
  | cons item rest ih =>
      intro made mapped
      simp only [List.mapM_cons, bind, Except.bind, pure, Except.pure] at mapped
      split at mapped
      · cases mapped
      · rename_i first firstMade
        split at mapped
        · cases mapped
        · rename_i others othersMade
          cases mapped
          exact .cons firstMade (ih othersMade)

theorem buildMessages_at {ids : Nat → MessageId} {firstSeq : Nat} {drafts : List Message.Draft}
    {created : List (Message × List MessageAttachment)}
    (built : buildMessages ids firstSeq drafts = .ok created) :
    ∀ entry ∈ created, ∃ index draft, drafts[index]? = some draft ∧
      Message.create draft (ids index) (firstSeq + index) = .ok entry := by
  intro entry member
  obtain ⟨position, here, rfl⟩ := List.mem_iff_getElem.mp member
  have made := mapM_ok built
  have shorter : position < (drafts.mapIdx fun index draft => (index, draft)).length := by
    rw [made.length_eq]
    exact here
  have step := made.get shorter here
  simp only [List.get_eq_getElem, List.getElem_mapIdx] at step
  exact ⟨position, _, List.getElem?_eq_getElem _, step⟩

theorem buildMessages_ok {ids : Nat → MessageId} {firstSeq : Nat} {drafts : List Message.Draft}
    {created : List (Message × List MessageAttachment)}
    (built : buildMessages ids firstSeq drafts = .ok created) :
    ∀ entry ∈ created, ∃ index, ∃ draft ∈ drafts,
      Message.create draft (ids index) (firstSeq + index) = .ok entry := by
  intro entry member
  obtain ⟨index, draft, placed, made⟩ := buildMessages_at built entry member
  exact ⟨index, draft, List.mem_of_getElem? placed, made⟩

def ensureSlowMode (now : Nat) (chat : Chat) (member : ChatMember) (total : Nat)
    (slowTtl : Option Nat) : Except ChatError Unit :=
  if decide (chat.slowModeSeconds ≤ 0) || canBypassSlowMode now (some member) then .ok ()
  else if 1 < total then .error (.slowModeMultipleMessages chat.id total)
  else isSlow now chat member slowTtl

def forwardMessages (sourceChatId : ChatId) (sourceMessageIds : List MessageId)
    (targetChatId : ChatId) (hideAuthor : Bool) (comment : Option String) (slowTtl : Option Nat)
    (ids : Nat → MessageId) (fresh : Nat → Nat → AttachmentId) : Handler (List LoadedMessage) := do
  let sourceIds := sourceMessageIds.eraseDups
  let sourceRow ← getMemberChat sourceChatId user.id
  let sourceMember ← Tx.orRaise sourceRow (.notChatMember sourceChatId user.id)
  Tx.require (!sourceMember.isBanned now) (.notChatMember sourceChatId user.id)
  Tx.require (hasPermissions user now (some sourceMember) [.messageRead])
    (.accessDeniedChat sourceChatId user.id)
  let sources ← Tx.read fun db =>
    ((db.liveMessages sourceChatId fun message => sourceIds.contains message.id).insertionSort
      fun left right => left.seq ≤ right.seq).map db.load
  Tx.require (!sources.isEmpty) (.notFoundMessage (sourceIds.headD 0))
  let forwardable := sources.filter fun source => source.message.isForwardable source.attachments
  Tx.require (!forwardable.isEmpty) (.invalidMessage "selected messages have nothing to forward")
  let target ← getChatAndMember targetChatId user.id
  Tx.require (canSendMessage user now target.chat (some target.member))
    (.accessDeniedChat targetChatId user.id)
  checked fun db => db.ensureCanMessage target.chat user.id
  let drafts := forwardDrafts user.id targetChatId hideAuthor (Message.cleaned comment) fresh
    forwardable
  Tx.ofExcept (ensureSlowMode now target.chat target.member drafts.length slowTtl)
  let allocated ← allocateMessageSeq targetChatId now drafts.length
  let lastSeq ← Tx.orRaise allocated (.notFoundChat targetChatId)
  let created ← Tx.ofExcept (buildMessages ids (lastSeq - drafts.length + 1) drafts)
  Tx.each saveMessage created
  publish (List.zipWith (fun (entry : Message × List MessageAttachment) (draft : Message.Draft) =>
    sentEvent entry.1 draft.notify) created drafts)
  Tx.commitNow
  return created.map fun entry => ⟨entry.1, entry.2⟩

def editMessage (chatId : ChatId) (messageId : MessageId) (newContent : String) :
    Handler LoadedMessage := do
  let found ← getMessage messageId
  let message ← Tx.orRaise found (.notFoundMessage messageId)
  Tx.require (message.chatId == chatId) (.notFoundMessage messageId)
  Tx.require (message.authorId == some user.id) (.accessDeniedChat chatId user.id)
  Tx.ofExcept (Message.validateContent (some newContent))
  updateRow (.message messageId) (fun db => (db.message? messageId).isSome)
    (.editMessage messageId (some newContent))
  publish [.modifiedMessage messageId chatId message.seq user.id]
  Tx.commitNow
  return ⟨{ message with
    content := some newContent, isEdited := true
    hasLinks := Message.containsLink (some newContent) }, []⟩

def deleteMessage (chatId : ChatId) (messageId : MessageId) : Handler Unit := do
  let found ← getMessage messageId
  let message ← Tx.orRaise found (.notFoundMessage messageId)
  Tx.require (message.chatId == chatId) (.notFoundMessage messageId)
  let row ← getMemberChat chatId user.id
  let member ← Tx.orRaise row (.notChatMember chatId user.id)
  Tx.require (message.authorId == some user.id ||
    hasPermissions user now (some member) [.messageDelete]) (.accessDeniedChat chatId user.id)
  let unpinned ← deletePins chatId fun pin => pin.messageId == messageId
  updateRow (.message messageId) (fun db => (db.message? messageId).isSome)
    (.deleteMessage messageId)
  publish (.deletedMessage messageId chatId message.seq user.id ::
    if unpinned.isEmpty then [] else [.unpinnedMessages chatId [messageId] user.id false])
  Tx.commitNow
  return ()

def Chat.pinMessage (chat : Chat) (message : Message) (pinnedBy : UserId) (pinnedCount now : Nat) :
    Except ChatError ChatPinnedMessage :=
  if message.chatId ≠ chat.id ∨ message.isDeleted = true then
    .error (.notFoundMessage message.id)
  else if message.type = .system then
    .error (.invalidMessage "system messages cannot be pinned")
  else if 100 ≤ pinnedCount then .error (.pinnedMessagesLimitExceeded chat.id 100)
  else
    .ok { chatId := chat.id, messageId := message.id, messageSeq := message.seq
          pinnedBy := pinnedBy, pinnedAt := now }

structure PinnedMessageDTO where
  message : MessageDTO
  pinnedBy : UserId
  pinnedAt : Nat
  deriving DecidableEq, Repr

def pinMessage (chatId : ChatId) (messageId : MessageId) (noticeId : MessageId) :
    Handler PinnedMessageDTO := do
  let found ← getByIdForUpdate chatId
  let chat ← Tx.orRaise found (.notFoundChat chatId)
  let member ← getMemberChat chatId user.id
  Tx.ofExcept (ensureCanPin user now member chatId)
  let loaded ← getLoadedMessage messageId
  let message ← Tx.orRaise loaded (.notFoundMessage messageId)
  Tx.require (message.body.message.chatId == chatId) (.notFoundMessage messageId)
  let existing ← Tx.read fun db => db.pins.find? (chatId, messageId)
  match existing with
  | some pin => return ⟨message, pin.pinnedBy, pin.pinnedAt⟩
  | none => do
      let pinned ← Tx.read fun db => db.pinnedCount chatId
      let pin ← Tx.ofExcept (chat.pinMessage message.body.message user.id pinned now)
      let allocated ← allocateMessageSeq chatId now 1
      let seq ← Tx.orRaise allocated (.notFoundChat chatId)
      let notice ← Tx.ofExcept (Message.create
        { senderId := some user.id
          chatId := chatId
          content := none
          replyToId := some message.body.message.id
          messageType := .system
          action := some .messagePinned } noticeId seq)
      insertMessage notice.1
      insertRow (.pin chatId messageId) (fun db => (db.pins.find? pin.key).isSome) (.insertPin pin)
      publish [.pinnedMessage chatId messageId message.body.message.seq user.id now,
        sentEvent notice.1 true]
      Tx.commitNow
      return ⟨message, pin.pinnedBy, pin.pinnedAt⟩

def unpinMessages (chatId : ChatId) (messageId : Option MessageId) : Handler Unit := do
  let found ← getById chatId
  let _ ← Tx.orRaise found (.notFoundChat chatId)
  let member ← getMemberChat chatId user.id
  Tx.ofExcept (ensureCanPin user now member chatId)
  let unpinned ← deletePins chatId fun pin =>
    match messageId with
    | none => true
    | some messageId => pin.messageId == messageId
  if unpinned.isEmpty then return ()
  else do
    publish [.unpinnedMessages chatId unpinned user.id messageId.isNone]
    Tx.commitNow
    return ()

end Sending

end Messanger
