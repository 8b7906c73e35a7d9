import Messanger.Chats.Models
import Messanger.Core.Idempotency
import Messanger.Library.Integers
import Messanger.Library.Texts

/-!
The requests that post messages under an `Idempotency-Key`, and the keys of Redis they use.  The
client's key comes last in both, so the one ambiguity left is the suffix of the lock.
-/

namespace Messanger

open KeyValue

inductive ChatIdempotencyScope where
  | sendMessage
  | forwardMessage
  | forwardMessages
  deriving DecidableEq, Repr

def ChatIdempotencyScope.value : ChatIdempotencyScope → String
  | .sendMessage => "chats.message.send"
  | .forwardMessage => "chats.message.forward"
  | .forwardMessages => "chats.message.forward_many"

/-- A request that carries a key, with the id of its token and the chat of its path. -/
structure IdempotentRequest where
  scope : ChatIdempotencyScope
  userId : UserId
  chatId : ChatId
  key : String
  isUuid : chatId < 2 ^ 128
  given : key ≠ ""
  deriving DecidableEq

namespace IdempotentRequest

variable {Error Result : Type}

def owner (request : IdempotentRequest) : List String :=
  [toString request.userId, Python.strUuid request.chatId]

def resultKey (request : IdempotentRequest) : String :=
  IdempotencyStore.resultKey request.scope.value request.owner request.key

def lockKey (request : IdempotentRequest) : String :=
  IdempotencyStore.lockKey request.scope.value request.owner request.key

def call (models : ChatIdempotencyScope → ResultModel Result) (request : IdempotentRequest) :
    Task (Except Error Result) (Except (RunError Error) Result) :=
  IdempotencyStore.run request.scope.value request.owner (models request.scope) (some request.key)

/-- The two keys of one request are not among those of the other. -/
def KeysApart (first second : IdempotentRequest) : Prop :=
  (first.resultKey ≠ second.resultKey ∧ first.resultKey ≠ second.lockKey) ∧
    first.lockKey ≠ second.resultKey ∧ first.lockKey ≠ second.lockKey

/-- The request whose result goes where this one has its lock. -/
def suffixed (request : IdempotentRequest) : IdempotentRequest :=
  { request with
    key := request.key ++ ":lock"
    given := by
      intro empty
      simpa using congrArg String.length empty }

def begun (Error : Type) (models : ChatIdempotencyScope → ResultModel Result)
    (requests : List IdempotentRequest) (keys : String → Option String) :
    IdempotencyStore.Calls Error Result :=
  ⟨keys, requests.map (call models), []⟩

/-- In whichever order the calls act and the keys expire, each call gets on as it would if only the
calls with its own scope, owner and key acted. -/
def Undisturbed (Error : Type) (models : ChatIdempotencyScope → ResultModel Result)
    (requests : List IdempotentRequest) : Prop :=
  ∀ keys schedule site, (begun Error models requests keys).follow schedule = some site →
    ∀ request ∈ requests, ∃ alone,
      (begun Error models requests keys).follow
          (schedule.filter (Turn.isOf fun index => requests[index]? == some request)) =
            some alone ∧
        ∀ index : Nat, requests[index]? = some request → site.tasks[index]? = alone.tasks[index]?

section Keys

theorem colon_not_mem_userId (userId : UserId) : ':' ∉ (toString userId).toList := by
  simpa using Python.colon_not_mem_toDigits userId

theorem toString_userId_injective {first second : UserId}
    (same : toString first = toString second) : first = second := by
  have digits : Nat.toDigits 10 first = Nat.toDigits 10 second := by
    simpa using congrArg String.toList same
  have values := congrArg (Nat.ofDigitChars 10 · 0) digits
  simpa using values

theorem colon_not_mem_uuid (id : Nat) : ':' ∉ (Python.strUuid id).toList := by
  have digits : ∀ digit : Fin 16, Python.hexDigit digit ≠ ':' := by decide
  intro member
  rw [Python.strUuid, String.toList_ofList] at member
  rcases Python.uuidChars_cases member with colon | ⟨digit, small, same⟩
  · revert colon
    decide
  · exact digits ⟨digit, small⟩ same.symm

theorem colon_not_mem_value (scope : ChatIdempotencyScope) : ':' ∉ scope.value.toList := by
  cases scope
  all_goals decide +kernel

theorem value_injective {first second : ChatIdempotencyScope} (same : first.value = second.value) :
    first = second := by
  cases first
  all_goals cases second
  all_goals first | rfl | simp [ChatIdempotencyScope.value] at same

def fields (request : IdempotentRequest) : List (List Char) :=
  [request.scope.value.toList, (toString request.userId).toList,
    (Python.strUuid request.chatId).toList]

theorem fields_plain (request : IdempotentRequest) : ∀ field ∈ request.fields, ':' ∉ field := by
  simp only [fields, List.mem_cons, List.not_mem_nil, or_false, forall_eq_or_imp, forall_eq]
  exact ⟨colon_not_mem_value _, colon_not_mem_userId _, colon_not_mem_uuid _⟩

theorem resultKey_chars (request : IdempotentRequest) :
    request.resultKey.toList =
      "idempotency:".toList ++ Texts.joined ':' request.key.toList request.fields := by
  have owner : ":".intercalate request.owner =
      toString request.userId ++ ":" ++ Python.strUuid request.chatId := rfl
  unfold resultKey IdempotencyStore.resultKey
  simp [owner, Texts.joined, fields]

theorem resultKey_injective {first second : IdempotentRequest}
    (same : first.resultKey = second.resultKey) : first = second := by
  have chars := congrArg String.toList same
  rw [resultKey_chars, resultKey_chars, List.append_cancel_left_eq] at chars
  have count : first.fields.length = second.fields.length := by simp [fields]
  obtain ⟨parts, keys⟩ :=
    Texts.joined_injective (fields_plain first) (fields_plain second) count chars
  simp only [fields, List.cons.injEq, and_true, String.toList_inj] at parts keys
  obtain ⟨scopes, users, uuids⟩ := parts
  obtain ⟨scope, userId, chatId, key, isUuid, given⟩ := first
  have scopeEq := value_injective scopes
  have userEq := toString_userId_injective users
  have chatEq := Python.strUuid_injective isUuid second.isUuid uuids
  subst scopeEq userEq chatEq keys
  rfl

theorem lockKey_eq (request : IdempotentRequest) :
    request.lockKey = request.suffixed.resultKey :=
  IdempotencyStore.lockKey_eq request.scope.value request.owner request.key

theorem suffixed_injective {first second : IdempotentRequest}
    (same : first.suffixed = second.suffixed) : first = second := by
  obtain ⟨scope, userId, chatId, key, isUuid, given⟩ := first
  obtain ⟨otherScope, otherUser, otherChat, otherKey, otherUuid, otherGiven⟩ := second
  simp only [suffixed, mk.injEq, String.append_left_inj] at same ⊢
  exact same

theorem suffixed_ne (request : IdempotentRequest) : request.suffixed ≠ request := by
  intro same
  have lengths := congrArg (fun request => request.key.length) same
  simp [suffixed] at lengths

theorem keysApart_iff (first second : IdempotentRequest) :
    (first ≠ second → first.KeysApart second) ↔
      first.suffixed ≠ second ∧ second.suffixed ≠ first := by
  constructor
  · intro apart
    constructor
    · rintro rfl
      exact (apart (suffixed_ne first).symm).2.1 (lockKey_eq first)
    · rintro rfl
      exact (apart (suffixed_ne second)).1.2 (lockKey_eq second).symm
  · rintro ⟨beyond, within⟩ differ
    simp only [KeysApart, lockKey_eq]
    refine ⟨⟨?_, ?_⟩, ?_, ?_⟩
    · exact fun same => differ (resultKey_injective same)
    · exact fun same => within (resultKey_injective same).symm
    · exact fun same => beyond (resultKey_injective same)
    · exact fun same => differ (suffixed_injective (resultKey_injective same))

end Keys

section Calls

variable {models : ChatIdempotencyScope → ResultModel Result} {requests : List IdempotentRequest}

theorem call_keepsTo (request : IdempotentRequest) :
    (call models request : Task (Except Error Result) (Except (RunError Error) Result)).KeepsTo
      fun used => used = request.resultKey ∨ used = request.lockKey :=
  IdempotencyStore.run_keepsTo _ _ _ _

variable {keys : String → Option String} {index : Nat}

theorem request_of_task {task : Task (Except Error Result) (Except (RunError Error) Result)}
    (found : (begun Error models requests keys).tasks[index]? = some task) :
    ∃ request, requests[index]? = some request ∧ call models request = task := by
  simp only [begun, List.getElem?_map] at found
  exact Option.map_eq_some_iff.mp found

theorem task_of_request {request : IdempotentRequest} (found : requests[index]? = some request) :
    (begun Error models requests keys).tasks[index]? = some (call models request) := by
  simp [begun, List.getElem?_map, found]

theorem task_bound {request : IdempotentRequest} (found : requests[index]? = some request) :
    index < (begun Error models requests keys).tasks.length := by
  rw [begun, List.length_map]
  exact (List.getElem?_eq_some_iff.mp found).1

theorem divided_begun {request : IdempotentRequest}
    (apart : ∀ other ∈ requests, other ≠ request → other.KeysApart request) :
    Site.Divided (fun index => requests[index]? == some request)
      (fun used => used = request.resultKey ∨ used = request.lockKey)
      (begun Error models requests keys) := by
  constructor
  · intro index task own found
    obtain ⟨other, present, rfl⟩ := request_of_task found
    rw [present, beq_iff_eq, Option.some.injEq] at own
    subst own
    exact call_keepsTo other
  · intro index task others found
    obtain ⟨other, present, rfl⟩ := request_of_task found
    rw [present, beq_eq_false_iff_ne, ne_eq, Option.some.injEq] at others
    obtain ⟨results, locks⟩ := apart other (List.mem_of_getElem? present) others
    refine (call_keepsTo other).mono fun used own => ?_
    rcases own with rfl | rfl
    · simp [results.1, results.2]
    · simp [locks.1, locks.2]

theorem undisturbed_of_apart
    (apart : ∀ first ∈ requests, ∀ second ∈ requests, first.suffixed ≠ second) :
    Undisturbed Error models requests := by
  intro keys schedule site followed request listed
  have others : ∀ other ∈ requests, other ≠ request → other.KeysApart request :=
    fun other member => (keysApart_iff other request).mpr
      ⟨apart other member request listed, apart request listed other member⟩
  obtain ⟨alone, reached, alike⟩ :=
    Site.follow_own (divided_begun others) ⟨fun _ _ => rfl, fun _ _ => rfl⟩ followed
  exact ⟨alone, reached, fun index found => alike.tasks index (by simp [found])⟩

section Blocked

variable {first second : IdempotentRequest}

theorem command_asked (models : ChatIdempotencyScope → ResultModel Result)
    (request : IdempotentRequest) (keys : String → Option String) (reply : Except Error Result) :
    (call models request).command keys reply =
      some (keys, match keys request.resultKey with
        | some json => .done (IdempotencyStore.cachedResult (models request.scope) json)
        | none => IdempotencyStore.locking request.scope.value request.owner request.key
            (models request.scope)) := by
  simp only [call, IdempotencyStore.run, if_neg request.given]
  rfl

theorem reads_lock (models : ChatIdempotencyScope → ResultModel Result)
    (reply : Except Error Result) {held found : Nat} (different : held ≠ found)
    (holder : requests[held]? = some first) (reader : requests[found]? = some second)
    (same : first.suffixed = second) :
    ∃ site, (begun Error models requests fun _ => none).follow
        [.exec held reply, .exec held reply, .exec found reply] = some site ∧
      site.tasks[found]? =
        some (.done (IdempotencyStore.cachedResult (models second.scope) "1")) := by
  have bound : held < (begun Error models requests fun _ => none).tasks.length :=
    task_bound holder
  obtain ⟨one, stepped, oneKeys, oneTasks⟩ :=
    Site.command_exec (task_of_request holder) (command_asked models first (fun _ => none) reply)
  have locks : (IdempotencyStore.locking first.scope.value first.owner first.key
      (models first.scope)).command one.keys reply =
        some (Function.update one.keys first.lockKey (some "1"), IdempotencyStore.operating
          first.scope.value first.owner first.key (models first.scope)) := by
    rw [oneKeys]
    rfl
  obtain ⟨two, locked, twoKeys, twoTasks⟩ :=
    Site.command_exec (by rw [oneTasks, List.getElem?_set_self bound]) locks
  have unread : two.tasks[found]? = some (call models second) := by
    rw [twoTasks, oneTasks, List.getElem?_set_ne different, List.getElem?_set_ne different]
    exact task_of_request reader
  have lock : two.keys second.resultKey = some "1" := by
    rw [twoKeys, ← same, ← lockKey_eq, Function.update_self]
  have reads := command_asked models second two.keys reply
  rw [lock] at reads
  obtain ⟨three, read, _, threeTasks⟩ := Site.command_exec unread reads
  refine ⟨three, by simp [Site.take, stepped, locked, read], ?_⟩
  rw [threeTasks, List.getElem?_set_self (List.getElem?_eq_some_iff.mp unread).1]

theorem undisturbed_iff [Inhabited Error] : Undisturbed Error models requests ↔
    ∀ first ∈ requests, ∀ second ∈ requests, first.suffixed ≠ second := by
  refine ⟨fun undisturbed first listed second member same => ?_, undisturbed_of_apart⟩
  obtain ⟨held, holder⟩ := List.getElem?_of_mem listed
  obtain ⟨found, reader⟩ := List.getElem?_of_mem member
  have differ : first ≠ second := fun equal => suffixed_ne first (same.trans equal.symm)
  have different : held ≠ found := by
    rintro rfl
    exact differ (Option.some.inj (holder.symm.trans reader))
  have reply : Except Error Result := .error default
  obtain ⟨site, followed, done⟩ := reads_lock models reply different holder reader same
  obtain ⟨alone, reached, stands⟩ := undisturbed _ _ site followed second member
  -- Alone the second call finds nothing and goes for its lock.
  have only : [Turn.exec held reply, .exec held reply, .exec found reply].filter
      (Turn.isOf fun index => requests[index]? == some second) = [.exec found reply] := by
    simp [Turn.isOf, holder, reader, differ]
  obtain ⟨next, stepped, _, tasks⟩ :=
    Site.command_exec (task_of_request reader) (command_asked models second (fun _ => none) reply)
  have here : next = alone := by
    rw [only] at reached
    simpa [Site.take, stepped] using reached
  have waits := stands found reader
  have bound : found < (begun Error models requests fun _ => none).tasks.length :=
    task_bound reader
  rw [done, ← here, tasks, List.getElem?_set_self bound] at waits
  cases waits

end Blocked

end Calls

/-- Two requests have keys of their own, and calls leave each other alone, exactly if no key is
another one of the same scope and owner with `:lock` at its end. -/
theorem requests_apart [Inhabited Error] (models : ChatIdempotencyScope → ResultModel Result) :
    (∀ first second : IdempotentRequest, (first ≠ second → first.KeysApart second) ↔
        first.suffixed ≠ second ∧ second.suffixed ≠ first) ∧
      ∀ requests : List IdempotentRequest, Undisturbed Error models requests ↔
        ∀ first ∈ requests, ∀ second ∈ requests, first.suffixed ≠ second :=
  ⟨keysApart_iff, fun _ => undisturbed_iff⟩

def plainRequest : IdempotentRequest := ⟨.sendMessage, 1, 0, "k", by decide, by decide⟩

/-- After the request with the key `k:lock` has got its result, the first one with the key `k` is
refused as if it were sent twice. -/
theorem other_key_conflicts :
    (¬∀ first second : IdempotentRequest, first ≠ second → first.KeysApart second) ∧
      ∃ site, (begun Unit (fun _ => IdempotencyStore.flagModel)
          [plainRequest, plainRequest.suffixed] fun _ => none).follow
            (List.replicate 5 (Turn.exec 1 (Except.ok true)) ++
              List.replicate 2 (Turn.exec 0 (Except.ok true))) = some site ∧
        site.tasks.map Task.outcome? =
          [some (Except.error (RunError.conflict "k")), some (Except.ok true)] := by
  constructor
  · intro apart
    have keys := apart plainRequest plainRequest.suffixed (suffixed_ne plainRequest).symm
    exact keys.2.1 (lockKey_eq plainRequest)
  · have outcome : ((begun Unit (fun _ => IdempotencyStore.flagModel)
        [plainRequest, plainRequest.suffixed] fun _ => none).follow
          (List.replicate 5 (Turn.exec 1 (Except.ok true)) ++
            List.replicate 2 (Turn.exec 0 (Except.ok true)))).map
            (fun site => decide (site.tasks.map Task.outcome? =
              [some (Except.error (RunError.conflict "k")), some (Except.ok true)])) = some true := by
      decide +kernel
    obtain ⟨site, reached, ended⟩ := Option.map_eq_some_iff.mp outcome
    exact ⟨site, reached, of_decide_eq_true ended⟩

end IdempotentRequest

end Messanger
