import Messanger.Chats.ServicesCore
import Messanger.Library.Pact

/-!
The repository statements in a program that obeys a pact.
-/

namespace Messanger

open Relational

variable {Answer Tag : Type} {pact : Pact Db Write RowKey Tag} {tag : Tag} {held : List RowKey}
  {log : List Write} {db : Db} {Post : Answer → List RowKey → List Write → Db → Prop}
  {rest : Unit → Handler Answer}

theorem obeys_insertRow {key : RowKey} {taken : Db → Bool} {write : Write}
    (next : ∀ after, pact.Rely held db after → taken (applyAll log after) = false →
      pact.Allows tag log (applyAll log after) [write] →
      (rest ()).Obeys pact tag (held ++ [key]) (log ++ [write]) after Post) :
    ((insertRow key taken write).bind rest).Obeys pact tag held log db Post := by
  refine Tx.obeys_statement fun after relied allowed _ answered => ?_
  cases free : taken (applyAll log after) with
  | true => simp [free] at answered
  | false =>
      rw [free] at allowed
      exact next after relied free allowed

theorem obeys_updateRow {key : RowKey} {present : Db → Bool} {write : Write}
    (next : ∀ after, pact.Rely held db after → present (applyAll log after) = true →
      pact.Allows tag log (applyAll log after) [write] →
      (rest ()).Obeys pact tag (held ++ [key]) (log ++ [write]) after Post) :
    ((updateRow key present write).bind rest).Obeys pact tag held log db Post := by
  refine Tx.obeys_statement fun after relied allowed _ answered => ?_
  cases there : present (applyAll log after) with
  | true =>
      rw [there] at allowed
      exact next after relied there allowed
  | false => simp [there] at answered

theorem obeys_flushJoinRequest {loaded request : ChatJoinRequest}
    (next : ∀ after stored, pact.Rely held db after →
      (applyAll log after).joinRequests.find? loaded.key = some stored →
      pact.Allows tag log (applyAll log after)
        [Write.updateJoinRequest (loaded.flushed request stored)] →
      (rest ()).Obeys pact tag (held ++ [RowKey.joinRequest loaded.chatId loaded.userId])
        (log ++ [Write.updateJoinRequest (loaded.flushed request stored)]) after Post) :
    ((flushJoinRequest loaded request).bind rest).Obeys pact tag held log db Post := by
  refine Tx.obeys_statement fun after relied allowed _ answered => ?_
  cases found : (applyAll log after).joinRequests.find? loaded.key with
  | none => simp [found] at answered
  | some stored =>
      simp only [found] at allowed ⊢
      exact next after stored relied found allowed

theorem obeys_publish {events : List ChatEvent}
    (next : ∀ after, pact.Rely held db after →
      pact.Allows tag log (applyAll log after) [Write.publish events] →
      (rest ()).Obeys pact tag held (log ++ [Write.publish events]) after Post) :
    ((publish events).bind rest).Obeys pact tag held log db Post := by
  refine Tx.obeys_statement fun after relied allowed _ _ => ?_
  rw [List.append_nil]
  exact next after relied allowed

end Messanger
