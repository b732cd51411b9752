import FrameHost.Message.Inbound
import FrameHost.Proofs.Records

/-!
# What a reply carries

The data of a reply is the value of its member `methodReturnData`, or an empty object if there is no
such member or it is null (`Inbound.replyData`). A message is decoded member by member, and a parsed
object has every member once, so that is what the decoded message says (`returnData_decode`).
-/

namespace FrameHost

open Json (Value)

/-! ## The data of a reply -/

namespace Inbound

/-- The member of a message that carries a reply. -/
def replyKey : String := "methodReturnData"

/-- What a message carries as a reply: its member `methodReturnData`, or an empty object if there is
none or it is null. -/
def replyData (text : String) : Value :=
  match Value.parse text with
  | .error _ => Value.emptyObject
  | .ok v => ((v.field? replyKey).bind Value.nonNull?).getD Value.emptyObject

/-- The data of a reply are read as they are. -/
theorem reads_returnData : Json.Reads fields replyKey Inbound.returnData (Json.asOption .ok) := by
  constructor <;>
    simp +contextual [fields, replyKey, Json.Shaped.map_eq_ok, Json.Shaped.map_map,
      Json.Shaped.map_self]

/-- What a decoded reply carries is what its text does. -/
theorem returnData_decode {text : String} (hkind : (decode text).kind = .methodReturn) :
    (decode text).returnData.getD Value.emptyObject = replyData text := by
  unfold decode at hkind ⊢
  cases hread : read text with
  -- What cannot be read is no reply.
  | error r =>
    rw [hread] at hkind
    cases hkind
  | ok m =>
    dsimp only
    unfold read at hread
    unfold replyData
    split at hread
    · cases hread
    · next ms hparse =>
      rw [hparse]
      show _ = ((Value.member? replyKey ms).bind Value.nonNull?).getD Value.emptyObject
      cases hset : Json.setMembers fields ms blank with
      | error e =>
        rw [hset] at hread
        cases hread
      | ok m' =>
        rw [hset] at hread
        cases hread
        -- Parsed members are in order, so each name is there once.
        have hms := (Json.canonical_parse hparse).ordered
        have hdata := Json.holds_asOption_ok.mp (reads_returnData.setMembers hms hset)
        rw [hdata]
    · cases hread

end Inbound

end FrameHost
