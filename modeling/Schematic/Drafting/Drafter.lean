import Schematic.Log.Context

set_option autoImplicit false

namespace Schematic

inductive TransportFault where
  | unreachable | connectTimeout | readTimeout | lost
deriving Repr, DecidableEq

inductive BodyFault where
  | notJson (message : String)
  | noObject
  | noMember
  | notText
deriving Repr, DecidableEq

inductive DrafterFault where
  | brokenDown (message : String)
  | transport (fault : TransportFault) (message : String)
  | answered (status : Int)
  | noText (fault : BodyFault)
deriving Repr, DecidableEq

def DrafterFault.message : DrafterFault → String
  | brokenDown message => message
  | transport .unreachable message => "Schema drafter unreachable: " ++ message
  | transport .connectTimeout message | transport .readTimeout message => "Schema drafter timed out: " ++ message
  | transport .lost message => message
  | answered status => "Schema drafter answered " ++ toString status
  | noText _ => "Schema drafter response has no text"

/-- What a drafter does when it is asked: it gives a text, or none, or fails; and it may log. -/
structure Draft where
  outcome : Except DrafterFault (Option String)
  log : List LogEntry := []

abbrev Drafter := String → Option String → Draft

end Schematic
