import Mqtt.Fault

/-! # Topic names

A topic name is the subject of one message, so it holds neither wildcard.
-/

namespace Mqtt

namespace TopicName

/-- A wildcard of topic filters. -/
def isWildcard (c : Char) : Bool :=
  c = '+' || c = '#'

/-- The rules of a topic name: no wildcard and no null character. The empty name
passes; a message decides whether its topic alias makes up for it. -/
def check (name : String) : Except Fault Unit :=
  if name.toList.any isWildcard then .error (.topicNameWildcard name)
  else if name.toList.contains '\x00' then .error .topicNameNull
  else .ok ()

end TopicName

end Mqtt
