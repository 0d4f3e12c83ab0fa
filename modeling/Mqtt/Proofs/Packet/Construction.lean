import Mqtt.Proofs.Packet

/-! # Packets that are decoded, built again

Reading and construction enforce the same rules, but for one: an AUTH packet whose
method has an empty name is decoded and cannot be built. Construction takes every
other packet that is decoded and leaves it as it is (`Mqtt.Packet.build_of_decode`).
-/

namespace Mqtt

namespace Auth

/-- Of a packet with one of its own reason codes, construction asks that the method
has a name. -/
theorem check_of_checkReason {packet : Auth}
    (own : PacketType.auth.checkReason packet.reason = .ok ()) :
    packet.check =
      if packet.properties.authenticationMethod.isEmpty then .error .authenticationMethodEmpty
      else .ok () := by
  rw [check, own]
  rfl

end Auth

namespace Packet

variable {packet : Packet} {frame : Bytes}

/-- The packet is an AUTH packet whose method has an empty name. -/
def lacksMethod : Packet → Bool
  | auth packet => packet.properties.authenticationMethod.isEmpty
  | _ => false

/-- A packet that obeys the rules of reading breaks at most one rule of construction. -/
theorem check_of_wellFormed (fits : packet.WellFormed) :
    packet.check =
      if packet.lacksMethod then .error .authenticationMethodEmpty else .ok () := by
  cases packet with
  | auth packet => exact Auth.check_of_checkReason fits
  | _ => exact fits

/-- A packet that is decoded is one that was read from a body. -/
theorem held_of_decode (found : decode frame = .ok packet) : packet.Held := by
  obtain ⟨control, digits, body, packetType, -, -, -, bodyFound⟩ :=
    ofFrame_eq_ok_iff.mp (decode_eq_ok_iff.mp found)
  exact .read (ofBody_eq_ok_iff.mp bodyFound).2

/-- Construction gives back a packet that is decoded, unless it is an AUTH packet whose
method has an empty name: that one it refuses. -/
theorem build_of_decode (found : decode frame = .ok packet) :
    build packet =
      if packet.lacksMethod then .error (.invalid .authenticationMethodEmpty)
      else .ok packet := by
  rw [build, check_of_wellFormed (held_of_decode found).wellFormed]
  split <;> rfl

/-- A SUBSCRIBE packet that is decoded is given back by construction. -/
theorem build_of_decode_subscribe :
    let frame : Bytes := [130, 9, 0, 10, 0, 0, 3, 97, 47, 35, 1]
    let packet : Packet := .subscribe {
      packetId := 10, subscriptions := [{ filter := "a/#", options := { qos := .atLeastOnce } }] }
    decode frame = .ok packet ∧ build packet = .ok packet := by
  intro frame packet
  have found : decode frame = .ok packet := by decide +kernel
  exact ⟨found, build_of_decode found⟩

/-- Construction refuses a packet that is decoded. -/
theorem decode_and_not_build :
    let frame : Bytes := [240, 5, 24, 3, 21, 0, 0]
    let packet : Packet := .auth {
      reason := .continueAuthentication, properties := { authenticationMethod := "" } }
    decode frame = .ok packet ∧ build packet = .error (.invalid .authenticationMethodEmpty) := by
  decide +kernel

end Packet

end Mqtt
