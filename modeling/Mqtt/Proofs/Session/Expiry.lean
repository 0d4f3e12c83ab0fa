import Mqtt.Proofs.Session.Log

/-! # Messages that expire

A message expires once more time has passed than its expiry interval, and stays expired.
So the packets to be sent again at a later moment are some of those at an earlier one, in
the same order, without the messages whose interval ends in between; a PUBREL packet never
leaves them (`Mqtt.Session.unacknowledgedAt_of_le`). Expiry decides about nothing else: the
operations on the packets in flight do the same in a session in which no message has an
expiry interval (`Mqtt.Session.BlindToExpiry`).
-/

namespace Mqtt

/-! ## The passing of time -/

/-- Time goes on. -/
theorem Instant.elapsed_mono {first second : Instant} (since : Instant) (later : first ≤ second) :
    since.elapsed first ≤ since.elapsed second := by
  have ordered : first.nanoseconds ≤ second.nanoseconds := later
  unfold elapsed
  omega

/-- A message is expired when more time than its expiry interval has elapsed. -/
theorem InFlightPublish.isExpired_iff {publish : InFlightPublish} {now : Instant} :
    publish.isExpired now = true ↔
      ∃ seconds, publish.packet.properties.messageExpiryInterval = some seconds ∧
        seconds.toNat * nanosecondsPerSecond < publish.created.elapsed now := by
  simp only [isExpired, Option.any_eq_true, decide_eq_true_eq, gt_iff_lt]

namespace InFlight

variable {entry : InFlight} {first second : Instant}

/-- A packet that has expired stays expired. -/
theorem isExpired_of_le (later : first ≤ second) (expired : entry.isExpired first = true) :
    entry.isExpired second = true := by
  cases entry with
  | pubrel pubrel => cases expired
  | publish publish =>
      obtain ⟨seconds, interval, passed⟩ := InFlightPublish.isExpired_iff.mp expired
      apply InFlightPublish.isExpired_iff.mpr
      exact ⟨seconds, interval, Nat.lt_of_lt_of_le passed (Instant.elapsed_mono _ later)⟩

/-- A packet expires between two moments exactly if it is a message whose expiry interval
has not passed at the first and has passed at the second. -/
theorem expires_between_iff :
    entry.isExpired first = false ∧ entry.isExpired second = true ↔
      ∃ publish seconds, entry = .publish publish ∧
        publish.packet.properties.messageExpiryInterval = some seconds ∧
        publish.created.elapsed first ≤ seconds.toNat * nanosecondsPerSecond ∧
        seconds.toNat * nanosecondsPerSecond < publish.created.elapsed second := by
  constructor
  · rintro ⟨fresh, expired⟩
    cases entry with
    | pubrel pubrel => cases expired
    | publish publish =>
        obtain ⟨seconds, interval, passed⟩ := InFlightPublish.isExpired_iff.mp expired
        refine ⟨publish, seconds, rfl, interval, ?_, passed⟩
        by_contra early
        have already : publish.isExpired first = true :=
          InFlightPublish.isExpired_iff.mpr ⟨seconds, interval, Nat.not_le.mp early⟩
        exact Bool.false_ne_true (fresh.symm.trans already)
  · rintro ⟨publish, seconds, rfl, interval, notYet, passed⟩
    refine ⟨?_, InFlightPublish.isExpired_iff.mpr ⟨seconds, interval, passed⟩⟩
    apply Bool.eq_false_iff.mpr
    intro expired
    obtain ⟨other, same, early⟩ := InFlightPublish.isExpired_iff.mp expired
    rw [interval] at same
    cases same
    exact Nat.not_lt.mpr notYet early

end InFlight

/-! ## Packets without expiry -/

/-- The message with no expiry interval. -/
def InFlightPublish.withoutExpiry (publish : InFlightPublish) : InFlightPublish :=
  let properties := { publish.packet.properties with messageExpiryInterval := none }
  { publish with packet := { publish.packet with properties } }

namespace InFlight

/-- The packet with no expiry interval. -/
def withoutExpiry : InFlight → InFlight
  | publish packet => publish packet.withoutExpiry
  | pubrel packet => pubrel packet

theorem isExpired_withoutExpiry (entry : InFlight) (now : Instant) :
    entry.withoutExpiry.isExpired now = false := by
  cases entry <;> rfl

end InFlight

namespace Session

variable {session : Session} {log : Log} {packetId : UInt16}

/-- The session in which no message in flight has an expiry interval. -/
def withoutExpiry (session : Session) : Session :=
  { session with inFlight := session.inFlight.map fun _ => InFlight.withoutExpiry }

/-- A look-up finds the packet without its expiry interval. -/
@[simp] theorem getElem?_withoutExpiry (session : Session) (packetId : UInt16) :
    session.withoutExpiry.inFlight[packetId]? =
      session.inFlight[packetId]?.map InFlight.withoutExpiry :=
  Std.ExtTreeMap.getElem?_map

/-- The packets in flight are those without expiry where the lookups say so. -/
theorem withoutExpiry_eq {inFlight : Std.ExtTreeMap UInt16 InFlight}
    (lookup : ∀ packetId : UInt16,
      session.inFlight[packetId]?.map InFlight.withoutExpiry = inFlight[packetId]?) :
    session.withoutExpiry = { session with inFlight } := by
  have same : session.withoutExpiry.inFlight = inFlight := by
    apply Std.ExtTreeMap.ext_getElem?
    intro packetId
    rw [getElem?_withoutExpiry, lookup]
  rw [← same]
  rfl

/-- A packet put in flight loses its expiry interval with the others. -/
theorem withoutExpiry_insert (session : Session) (packetId : UInt16) (entry : InFlight)
    (lastKey : Nat) :
    withoutExpiry
        { session with inFlight := session.inFlight.insert packetId entry, lastKey } =
      { session.withoutExpiry with
        inFlight := session.withoutExpiry.inFlight.insert packetId entry.withoutExpiry
        lastKey } := by
  apply withoutExpiry_eq
  intro other
  simp only [Std.ExtTreeMap.getElem?_insert, getElem?_withoutExpiry]
  split <;> rfl

/-- Taking a packet out of flight and the intervals off the others are done in either
order. -/
theorem withoutExpiry_drop (session : Session) (packetId : UInt16) :
    (session.drop packetId).withoutExpiry = session.withoutExpiry.drop packetId := by
  have lookup (other : UInt16) :
      (session.drop packetId).inFlight[other]?.map InFlight.withoutExpiry =
        (session.withoutExpiry.drop packetId).inFlight[other]? := by
    simp only [getElem?_drop, getElem?_withoutExpiry]
    split <;> rfl
  exact withoutExpiry_eq lookup

/-- Operations on the packets in flight do the same as in the session in which nothing
expires: they have the same answers, and lead to the same session, but for the expiry
intervals in both. -/
structure BlindToExpiry (session : Session) : Prop where
  unexpired : ∀ (packetId : UInt16) (entry : InFlight) (now : Instant),
    session.withoutExpiry.inFlight[packetId]? = some entry → entry.isExpired now = false
  contains_eq : ∀ packetId, session.withoutExpiry.contains packetId = session.contains packetId
  size_eq : session.withoutExpiry.size = session.size
  acknowledge_eq : ∀ packetId, session.withoutExpiry.acknowledge packetId =
    (session.acknowledge packetId).map (Option.map InFlight.withoutExpiry) withoutExpiry
  replace_eq : ∀ publish, session.withoutExpiry.replace publish =
    (session.replace publish).map id withoutExpiry

/-- Only the packets that are sent again depend on expiry intervals. -/
theorem blindToExpiry (session : Session) : session.BlindToExpiry where
  unexpired packetId entry now found := by
    rw [getElem?_withoutExpiry] at found
    obtain ⟨timed, -, rfl⟩ := Option.map_eq_some_iff.mp found
    exact timed.isExpired_withoutExpiry now
  contains_eq packetId := Std.ExtTreeMap.contains_map
  size_eq := Std.ExtTreeMap.size_map
  acknowledge_eq packetId :=
    Prod.ext (getElem?_withoutExpiry session packetId) (withoutExpiry_drop session packetId).symm
  replace_eq publish := by
    simp only [replace, getElem?_withoutExpiry]
    rcases session.inFlight[publish.packetId]? with _ | ⟨stored⟩ | ⟨pubrel⟩
    · rfl
    · simp only [Option.map_some, InFlight.withoutExpiry]
      cases Ack.build .pubRel { packetId := publish.packetId } with
      | error refused => rfl
      | ok packet => exact Prod.ext rfl (withoutExpiry_insert session _ (.pubrel _) _).symm
    · rfl

/-! ## The packets to be sent again -/

/-- At a later moment, what is left to be sent again is in the same order. -/
theorem unacknowledgedAt_sublist (session : Session) {first second : Instant}
    (later : first ≤ second) :
    (session.unacknowledgedAt second).Sublist (session.unacknowledgedAt first) := by
  apply List.monotone_filter_right
  intro entry unexpired
  rw [Bool.not_eq_true', Bool.eq_false_iff] at unexpired ⊢
  exact fun expired => unexpired (InFlight.isExpired_of_le later expired)

namespace Log.Represents

/-- The packets to be sent again are those in flight that have not expired. -/
theorem mem_unacknowledgedAt_iff (represents : log.Represents session)
    {entry : InFlight} {now : Instant} :
    entry ∈ session.unacknowledgedAt now ↔
      session.inFlight[entry.packetId]? = some entry ∧ entry.isExpired now = false := by
  rw [represents.unacknowledgedAt_eq, Log.unexpired, List.mem_filter, represents.lookup,
    represents.find?_eq_some_iff, Bool.not_eq_eq_eq_not, Bool.not_true, and_iff_left rfl]

/-- The packets that are no longer to be sent again at a later moment are the messages in
flight that have expired in between. -/
theorem missing_iff (represents : log.Represents session) {first second : Instant}
    {entry : InFlight} :
    entry ∈ session.unacknowledgedAt first ∧ entry ∉ session.unacknowledgedAt second ↔
      session.inFlight[entry.packetId]? = some entry ∧
        entry.isExpired first = false ∧ entry.isExpired second = true := by
  simp only [represents.mem_unacknowledgedAt_iff, not_and, Bool.not_eq_false]
  constructor
  · rintro ⟨⟨held, fresh⟩, expired⟩
    exact ⟨held, fresh, expired held⟩
  · rintro ⟨held, fresh, expired⟩
    exact ⟨⟨held, fresh⟩, fun _ => expired⟩

/-- A message that has expired is not to be sent again, but the PUBREL packet that takes
its place is, at every moment. -/
theorem release_expired (represents : log.Represents session)
    {publish stored : InFlightPublish} {now : Instant}
    (found : session.inFlight[publish.packetId]? = some (.publish stored))
    (expired : stored.isExpired now = true) :
    (∀ entry ∈ session.unacknowledgedAt now, entry.packetId ≠ publish.packetId) ∧
      ∀ moment, ∃ entry ∈ (session.replace publish).2.unacknowledgedAt moment,
        entry.packetId = publish.packetId := by
  constructor
  · intro entry member own
    obtain ⟨held, unexpired⟩ := represents.mem_unacknowledgedAt_iff.mp member
    rw [own, found] at held
    cases held
    exact Bool.false_ne_true (unexpired.symm.trans expired)
  · intro moment
    obtain ⟨-, nonzero⟩ := represents.indexed _ _ found
    have after := (represents.perform (.replace publish)).2
    have replaced := replace_of_publish found nonzero
    refine ⟨.pubrel (stored.release publish.packetId (session.lastKey + 1)), ?_, rfl⟩
    apply after.mem_unacknowledgedAt_iff.mpr
    refine ⟨?_, rfl⟩
    simp only [Session.perform, replaced, Prod.map, id, getElem?_put]
    exact if_pos trivial

end Log.Represents

/-- In every session that operations lead to, the packets to be sent again at a later
moment are those at an earlier one, in order, without exactly the messages whose expiry
interval ends in between. PUBREL packets are always to be sent again, no other operation
depends on expiry, and the release of a message that has expired makes its identifier one
to be sent again at every moment. -/
theorem unacknowledgedAt_of_le (operations : List Operation) {first second : Instant}
    (later : first ≤ second) :
    let session := (run {} operations).2
    (session.unacknowledgedAt first).Nodup ∧
    (session.unacknowledgedAt second).Sublist (session.unacknowledgedAt first) ∧
    (∀ entry : InFlight,
      entry ∈ session.unacknowledgedAt first ∧ entry ∉ session.unacknowledgedAt second ↔
        session.inFlight[entry.packetId]? = some entry ∧
          ∃ publish seconds, entry = .publish publish ∧
            publish.packet.properties.messageExpiryInterval = some seconds ∧
            publish.created.elapsed first ≤ seconds.toNat * nanosecondsPerSecond ∧
            seconds.toNat * nanosecondsPerSecond < publish.created.elapsed second) ∧
    (∀ (packetId : UInt16) (pubrel : InFlightPubrel) (now : Instant),
      session.inFlight[packetId]? = some (.pubrel pubrel) →
        .pubrel pubrel ∈ session.unacknowledgedAt now) ∧
    session.BlindToExpiry ∧
    ∀ (publish stored : InFlightPublish) (now : Instant),
      session.inFlight[publish.packetId]? = some (.publish stored) →
        stored.isExpired now = true →
        (∀ entry ∈ session.unacknowledgedAt now, entry.packetId ≠ publish.packetId) ∧
          ∀ moment, ∃ entry ∈ (session.replace publish).2.unacknowledgedAt moment,
            entry.packetId = publish.packetId := by
  intro session
  have represents : (Log.run {} operations).2.Represents session :=
    (Log.Represents.new.run operations).2
  refine ⟨?_, unacknowledgedAt_sublist session later, ?_, ?_,
    blindToExpiry session, fun _ _ _ => represents.release_expired⟩
  · rw [represents.unacknowledgedAt_eq]
    exact represents.distinct.of_map.filter _
  · intro entry
    rw [represents.missing_iff, InFlight.expires_between_iff]
  · intro packetId pubrel now found
    obtain ⟨own, -⟩ := represents.indexed _ _ found
    apply represents.mem_unacknowledgedAt_iff.mpr
    exact ⟨own ▸ found, rfl⟩

/-- A message with an interval of a minute is to be sent again when the minute is over and
no longer a nanosecond later. Its release is, a day later. -/
theorem unacknowledgedAt_of_le_minute :
    let message : Message :=
      ⟨{ topic := "a", qos := .exactlyOnce, packetId := some 1
         properties := { messageExpiryInterval := some 60 } }, by decide +kernel⟩
    let other : Message :=
      ⟨{ topic := "b", qos := .atLeastOnce, packetId := some 2 }, by decide +kernel⟩
    let session := (run {} [.store message ⟨0⟩, .store other ⟨5⟩]).2
    let publish := message.inFlight ⟨0⟩ 1
    let first : Instant := ⟨60000000000⟩
    let second : Instant := ⟨60000000001⟩
    first ≤ second ∧ (session.unacknowledgedAt second).Sublist (session.unacknowledgedAt first) ∧
      InFlight.publish publish ∈ session.unacknowledgedAt first ∧
      InFlight.publish publish ∉ session.unacknowledgedAt second ∧
      ∃ entry ∈ (session.replace publish).2.unacknowledgedAt ⟨86400000000000⟩,
        entry.packetId = 1 := by
  intro message other session publish first second
  have later : first ≤ second := by decide
  have found : session.inFlight[(1 : UInt16)]? = some (.publish publish) := by rfl
  have ends : publish.created.elapsed first ≤ 60 * nanosecondsPerSecond ∧
      60 * nanosecondsPerSecond < publish.created.elapsed second := by decide
  obtain ⟨-, remaining, missing, -, -, released⟩ :=
    unacknowledgedAt_of_le [.store message ⟨0⟩, .store other ⟨5⟩] later
  obtain ⟨before, after⟩ :=
    (missing (.publish publish)).mpr ⟨found, publish, 60, rfl, rfl, ends⟩
  obtain ⟨-, present⟩ := released publish publish second found (by decide)
  exact ⟨later, remaining, before, after, present _⟩

end Session

end Mqtt
