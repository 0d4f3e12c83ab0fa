import Mathlib.Data.List.Nodup
import Mqtt.Proofs.Session.Run

/-! # A session as an ordered log

The packets in flight are a list, the oldest first: a packet that is put in flight
goes to the end, and one that is taken out leaves the others where they are. A
session, which holds the packets under their identifiers and sorts them when it is
asked, gives the same answers as the list (`Mqtt.Session.run_eq_log`), whatever the
order in which it goes through the packets that it holds.
-/

namespace Mqtt

namespace Session

/-- The packets in flight as a list, the oldest first. -/
structure Log where
  entries : List InFlight := []
  incoming : Std.ExtTreeSet UInt16 := ∅
  /-- The last sequence key that was given out. -/
  lastKey : Nat := 0

namespace Log

/-! ## Operations on a log -/

/-- The packet with an identifier. -/
def find? (log : Log) (packetId : UInt16) : Option InFlight :=
  log.entries.find? fun entry => entry.packetId = packetId

/-- Takes out the packet with an identifier. -/
def remove (log : Log) (packetId : UInt16) : Log :=
  { log with entries := log.entries.filter fun entry => entry.packetId ≠ packetId }

/-- Adds a packet at the end. Its key is the last one given out. -/
def append (log : Log) (entry : InFlight) : Log :=
  { log with entries := log.entries ++ [entry], lastKey := entry.key }

/-- The packets that have not expired, in the order of the log. -/
def unexpired (log : Log) (now : Instant) : List InFlight :=
  log.entries.filter fun entry => !entry.isExpired now

/-- The answer to a question. -/
def reply (log : Log) : Query → Answer
  | .unacknowledgedAt now => .entries (log.unexpired now)
  | .remembers publish => .truth (publish.packetId.any log.incoming.contains)
  | .contains packetId => .truth (log.find? packetId).isSome
  | .size => .count log.entries.length

/-- The answer to an operation and the log after it. -/
def perform (log : Log) : Operation → Answer × Log
  | .store message now =>
      if message.publish.qos = .atMostOnce then (.stored (.error .neverAcknowledged), log)
      else
        let entry := message.inFlight now (log.lastKey + 1)
        (.stored (.ok entry), (log.remove entry.packetId).append (.publish entry))
  | .replace publish =>
      match log.find? publish.packetId with
      | none => (.replaced (.error (.noSuchElement publish.packetId)), log)
      | some (.pubrel pubrel) => (.replaced (.ok pubrel), log)
      | some (.publish stored) =>
          let entry := stored.release publish.packetId (log.lastKey + 1)
          (.replaced (.ok entry), (log.remove publish.packetId).append (.pubrel entry))
  | .acknowledge packetId => (.acknowledged (log.find? packetId), log.remove packetId)
  | .remember publish =>
      match publish.packetId with
      | none => (.remembered (.error .noPacketId), log)
      | some packetId =>
          (.remembered (.ok (log.incoming.contains packetId)),
            { log with incoming := log.incoming.insert packetId })
  | .release pubrel => (.done, { log with incoming := log.incoming.erase pubrel.packetId })
  | .clear => (.done, { log with entries := [], incoming := ∅ })
  | .query query => (log.reply query, log)

/-- The answers to operations one after another, and the log after them. -/
def run : Log → List Operation → List Answer × Log
  | log, [] => ([], log)
  | log, operation :: operations =>
      let (answers, final) := run (log.perform operation).2 operations
      ((log.perform operation).1 :: answers, final)

/-! ## Packets with different identifiers -/

variable {log : Log} {session : Session} {entry : InFlight} {packetId other : UInt16}

/-- An entry that is removed is not found, and the others are found as before. -/
theorem find?_remove (log : Log) (packetId other : UInt16) :
    (log.remove packetId).find? other = if packetId = other then none else log.find? other := by
  simp only [remove, find?, List.find?_filter]
  split
  · next same =>
      subst same
      simp
  · next different =>
      congr 1
      funext entry
      by_cases own : entry.packetId = other <;> simp [own, Ne.symm different]

/-- An entry that is appended is found if none before it has its identifier. -/
theorem find?_append (log : Log) (entry : InFlight) (other : UInt16) :
    (log.append entry).find? other =
      (log.find? other).or (if entry.packetId = other then some entry else none) := by
  simp only [append, find?, List.find?_append, List.find?_singleton, decide_eq_true_eq]

/-- A packet that goes to the end in place of the one with its identifier. -/
theorem find?_move (log : Log) (entry : InFlight) (other : UInt16) :
    ((log.remove entry.packetId).append entry).find? other =
      if entry.packetId = other then some entry else log.find? other := by
  rw [find?_append, find?_remove]
  by_cases own : entry.packetId = other
  · simp only [own, ↓reduceIte, Option.none_or]
  · simp only [own, ↓reduceIte, Option.or_none]

/-- An entry that is found is in the log, under its identifier. -/
theorem mem_of_find? (found : log.find? packetId = some entry) :
    entry ∈ log.entries ∧ entry.packetId = packetId := by
  have own := List.find?_some found
  exact ⟨List.mem_of_find?_eq_some found, of_decide_eq_true own⟩

theorem nodup_remove (distinct : (log.entries.map InFlight.packetId).Nodup) (packetId : UInt16) :
    ((log.remove packetId).entries.map InFlight.packetId).Nodup :=
  (List.filter_sublist.map InFlight.packetId).nodup distinct

theorem mem_remove :
    entry ∈ (log.remove packetId).entries ↔ entry ∈ log.entries ∧ entry.packetId ≠ packetId := by
  simp only [remove, List.mem_filter, decide_eq_true_eq]

/-! ## The log of a session -/

/-- A log holds the packets that are in flight in a session: each once, under an
identifier other than zero, and with keys that ascend to the last one given out. -/
structure Represents (log : Log) (session : Session) : Prop where
  lookup : ∀ packetId : UInt16, session.inFlight[packetId]? = log.find? packetId
  distinct : (log.entries.map InFlight.packetId).Nodup
  ascending : log.entries.Pairwise fun first second => first.key < second.key
  bounded : ∀ entry ∈ log.entries, entry.key ≤ log.lastKey
  nonzero : ∀ entry ∈ log.entries, entry.packetId ≠ 0
  lastKey_eq : session.lastKey = log.lastKey
  incoming_eq : session.incoming = log.incoming

namespace Represents

theorem new : Represents {} {} where
  lookup _ := Std.ExtTreeMap.getElem?_empty
  distinct := List.nodup_nil
  ascending := .nil
  bounded _ member := (List.not_mem_nil member).elim
  nonzero _ member := (List.not_mem_nil member).elim
  lastKey_eq := rfl
  incoming_eq := rfl

/-- As identifiers are distinct, every entry of the log is found. -/
theorem find?_eq_some_iff (represents : log.Represents session) :
    log.find? packetId = some entry ↔ entry ∈ log.entries ∧ entry.packetId = packetId := by
  constructor
  · exact mem_of_find?
  · intro found
    obtain ⟨member, own⟩ := found
    cases other : log.find? packetId with
    | none =>
        have different := List.find?_eq_none.mp other entry member
        exact (different (decide_eq_true own)).elim
    | some held =>
        obtain ⟨heldMember, heldOwn⟩ := mem_of_find? other
        have same := List.inj_on_of_nodup_map represents.distinct heldMember member
          (heldOwn.trans own.symm)
        rw [same]

/-- A session that a log represents has its packets under their own identifiers. -/
theorem indexed (represents : log.Represents session) : session.Indexed := by
  intro packetId entry found
  rw [represents.lookup, represents.find?_eq_some_iff] at found
  obtain ⟨member, own⟩ := found
  exact ⟨own, own ▸ represents.nonzero entry member⟩

/-- A packet that takes the next key goes to the end of the log. -/
theorem put (represents : log.Represents session) (entry : InFlight)
    (next : entry.key = log.lastKey + 1) (nonzero : entry.packetId ≠ 0) :
    ((log.remove entry.packetId).append entry).Represents (session.put entry) where
  lookup other := by rw [getElem?_put, find?_move, represents.lookup]
  distinct := by
    have others := nodup_remove represents.distinct entry.packetId
    simp only [append, List.map_append, List.map_cons, List.map_nil]
    apply List.Nodup.append others (List.nodup_singleton _)
    rw [List.disjoint_singleton]
    intro member
    obtain ⟨kept, keptMember, own⟩ := List.mem_map.mp member
    exact (mem_remove.mp keptMember).2 own
  ascending := by
    apply List.pairwise_append.mpr
    refine ⟨represents.ascending.filter _, List.pairwise_singleton _ _, ?_⟩
    intro kept member last isLast
    have bound := represents.bounded kept (mem_remove.mp member).1
    rw [List.mem_singleton.mp isLast, next]
    exact Nat.lt_succ_of_le bound
  bounded := by
    intro kept member
    change kept.key ≤ entry.key
    rcases List.mem_append.mp member with earlier | last
    · have bound := represents.bounded kept (mem_remove.mp earlier).1
      rw [next]
      exact Nat.le_succ_of_le bound
    · rw [List.mem_singleton.mp last]
  nonzero := by
    intro kept member
    rcases List.mem_append.mp member with earlier | last
    · exact represents.nonzero kept (mem_remove.mp earlier).1
    · rw [List.mem_singleton.mp last]
      exact nonzero
  lastKey_eq := rfl
  incoming_eq := represents.incoming_eq

/-- Removing an entry from the log is dropping a packet of the session. -/
theorem drop (represents : log.Represents session) (packetId : UInt16) :
    (log.remove packetId).Represents (session.drop packetId) where
  lookup other := by rw [getElem?_drop, find?_remove, represents.lookup]
  distinct := nodup_remove represents.distinct packetId
  ascending := represents.ascending.filter _
  bounded entry member := represents.bounded entry (mem_remove.mp member).1
  nonzero entry member := represents.nonzero entry (mem_remove.mp member).1
  lastKey_eq := represents.lastKey_eq
  incoming_eq := represents.incoming_eq

/-- A log that is emptied represents a session that is cleared. -/
theorem clear (represents : log.Represents session) :
    Represents { log with entries := [], incoming := ∅ } session.clear where
  lookup _ := Std.ExtTreeMap.getElem?_empty
  distinct := List.nodup_nil
  ascending := .nil
  bounded _ member := (List.not_mem_nil member).elim
  nonzero _ member := (List.not_mem_nil member).elim
  lastKey_eq := represents.lastKey_eq
  incoming_eq := rfl

/-! ## The packets of a session in order -/

theorem values_eq (entries : Std.ExtTreeMap UInt16 InFlight) :
    entries.values = entries.toList.map Prod.snd := by
  obtain ⟨⟨tree⟩⟩ := entries
  induction tree using Quotient.ind with
  | _ tree =>
      change tree.inner.values =
        (Std.DTreeMap.Internal.Impl.Const.toList tree.inner).map Prod.snd
      rw [Std.DTreeMap.Internal.Impl.values_eq_map_snd,
        Std.DTreeMap.Internal.Impl.Const.toList_eq_toListModel_map, List.map_map]
      rfl

/-- The packets in flight are those of the log, in some order. -/
theorem values_perm (represents : log.Represents session) :
    session.inFlight.values.Perm log.entries := by
  have held : ∀ pair ∈ session.inFlight.toList, pair.2.packetId = pair.1 := by
    intro pair member
    have found := Std.ExtTreeMap.mem_toList_iff_getElem?_eq_some.mp member
    exact (represents.indexed _ _ found).1
  have packetIds : (session.inFlight.toList.map Prod.snd).map InFlight.packetId =
      session.inFlight.keys := by
    rw [List.map_map, ← Std.ExtTreeMap.map_fst_toList_eq_keys]
    exact List.map_congr_left held
  have distinct : (session.inFlight.toList.map Prod.snd).Nodup := by
    apply List.Nodup.of_map InFlight.packetId
    rw [packetIds]
    exact Std.ExtTreeMap.nodup_keys
  rw [values_eq, List.perm_ext_iff_of_nodup distinct represents.distinct.of_map]
  intro entry
  constructor
  · intro member
    obtain ⟨pair, pairMember, rfl⟩ := List.mem_map.mp member
    have found := Std.ExtTreeMap.mem_toList_iff_getElem?_eq_some.mp pairMember
    rw [represents.lookup, represents.find?_eq_some_iff] at found
    exact found.1
  · intro member
    have found := represents.find?_eq_some_iff.mpr ⟨member, rfl⟩
    rw [← represents.lookup] at found
    exact List.mem_map.mpr
      ⟨_, Std.ExtTreeMap.mem_toList_iff_getElem?_eq_some.mpr found, rfl⟩

/-- A session has as many packets in flight as its log has entries. -/
theorem size_eq (represents : log.Represents session) : session.size = log.entries.length := by
  rw [← represents.values_perm.length_eq, values_eq, List.length_map,
    Std.ExtTreeMap.length_toList]
  rfl

end Represents

/-- There is one way to sort packets whose keys differ. -/
theorem mergeSort_eq {entries iterated : List InFlight}
    (ascending : entries.Pairwise fun first second => first.key < second.key)
    (same : iterated.Perm entries) :
    (iterated.mergeSort fun first second => first.key ≤ second.key) = entries := by
  have perm : (iterated.mergeSort fun first second => first.key ≤ second.key).Perm entries :=
    (List.mergeSort_perm iterated _).trans same
  have sorted : (iterated.mergeSort fun first second => first.key ≤ second.key).Pairwise
      fun first second => first.key ≤ second.key := by
    apply (List.pairwise_mergeSort _ _ iterated).imp of_decide_eq_true
    · intro first second third
      simp only [decide_eq_true_eq]
      exact Nat.le_trans
    · intro first second
      simp only [Bool.or_eq_true, decide_eq_true_eq]
      exact Nat.le_total _ _
  have distinct : (entries.map InFlight.key).Nodup :=
    (List.pairwise_map.mpr ascending).imp Nat.ne_of_lt
  apply List.Perm.eq_of_pairwise _ sorted (ascending.imp Nat.le_of_lt) perm
  intro first second firstMember secondMember less more
  exact List.inj_on_of_nodup_map distinct (perm.mem_iff.mp firstMember) secondMember
    (Nat.le_antisymm less more)

namespace Represents

/-- The packets that have not expired come in the order of the log, in whatever order
the session goes through what it holds. -/
theorem unexpired_eq (represents : log.Represents session) {iterated : List InFlight}
    (same : iterated.Perm session.inFlight.values) (now : Instant) :
    ((iterated.filter fun entry => !entry.isExpired now).mergeSort
      fun first second => first.key ≤ second.key) = log.unexpired now :=
  mergeSort_eq (represents.ascending.filter _)
    ((same.trans represents.values_perm).filter _)

/-- The packets to be sent again are the unexpired entries, in the order of the log. -/
theorem unacknowledgedAt_eq (represents : log.Represents session) (now : Instant) :
    session.unacknowledgedAt now = log.unexpired now := by
  rw [unacknowledgedAt, Session.entries, mergeSort_eq represents.ascending represents.values_perm,
    unexpired]

/-- The log answers every question as the session does. -/
theorem reply_eq (represents : log.Represents session) (query : Query) :
    session.reply query = log.reply query := by
  cases query with
  | unacknowledgedAt now => rw [Session.reply, Log.reply, represents.unacknowledgedAt_eq]
  | remembers publish => rw [Session.reply, Log.reply, remembers, represents.incoming_eq]
  | contains packetId =>
      rw [Session.reply, Log.reply, contains, Std.ExtTreeMap.contains_eq_isSome_getElem?,
        represents.lookup]
  | size => rw [Session.reply, Log.reply, represents.size_eq]

/-! ## Operations on both -/

/-- An operation has the same answer on a session and on its log. -/
theorem perform (represents : log.Represents session) (operation : Operation) :
    (session.perform operation).1 = (log.perform operation).1 ∧
      (log.perform operation).2.Represents (session.perform operation).2 := by
  cases operation with
  | store message now =>
      by_cases never : message.publish.qos = .atMostOnce
      · have refused : session.store message.publish now = (.error .neverAcknowledged, session) :=
          if_pos never
        simp only [Session.perform, refused, Log.perform, never, ↓reduceIte]
        exact ⟨rfl, represents⟩
      · have nonzero := message.packetId_inFlight now (log.lastKey + 1) never
        simp only [Session.perform, store_of_acknowledged message now never, Log.perform, never,
          ↓reduceIte, represents.lastKey_eq]
        exact ⟨rfl,
          represents.put (.publish (message.inFlight now (log.lastKey + 1))) rfl nonzero⟩
  | replace publish =>
      cases found : log.find? publish.packetId with
      | none =>
          have absent := (represents.lookup publish.packetId).trans found
          simp only [Session.perform, replace, absent, Log.perform, found]
          exact ⟨rfl, represents⟩
      | some entry =>
          have held := (represents.lookup publish.packetId).trans found
          have nonzero := (represents.indexed _ _ held).2
          cases entry with
          | publish stored =>
              simp only [Session.perform, replace_of_publish held nonzero, Log.perform, found,
                represents.lastKey_eq]
              exact ⟨rfl, represents.put
                (.pubrel (stored.release publish.packetId (log.lastKey + 1))) rfl nonzero⟩
          | pubrel pubrel =>
              simp only [Session.perform, replace, held, Log.perform, found]
              exact ⟨rfl, represents⟩
  | acknowledge packetId =>
      refine ⟨?_, represents.drop packetId⟩
      exact congrArg Answer.acknowledged (represents.lookup packetId)
  | remember publish =>
      cases carried : publish.packetId with
      | none =>
          simp only [Session.perform, remember, Log.perform, carried]
          exact ⟨rfl, represents⟩
      | some packetId =>
          simp only [Session.perform, remember, Log.perform, carried, represents.incoming_eq]
          exact ⟨rfl, { represents with incoming_eq := rfl }⟩
  | release pubrel =>
      refine ⟨rfl, { represents with incoming_eq := ?_ }⟩
      simp only [Session.perform, release, represents.incoming_eq, Log.perform]
  | clear => exact ⟨rfl, represents.clear⟩
  | query query => exact ⟨represents.reply_eq query, represents⟩

/-- Whatever is done, the log answers as the session does and represents it again. -/
theorem run (represents : log.Represents session) (operations : List Operation) :
    (session.run operations).1.map Event.answer = (log.run operations).1 ∧
      (log.run operations).2.Represents (session.run operations).2 := by
  induction operations generalizing log session with
  | nil => exact ⟨rfl, represents⟩
  | cons operation operations ih =>
      obtain ⟨answer, after⟩ := represents.perform operation
      obtain ⟨answers, final⟩ := ih after
      refine ⟨?_, final⟩
      simp only [Session.run, Log.run, List.map_cons]
      exact congrArg₂ List.cons answer answers

end Represents

end Log

/-- A session answers every run of operations as the list of packets in flight does,
the oldest first. Sorting what it holds gives that list, in whatever order it goes
through it. -/
theorem run_eq_log (operations : List Operation) :
    (run {} operations).1.map Event.answer = (Log.run {} operations).1 ∧
      ∀ iterated : List InFlight, iterated.Perm (run {} operations).2.inFlight.values →
        ∀ now : Instant,
          ((iterated.filter fun entry => !entry.isExpired now).mergeSort
              fun first second => first.key ≤ second.key) =
            (Log.run {} operations).2.unexpired now := by
  obtain ⟨answers, represents⟩ := Log.Represents.new.run operations
  refine ⟨answers, ?_⟩
  intro iterated same now
  exact represents.unexpired_eq same now

/-- A PUBREL packet goes behind a message that was stored after its own. -/
example :
    let first : Message := ⟨{ qos := .exactlyOnce, topic := "a", packetId := some 1 }, rfl⟩
    let second : Message := ⟨{ qos := .exactlyOnce, topic := "b", packetId := some 2 }, rfl⟩
    let operations : List Operation :=
      [.store first ⟨0⟩, .store second ⟨1⟩, .replace (first.inFlight ⟨0⟩ 1)]
    ((Log.run {} operations).2.unexpired ⟨2⟩).map InFlight.packetId = [2, 1] := by
  decide +kernel

end Session

end Mqtt
