import Mqtt.Proofs.Wire.Reader

/-! # Readers that find their own end

A reader delimits itself when the bytes it takes are followed by whatever they may be
without a change to the value it finds (`Mqtt.Reader.SelfDelimiting`). Such readers one
after the other delimit themselves, and so do those of the fields of a packet. A reader
that delimits itself needs every byte it takes: it finds a fault in each beginning that
ends before them (`Mqtt.Reader.SelfDelimiting.error_of_shorter`).
-/

namespace Mqtt

namespace Reader

variable {α β : Type} {reader : Reader α} {bytes rest part : Bytes} {value : α}

/-- The bytes that a reader takes tell it where they end: what follows them changes
neither the value nor how much is taken. -/
def SelfDelimiting (reader : Reader α) : Prop :=
  ∀ ⦃bytes value rest⦄, reader bytes = .ok (value, rest) →
    ∃ front, bytes = front ++ rest ∧ ∀ more, reader (front ++ more) = .ok (value, more)

/-- Bytes behind those that a reader takes are left to the next one. -/
theorem SelfDelimiting.read_append (selfDelimiting : reader.SelfDelimiting)
    (found : reader bytes = .ok (value, [])) (more : Bytes) :
    reader (bytes ++ more) = .ok (value, more) := by
  obtain ⟨front, rfl, extended⟩ := selfDelimiting found
  rw [List.append_nil]
  exact extended more

/-- No beginning that is shorter than what a reader takes is read. If one were, then by
what it takes of this beginning it would take less of the whole, too. -/
theorem SelfDelimiting.error_of_shorter (selfDelimiting : reader.SelfDelimiting)
    (found : reader bytes = .ok (value, rest)) (beginning : part <+: bytes)
    (shorter : part.length + rest.length < bytes.length) : ∃ fault, reader part = .error fault := by
  obtain ⟨cut, rfl⟩ := beginning
  rcases partRead : reader part with fault | ⟨other, left⟩
  · exact ⟨fault, rfl⟩
  · obtain ⟨front, rfl, extended⟩ := selfDelimiting partRead
    have whole := extended (left ++ cut)
    rw [← List.append_assoc, found, Except.ok.injEq, Prod.mk.injEq] at whole
    rw [whole.2] at shorter
    simp only [List.length_append] at shorter
    omega

/-! ## Readers made of others -/

/-- A reader that takes nothing knows where it ends. -/
theorem selfDelimiting_pure (value : α) : (pure value : Reader α).SelfDelimiting := by
  intro bytes found rest same
  rw [pure_eq_ok_iff, Prod.mk.injEq] at same
  obtain ⟨rfl, rfl⟩ := same
  exact ⟨[], rfl, fun _ => rfl⟩

theorem selfDelimiting_ofExcept (result : Except Fault α) : (ofExcept result).SelfDelimiting := by
  intro bytes value rest found
  obtain ⟨rfl, rfl⟩ := ofExcept_eq_ok_iff.mp found
  exact ⟨[], rfl, fun _ => rfl⟩

/-- Readers that know where they end do so one after the other. -/
theorem SelfDelimiting.bind {next : α → Reader β} (selfDelimiting : reader.SelfDelimiting)
    (others : ∀ value, (next value).SelfDelimiting) : (reader >>= next).SelfDelimiting := by
  intro bytes result rest found
  obtain ⟨value, left, first, second⟩ := bind_eq_ok_iff.mp found
  obtain ⟨front, rfl, firstExtended⟩ := selfDelimiting first
  obtain ⟨back, rfl, secondExtended⟩ := others value second
  refine ⟨front ++ back, (List.append_assoc _ _ _).symm, fun more => ?_⟩
  rw [List.append_assoc, bind_of_ok (firstExtended _)]
  exact secondExtended more

theorem SelfDelimiting.map (selfDelimiting : reader.SelfDelimiting) (change : α → β) :
    (change <$> reader).SelfDelimiting := by
  rw [map_eq_pure_bind]
  exact selfDelimiting.bind fun value => selfDelimiting_pure (change value)

/-- A rule that is broken leaves nothing to read. -/
theorem SelfDelimiting.unless {broken : Prop} [Decidable broken] {fault : Fault}
    {other : Unit → Reader α} (selfDelimiting : reader.SelfDelimiting) :
    (if broken then throw fault >>= other else reader).SelfDelimiting := by
  split
  · intro bytes value rest found
    cases found
  · exact selfDelimiting

/-! ## Fields -/

/-- A reader that undoes a writer stops where the writer did. -/
theorem Mirrors.selfDelimiting {write : α → Except PacketError Bytes} {valid : α → Prop}
    (mirrors : reader.Mirrors write valid) : reader.SelfDelimiting := by
  intro bytes value rest found
  obtain ⟨fits, written, wrote, rfl⟩ := mirrors.mp found
  exact ⟨written, rfl, mirrors.read_written fits wrote⟩

theorem selfDelimiting_byteOr (missing : Fault) : (byteOr missing).SelfDelimiting := by
  intro bytes value rest found
  rw [byteOr_eq_ok_iff] at found
  exact ⟨[value], found, fun _ => rfl⟩

theorem selfDelimiting_twoBytesOr (missing : Fault) : (twoBytesOr missing).SelfDelimiting := by
  intro bytes value rest found
  rw [twoBytesOr_eq_ok_iff] at found
  exact ⟨_, found, fun _ => twoBytesOr_eq_ok_iff.mpr rfl⟩

/-! ## Items -/

/-- Two lists of items stand one after the other exactly where the bytes of the second
follow those of the first. -/
theorem items_append_eq_ok_iff (selfDelimiting : reader.SelfDelimiting)
    (consumes : reader.Consumes) {first second : List α} :
    items reader bytes = .ok (first ++ second, []) ↔
      ∃ front back, bytes = front ++ back ∧ items reader front = .ok (first, []) ∧
        items reader back = .ok (second, []) := by
  induction first generalizing bytes with
  | nil =>
      simp only [List.nil_append, items_nil_eq_ok_iff consumes, and_true]
      constructor
      · intro found
        exact ⟨[], bytes, rfl, rfl, found⟩
      · rintro ⟨_, back, rfl, rfl, found⟩
        exact found
  | cons value others ih =>
      simp only [List.cons_append, items_cons_eq_ok_iff consumes]
      constructor
      · rintro ⟨left, found, rest⟩
        obtain ⟨front, back, rfl, othersFound, secondFound⟩ := ih.mp rest
        obtain ⟨part, rfl, extended⟩ := selfDelimiting found
        exact ⟨part ++ front, back, (List.append_assoc _ _ _).symm,
          ⟨front, extended front, othersFound⟩, secondFound⟩
      · rintro ⟨_, back, rfl, ⟨left, found, othersFound⟩, secondFound⟩
        obtain ⟨part, rfl, extended⟩ := selfDelimiting found
        rw [List.append_assoc]
        exact ⟨left ++ back, extended _, ih.mpr ⟨left, back, rfl, othersFound, secondFound⟩⟩

end Reader

end Mqtt
