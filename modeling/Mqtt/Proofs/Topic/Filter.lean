import Mathlib.Tactic.MkIffOfInductiveProp
import Mqtt.Proofs.Wire.Reader
import Mqtt.Topic.Filter

/-! # The grammar of topic filters

A filter is checked level by level, and each level as a whole. Character by character, this
asks of a wildcard only what stands right before it and right behind it
(`Mqtt.TopicFilter.WellFormed`): a level is one wildcard exactly if it begins and ends with
that wildcard, and a level begins and ends at a slash or at an end of the filter. The rules
of topic filters are those of this grammar (`Mqtt.TopicFilter.check_eq_ok_iff`).
-/

namespace Mqtt

namespace TopicFilter

variable {level before after rest : List Char} {c : Char}

/-! ## Characters -/

/-- A level begins behind these characters: there are none, or the last one is a slash. -/
def Opens (before : List Char) : Prop :=
  before = [] ∨ before.getLast? = some '/'

/-- A level ends before these characters: there are none, or the first one is a slash. -/
def Closes (after : List Char) : Prop :=
  after = [] ∨ after.head? = some '/'

/-- Wherever a character stands, it begins a level, and what follows it is allowed. -/
def Placed (c : Char) (follows : List Char → Prop) (text : List Char) : Prop :=
  ∀ before after, text = before ++ c :: after → Opens before ∧ follows after

/-- Every `#` begins a level and is the last character, and every `+` begins a level and
ends it. -/
@[mk_iff]
structure WildcardsFit (text : List Char) : Prop where
  multiLevel : Placed '#' (· = []) text
  singleLevel : Placed '+' Closes text

/-- The grammar of topic filters. -/
@[mk_iff]
structure WellFormed (filter : String) : Prop where
  nonempty : filter ≠ ""
  notNull : '\x00' ∉ filter.toList
  wildcards : WildcardsFit filter.toList

/-! ## Levels -/

/-- A character other than a slash joins the first level. -/
theorem levels_cons (other : c ≠ '/') {text : List Char} {others : List (List Char)}
    (split : levels text = level :: others) : levels (c :: text) = (c :: level) :: others := by
  unfold levels at split ⊢
  rw [List.foldr_cons, split]
  split
  · exact absurd rfl other
  · next same =>
      cases same
      rfl
  · next empty => cases empty

/-- The first slash ends the first level. -/
theorem levels_append_slash (noSlash : '/' ∉ level) (rest : List Char) :
    levels (level ++ '/' :: rest) = level :: levels rest := by
  induction level with
  | nil => rfl
  | cons c level ih =>
      rw [List.mem_cons, not_or] at noSlash
      exact levels_cons (Ne.symm noSlash.1) (ih noSlash.2)

/-- Characters without a slash are one level. -/
theorem levels_of_noSlash (noSlash : '/' ∉ level) : levels level = [level] := by
  induction level with
  | nil => rfl
  | cons c level ih =>
      rw [List.mem_cons, not_or] at noSlash
      exact levels_cons (Ne.symm noSlash.1) (ih noSlash.2)

/-- What holds of a level without slashes, and of such a level in front of others of which
it holds, holds of every text. -/
theorem level_induction {motive : List Char → Prop}
    (last : ∀ level, '/' ∉ level → motive level)
    (more : ∀ level rest, '/' ∉ level → motive rest → motive (level ++ '/' :: rest))
    (text : List Char) : motive text := by
  induction size : text.length using Nat.strongRecOn generalizing text with
  | ind size ih =>
      by_cases slash : '/' ∈ text
      · obtain ⟨level, rest, rfl, noSlash⟩ := List.eq_append_cons_of_mem slash
        refine more level rest noSlash (ih rest.length ?_ rest rfl)
        simp only [List.length_append, List.length_cons] at size
        omega
      · exact last text slash

theorem levels_ne_nil (text : List Char) : levels text ≠ [] := by
  cases text using level_induction with
  | last level noSlash => simp [levels_of_noSlash noSlash]
  | more level rest noSlash => simp [levels_append_slash noSlash]

/-! ## The places of a character -/

/-- Another character than the slash stands in the first level or behind it. -/
theorem append_slash_eq_iff (other : c ≠ '/') :
    level ++ '/' :: rest = before ++ c :: after ↔
      (∃ inside, level = before ++ c :: inside ∧ after = inside ++ '/' :: rest) ∨
        ∃ behind, before = level ++ '/' :: behind ∧ rest = behind ++ c :: after := by
  rw [List.append_eq_append_iff]
  constructor
  · -- One side begins with the other. Where nothing is between the two, the slash would be `c`.
    rintro (⟨middle, rfl, same⟩ | ⟨middle, rfl, same⟩)
    · cases middle with
      | nil => simp [Ne.symm other] at same
      | cons d behind =>
          simp only [List.cons_append, List.cons.injEq] at same
          obtain ⟨rfl, rfl⟩ := same
          exact .inr ⟨behind, rfl, rfl⟩
    · cases middle with
      | nil => simp [other] at same
      | cons d inside =>
          simp only [List.cons_append, List.cons.injEq] at same
          obtain ⟨rfl, rfl⟩ := same
          exact .inl ⟨inside, rfl, rfl⟩
  · rintro (⟨inside, rfl, rfl⟩ | ⟨behind, rfl, rfl⟩)
    · exact .inr ⟨c :: inside, rfl, rfl⟩
    · exact .inl ⟨'/' :: behind, rfl, rfl⟩

/-- Within one level, only its beginning begins a level. -/
theorem opens_iff (noSlash : '/' ∉ before) : Opens before ↔ before = [] :=
  or_iff_left fun last => noSlash (List.mem_of_getLast? last)

/-- Behind a slash, where a level begins does not depend on what is before the slash. -/
theorem opens_append_slash : Opens (level ++ '/' :: before) ↔ Opens before := by
  cases before with
  | nil => simp [Opens]
  | cons c before => simp [Opens, List.getLast?_cons]

/-- What may follow a character tells whether the level goes on behind it: it does not. -/
def EndsLevel (follows : List Char → Prop) : Prop :=
  ∀ ⦃inside behind⦄, '/' ∉ inside → Closes behind →
    (follows (inside ++ behind) ↔ inside = [] ∧ follows behind)

/-- Where nothing may follow, the level does not go on. -/
theorem endsLevel_nil : EndsLevel (· = []) :=
  fun _ _ _ _ => List.append_eq_nil_iff

/-- Where a slash or nothing may follow, the level does not go on. -/
theorem endsLevel_closes : EndsLevel Closes := by
  intro inside behind noSlash closes
  cases inside with
  | nil => simp
  | cons c inside => simp_all [Closes, eq_comm]

variable {follows : List Char → Prop}

/-- Where a character begins and ends its level, it is the whole of the level. -/
theorem placed_in_level_iff (ends : EndsLevel follows) (noSlash : '/' ∉ level)
    {behind : List Char} (closes : Closes behind) :
    (∀ before inside, level = before ++ c :: inside →
        Opens before ∧ follows (inside ++ behind)) ↔
      (c ∈ level → level = [c] ∧ follows behind) := by
  constructor
  · intro placed member
    obtain ⟨before, inside, rfl⟩ := List.append_of_mem member
    simp only [List.mem_append, List.mem_cons, not_or] at noSlash
    obtain ⟨opens, allowed⟩ := placed before inside rfl
    obtain ⟨rfl, allowed⟩ := (ends noSlash.2.2 closes).mp allowed
    obtain rfl := (opens_iff noSlash.1).mp opens
    exact ⟨rfl, allowed⟩
  · rintro whole before inside rfl
    obtain ⟨same, allowed⟩ := whole (List.mem_append_cons_self)
    simp only [List.append_eq_singleton_iff, List.cons.injEq, true_and, reduceCtorEq, and_false,
      or_false] at same
    obtain ⟨rfl, rfl⟩ := same
    exact ⟨.inl rfl, allowed⟩

/-- In a text of one level, a character is placed well if it is that level. -/
theorem placed_of_noSlash (ends : EndsLevel follows) (empty : follows []) (noSlash : '/' ∉ level) :
    Placed c follows level ↔ (c ∈ level → level = [c]) := by
  have inLevel := @placed_in_level_iff _ c _ ends noSlash [] (.inl rfl)
  simp only [List.append_nil, empty, and_true] at inLevel
  exact inLevel

/-- A character is placed well in a text if it is so in the first level and in the rest. -/
theorem placed_append_slash (ends : EndsLevel follows) (other : c ≠ '/') (noSlash : '/' ∉ level) :
    Placed c follows (level ++ '/' :: rest) ↔
      (c ∈ level → level = [c] ∧ follows ('/' :: rest)) ∧ Placed c follows rest := by
  rw [← placed_in_level_iff ends noSlash (.inr rfl)]
  simp only [Placed, append_slash_eq_iff other]
  constructor
  · intro placed
    constructor
    · intro before inside split
      exact placed before _ (.inl ⟨inside, split, rfl⟩)
    · intro behind after split
      obtain ⟨opens, allowed⟩ := placed _ after (.inr ⟨behind, rfl, split⟩)
      exact ⟨opens_append_slash.mp opens, allowed⟩
  · rintro ⟨first, others⟩ before after (⟨inside, split, rfl⟩ | ⟨behind, rfl, split⟩)
    · exact first before inside split
    · obtain ⟨opens, allowed⟩ := others behind after split
      exact ⟨opens_append_slash.mpr opens, allowed⟩

/-- In a text of one level, a wildcard is that level. -/
theorem wildcardsFit_of_noSlash (noSlash : '/' ∉ level) :
    WildcardsFit level ↔ ('#' ∈ level → level = ['#']) ∧ ('+' ∈ level → level = ['+']) := by
  rw [wildcardsFit_iff, placed_of_noSlash endsLevel_nil rfl noSlash,
    placed_of_noSlash endsLevel_closes (.inl rfl) noSlash]

/-- A level in front of others holds no `#`. -/
theorem wildcardsFit_append_slash (noSlash : '/' ∉ level) :
    WildcardsFit (level ++ '/' :: rest) ↔
      '#' ∉ level ∧ ('+' ∈ level → level = ['+']) ∧ WildcardsFit rest := by
  have closes : Closes ('/' :: rest) := .inr rfl
  rw [wildcardsFit_iff, placed_append_slash endsLevel_nil (by decide) noSlash,
    placed_append_slash endsLevel_closes (by decide) noSlash, wildcardsFit_iff]
  simp only [reduceCtorEq, and_false, imp_false, closes, and_true]
  rw [and_and_and_comm, and_assoc]

/-! ## The rules -/

/-- The rules of the levels ask of every wildcard that it stands where it may. -/
theorem checkLevels_eq_ok_iff {filter : String} (text : List Char) :
    checkLevels filter (levels text) = .ok () ↔ WildcardsFit text := by
  induction text using level_induction with
  | last level noSlash =>
      rw [levels_of_noSlash noSlash, wildcardsFit_of_noSlash noSlash]
      simp [checkLevels]
  | more level rest noSlash ih =>
      have others := levels_ne_nil rest
      rw [levels_append_slash noSlash, wildcardsFit_append_slash noSlash, ← ih]
      simp [checkLevels, others]

/-- The rules of topic filters are those of the grammar. -/
theorem check_eq_ok_iff {filter : String} : check filter = .ok () ↔ WellFormed filter := by
  simp only [check, Except.ite_error_eq_ok_iff, checkLevels_eq_ok_iff, wellFormed_iff,
    String.isEmpty_iff, List.contains_iff_mem, ne_eq]

end TopicFilter

end Mqtt
