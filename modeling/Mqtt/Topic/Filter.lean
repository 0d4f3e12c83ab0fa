import Mqtt.Fault

/-! # Topic filters

A filter names a set of topics, level by level: `+` stands for any one level and
`#`, at the end, for any number of levels. A wildcard takes a level of its own.
-/

namespace Mqtt

namespace TopicFilter

/-- The levels of a filter, between the slashes. -/
def levels (filter : List Char) : List (List Char) :=
  filter.foldr
    (fun c levels =>
      match c, levels with
      | '/', levels => [] :: levels
      | c, level :: others => (c :: level) :: others
      | c, [] => [[c]])
    [[]]

/-- The rules of the levels of a filter: `#` is the whole of the last level, `+`
is the whole of its level. The first level that breaks one decides. -/
def checkLevels (filter : String) : List (List Char) → Except Fault Unit
  | [] => .ok ()
  | level :: others =>
      if level.contains '#' && !(level = ['#'] && others.isEmpty) then
        .error (.filterMultiLevel filter)
      else if level.contains '+' && level ≠ ['+'] then .error (.filterSingleLevel filter)
      else checkLevels filter others

/-- The rules of a topic filter. -/
def check (filter : String) : Except Fault Unit :=
  if filter.isEmpty then .error .filterEmpty
  else if filter.toList.contains '\x00' then .error .filterNull
  else checkLevels filter (levels filter.toList)

end TopicFilter

end Mqtt
