/- The compact schedule of `platform/helpers.go`. -/

import Mathlib.Logic.Function.Basic

namespace OneVoice.Platform

inductive Day where
  | mon | tue | wed | thu | fri | sat | sun
deriving DecidableEq

def Day.rank (day : Day) : Nat := day.ctorIdx

def dayOrder : List Day := [.mon, .tue, .wed, .thu, .fri, .sat, .sun]

def dayRU : Day → String
  | .mon => "Пн" | .tue => "Вт" | .wed => "Ср" | .thu => "Чт"
  | .fri => "Пт" | .sat => "Сб" | .sun => "Вс"

structure Slot where
  opens : String
  closes : String
deriving DecidableEq

/-- An entry of the stored schedule. -/
structure DayHours where
  day : Day
  slot : Slot
  closed : Bool := false

variable (days : List DayHours)

/-- The hours of the open days; a later entry replaces an earlier one. -/
def byDay : Day → Option Slot :=
  days.foldl (fun known d => if d.closed then known else Function.update known d.day (some d.slot)) fun _ => none

structure Group where
  first : Day
  last : Day
  slot : Slot
deriving DecidableEq

/-- One round of the loop over the days; the latest group stands first. -/
def groupRound (known : Day → Option Slot) (groups : List Group) (key : Day) : List Group :=
  match known key, groups with
  | none, groups => groups
  | some s, last :: rest =>
    if last.slot = s then { last with last := key } :: rest else ⟨key, key, s⟩ :: last :: rest
  | some s, [] => [⟨key, key, s⟩]

def scheduleGroups : List Group := (dayOrder.foldl (groupRound (byDay days)) []).reverse

def label (first last : Day) : String := dayRU first ++ if last = first then "" else "-" ++ dayRU last

def Group.segment (g : Group) : String :=
  label g.first g.last ++ " " ++ g.slot.opens ++ "-" ++ g.slot.closes

def formatScheduleCompact : String := ", ".intercalate ((scheduleGroups days).map Group.segment)

end OneVoice.Platform
