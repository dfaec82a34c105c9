import Mathlib.Data.List.Basic
import Mathlib.Data.List.Induction
import OneVoice.Construction.Platform.Schedule

/-! A closed day between two days with the same hours is shown as open. -/

namespace OneVoice.Platform

open List

/-- A group lists the day, alone or in a range, with these hours. -/
def Covered (groups : List Group) (day : Day) (slot : Slot) : Prop :=
  ∃ g ∈ groups, (g.first.rank ≤ day.rank ∧ day.rank ≤ g.last.rank) ∧ g.slot = slot

/-- The schedule opens the day with these hours. -/
def Opens (days : List DayHours) (day : Day) (slot : Slot) : Prop := ⟨day, slot, false⟩ ∈ days

/-- Between two days with the same hours and a day in between, some day is open. -/
def Contiguous (opens : Day → Slot → Prop) : Prop :=
  ∀ first day last : Day, ∀ slot, opens first slot → opens last slot → first.rank < day.rank →
    day.rank < last.rank → ∃ between other, opens between other ∧ first.rank < between.rank ∧
      between.rank < last.rank

/-- The groups end with the last open day, and they are exact if the open days are contiguous. -/
structure Tracks (opens : Day → Slot → Prop) (groups : List Group) : Prop where
  unique : ∀ day slot other, opens day slot → opens day other → slot = other
  upTo : ∀ day slot, opens day slot ∨ Covered groups day slot → ∃ g, groups.head? = some g ∧ day.rank ≤ g.last.rank
  last : ∀ g, groups.head? = some g → g.first.rank ≤ g.last.rank ∧ opens g.last g.slot
  exact_iff : (∀ day slot, Covered groups day slot ↔ opens day slot) ↔ Contiguous opens

/-- Texts of hours without a separator of the schedule text. -/
def Slot.Plain (slot : Slot) : Prop :=
  ∀ char ∈ [',', ' ', '-'], char ∉ slot.opens.toList ∧ char ∉ slot.closes.toList

/-- The day of a printed name. -/
def readDay (name : List Char) : Option Day := dayOrder.find? fun day => (dayRU day).toList = name

/-- A day alone or a range of days. -/
def readLabel (label : List Char) : Option (Day × Day) :=
  match (label.splitOn '-').map readDay with
  | [some day] => some (day, day)
  | [some first, some last] => some (first, last)
  | _ => none

/-- The days and the hours that a segment of the text lists. -/
def readSegment (segment : List Char) : Option Group :=
  match (segment.dropWhile (· = ' ')).splitOn ' ' with
  | [label, hours] =>
    match readLabel label, hours.splitOn '-' with
    | some (first, last), [opens, closes] => some ⟨first, last, .ofList opens, .ofList closes⟩
    | _, _ => none
  | _ => none

/-- The groups that a printed text lists. -/
def readSchedule (text : String) : List Group := (text.toList.splitOn ',').filterMap readSegment

theorem label_facts (first last : Day) : readLabel (label first last).toList = some (first, last) ∧
    ' ' ∉ (label first last).toList ∧ ',' ∉ (label first last).toList := by
  cases first <;> cases last <;> decide +kernel

theorem splitOn_pair {sep : Char} {left right : List Char} (noLeft : sep ∉ left) (noRight : sep ∉ right) :
    (left ++ sep :: right).splitOn sep = [left, right] := by
  have joined : left ++ sep :: right = [sep].intercalate [left, right] := by simp [intercalate]
  rw [joined, splitOn_intercalate sep (by simp [noLeft, noRight]) (by simp)]

variable {g : Group}

/-- A printed group is read back, with blanks before it. -/
theorem readSegment_segment (plain : g.slot.Plain) (spaces : List Char) (blank : ∀ char ∈ spaces, char = ' ') :
    readSegment (spaces ++ g.segment.toList) = some g := by
  obtain ⟨first, last, opens, closes⟩ := g
  obtain ⟨days, noSpace, -⟩ := label_facts first last
  obtain ⟨opensFree, closesFree⟩ := plain ' ' (by simp)
  obtain ⟨opensPlain, closesPlain⟩ := plain '-' (by simp)
  have text : (Group.segment ⟨first, last, opens, closes⟩).toList =
      (label first last).toList ++ ' ' :: (opens.toList ++ '-' :: closes.toList) := by
    simp [Group.segment]
  have trimmed : (spaces ++ (Group.segment ⟨first, last, opens, closes⟩).toList).dropWhile (· = ' ') =
      (Group.segment ⟨first, last, opens, closes⟩).toList := by
    rw [dropWhile_append_of_pos (by simpa using blank), text]
    cases shape : (label first last).toList with
    | nil => rw [shape] at days; cases days
    | cons head tail =>
      rw [shape, mem_cons, not_or] at noSpace
      exact dropWhile_cons_of_neg (by simpa using Ne.symm noSpace.1)
  rw [readSegment, trimmed, text, splitOn_pair noSpace (by simp [opensFree, closesFree])]
  simp only [days, splitOn_pair opensPlain closesPlain, String.ofList_toList]

theorem comma_not_mem_segment (plain : g.slot.Plain) : ',' ∉ g.segment.toList := by
  have noComma := (label_facts g.first g.last).2.2
  have hours := plain ',' (by simp)
  simp [Group.segment, noComma, hours]

/-- The groups are read back from the text. -/
theorem readSchedule_formatScheduleCompact {days} (plain : ∀ g ∈ scheduleGroups days, g.slot.Plain) :
    readSchedule (formatScheduleCompact days) = scheduleGroups days := by
  rw [readSchedule, formatScheduleCompact, String.toList_intercalate, map_map]
  generalize scheduleGroups days = groups at plain
  cases groups with
  | nil => rfl
  | cons g rest =>
    have joined : ∀ head : List Char, ", ".toList.intercalate (head :: rest.map (String.toList ∘ Group.segment)) =
        [','].intercalate (head :: rest.map fun g => ' ' :: g.segment.toList) := by
      clear plain
      induction rest with
      | nil => simp
      | cons next rest ih =>
        intro head
        have later := ih next.segment.toList
        cases rest <;> simp_all [intercalate_cons_cons]
    rw [map_cons, joined, splitOn_intercalate ',' ?_ (by simp)]
    · have first : readSegment g.segment.toList = some g := readSegment_segment (plain g mem_cons_self) [] (by simp)
      have later : ∀ next ∈ rest, readSegment (' ' :: next.segment.toList) = some next := fun next listed =>
        readSegment_segment (plain next (.tail g listed)) [' '] (by simp)
      rw [Function.comp, filterMap_cons, first, filterMap_map]
      exact congrArg (g :: ·) ((filterMap_congr later).trans filterMap_some)
    · rw [forall_mem_cons, forall_mem_map]
      exact ⟨comma_not_mem_segment (plain g mem_cons_self), fun next listed =>
        not_mem_cons_of_ne_of_not_mem (by decide) (comma_not_mem_segment (plain next (.tail g listed)))⟩

theorem Day.rank_inj {a b : Day} (same : a.rank = b.rank) : a = b := by
  cases a <;> cases b <;> first | rfl | cases same

theorem byDay_eq_some {days} (nodup : (days.map DayHours.day).Nodup) :
    ∀ day slot, byDay days day = some slot ↔ Opens days day slot := by
  induction days using reverseRecOn with
  | nil => simp [byDay, Opens]
  | append_singleton days d ih =>
    rw [map_append, nodup_append] at nodup
    obtain ⟨earlier, _, apart⟩ := nodup
    obtain ⟨key, hours, closed⟩ := d
    intro day slot
    have fresh : byDay days key ≠ some slot := fun known =>
      apart key (mem_map.mpr ⟨_, (ih earlier key slot).mp known, rfl⟩) key (by simp) rfl
    have split : Opens (days ++ [⟨key, hours, closed⟩]) day slot ↔
        byDay days day = some slot ∨ day = key ∧ slot = hours ∧ closed = false := by
      rw [ih earlier]
      simp [Opens]
    rw [split, byDay]
    cases closed with
    | true => simp [byDay]
    | false =>
      by_cases same : day = key
      · simpa [same, fresh] using eq_comm
      · simp [byDay, same]

section

variable {known : Day → Option Slot} {opens next : Day → Slot → Prop} {groups : List Group} {key : Day} {s : Slot}

/-- The day joins the last group, which then covers the days in between, or begins one. -/
theorem groupRound_spec (opened : known key = some s)
    (last : ∀ g, groups.head? = some g → g.first.rank ≤ g.last.rank ∧ g.last.rank < key.rank) :
    (∃ g, (groupRound known groups key).head? = some g ∧ g.last = key ∧ g.slot = s ∧ g.first.rank ≤ key.rank) ∧
    ∀ day slot, Covered (groupRound known groups key) day slot ↔ Covered groups day slot ∨
      slot = s ∧ day.rank ≤ key.rank ∧ (key.rank ≤ day.rank ∨
        ∃ g, groups.head? = some g ∧ g.slot = s ∧ g.last.rank < day.rank) := by
  unfold groupRound
  rw [opened]
  cases groups with
  | nil =>
    simp [Covered]
    grind
  | cons g rest =>
    have ordered := last g rfl
    by_cases same : g.slot = s
    · simp only [same]
      refine ⟨⟨_, rfl, rfl, rfl, by dsimp only; omega⟩, ?_⟩
      simp [Covered]
      grind
    · simp only [same]
      refine ⟨⟨_, rfl, rfl, rfl, Nat.le_refl _⟩, ?_⟩
      simp [Covered]
      grind

/-- A round keeps the groups exact if no day lies between the last open day and the next one with
the same hours. -/
theorem Tracks.round (tracks : Tracks opens groups) (opened : known key = some s)
    (later : ∀ day slot, opens day slot → day.rank < key.rank)
    (grown : ∀ day slot, next day slot ↔ opens day slot ∨ day = key ∧ slot = s) :
    Tracks next (groupRound known groups key) := by
  obtain ⟨unique, upTo, last, exact_iff⟩ := tracks
  obtain ⟨⟨h, head, ends⟩, round⟩ := groupRound_spec opened fun g head =>
    ⟨(last g head).1, later _ _ (last g head).2⟩
  refine ⟨by grind, ?_, by grind, ?_⟩
  · intro day slot found
    rw [grown] at found
    exact ⟨h, head, by grind⟩
  · simp only [round]
    have inj := fun day => @Day.rank_inj day key
    constructor
    · intro exact_ first day last slot starts ends after before
      have old : ∀ day slot, Covered groups day slot ↔ opens day slot := by grind
      have contiguous := exact_iff.mp old first day last slot
      by_cases reached : opens last slot
      · grind
      · obtain ⟨g, head, upTo⟩ := upTo first slot (.inl (by grind))
        by_cases same : first = g.last
        · have := exact_ day s
          grind
        · have := @Day.rank_inj first g.last
          exact ⟨g.last, g.slot, by grind⟩
    · intro contiguous
      have old : Contiguous opens := by
        intro first day last slot starts ends after before
        have := contiguous first day last slot
        grind
      have exact_ := exact_iff.mpr old
      intro day slot
      rw [exact_, grown]
      constructor
      · rintro (found | ⟨rfl, upToKey, here | ⟨g, head, rfl, after⟩⟩)
        · exact .inl found
        · exact .inr ⟨inj day (by grind), rfl⟩
        · have := contiguous g.last day key g.slot
          grind
      · grind

end

theorem tracks_of_order (known : Day → Option Slot) (order : List Day) (sorted : order.Pairwise (·.rank < ·.rank)) :
    Tracks (fun day slot => day ∈ order ∧ known day = some slot) (order.foldl (groupRound known) []) := by
  induction order using reverseRecOn with
  | nil => exact ⟨by simp, by simp [Covered], by simp, by simp [Covered, Contiguous]⟩
  | append_singleton order key ih =>
    rw [pairwise_append] at sorted
    have tracks := ih sorted.1
    rw [foldl_append]
    cases opened : known key with
    | none =>
      have same : (fun day slot => day ∈ order ++ [key] ∧ known day = some slot) =
          fun day slot => day ∈ order ∧ known day = some slot := by
        grind
      rw [same]
      simpa [groupRound, opened] using tracks
    | some s =>
      apply tracks.round opened
      · exact fun day slot found => sorted.2.2 day found.1 key (by simp)
      · grind

/-- The hours of a group are those of an open day. -/
theorem opens_of_mem_scheduleGroups {days : List DayHours} (weekly : (days.map DayHours.day).Nodup) :
    ∀ g ∈ scheduleGroups days, ∃ day, Opens days day g.slot := by
  simp only [scheduleGroups, mem_reverse, ← byDay_eq_some weekly]
  refine foldlRecOn (motive := fun groups : List Group => ∀ g ∈ groups, ∃ day, byDay days day = some g.slot) _ _
    (by simp) ?_
  intro groups earlier key _ g listed
  unfold groupRound at listed
  split at listed
  · exact earlier g listed
  · next s last rest opened =>
    split at listed
    · next same =>
      obtain rfl | listed := mem_cons.mp listed
      · exact ⟨key, opened.trans (congrArg some same.symm)⟩
      · exact earlier g (.tail last listed)
    · obtain rfl | listed := mem_cons.mp listed
      · exact ⟨key, opened⟩
      · exact earlier g listed
  · next opened =>
    obtain rfl := mem_singleton.mp listed
    exact ⟨key, opened⟩

/-- The groups of the compact text, and the text itself when it is read back, show the schedule exactly
if some day is open between any two days with the same hours that have a day between them. -/
theorem compact_schedule_exact_iff {days : List DayHours} (weekly : (days.map DayHours.day).Nodup) :
    ((∀ day slot, Covered (scheduleGroups days) day slot ↔ Opens days day slot) ↔ Contiguous (Opens days)) ∧
    ((∀ d ∈ days, d.slot.Plain) →
      ((∀ day slot, Covered (readSchedule (formatScheduleCompact days)) day slot ↔ Opens days day slot) ↔
        Contiguous (Opens days))) := by
  have tracks := tracks_of_order (byDay days) dayOrder (by decide)
  have every : ∀ day : Day, day ∈ dayOrder := by
    intro day
    cases day <;> decide
  have opens : (fun day slot => day ∈ dayOrder ∧ byDay days day = some slot) = Opens days := by
    funext day slot
    rw [eq_true (every day), true_and, byDay_eq_some weekly]
  rw [opens] at tracks
  have groups : (∀ day slot, Covered (scheduleGroups days) day slot ↔ Opens days day slot) ↔
      Contiguous (Opens days) := by
    rw [← tracks.exact_iff]
    simp [scheduleGroups, Covered]
  refine ⟨groups, fun plain => ?_⟩
  rwa [readSchedule_formatScheduleCompact fun g listed => ?_]
  obtain ⟨day, opened⟩ := opens_of_mem_scheduleGroups weekly g listed
  exact plain _ opened

/-- A single open day has no day beside it. -/
theorem compact_schedule_exact_iff_monday :
    formatScheduleCompact [⟨.mon, ⟨"09:00", "18:00"⟩, false⟩] = "Пн 09:00-18:00" ∧
      ∀ day slot, Covered (readSchedule "Пн 09:00-18:00") day slot ↔
        Opens [⟨.mon, ⟨"09:00", "18:00"⟩, false⟩] day slot := by
  have text : formatScheduleCompact [⟨.mon, ⟨"09:00", "18:00"⟩, false⟩] = "Пн 09:00-18:00" := by decide
  refine ⟨text, ?_⟩
  rw [← text, (compact_schedule_exact_iff (by decide)).2 (by simp [Slot.Plain])]
  intro first day last slot starts ends after before
  obtain ⟨rfl, rfl⟩ : first = .mon ∧ last = .mon := by simp_all [Opens]
  omega

/-- A day off on Tuesday is shown as open. -/
theorem closed_tuesday_shown :
    formatScheduleCompact [⟨.mon, ⟨"09:00", "18:00"⟩, false⟩, ⟨.wed, ⟨"09:00", "18:00"⟩, false⟩] =
        "Пн-Ср 09:00-18:00" ∧
      Covered (readSchedule "Пн-Ср 09:00-18:00") .tue ⟨"09:00", "18:00"⟩ ∧
      ¬ Opens [⟨.mon, ⟨"09:00", "18:00"⟩, false⟩, ⟨.wed, ⟨"09:00", "18:00"⟩, false⟩] .tue ⟨"09:00", "18:00"⟩ :=
  ⟨by decide, ⟨⟨.mon, .wed, "09:00", "18:00"⟩, by decide +kernel, by decide, rfl⟩, by simp [Opens]⟩

end OneVoice.Platform
