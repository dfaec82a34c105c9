import OneVoice.Construction.Agents.Yandex
import OneVoice.Proof.Agents.Tools

namespace OneVoice.Agents.Yandex

open Library Domain Operation Handler

variable {handler : Handler} {own : Integration} {operation : Operation} {performed : Performed}

/-- The first active integration of a business on Yandex, in the order of the store. -/
def firstActive (service : TokenService) (businessID : String) : Option Integration :=
  (service.listByBusinessAndPlatform businessID .yandexBusiness).find? (·.status = .active)

/-- A browser that is asked for without an identifier is on the first active organisation. -/
theorem permalink_of_getBrowser {request browser}
    (opens : handler.getBrowserForExternalID request "" = .ok browser) :
    (firstActive handler.tokens request.businessID).map Integration.externalID = some browser.permalink := by
  simp only [getBrowserForExternalID, bind_ok, fetchToken_ok] at opens
  obtain ⟨_, ⟨row, tokens, ⟨selected, _, _⟩, rfl⟩, bound⟩ := opens
  have first : firstActive handler.tokens request.businessID = some row := by
    simpa [firstActive, TokenService.select] using selected
  rw [first]
  split at bound
  · obtain rfl := pure_ok.mp bound
    rfl
  · simp only [sharedBrowser, bind_ok, pure_ok] at bound
    obtain ⟨_, _, _, _, rfl⟩ := bound
    rfl

/-- None of the operations names its channel. -/
theorem permalink_of_dispatch {businessID} (dispatched : operation.dispatch handler businessID = .ok performed) :
    (firstActive handler.tokens businessID).map Integration.externalID = some performed.browser.permalink := by
  cases operation with
  | fetchYandex =>
    simp only [dispatch, getInfo, bind_ok, pure_ok] at dispatched
    obtain ⟨_, opens, rfl⟩ := dispatched
    exact permalink_of_getBrowser opens
  | syncSchedule hours =>
    have absent : ((∅ : Args).insert "hours" (.str hours)).lookup "special_dates" = none :=
      AList.lookup_insert_ne (by decide)
    simp only [dispatch, updateHours, absent, bind_ok, pure_ok] at dispatched
    obtain ⟨_, opens, rfl⟩ := dispatched
    exact permalink_of_getBrowser opens
  | syncSpecialDates change =>
    simp only [dispatch, updateHours, updateSpecialDates,
      AList.lookup_insert, bind_ok] at dispatched
    obtain ⟨_, _, parsed⟩ := dispatched
    split at parsed
    · cases parsed
    · obtain ⟨_, opens, done⟩ := bind_ok.mp parsed
      obtain rfl := pure_ok.mp done
      exact permalink_of_getBrowser opens

/-- A channel is addressed by its operations just where it is the first active one. -/
theorem channel_addressed_iff {target : String}
    (distinct : ∀ other ∈ handler.tokens.listByBusinessAndPlatform own.businessID .yandexBusiness,
      other.externalID = own.externalID → other = own) (runs : operation.run handler own = .ok (target, performed)) :
    performed.browser.permalink = target ↔ firstActive handler.tokens own.businessID = some own := by
  simp only [run, bind_ok] at runs
  obtain ⟨_, dispatched, rfl, rfl⟩ := runs
  obtain ⟨first, found, bound⟩ := Option.map_eq_some_iff.mp (permalink_of_dispatch dispatched)
  rw [← bound, found, Option.some.injEq]
  exact ⟨distinct first (List.mem_of_find?_eq_some found), congrArg Integration.externalID⟩

namespace Sample

def channel (permalink : String) : Integration := ⟨"acme", .yandexBusiness, permalink, .active⟩

/-- A business with two organisations. -/
def channels : Handler where
  tokens := ⟨[channel "111", channel "222"], fun _ => .ok ⟨"cookies", ""⟩⟩
  shared := none
  parseSpecialDateHoursChange _ := .ok ()

def on (permalink : String) (call : Call) : Performed := ⟨⟨"cookies", permalink, false⟩, call⟩

end Sample

open Sample

/-- The first organisation is read for its own row. -/
theorem channel_addressed_iff_first :
    fetchYandex.run channels (channel "111") = .ok ("111", on "111" .getInfo) ∧
      firstActive channels.tokens "acme" = some (channel "111") := by
  have runs : fetchYandex.run channels (channel "111") = .ok ("111", on "111" .getInfo) := rfl
  exact ⟨runs, (channel_addressed_iff (by decide) runs).mp rfl⟩

/-- The row and the tasks of the second organisation are read from and written to the first. -/
theorem second_channel_missed :
    fetchYandex.run channels (channel "222") = .ok ("222", on "111" .getInfo) ∧
      (syncSchedule "hours").run channels (channel "222") = .ok ("222", on "111" (.updateHours "hours")) ∧
      (syncSpecialDates "change").run channels (channel "222") =
        .ok ("222", on "111" (.updateSpecialDates "change")) :=
  ⟨rfl, rfl, rfl⟩

end OneVoice.Agents.Yandex
