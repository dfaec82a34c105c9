import OneVoice.Proof.Agents.Tools

namespace OneVoice.Agents

open Library Domain

/-- An identifier is owned by the businesses with an integration for it. -/
def Owns (integrations : List Integration) (businessID : String) (platform : Platform) (externalID : String) : Prop :=
  ∃ row ∈ integrations, row.businessID = businessID ∧ row.platform = platform ∧ row.externalID = externalID

section Tokens

variable {service : TokenService} {businessID externalID : String} {platform : Platform} {row : Integration}

theorem mem_listByBusinessAndPlatform :
    row ∈ service.listByBusinessAndPlatform businessID platform ↔
      row ∈ service.integrations ∧ row.businessID = businessID ∧ row.platform = platform := by
  simp [TokenService.listByBusinessAndPlatform]

/-- Whatever is selected is listed for the business. -/
theorem mem_of_select (selected : service.select businessID platform externalID = some row) :
    row ∈ service.integrations ∧ row.businessID = businessID ∧ row.platform = platform := by
  apply mem_listByBusinessAndPlatform.mp
  obtain named | ⟨_, active⟩ := Option.or_eq_some_iff.mp selected
  · split at named
    · exact List.mem_of_find?_eq_some named
    · cases named
  · exact List.mem_of_find?_eq_some active

theorem owns_of_select (selected : service.select businessID platform externalID = some row) :
    Owns service.integrations businessID platform row.externalID := by
  obtain ⟨stored, business, named⟩ := mem_of_select selected
  exact ⟨row, stored, business, named, rfl⟩

end Tokens

variable (owned : String → Prop)

namespace Telegram

/-- Only the chats of users have positive numbers, without public names. -/
def PrivateChat (chat : String) : Prop := ∃ id, Decimal.parseInt chat = some id ∧ 0 < id

/-- A write goes to an owned chat and a notification to a private one. -/
def Call.Confined : Call → Prop
  | .sendMessage chat _ | .sendPhoto chat .. | .sendReply chat .. | .editMessage chat ..
  | .deleteMessage chat _ => owned chat
  | .sendMessageWithMarkup chat .. => PrivateChat chat
  | .getReviews _ => True

/-- A notification to a channel or a group, with a bot to send it. -/
def Handler.Broadcasts (handler : Handler) (request : ToolRequest) : Prop :=
  request.tool = "telegram__send_notification" ∧ isValidChatTarget (stringArg request.args "chat_id") ∧
    ¬ PrivateChat (stringArg request.args "chat_id") ∧
    ∃ row tokens, handler.Sends request (stringArg request.args "chat_id") row tokens

variable {handler : Handler} {request : ToolRequest} {performed : Performed}

/-- Every tool but the notification keeps to the chats of its business. -/
theorem confined_of_handle (performs : handler.handle request = .ok performed)
    (others : request.tool ≠ "telegram__send_notification") :
    performed.call.Confined (Owns handler.tokens.integrations request.businessID .telegram) := by
  obtain ⟨row, _, sends, _, on⟩ := lends_of_handle performs
  have owned := owns_of_select sends.1.1
  cases called : performed.call with
  | sendMessageWithMarkup =>
    rw [called] at on
    exact absurd on others
  | getReviews => trivial
  | _ =>
    rw [called] at on
    exact on ▸ owned

theorem handle_notification (named : request.tool = "telegram__send_notification") :
    handler.handle request = handler.sendNotification request := by
  simp [Handler.handle, named]

theorem confined_iff_not_broadcasts (handler : Handler) (request : ToolRequest) :
    (∀ performed, handler.handle request = .ok performed →
      performed.call.Confined (Owns handler.tokens.integrations request.businessID .telegram)) ↔
      ¬ handler.Broadcasts request := by
  constructor
  · rintro confined ⟨named, valid, group, row, tokens, sends⟩
    obtain ⟨markup, built⟩ := approvalMarkup_isOk handler request.args
    have performs : handler.handle request = .ok ⟨tokens.accessToken, .sendMessageWithMarkup
        (stringArg request.args "chat_id") (stringArg request.args "text") markup⟩ := by
      rw [handle_notification named, sendNotification_ok]
      exact ⟨valid, row, tokens, markup, sends, built, rfl⟩
    exact group (confined _ performs)
  · intro kept performed performs
    by_cases named : request.tool = "telegram__send_notification"
    · rw [handle_notification named, sendNotification_ok] at performs
      obtain ⟨valid, row, tokens, markup, sends, _, rfl⟩ := performs
      by_contra group
      exact kept ⟨named, valid, group, row, tokens, sends⟩
    · exact confined_of_handle performs named

end Telegram

namespace Vk

/-- The text of an owner names a community up to the leading minus. -/
def Address.Names : Address → String → Prop
  | .owner id, externalID => trimMinus id = trimMinus externalID
  | .group id, externalID => Decimal.parseInt (trimMinus externalID) = some id

def Call.Confined (call : Call) : Prop :=
  ∀ address, call.address = some address → ∃ externalID, owned externalID ∧ address.Names externalID

variable {handler : Handler} {request : ToolRequest} {performed : Performed}

theorem trimMinus_of_unsigned {groupID} (unsigned : ∀ rest, groupID.toList ≠ '-' :: rest) :
    trimMinus groupID = groupID := by
  unfold trimMinus
  split
  · rename_i rest signed
    exact absurd signed (unsigned rest)
  · rfl

theorem trimMinus_ensureNegativeGroupID (groupID : String) :
    trimMinus (ensureNegativeGroupID groupID) = trimMinus groupID := by
  unfold ensureNegativeGroupID
  split
  · rfl
  · rfl
  · rename_i unsigned
    split
    · simp [trimMinus]
    · rfl

/-- A call on an owned group, up to the minus, is confined. -/
theorem confined_of_trimMinus {owned : String → Prop} {externalID} (own : owned externalID)
    (call : Call) (same : trimMinus call.groupID = trimMinus externalID) : call.Confined owned := by
  intro address used
  refine ⟨externalID, own, ?_⟩
  cases call with
  | postPhoto | updateGroupInfo =>
    obtain ⟨id, parsed, rfl⟩ := Option.map_eq_some_iff.mp used
    rw [Address.Names, ← same]
    exact parsed
  | getComments | getCommunityInfo | getWallPosts => cases used
  | _ =>
    cases used
    exact same

theorem confined_of_handle (performs : handler.handle request = .ok performed) :
    performed.call.Confined (Owns handler.tokens.integrations request.businessID .vk) := by
  obtain ⟨row, _, released, group⟩ := on_of_handle performs
  apply confined_of_trimMinus (owns_of_select released.1)
  rw [group, trimMinus_ensureNegativeGroupID]

end Vk

/-- Writes stay inside of the tenant, up to notifications that name a channel or a group themselves.
-/
theorem platform_writes_confined_iff (telegram : Telegram.Handler) (vk : Vk.Handler) (request : ToolRequest) :
    ((∀ performed, telegram.handle request = .ok performed →
        performed.call.Confined (Owns telegram.tokens.integrations request.businessID .telegram)) ∧
      ∀ performed, vk.handle request = .ok performed →
        performed.call.Confined (Owns vk.tokens.integrations request.businessID .vk)) ↔
      ¬ telegram.Broadcasts request := by
  rw [← Telegram.confined_iff_not_broadcasts telegram request]
  constructor
  · exact And.left
  · intro confined
    exact ⟨confined, fun performed performs => Vk.confined_of_handle performs⟩

/-- The business has one channel and notifies that of another one. -/
def Sample.telegram : Telegram.Handler where
  tokens :=
    { integrations := [⟨"acme", .telegram, "@acme", .active⟩, ⟨"globex", .telegram, "@globex", .active⟩]
      release := fun _ => .ok ⟨"system-bot", ""⟩ }
  reachable := fun _ => true
  approvalHMACSecret := ""
  computeMAC := fun _ _ _ => ""

def Sample.notification : ToolRequest where
  tool := "telegram__send_notification"
  businessID := "acme"
  args := ((∅ : Args).insert "text" (.str "a customer wrote")).insert "chat_id" (.str "@globex")
  approvalID := ""

theorem notification_reaches_foreign_channel :
    Sample.telegram.handle Sample.notification =
        .ok ⟨"system-bot", .sendMessageWithMarkup "@globex" "a customer wrote" none⟩ ∧
      Owns Sample.telegram.tokens.integrations "globex" .telegram "@globex" ∧
      ¬ Owns Sample.telegram.tokens.integrations "acme" .telegram "@globex" ∧ ¬ Telegram.PrivateChat "@globex" := by
  refine ⟨by decide +kernel, ?_, ?_, ?_⟩
  · exact ⟨⟨"globex", .telegram, "@globex", .active⟩, by decide, rfl, rfl, rfl⟩
  · simp [Owns, Sample.telegram]
  · simp [Telegram.PrivateChat, Decimal.parseInt, Decimal.parseDigits]

end OneVoice.Agents
