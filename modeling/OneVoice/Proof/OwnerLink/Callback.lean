import OneVoice.Construction.Agents.Telegram
import OneVoice.Proof.OwnerLink.LatestOwner

namespace OneVoice.OwnerLink

open Library TelegramCallback

variable {data : String} (hmac : String → String → Vector UInt8 32)

/-- A text splits into the fields it joins if none has a colon. -/
theorem splitFields_eq_iff {fields} (some_field : fields ≠ [])
    (plain : ∀ field ∈ fields, ':' ∉ field.toList) : splitFields data = fields ↔ data = ":".intercalate fields := by
  have split : splitFields data = (data.toList.splitOn ':').map .ofList := rfl
  rw [split]
  constructor
  · rintro rfl
    apply String.toList_injective
    rw [String.toList_intercalate, List.map_map,
      show String.toList ∘ String.ofList = id from funext fun _ => String.toList_ofList, List.map_id]
    exact (List.intercalate_splitOn ':').symm
  · rintro rfl
    rw [String.toList_intercalate]
    change (List.splitOn ':' ([':'].intercalate _)).map _ = _
    rw [List.splitOn_intercalate ':' (List.forall_mem_map.mpr plain) (by simpa using some_field),
      List.map_map, show String.ofList ∘ String.toList = id from
        funext fun _ => String.ofList_toList, List.map_id]

theorem colon_not_mem_computeMAC (batchID action secret : String) :
    ':' ∉ (computeMAC hmac batchID action secret).toList := by
  have digit : ∀ value < 16, ':' ≠ Nat.digitChar value := by decide
  rw [computeMAC, String.toList_ofList, List.mem_flatMap]
  rintro ⟨byte, _, colon⟩
  have high : byte.toNat / 16 < 16 := by
    have := byte.toNat_lt
    omega
  rcases List.mem_pair.mp colon with first | second
  · exact digit _ high first
  · exact digit _ (Nat.mod_lt _ (by decide)) second

theorem Deployment.parseAndVerify_ok_iff {deployment : Deployment} {batchID : String}
    {action : CallbackAction} (named : batchID ≠ "") :
    deployment.parseAndVerify data = .ok (batchID, action) ↔ deployment.Verifies data batchID action := by
  refine ⟨parseAndVerify_ok, ?_⟩
  rintro ⟨secret, split⟩
  have read : byteToAction action.byte = .ok action := by cases action <;> rfl
  simp only [parseAndVerify, TelegramCallback.parseAndVerify, if_neg secret, split, bind_ok, require_ok]
  exact ⟨(), ⟨trivial, named⟩, action, read, (), rfl, rfl⟩

/-- A text is accepted for batch and action just if built for them. -/
theorem parseAndVerify_iff_built {handler : Agents.Telegram.Handler} {deployment : Deployment}
    (secret : handler.approvalHMACSecret = deployment.secret) (builds : handler.computeMAC = computeMAC hmac)
    (verifies : deployment.computeMAC = computeMAC hmac) {batchID : String}
    (named : batchID ≠ "") (plain : ':' ∉ batchID.toList) (action : CallbackAction) (data : String) :
    deployment.parseAndVerify data = .ok (batchID, action) ↔
      buildCallbackData handler.computeMAC batchID action.text handler.approvalHMACSecret = .ok data := by
  have byte : actionToByte action.text = .ok action.byte := by cases action <;> rfl
  have fields : ∀ field ∈ ["v1", batchID, action.byte, computeMAC hmac batchID action.text deployment.secret],
      ':' ∉ field.toList := by
    simp only [List.forall_mem_cons]
    refine ⟨by decide, plain, ?_, colon_not_mem_computeMAC hmac _ _ _, List.forall_mem_nil _⟩
    cases action <;> decide
  rw [Deployment.parseAndVerify_ok_iff named, Deployment.Verifies, verifies,
    splitFields_eq_iff (List.cons_ne_nil _ _) fields]
  simp only [buildCallbackData, bind_ok, require_ok, pure_ok, secret, builds, byte]
  constructor
  · rintro ⟨set, rfl⟩
    exact ⟨(), set, _, rfl, (), named, rfl⟩
  · rintro ⟨_, set, _, ⟨⟩, _, _, rfl⟩
    exact ⟨set, rfl⟩

/-- Both sides run with one secret. -/
theorem parseAndVerify_iff_built_batch : let codes := computeMAC fun _ _ => Vector.replicate 32 171
    let deployment := { Sample.deployment with computeMAC := codes }
    (deployment.parseAndVerify "v1:batch:a:abababab" = .ok ("batch", .approve) ↔
      buildCallbackData codes "batch" "approve" deployment.secret = .ok "v1:batch:a:abababab") :=
  @parseAndVerify_iff_built (fun _ _ => Vector.replicate 32 171)
    ⟨⟨[], fun _ => .error (.other "")⟩, fun _ => true, _, _⟩ { Sample.deployment with computeMAC := _ } rfl rfl rfl
    "batch" (by decide) (by decide) .approve _

end OneVoice.OwnerLink
