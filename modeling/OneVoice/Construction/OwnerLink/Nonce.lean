/- `pkg/telegramcallback/nonce.go`: the texts behind the buttons of an approval. -/

import OneVoice.Library.Checks

namespace OneVoice.TelegramCallback

open Library

inductive CallbackAction where
  | approve
  | reject
deriving DecidableEq

namespace CallbackAction

def text : CallbackAction → String
  | .approve => "approve"
  | .reject => "reject"

def byte : CallbackAction → String
  | .approve => "a"
  | .reject => "r"

end CallbackAction

inductive CallbackError where
  | emptySecret
  | badFormat
  | badNonce
deriving DecidableEq

def CallbackError.text : CallbackError → String
  | .emptySecret => "telegramcallback: empty hmac secret"
  | .badFormat => "telegramcallback: malformed callback_data"
  | .badNonce => "telegramcallback: nonce verification failed"

def actionToByte (action : String) : Except CallbackError String :=
  if action = CallbackAction.approve.text then .ok CallbackAction.approve.byte
  else if action = CallbackAction.reject.text then .ok CallbackAction.reject.byte
  else .error .badFormat

def byteToAction (byte : String) : Except CallbackError CallbackAction :=
  if byte = CallbackAction.approve.byte then .ok .approve
  else if byte = CallbackAction.reject.byte then .ok .reject
  else .error .badFormat

/-- The parameter stands for HMAC-SHA256 under a secret. -/
def computeMAC (hmac : String → String → Vector UInt8 32) (batchID action secret : String) : String :=
  .ofList (((hmac secret (batchID ++ "|" ++ action)).toList.take 4).flatMap fun byte =>
    [Nat.digitChar (byte.toNat / 16), Nat.digitChar (byte.toNat % 16)])

variable (mac : (batchID action secret : String) → String)

def buildCallbackData (batchID action secret : String) : Except CallbackError String := do
  require (secret ≠ "") .emptySecret
  let byte ← actionToByte action
  require (batchID ≠ "") .badFormat
  return ":".intercalate ["v1", batchID, byte, mac batchID action secret]

def splitFields (data : String) : List String := (data.toList.splitOnP (· = ':')).map .ofList

def parseAndVerify (data secret : String) : Except CallbackError (String × CallbackAction) :=
  if secret = "" then .error .emptySecret
  else
    match splitFields data with
    | [version, id, byte, gotMAC] => do
        require (version = "v1" ∧ id ≠ "") .badFormat
        let action ← byteToAction byte
        require (gotMAC = mac id action.text secret) .badNonce
        return (id, action)
    | _ => .error .badFormat

end OneVoice.TelegramCallback
