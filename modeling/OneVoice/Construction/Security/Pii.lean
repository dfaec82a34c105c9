/- `pkg/security/pii.go`: the six classes of personal data, the redaction and the detector. -/

import OneVoice.Library.Regex

namespace OneVoice.Security

open Library

/-- A Go string as a range loop reads it: a byte that starts no UTF-8 sequence stands alone, in no
class. -/
inductive Symbol where
  | rune (char : Char)
  | raw (byte : UInt8)
  deriving DecidableEq

abbrev Text := List Symbol

namespace Symbol

def test (test : Char → Bool) : Symbol → Bool
  | .rune char => test char
  | .raw _ => false

end Symbol

def text (string : String) : Text := string.toList.map .rune

def isWord (char : Char) : Bool := char.isAlphanum || char = '_'

/-- The word characters of a boundary are those of ASCII. -/
def word : Symbol → Bool := Symbol.test isWord

abbrev Pattern := Regex Symbol

variable (test : Char → Bool) (s : Text)

variable (allow : List Text) (chars : List Char)

namespace Pattern

def class_ : Pattern := .one (Symbol.test test)

def many : Pattern := .star (Symbol.test test)

def char (char : Char) : Pattern := class_ (· = char)

def among : Char → Bool := fun char => char ∈ chars

def isSpace : Char → Bool := among ['\t', '\n', '\x0c', '\r', ' ']

def spaceOr : Char → Bool := fun char => isSpace char || among chars char

def digits (count : Nat) (next : Pattern) : Pattern := .times count (class_ Char.isDigit) next

/-- The letters that a case-insensitive pattern accepts for a letter. -/
def fold : Char → List Char
  | 'а' => ['а', 'А']
  | 'е' => ['е', 'Е']
  | 'и' => ['и', 'И']
  | 'м' => ['м', 'М']
  | 'н' => ['н', 'Н']
  | 'о' => ['о', 'О', 'ᲂ']
  | 'п' => ['п', 'П']
  | 'р' => ['р', 'Р']
  | 'с' => ['с', 'С', 'ᲃ']
  | 'т' => ['т', 'Т', 'ᲄ', 'ᲅ']
  | 'я' => ['я', 'Я']
  | 'i' => ['i', 'I']
  | 'n' => ['n', 'N']
  | char => [char]

def literal (letters : List Char) (next : Pattern) : Pattern :=
  letters.foldr (fun letter next => .seq (class_ (among (fold letter))) next) next

end Pattern

open Pattern

def isLocal : Char → Bool := fun char => char.isAlphanum || among ['.', '_', '%', '+', '-'] char

def isDomain : Char → Bool := fun char => char.isAlphanum || among ['.', '-'] char

def reEmail : Pattern := .seq (class_ isLocal) <| .seq (many isLocal) <| .seq (char '@') <|
  .seq (class_ isDomain) <| .seq (many isDomain) <| .seq (char '.') <|
  .times 2 (class_ Char.isAlpha) (many Char.isAlpha)

def reCreditCard : Pattern :=
  let group := .seq (class_ Char.isDigit) (.opt (class_ (among [' ', '-'])))
  .seq .bound <| .times 12 group <| .seq (.upTo 6 group) <| .seq (class_ Char.isDigit) .bound

/-- The phone pattern up to its last boundary. -/
def phoneShape : Pattern :=
  .seq (.alt (.seq (char '+') (char '7')) (char '8')) <| .seq (many (spaceOr ['-', '('])) <|
  digits 3 <| .seq (many (spaceOr ['-', ')'])) <| digits 3 <| .seq (many (spaceOr ['-'])) <|
  digits 2 <| .seq (many (spaceOr ['-'])) <| digits 1 <| class_ Char.isDigit

def rePhoneRU : Pattern := .seq phoneShape .bound

def isUpperOrDigit : Char → Bool := fun char => char.isUpper || char.isDigit

def reIBAN : Pattern := .seq .bound <| .times 2 (class_ Char.isUpper) <| digits 2 <|
  .times 11 (class_ isUpperOrDigit) <| .seq (.upTo 19 (class_ isUpperOrDigit)) .bound

def rePassportRU : Pattern :=
  .alt
    (.seq
      (.alt (literal ['п', 'а', 'с', 'п', 'о', 'р', 'т'] .empty)
        (literal ['с', 'е', 'р', 'и', 'я'] <| .seq (.plus (Symbol.test isSpace)) <|
          literal ['и'] <| .seq (.plus (Symbol.test isSpace)) <|
          literal ['н', 'о', 'м', 'е', 'р'] .empty)) <|
      .seq (many (spaceOr [':', '№'])) <| digits 4 <| .seq (many isSpace) <| digits 6 .bound)
    (.seq .bound <| digits 4 <| .seq (class_ isSpace) <| digits 6 .bound)

def reINN : Pattern :=
  .seq (.alt (.seq .bound (literal ['i', 'n', 'n'] .empty)) (literal ['и', 'н', 'н'] .empty)) <|
  .seq (many (spaceOr [':', '№'])) <| digits 10 <| .seq (.opt (digits 2 .empty)) .bound

/-- The candidate matches the card pattern, so its digits are ASCII. -/
def luhnValid (card : Text) : Bool :=
  let digits := card.filterMap fun
    | .rune char => if char.isDigit then some (char.toNat - '0'.toNat) else none
    | .raw _ => none
  if digits.length < 13 || digits.length > 19 then false
  else
    let sum := digits.zipIdx.foldl (fun sum (digit, i) =>
      if (digits.length - i) % 2 = 0 then
        let doubled := digit * 2
        sum + if doubled > 9 then doubled - 9 else doubled
      else sum + digit) 0
    sum % 10 = 0

inductive ClassName where
  | email | phone | iban | passport | inn | cc
  deriving DecidableEq

structure PiiClass where
  name : ClassName
  pattern : Pattern
  extra : Option (Text → Bool) := none

def piiClasses : List PiiClass := [ ⟨.email, reEmail, none⟩, ⟨.phone, rePhoneRU, none⟩, ⟨.iban, reIBAN, none⟩,
  ⟨.passport, rePassportRU, none⟩,
  ⟨.inn, reINN, none⟩,
  ⟨.cc, reCreditCard, some luhnValid⟩]

def redactionToken : Text := text "[Скрыто]"

def ruPhoneDigits : Nat := 11

inductive AllowKey where
  | email (value : Text)
  | phone (digits : List Char)
  | none
  deriving DecidableEq

/-- An e-mail here matches its pattern, so its letters are ASCII. -/
def toLower : Symbol → Symbol
  | .rune char => .rune char.toLower
  | .raw byte => .raw byte

def phoneKey (value : Text) : List Char :=
  let key := value.filterMap fun
    | .rune char => if char.isDigit then some char else .none
    | .raw _ => .none
  match key with
  | '8' :: rest => if key.length = ruPhoneDigits then '7' :: rest else key
  | _ => key

def contactAllowKey (name : ClassName) (value : Text) : AllowKey :=
  match name with
  | .email => .email (value.map toLower)
  | .phone => .phone (phoneKey value)
  | _ => .none

/-- A listed value grants its key if all of it is an e-mail or a phone. -/
def normalizedAllowSet : List AllowKey :=
  allow.flatMap fun value =>
    (piiClasses.filter fun c => c.name = .email || c.name = .phone).filterMap fun c =>
      if c.pattern.find word value = some value then some (contactAllowKey c.name value) else .none

namespace PiiClass

def valid (c : PiiClass) (found : Text) : Bool := c.extra.all (· found)

end PiiClass

def redactMatch (c : PiiClass) (allowed : List AllowKey) (found : Text) : Text :=
  if !c.valid found then found
  else if contactAllowKey c.name found ∈ allowed then found
  else redactionToken

def redactPIIExcept : Text :=
  let allowed := normalizedAllowSet allow
  piiClasses.foldl (fun out c => c.pattern.replaceAll word (redactMatch c allowed) out) s

def redactPII : Text := redactPIIExcept s []

/-- The first class whose first match passes the check of the class. -/
def containsPIIClass : Option ClassName :=
  piiClasses.findSome? fun c =>
    match c.pattern.find word s with
    | none => none
    | some found => if c.valid found then some c.name else none

def containsPII : Bool := (containsPIIClass s).isSome

end OneVoice.Security
