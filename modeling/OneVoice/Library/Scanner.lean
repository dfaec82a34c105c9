import OneVoice.Library.Json

/-!
The first JSON value of a sequence of bytes. A machine reads one byte at a time and has a stack with
one entry for each open array or object.
-/

namespace OneVoice.Library.Scanner

open Char

abbrev Bytes := List UInt8

/-- The meaning of the text of a string or of a number. -/
structure Lexemes where
  unquote : Bytes → String
  number : Bytes → Rat

/-- What is complete of an array or object; a member waits for its value. -/
inductive Frame where
  | array (items : List Json)
  | object (fields : List (String × Json))
  | member (fields : List (String × Json)) (key : String)

/-- The part of a number that was read last. -/
inductive NumberPart where
  | neg | zero | digits | dot | fraction | exponent | exponentSign | exponentDigits

inductive State where
  | beginValue
  | beginValueOrEmpty
  | beginString
  | beginStringOrEmpty
  | inString (isKey : Bool) (raw : Bytes)
  | inStringEsc (isKey : Bool) (raw : Bytes)
  | inStringEscU (isKey : Bool) (raw : Bytes) (left : Nat)
  | endKey (key : String)
  | literal (left : List Char) (value : Json)
  | number (part : NumberPart) (raw : Bytes)
  | endValue

/-- A number has no last byte; the outermost ends before the byte read. -/
inductive Next where
  | more (state : State) (stack : List Frame)
  | done (value : Json)
  | doneBefore (number : Rat)
  | error

def maxNestingDepth : Nat := 10000

variable (char : Char) (byte : UInt8)

def isBlank : Bool := ofUInt8 byte ∈ [' ', '\t', '\r', '\n']

def isHex : Bool := char.isDigit || ('a' ≤ char && char ≤ 'f') || ('A' ≤ char && char ≤ 'F')

def exponentMark : Option NumberPart :=
  if char = 'e' ∨ char = 'E' then some .exponent else none

def afterInteger : Option NumberPart :=
  if char = '.' then some .dot else exponentMark char

namespace NumberPart

def next : NumberPart → Option NumberPart
  | .neg => if char = '0' then some .zero else if char.isDigit then some .digits else none
  | .zero => afterInteger char
  | .digits => if char.isDigit then some .digits else afterInteger char
  | .dot => if char.isDigit then some .fraction else none
  | .fraction => if char.isDigit then some .fraction else exponentMark char
  | .exponent =>
    if char = '+' ∨ char = '-' then some .exponentSign
    else if char.isDigit then some .exponentDigits
    else none
  | .exponentSign | .exponentDigits => if char.isDigit then some .exponentDigits else none

def isComplete : NumberPart → Bool
  | .zero | .digits | .fraction | .exponentDigits => true
  | .neg | .dot | .exponent | .exponentSign => false

end NumberPart

variable (state : State) (value : Json) (stack : List Frame)

def complete : List Frame → Next
  | [] => .done value
  | .array items :: stack => .more .endValue (.array (items ++ [value]) :: stack)
  | .member fields key :: stack => .more .endValue (.object (fields ++ [(key, value)]) :: stack)
  | .object _ :: _ => .error

def push (frame : Frame) (state : State) (stack : List Frame) : Next :=
  if stack.length < maxNestingDepth then .more state (frame :: stack) else .error

def stepBeginValue : Next :=
  match ofUInt8 byte with
  | '{' => push (.object []) .beginStringOrEmpty stack
  | '[' => push (.array []) .beginValueOrEmpty stack
  | '"' => .more (.inString false []) stack
  | 't' => .more (.literal ['r', 'u', 'e'] (.bool true)) stack
  | 'f' => .more (.literal ['a', 'l', 's', 'e'] (.bool false)) stack
  | 'n' => .more (.literal ['u', 'l', 'l'] .null) stack
  | '-' => .more (.number .neg [byte]) stack
  | '0' => .more (.number .zero [byte]) stack
  | char => if char.isDigit then .more (.number .digits [byte]) stack else .error

def stepBeginString : Next :=
  if Char.ofUInt8 byte = '"' then .more (.inString true []) stack else .error

/-- The byte after a value, or one that closes an empty frame. -/
def stepEndValue : List Frame → Next
  | .array items :: stack =>
    match ofUInt8 byte with
    | ',' => .more .beginValue (.array items :: stack)
    | ']' => complete (.arr items) stack
    | _ => .error
  | .object fields :: stack =>
    match ofUInt8 byte with
    | ',' => .more .beginString (.object fields :: stack)
    | '}' => complete (.obj fields) stack
    | _ => .error
  | _ => .error

def stepLiteral : List Char → Next
  | [] => .error
  | expected :: left =>
    if ofUInt8 byte = expected then
      if left.isEmpty then complete value stack else .more (.literal left value) stack
    else .error

def skipBlank (next : Next) : Next :=
  if isBlank byte then .more state stack else next

section

variable (lexemes : Lexemes)

def stepInString (byte : UInt8) (isKey : Bool) (raw : Bytes) (stack : List Frame) : Next :=
  match ofUInt8 byte with
  | '"' =>
    let text := lexemes.unquote raw.reverse
    if isKey then .more (.endKey text) stack else complete (.str text) stack
  | '\\' => .more (.inStringEsc isKey (byte :: raw)) stack
  | char => if char.val < 0x20 then .error else .more (.inString isKey (byte :: raw)) stack

/-- The byte that ends a number is also the byte after a value. -/
def stepNumber (byte : UInt8) (part : NumberPart) (raw : Bytes) (stack : List Frame) : Next :=
  match part.next (Char.ofUInt8 byte) with
  | some part => .more (.number part (byte :: raw)) stack
  | none =>
    if part.isComplete then
      let number := lexemes.number raw.reverse
      match stack with
      | [] => .doneBefore number
      | _ =>
        match complete (.num number) stack with
        | .more state stack => skipBlank byte state stack (stepEndValue byte stack)
        | next => next
    else .error

def step (byte : UInt8) (stack : List Frame) : State → Next
  | .beginValue => skipBlank byte .beginValue stack (stepBeginValue byte stack)
  | .beginValueOrEmpty =>
    skipBlank byte .beginValueOrEmpty stack <|
      if Char.ofUInt8 byte = ']' then stepEndValue byte stack else stepBeginValue byte stack
  | .beginString => skipBlank byte .beginString stack (stepBeginString byte stack)
  | .beginStringOrEmpty =>
    skipBlank byte .beginStringOrEmpty stack <|
      if Char.ofUInt8 byte = '}' then stepEndValue byte stack else stepBeginString byte stack
  | .inString isKey raw => stepInString lexemes byte isKey raw stack
  | .inStringEsc isKey raw =>
    if Char.ofUInt8 byte ∈ ['b', 'f', 'n', 'r', 't', '\\', '/', '"'] then
      .more (.inString isKey (byte :: raw)) stack
    else if ofUInt8 byte = 'u' then .more (.inStringEscU isKey (byte :: raw) 3) stack
    else .error
  | .inStringEscU isKey raw left =>
    if isHex (ofUInt8 byte) then
      match left with
      | 0 => .more (.inString isKey (byte :: raw)) stack
      | left + 1 => .more (.inStringEscU isKey (byte :: raw) left) stack
    else .error
  | .endKey key =>
    skipBlank byte (.endKey key) stack <|
      match ofUInt8 byte, stack with
      | ':', .object fields :: stack => .more .beginValue (.member fields key :: stack)
      | _, _ => .error
  | .literal left value => stepLiteral byte value stack left
  | .number part raw => stepNumber lexemes byte part raw stack
  | .endValue => skipBlank byte .endValue stack (stepEndValue byte stack)

/-- At the end of the bytes only an outermost number can be complete. -/
def finish (state : State) (stack : List Frame) : Option (Json × Bytes) :=
  match state, stack with
  | .number part raw, [] =>
    if part.isComplete then some (.num (lexemes.number raw.reverse), []) else none
  | _, _ => none

def scan (state : State) (stack : List Frame) : Bytes → Option (Json × Bytes)
  | [] => finish lexemes state stack
  | byte :: rest =>
    match step lexemes byte stack state with
    | .more state stack => scan state stack rest
    | .done value => some (value, rest)
    | .doneBefore number => some (.num number, byte :: rest)
    | .error => none

/-- The first value, and the bytes after it. -/
def firstValue (bytes : Bytes) : Option (Json × Bytes) := scan lexemes .beginValue [] bytes

/-- A decoder of a stream takes the first value and leaves the rest. -/
def decode (bytes : Bytes) : Option Json := (firstValue lexemes bytes).map Prod.fst

/-- All bytes are one value, with blanks around it. -/
def unmarshal (bytes : Bytes) : Option Json :=
  match firstValue lexemes bytes with
  | some (value, rest) => if rest.all isBlank then some value else none
  | none => none

end

end OneVoice.Library.Scanner
