import Mathlib.Algebra.Ring.Int.Defs
import Mathlib.Data.List.AList
import Mathlib.Data.List.Sort
import Mathlib.Data.Rat.Defs

/-! JSON values up to their text, the field, list and map codecs of a struct decoder that gives an absent
or null field its zero value, and the decoding of an object into a record, where a key belongs to the
field with the same letters. -/

namespace OneVoice.Library

/-- A JSON value keeps the fields of an object in the order of its text. -/
inductive Json where
  | null
  | bool (value : Bool)
  | num (value : Rat)
  | str (value : String)
  | arr (items : List Json)
  | obj (fields : List (String × Json))

/-- A map holds each key at most once; its list order is an iteration order. -/
abbrev StringMap (α : Type) := AList (fun _ : String => α)

namespace Json

variable {α : Type}

/-- A repeated field takes its last value. -/
def field? (name : String) (fields : List (String × Json)) : Option Json := fields.reverse.lookup name

/-- An absent field keeps the zero value of its type. -/
def decodeField (decode : Json → Option α) (zero : α) (name : String) (fields : List (String × Json)) : Option α :=
  match field? name fields with
  | none => some zero
  | some value => decode value

/-- A field that carries `omitempty` is left out at its zero value. -/
def omitEmpty (name : String) (value : Json) (empty : Bool) : List (String × Json) :=
  if empty then [] else [(name, value)]

def decodeString : Json → Option String
  | .null => some ""
  | .str value => some value
  | _ => none

def decodeBool : Json → Option Bool
  | .null => some false
  | .bool value => some value
  | _ => none

def decodeInt : Json → Option Int
  | .null => some 0
  | .num value => if value.den = 1 then some value.num else none
  | _ => none

def decodeList (decode : Json → Option α) : Json → Option (List α)
  | .null => some []
  | .arr items => items.mapM decode
  | _ => none

def encodeList (encode : α → Json) (items : List α) : Json := .arr (items.map encode)

/-- A later entry replaces an earlier entry of the same name. -/
def decodeEntries (decode : Json → Option α) : List (String × Json) → StringMap α → Option (StringMap α)
  | [], known => some known
  | (name, value) :: rest, known =>
    match decode value with
    | none => none
    | some decoded => decodeEntries decode rest (known.insert name decoded)

def decodeMap (decode : Json → Option α) : Json → Option (StringMap α)
  | .null => some ∅
  | .obj fields => decodeEntries decode fields ∅
  | _ => none

def encodeMap (encode : α → Json) (map : StringMap α) : Json :=
  .obj (map.entries.map fun entry => (entry.1, encode entry.2))

mutual

/-- Some object key at any depth passes the test. -/
def someKey (test : String → Bool) : Json → Bool
  | .arr items => someItemKey test items
  | .obj fields => someFieldKey test fields
  | _ => false

def someItemKey (test : String → Bool) : List Json → Bool
  | [] => false
  | item :: rest => someKey test item || someItemKey test rest

def someFieldKey (test : String → Bool) : List (String × Json) → Bool
  | [] => false
  | (name, value) :: rest => test name || someKey test value || someFieldKey test rest

end

/-- The bytes of one character that the marshaller writes. -/
def charSize (char : Char) : Nat :=
  if char ∈ ['"', '\\', '\n', '\r', '\t', '\x08', '\x0c'] then 2
  else if char.val < 0x20 ∨ char ∈ ['<', '>', '&', '\u2028', '\u2029'] then 6
  else char.utf8Size

def stringSize (text : String) : Nat := text.toList.foldl (fun size char => size + charSize char) 2

mutual

/-- The bytes of the compact text of a value. A number is an integer here. -/
def encodedSize : Json → Nat
  | .null => 4
  | .bool value => if value then 4 else 5
  | .num value => (toString value.num).utf8ByteSize
  | .str value => stringSize value
  | .arr items => max 2 (1 + itemsSize items)
  | .obj fields => max 2 (1 + fieldsSize fields)

/-- Each item brings the comma or the bracket that follows it. -/
def itemsSize : List Json → Nat
  | [] => 0
  | item :: rest => encodedSize item + 1 + itemsSize rest

def fieldsSize : List (String × Json) → Nat
  | [] => 0
  | (name, value) :: rest => stringSize name + 1 + encodedSize value + 1 + fieldsSize rest

end

/-- The size of a list does not depend on its order. -/
theorem itemsSize_perm {items others} (same : items.Perm others) : itemsSize items = itemsSize others := by
  induction same with
  | nil => rfl
  | cons item _ ih => rw [itemsSize, itemsSize, ih]
  | swap first second rest =>
    simp only [itemsSize]
    omega
  | trans _ _ first second => exact first.trans second

@[simp] theorem decodeString_str (value : String) : decodeString (.str value) = some value := rfl

@[simp] theorem decodeInt_num (value : Int) : decodeInt (.num (value : Rat)) = some value := by
  simp [decodeInt]

variable {decode : Json → Option α} {encode : α → Json} {name : String}

theorem field?_append_omitEmpty_ne {other} (different : name ≠ other)
    (fields : List (String × Json)) (value : Json) (empty : Bool) :
    field? name (fields ++ omitEmpty other value empty) = field? name fields := by
  cases empty with
  | true => simp [omitEmpty]
  | false => simp [omitEmpty, field?, List.lookup_cons, beq_eq_false_iff_ne.mpr different]

/-- Another optional field does not change what a field decodes to. -/
theorem decodeField_append_omitEmpty_ne {zero other} (different : name ≠ other)
    (fields : List (String × Json)) (value : Json) (empty : Bool) :
    decodeField decode zero name (fields ++ omitEmpty other value empty) = decodeField decode zero name fields := by
  rw [decodeField, decodeField, field?_append_omitEmpty_ne different]

/-- An optional field decodes to its own value, left out or not. -/
theorem decodeField_append_omitEmpty {zero item value empty fields}
    (absent : field? name fields = none) (inverse : decode value = some item) (omitted : empty = true → item = zero) :
    decodeField decode zero name (fields ++ omitEmpty name value empty) = some item := by
  cases empty with
  | true => simp [omitEmpty, decodeField, absent, omitted rfl]
  | false => simp [omitEmpty, decodeField, field?, inverse]

section

variable (inverse : ∀ item, decode (encode item) = some item)

include inverse

theorem decodeList_encodeList (items : List α) : decodeList decode (encodeList encode items) = some items := by
  simp only [decodeList, encodeList]
  induction items with
  | nil => rfl
  | cons item items ih => simp [inverse, ih]

/-- The entries of a map decode on top of the known ones. -/
theorem decodeEntries_lookup (entries : List (Sigma fun _ : String => α))
    (distinct : entries.NodupKeys) (known : StringMap α) :
    ∃ map, decodeEntries decode (entries.map fun entry => (entry.1, encode entry.2)) known = some map ∧
      ∀ name, map.lookup name = (entries.dlookup name).or (known.lookup name) := by
  induction entries generalizing known with
  | nil => exact ⟨known, rfl, fun name => by simp⟩
  | cons entry entries ih =>
    obtain ⟨name, value⟩ := entry
    obtain ⟨fresh, rest⟩ := List.nodupKeys_cons.mp distinct
    obtain ⟨map, decoded, found⟩ := ih rest (known.insert name value)
    refine ⟨map, by simpa [decodeEntries, inverse] using decoded, fun other => ?_⟩
    rw [found other]
    by_cases same : other = name
    · subst same
      have absent : entries.dlookup other = none := List.dlookup_eq_none.mpr fresh
      simp [absent]
    · rw [AList.lookup_insert_ne same, List.dlookup_cons_ne _ _ same]

/-- A map that was encoded decodes to a map with the same lookups. -/
theorem decodeMap_encodeMap (map : StringMap α) :
    ∃ decoded, decodeMap decode (encodeMap encode map) = some decoded ∧
      ∀ name, decoded.lookup name = map.lookup name := by
  obtain ⟨decoded, equal, found⟩ := decodeEntries_lookup inverse map.entries map.nodupKeys ∅
  exact ⟨decoded, equal, fun name => by simpa [AList.lookup] using found name⟩

end

end Json

/-- The first character of the fold class; two of these classes leave ASCII. -/
def foldChar (char : Char) : Char :=
  if 'a' ≤ char ∧ char ≤ 'z' then Char.ofNat (char.toNat - 32)
  else if char = 'ſ' then 'S'
  else if char = 'K' then 'K'
  else char

def foldName (name : String) : List Char := name.toList.map foldChar

namespace Json

/-- A map is written with its keys in order. -/
def sortFields (fields : List (String × Json)) : List (String × Json) :=
  fields.insertionSort fun first second => ¬ second.1 < first.1

/-- A null leaves the field as it is. -/
def decodeInto {α : Type} (decode : Json → Option α) (current : α) : Json → Option α
  | .null => some current
  | value => decode value

def decodeMatching {α : Type} (decode : Json → Option α) (zero : α) (name : String)
    (fields : List (String × Json)) : Option α :=
  (fields.filter fun field => foldName field.1 = foldName name).foldlM
    (fun current field => decodeInto decode current field.2) zero

/-- A type with its own decoder gets every value, a null too. -/
def decodeOwn {α : Type} (decode : Json → Option α) (zero : α) (name : String)
    (fields : List (String × Json)) : Option α :=
  (fields.filter fun field => foldName field.1 = foldName name).foldlM (fun _ field => decode field.2) zero

def decodeInt64 (value : Json) : Option Int :=
  (decodeInt value).filter fun number => -2 ^ 63 ≤ number ∧ number < 2 ^ 63

end Json

end OneVoice.Library
