import OneVoice.Construction.Security.Redact

namespace OneVoice.Logger

open List Library

variable {Leaf : Type} (slog : Slog Leaf) (deny : String → Bool)

abbrev Leaves (Leaf : Type) := List (List String × Attr Leaf)

variable (name : String) (found : Leaves Leaf) {attr : Attr Leaf} {stop : String → Bool} (attrs : List (Attr Leaf))

def Leaves.below : Leaves Leaf := found.map fun leaf => (name :: leaf.1, leaf.2)

/-- The leaves with their group paths; an attribute with a stopping key is one as a whole. -/
def leaves (stop : String → Bool) (attr : Attr Leaf) : Leaves Leaf :=
  if stop attr.1 then [([], attr.1, resolve slog attr.2)]
  else match _ : resolve slog attr.2 with
    | .group attrs => .below attr.1 (attrs.attach.flatMap fun sub => leaves stop sub.1)
    | value => [([], attr.1, value)]
termination_by sizeOf attr.2
decreasing_by exact sizeOf_lt_of_resolve slog ‹_› sub.2

/-- The leaves of a whole record below the groups that were opened for it. -/
def recorded (stop : String → Bool) : List (With Leaf) → List (Attr Leaf) → Leaves Leaf
  | [], record => record.flatMap (leaves slog stop)
  | .attrs attrs :: calls, record => attrs.flatMap (leaves slog stop) ++ recorded stop calls record
  | .group name :: calls, record => .below name (recorded stop calls record)

def never (_ : String) : Bool := false

/-- The value of an attribute with a denied key is replaced; only the length of its text remains. -/
def covered (leaf : List String × Attr Leaf) : List String × Attr Leaf :=
  if deny leaf.2.1 then
    (leaf.1, leaf.2.1, .string ("[REDACTED:" ++ toString (slog.string leaf.2.2).utf8ByteSize ++ "]"))
  else leaf

theorem resolve_resolve (value : Value Leaf) : resolve slog (resolve slog value) = resolve slog value := by
  cases found : resolve slog value with
  | valuer inner => exact absurd found ((resolveWithin_inside slog _ _ _).1 inner)
  | _ => rfl

theorem leaves_whole (whole : stop attr.1 = true ∨ ∀ attrs, resolve slog attr.2 ≠ .group attrs) :
    leaves slog stop attr = [([], attr.1, resolve slog attr.2)] := by
  rw [leaves]
  split
  · rfl
  · split <;> simp_all

theorem leaves_group {attrs} (passed : ¬ stop attr.1 = true) (found : resolve slog attr.2 = .group attrs) :
    leaves slog stop attr = .below attr.1 (attrs.flatMap (leaves slog stop)) := by
  rw [leaves, if_neg passed]
  split <;> simp_all [flatMap_def]

theorem map_covered_below :
    (found.below name).map (covered slog deny) = Leaves.below name (found.map (covered slog deny)) := by
  rw [Leaves.below, Leaves.below, map_map, map_map]
  congr 1
  funext leaf
  simp only [Function.comp, covered]
  split <;> rfl

theorem flatMap_filled : (filled attrs).flatMap (leaves slog never) = attrs.flatMap (leaves slog never) := by
  induction attrs with
  | nil => rfl
  | cons attr rest ih =>
    rw [filled, filter_cons]
    split
    · rw [flatMap_cons, flatMap_cons, ← ih]; rfl
    · rename_i empty
      have group : attr.2 = .group [] := by
        unfold isEmptyGroup at empty
        split at empty <;> simp_all
      rw [flatMap_cons, ← ih, leaves_group slog Bool.false_ne_true (by rw [group]; rfl)]
      rfl

theorem leaves_redactAttr (attr : Attr Leaf) :
    leaves slog never (redactAttr slog deny attr) = (leaves slog deny attr).map (covered slog deny) := by
  induction attr using redactAttr.induct slog deny with
  | case1 attr hit =>
    rw [redactAttr, if_pos hit, leaves_whole slog (.inl hit), leaves_whole slog (.inr fun _ same => by cases same)]
    simp [covered, hit]
    rfl
  | case2 attr miss attrs found ih =>
    have inside : redactAttr slog deny attr = (attr.1, .group (filled (attrs.map (redactAttr slog deny)))) := by
      rw [redactAttr, if_neg miss]
      split <;> simp_all
    have below : attrs.flatMap (fun sub => leaves slog never (redactAttr slog deny sub)) =
        attrs.flatMap fun sub => (leaves slog deny sub).map (covered slog deny) :=
      flatMap_congr fun sub listed => ih ⟨sub, listed⟩
    rw [inside, leaves_group slog Bool.false_ne_true rfl, leaves_group slog miss found, flatMap_filled, flatMap_map,
      below, ← map_flatMap, map_covered_below]
  | case3 attr miss other =>
    have same : redactAttr slog deny attr = (attr.1, resolve slog attr.2) := by
      rw [redactAttr, if_neg miss]
      split <;> simp_all
    rw [same, leaves_whole slog (.inr other), leaves_whole slog (.inr (by rw [resolve_resolve]; exact other))]
    simp [covered, miss, resolve_resolve]

theorem flatMap_redactAttr :
    (attrs.map (redactAttr slog deny)).flatMap (leaves slog never) =
      (attrs.flatMap (leaves slog deny)).map (covered slog deny) := by
  rw [flatMap_map, map_flatMap]
  exact flatMap_congr fun attr _ => leaves_redactAttr slog deny attr

/-- Exactly the values of denied keys are replaced, and all others arrive in their groups. -/
theorem redaction_reaches_every_leaf (lower : Char → Char) (extraKeys : List String)
    (calls : List (With Leaf)) (record : List (Attr Leaf)) :
    let deny := fun key => decide (toLower lower key ∈ denyKeys lower extraKeys)
    let inner := forward slog deny calls record
    recorded slog never inner.1 inner.2 = (recorded slog deny calls record).map (covered slog deny) := by
  intro deny inner
  induction calls with
  | nil => exact (flatMap_filled slog _).trans (flatMap_redactAttr slog deny record)
  | cons call calls ih =>
    cases call with
    | attrs attrs =>
      rw [recorded, map_append, ← ih, ← flatMap_redactAttr]
      rfl
    | group name =>
      rw [recorded, map_covered_below, ← ih]
      rfl

end OneVoice.Logger
