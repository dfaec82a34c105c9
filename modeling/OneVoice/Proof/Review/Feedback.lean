import OneVoice.Construction.Review.Feedback
import OneVoice.Library.Edits

namespace OneVoice.Reviews.EditDistance

open Library List

/-- The distances of a part, read backwards, from the parts of the other text. -/
def row (before seen : List Char) : List Char → List Nat
  | [] => [distance before seen]
  | rune :: rest => distance before seen :: row before (rune :: seen) rest

variable (before seen : List Char)

theorem range_eq_row (rest : List Char) : range' seen.length (rest.length + 1) = row [] seen rest := by
  induction rest generalizing seen with
  | nil => simp [row]
  | cons rune rest ih => rw [row, ← ih, nil_distance]; rfl

theorem cells_row (rune : Char) (rest : List Char) :
    distance (rune :: before) seen :: cells rune (distance (rune :: before) seen) (row before seen rest) rest =
      row (rune :: before) seen rest := by
  induction rest generalizing seen with
  | nil => simp [row, cells]
  | cons other rest ih =>
    rw [row, row, ← ih]
    cases rest <;> simp only [row, cells, distance]

theorem rows_row (rb ra : List Char) :
    rows rb (before.length + 1) (row before [] rb) ra = row (ra.reverse ++ before) [] rb := by
  induction ra generalizing before with
  | nil => rfl
  | cons rune ra ih =>
    have next := cells_row before [] rune rb
    rw [distance_nil, length_cons] at next
    rw [rows, next]
    simpa using ih (rune :: before)

theorem getD_row (rest : List Char) :
    (row before seen rest).getD rest.length 0 = distance before (rest.reverse ++ seen) := by
  induction rest generalizing seen with
  | nil => rfl
  | cons rune rest ih => simpa [row] using ih (rune :: seen)

theorem runeLevenshtein_eq (a b : String) : runeLevenshtein a b = distance a.toList.reverse b.toList.reverse := by
  rw [runeLevenshtein]
  split
  · simp_all
  split
  · simp_all
  · have first := range_eq_row [] b.toList
    have last := rows_row [] b.toList a.toList
    rw [length_nil, ← range_eq_range'] at first
    rw [first, show 1 = length ([] : List Char) + 1 from rfl, last, getD_row, append_nil, append_nil]

/-- The distance is the least number of edits, and so a metric. -/
theorem rune_levenshtein_least (a b c : String) :
    IsLeast {count | Edits count a.toList b.toList} (runeLevenshtein a b) ∧
      runeLevenshtein a b = runeLevenshtein b a ∧
      runeLevenshtein a c ≤ runeLevenshtein a b + runeLevenshtein b c := by
  simp only [runeLevenshtein_eq]
  have least (one other : String) := isLeast_distance one.toList other.toList
  refine ⟨least a b, ?_, ?_⟩
  · exact Nat.le_antisymm ((least a b).2 (least b a).1.symm) ((least b a).2 (least a b).1.symm)
  · exact (least a c).2 ((least a b).1.trans (least b c).1)

end OneVoice.Reviews.EditDistance

namespace OneVoice.Reviews.FewShot

open List

variable {Row Item : Type} (key : String → String) (pool : List (Review Row)) (limit : Nat)

/-- The two lists in turn, and then the rest of the longer one. -/
def alternate : List Item → List Item → List Item
  | [], second => second
  | first, [] => first
  | item :: first, other :: second => item :: other :: alternate first second

/-- The candidates with an empty key or with one that is not seen before them. -/
def survivors (seen : List String) : List (Review Row) → List (Review Row)
  | [] => []
  | review :: rest =>
    let key := key review.replyText
    if key ≠ "" ∧ key ∈ seen then survivors seen rest
    else review :: survivors (if key ≠ "" then key :: seen else seen) rest

/-- Two reviews with different keys, or with empty ones. -/
def Differ (one other : Review Row) : Prop := key one.replyText ≠ "" → key one.replyText ≠ key other.replyText

theorem perm_alternate (first second : List Item) : (alternate first second).Perm (first ++ second) := by
  induction first, second using alternate.induct with
  | case1 second => exact .refl _
  | case2 first _ => simp [alternate]
  | case3 item first other second ih =>
    exact .cons _ ((ih.cons other).trans perm_middle.symm)

@[simp] theorem alternate_nil (first : List Item) : alternate first [] = first := by
  cases first <;> rfl

theorem blend_eq (out edited recent : List (Review Row)) (fits : out.length ≤ limit) :
    blend limit out edited recent = (out ++ alternate edited recent).take limit := by
  fun_induction blend limit out edited recent with
  | case1 out room => simp [alternate, take_of_length_le fits]
  | case2 out room review recent ih => simpa [alternate] using ih (by simp; omega)
  | case3 out room review edited recent full =>
    cases recent <;> simp [alternate, take_append, take_of_length_le, ← full]
  | case4 out room review edited more ih => simpa using ih (by simp; omega)
  | case5 out room review edited more other recent ih =>
    simpa [alternate] using ih (by simp at more ⊢; omega)
  | case6 out edited recent full =>
    rw [take_append_of_le_length (Nat.not_lt.mp full), take_of_length_le fits]

/-- The pools hold the survivors by their class. -/
theorem foldl_add (pools : Pools Row) :
    (pool.foldl (Pools.add key) pools).edited =
        pools.edited ++ (survivors key pools.seen pool).filter Review.edited ∧
      (pool.foldl (Pools.add key) pools).recent =
        pools.recent ++ (survivors key pools.seen pool).filter fun review => !review.edited := by
  induction pool generalizing pools with
  | nil => simp [survivors]
  | cons review rest ih =>
    rw [foldl_cons, survivors, (ih _).1, (ih _).2, Pools.add]
    split
    · exact ⟨rfl, rfl⟩
    · cases class_ : review.edited <;> simp [class_]

theorem pairwise_survivors (seen : List String) : (survivors key seen pool).Pairwise (Differ key) ∧
    ∀ review ∈ survivors key seen pool, key review.replyText ≠ "" → key review.replyText ∉ seen := by
  induction pool generalizing seen with
  | nil => simp [survivors]
  | cons review rest ih =>
    rw [survivors]
    split
    · exact ih seen
    · rename_i fresh
      obtain ⟨pairs, apart⟩ := ih (if key review.replyText ≠ "" then key review.replyText :: seen else seen)
      constructor
      · refine .cons (fun other listed filled same => ?_) pairs
        exact apart other listed (same ▸ filled) (by simp [← same, filled])
      · intro other listed filled held
        cases listed with
        | head => exact fresh ⟨filled, held⟩
        | tail _ later => exact apart other later filled (by split <;> simp [held])

theorem select_eq :
    selectFewShotExamples key pool ((limit + 1 : Nat) : Int) =
      (alternate ((survivors key [] pool).filter Review.edited)
        ((survivors key [] pool).filter fun review => !review.edited)).take (limit + 1) := by
  cases pool with
  | nil => rfl
  | cons review rest =>
    obtain ⟨edited, recent⟩ := foldl_add key (review :: rest) {}
    rw [selectFewShotExamples, blend_eq _ _ _ _ (Nat.zero_le _), edited, recent]
    rfl

theorem filter_eq_cons_of_mem {test : Item → Bool} {items : List Item} {item : Item}
    (listed : item ∈ items) (kept : test item = true) :
    ∃ first rest, items.filter test = first :: rest ∧ test first = true := by
  cases found : items.filter test with
  | nil => cases found ▸ mem_filter.mpr ⟨listed, kept⟩
  | cons first rest => exact ⟨first, rest, rfl, (mem_filter.mp (found ▸ mem_cons_self)).2⟩

/-- The first examples of the alternation of the edited and the other survivors. -/
theorem few_shot_alternates (lower : Char → Char) : let key := normalizeReplyKey lower
    let kept := survivors key [] pool
    let chosen := selectFewShotExamples key pool ((limit + 1 : Nat) : Int)
    chosen = (alternate (kept.filter Review.edited) (kept.filter fun review => !review.edited)).take (limit + 1) ∧
      chosen.length = min (limit + 1) kept.length ∧ chosen.Pairwise (Differ key) ∧
      (2 ≤ limit + 1 → ∀ one ∈ kept, ∀ other ∈ kept, one.edited = true → other.edited = false →
        (∃ review ∈ chosen, review.edited = true) ∧ ∃ review ∈ chosen, review.edited = false) := by
  intro key kept chosen
  have order := perm_alternate (kept.filter Review.edited) (kept.filter fun review => !review.edited)
  have all := order.trans (filter_append_perm Review.edited kept)
  have chosen_eq : chosen = _ := select_eq key pool limit
  refine ⟨chosen_eq, ?_, ?_, ?_⟩
  · rw [chosen_eq, length_take, all.length_eq]
  · rw [chosen_eq]
    refine ((pairwise_survivors key pool []).1.perm all.symm ?_).sublist (take_sublist _ _)
    exact fun apart filled same => apart (same ▸ filled) same.symm
  · intro two one kept_one other kept_other edited recent
    obtain ⟨first, edits, split, first_edited⟩ := filter_eq_cons_of_mem kept_one edited
    obtain ⟨second, others, rest, second_recent⟩ :=
      @filter_eq_cons_of_mem _ (fun review => !review.edited) _ _ kept_other (congrArg not recent)
    obtain ⟨left, rfl⟩ := Nat.exists_eq_add_of_le' (Nat.le_of_succ_le_succ two)
    rw [chosen_eq, split, rest, alternate]
    exact ⟨⟨first, by simp, first_edited⟩, second, by simp, by simpa using second_recent⟩

end OneVoice.Reviews.FewShot
