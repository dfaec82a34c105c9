import OneVoice.Construction.Billing.Ledger
import OneVoice.Library.Run

namespace OneVoice.Billing

open Library List Tx UUID Server

section Keys

theorem expireIdempotencyKey_toList (businessID : UUID) (period : String) :
    (expireIdempotencyKey businessID period).toList =
      "expire:".toList ++ ((text businessID).toList ++ (":".toList ++ period.toList)) := by
  simp [expireIdempotencyKey]

theorem expireIdempotencyKey_inj {first second period other}
    (same : expireIdempotencyKey first period = expireIdempotencyKey second other) :
    first = second ∧ period = other := by
  have lists := congrArg String.toList same
  rw [expireIdempotencyKey_toList, expireIdempotencyKey_toList] at lists
  have split := append_inj (append_cancel_left lists)
    ((length_text first).trans (length_text second).symm)
  exact ⟨text_injective (String.toList_inj.mp split.1), String.toList_inj.mp (append_cancel_left split.2)⟩

theorem grant_ne_expire (first second : UUID) (period other : String) :
    grantIdempotencyKey first period ≠ expireIdempotencyKey second other := by
  intro same
  have lists := congrArg String.toList same
  simp [grantIdempotencyKey, expireIdempotencyKey] at lists

theorem text_ne_expire (usage business : UUID) (period : String) :
    text usage ≠ expireIdempotencyKey business period := by
  intro same
  apply colon_notMem_text usage
  rw [same, expireIdempotencyKey_toList]
  exact mem_append_left _ (by decide)

end Keys

section Rows

@[simp]
theorem rowsOf_append (business : UUID) (rows more : List Row) :
    rowsOf business (rows ++ more) = rowsOf business rows ++ rowsOf business more :=
  filter_append ..

variable {rows : List Row} {business : UUID}

theorem rowsOf_of_owned (owned : ∀ row ∈ rows, row.businessID = business) : rowsOf business rows = rows := by
  apply filter_eq_self.mpr
  intro row member
  simpa using owned row member

theorem rowsOf_of_other {other} (owned : ∀ row ∈ rows, row.businessID = other)
    (apart : other ≠ business) : rowsOf business rows = [] := by
  apply filter_eq_nil_iff.mpr
  intro row member
  simpa [owned row member] using apart

theorem mem_rowsOf {row} : row ∈ rowsOf business rows ↔ row ∈ rows ∧ row.businessID = business := by
  simp [rowsOf]

theorem hasKey_iff {key} : hasKey rows key = true ↔ ∃ row ∈ rows, row.idempotencyKey = some key := by
  simp [hasKey]

/-- Rows that carry different keys hold each key at most once. -/
theorem countP_le_one {selects} (key : String)
    (distinct : rows.Pairwise fun first second => first.idempotencyKey ≠ second.idempotencyKey)
    (keyed : ∀ row ∈ rows, selects row = true → row.idempotencyKey = some key) : rows.countP selects ≤ 1 := by
  induction rows with
  | nil => simp
  | cons row rest ih =>
    obtain ⟨apart, distinct⟩ := pairwise_cons.mp distinct
    by_cases selected : selects row = true
    · have none : rest.countP selects = 0 := by
        apply countP_eq_zero.mpr
        intro other member chosen
        apply apart other member
        rw [keyed row (by simp) selected, keyed other (by simp [member]) chosen]
      rw [countP_cons_of_pos selected, none]
    · rw [countP_cons_of_neg selected]
      exact ih distinct fun other member => keyed other (by simp [member])

end Rows

/-- Each row is a charge, a grant or an expiry, under the key of its kind. -/
inductive Row.Formed (row : Row) : Prop
  | charge (usage : UUID) : row.usageLogID = some usage →
      row.idempotencyKey = some (text usage) → row.reason ≠ .grant →
      row.deltaCredits ≤ 0 → 0 ≤ row.overageCredits →
      -row.deltaCredits + row.overageCredits = creditsPerUsage → Formed row
  | grant (period : String) : row.usageLogID = none → row.subscriptionPeriod = some period →
      row.idempotencyKey = some (grantIdempotencyKey row.businessID period) → Formed row
  | expire (period : String) : row.usageLogID = none → row.reason = .expire →
      row.idempotencyKey = some (expireIdempotencyKey row.businessID period) → Formed row

/-- A period whose leftover is expired is a granted one. -/
def PeriodsGranted (rows : List Row) : Prop :=
  ∀ business period, hasKey rows (expireIdempotencyKey business period) = true →
    hasKey rows (grantIdempotencyKey business period) = true

/-- The rows that a call adds continue the ledger of its business. -/
structure Extends (ledger : List Row) (bound : Nat) (call : Call) (rows : List Row) : Prop where
  owned : ∀ row ∈ rows, row.businessID = call.businessID
  formed : ∀ row ∈ rows, row.Formed
  nonneg : ∀ row ∈ rows, 0 ≤ row.balanceAfter
  running : Running (fun row : Row => row.deltaCredits) (fun row => row.balanceAfter)
    (currentBalance ledger call.businessID) rows
  sorted : rows.Pairwise fun earlier later => earlier.seq < later.seq
  later : ∀ row ∈ rows, ∀ old ∈ ledger, old.businessID = call.businessID → old.seq < row.seq
  below : ∀ row ∈ rows, row.seq < bound
  fresh : ∀ old ∈ ledger, ∀ row ∈ rows, old.idempotencyKey ≠ row.idempotencyKey
  distinct : rows.Pairwise fun first second => first.idempotencyKey ≠ second.idempotencyKey
  periods : PeriodsGranted rows
  opened : ∀ business credits period, call = .grantMonthly business credits period → rows ≠ [] →
    closing (fun row : Row => row.balanceAfter) (currentBalance ledger call.businessID) rows = credits

namespace Tx

/-- What one insertion does to the transaction. -/
theorem append_ok {tx next : Tx} {entry : CreditLedgerEntry} {key : String}
    (keyed : entry.idempotencyKey = some key) (ok : tx.append entry = .ok next) :
    0 ≤ entry.balanceAfter ∧ next.committed = tx.committed ∧ next.nextSeq = tx.nextSeq + 1 ∧
      next.inserted = if hasKey tx.visible key = true then tx.inserted
        else tx.inserted ++ [{ entry with seq := tx.nextSeq }] := by
  simp only [append, bind_ok, require_ok, keyed, Option.any_some] at ok
  obtain ⟨_, _, _, storable, ok⟩ := ok
  have nonneg : 0 ≤ entry.balanceAfter := by
    simp only [CreditLedgerEntry.storable, Bool.and_eq_true, decide_eq_true_eq] at storable
    exact storable.1.2
  split at ok <;> cases ok <;> rename_i taken <;> simp [taken, nonneg]

end Tx

/-- A charge draws at most the balance, and the rest is overage. -/
theorem compute_creditsPerUsage {balance} (nonneg : 0 ≤ balance) :
    let drawn := compute balance creditsPerUsage
    drawn.balanceAfter = balance + drawn.delta ∧ drawn.delta ≤ 0 ∧ 0 ≤ drawn.overageCredits ∧
      -drawn.delta + drawn.overageCredits = creditsPerUsage ∧ drawn.reason ≠ .grant := by
  unfold compute creditsPerUsage
  rw [if_neg (by decide)]
  split
  · simp
    omega
  · simp
    omega

namespace Extends

variable {ledger : List Row} {start : Nat}

theorem nil (bound : Nat) (call : Call) : Extends ledger bound call [] where
  owned := by simp
  formed := by simp
  nonneg := by simp
  running := trivial
  sorted := .nil
  later := by simp
  below := by simp
  fresh := by simp
  distinct := .nil
  periods := by simp [PeriodsGranted, hasKey]
  opened := by simp

variable {business : UUID} {period : String} {call : Call} {credits : Int} {tx : Tx}

theorem meterUsage {usage : UUID} (below : ∀ row ∈ ledger, row.seq < start)
    (nonneg : 0 ≤ currentBalance ledger business) (owner : call.businessID = business)
    (charges : ∀ other credits period, call ≠ .grantMonthly other credits period)
    (ok : meterUsage { committed := ledger, nextSeq := start } business usage = .ok tx) :
    Extends ledger tx.nextSeq call tx.inserted ∧ start ≤ tx.nextSeq := by
  simp only [Tx.meterUsage, bind_ok] at ok
  obtain ⟨_, _, ok⟩ := ok
  obtain ⟨stored, _, advanced, inserted⟩ := append_ok rfl ok
  simp only [visible, append_nil] at stored advanced inserted
  obtain ⟨after, drawn, overage, split, reason⟩ := compute_creditsPerUsage nonneg
  refine ⟨?_, by omega⟩
  rw [inserted]
  split
  · exact nil _ call
  · rename_i fresh
    constructor
    case running =>
      rw [owner]
      exact ⟨after, trivial⟩
    case formed =>
      intro row member
      rw [mem_singleton.mp member]
      exact .charge usage rfl rfl reason drawn overage split
    case later =>
      intro row member old inside _
      rw [mem_singleton.mp member]
      exact below old inside
    case fresh =>
      intro old inside row member same
      rw [mem_singleton.mp member] at same
      exact fresh (hasKey_iff.mpr ⟨old, inside, same⟩)
    case periods =>
      intro other period taken
      obtain ⟨row, member, same⟩ := hasKey_iff.mp taken
      rw [mem_singleton.mp member] at same
      exact absurd (Option.some.inj same) (text_ne_expire usage other period)
    case opened =>
      intro other credits period same
      exact absurd same (charges other credits period)
    all_goals simp [owner, stored, advanced]

/-- The rows of a monthly grant: a leftover expires, the allowance lands. -/
def grantRows (business : UUID) (balance credits : Int) (period : String) (seq : Nat) : List Row :=
  let expire : Row :=
    { businessID := business
      deltaCredits := -balance
      balanceAfter := 0
      reason := .expire
      subscriptionPeriod := some period
      idempotencyKey := some (expireIdempotencyKey business period)
      seq := seq }
  let grant (seq : Nat) : Row :=
    { businessID := business
      deltaCredits := credits
      balanceAfter := credits
      reason := .grant
      subscriptionPeriod := some period
      idempotencyKey := some (grantIdempotencyKey business period)
      seq := seq }
  if 0 < balance then [expire, grant (seq + 1)] else [grant seq]

theorem mem_grantRows {balance seq row} (member : row ∈ grantRows business balance credits period seq) :
    row.businessID = business ∧ row.usageLogID = none ∧ seq ≤ row.seq ∧
      (row.reason = .expire ∧ row.idempotencyKey = some (expireIdempotencyKey business period) ∨
        row.subscriptionPeriod = some period ∧
          row.idempotencyKey = some (grantIdempotencyKey business period)) := by
  unfold grantRows at member
  split at member
  · rcases mem_pair.mp member with rfl | rfl
    · exact ⟨rfl, rfl, Nat.le_refl _, .inl ⟨rfl, rfl⟩⟩
    · exact ⟨rfl, rfl, Nat.le_succ _, .inr ⟨rfl, rfl⟩⟩
  · rw [mem_singleton.mp member]
    exact ⟨rfl, rfl, Nat.le_refl _, .inr ⟨rfl, rfl⟩⟩

/-- A granted period adds nothing; any other all of its rows. -/
theorem grantMonthly_ok {granted : Bool} (periods : PeriodsGranted ledger)
    (ok : grantMonthly { committed := ledger, nextSeq := start } business credits period = .ok (tx, granted)) :
    (tx.inserted = [] ∧ tx.nextSeq = start) ∨
      0 < credits ∧ hasKey ledger (grantIdempotencyKey business period) = false ∧
        tx.inserted = grantRows business (currentBalance ledger business) credits period start ∧
        tx.nextSeq = start + tx.inserted.length := by
  simp only [grantMonthly, bind_ok, visible, append_nil] at ok
  obtain ⟨_, _, _, _, ok⟩ := ok
  split at ok
  · cases ok
    exact .inl ⟨rfl, rfl⟩
  split at ok
  · cases ok
    exact .inl ⟨rfl, rfl⟩
  rename_i absent
  have unexpired : ¬ hasKey ledger (expireIdempotencyKey business period) = true :=
    fun expired => absent (periods business period expired)
  refine .inr ⟨by omega, by simpa using absent, ?_⟩
  split at ok <;> rename_i leftover <;> simp only [bind_ok, pure_ok] at ok
  · obtain ⟨expired, first, last, second, rfl, -⟩ := ok
    obtain ⟨_, committed, advanced, inserted⟩ := append_ok rfl first
    obtain ⟨_, _, numbered, landed⟩ := append_ok rfl second
    simp only [visible, append_nil, if_neg unexpired] at inserted
    have untaken : ¬ hasKey expired.visible (grantIdempotencyKey business period) = true := by
      rw [visible, committed, inserted, hasKey_iff]
      rintro ⟨row, member, same⟩
      rcases mem_append.mp member with old | own
      · exact absent (hasKey_iff.mpr ⟨row, old, same⟩)
      · rw [mem_singleton.mp own] at same
        exact grant_ne_expire _ _ _ _ (Option.some.inj same).symm
    rw [if_neg untaken, inserted] at landed
    rw [landed, numbered, advanced, grantRows, if_pos leftover]
    exact ⟨rfl, rfl⟩
  · obtain ⟨expired, rfl, last, second, rfl, -⟩ := ok
    obtain ⟨_, _, numbered, landed⟩ := append_ok rfl second
    simp only [visible, append_nil, if_neg absent] at landed
    rw [landed, numbered, grantRows, if_neg leftover]
    exact ⟨rfl, rfl⟩

theorem grantMonthly {granted} (below : ∀ row ∈ ledger, row.seq < start)
    (nonneg : 0 ≤ currentBalance ledger business) (periods : PeriodsGranted ledger)
    (ok : grantMonthly { committed := ledger, nextSeq := start } business credits period = .ok (tx, granted)) :
    Extends ledger tx.nextSeq (.grantMonthly business credits period) tx.inserted ∧
      start ≤ tx.nextSeq := by
  rcases grantMonthly_ok periods ok with ⟨empty, same⟩ | ⟨positive, absent, rows, advanced⟩
  · rw [empty, same]
    exact ⟨nil start _, le_refl start⟩
  have unexpired : hasKey ledger (expireIdempotencyKey business period) ≠ true := by
    intro expired
    rw [periods business period expired] at absent
    cases absent
  refine ⟨?_, by omega⟩
  rw [advanced, rows]
  constructor
  case formed =>
    intro row member
    obtain ⟨owner, uncharged, _, ⟨expires, key⟩ | ⟨named, key⟩⟩ := mem_grantRows member
    · exact .expire period uncharged expires (owner ▸ key)
    · exact .grant period uncharged named (owner ▸ key)
  case later =>
    intro row member old inside _
    exact lt_of_lt_of_le (below old inside) (mem_grantRows member).2.2.1
  case fresh =>
    intro old inside row member same
    obtain ⟨_, _, _, ⟨_, key⟩ | ⟨_, key⟩⟩ := mem_grantRows member
    · exact unexpired (hasKey_iff.mpr ⟨old, inside, same.trans key⟩)
    · rw [hasKey_iff.mpr ⟨old, inside, same.trans key⟩] at absent
      cases absent
  case periods =>
    intro other month taken
    obtain ⟨row, member, same⟩ := hasKey_iff.mp taken
    obtain ⟨_, _, _, ⟨_, key⟩ | ⟨_, key⟩⟩ := mem_grantRows member
    · obtain ⟨rfl, rfl⟩ := expireIdempotencyKey_inj (Option.some.inj (key.symm.trans same))
      unfold grantRows
      split <;> simp [hasKey]
    · exact absurd (Option.some.inj (key.symm.trans same)) (grant_ne_expire _ _ _ _)
  case owned => exact fun row member => (mem_grantRows member).1
  case running =>
    unfold grantRows
    split
    · simp [Running, Call.businessID]
    · simp only [Running, Call.businessID, and_true]
      omega
  case distinct =>
    have apart := grant_ne_expire business business period period
    unfold grantRows
    split
    · simpa using apart.symm
    · simp
  case opened =>
    intro other amount month same _
    cases same
    unfold grantRows
    split <;> simp [closing]
  all_goals
    unfold grantRows
    split <;> simp
  all_goals omega

theorem perform (below : ∀ row ∈ ledger, row.seq < start) (nonneg : 0 ≤ currentBalance ledger call.businessID)
    (periods : PeriodsGranted ledger) (ok : call.perform { committed := ledger, nextSeq := start } = .ok tx) :
    Extends ledger tx.nextSeq call tx.inserted ∧ start ≤ tx.nextSeq := by
  cases call with
  | logUsage business usage | meterUsage business usage =>
    exact meterUsage below nonneg rfl nofun ok
  | grantMonthly business credits period =>
    rw [Call.perform] at ok
    cases read : Tx.grantMonthly { committed := ledger, nextSeq := start } business credits period
    with
    | error refusal =>
      rw [read] at ok
      cases ok
    | ok result =>
      rw [read] at ok
      cases ok
      exact grantMonthly below nonneg periods read

theorem mono {bound higher rows} (pending : Extends ledger bound call rows)
    (le : bound ≤ higher) : Extends ledger higher call rows :=
  { pending with below := fun row member => lt_of_lt_of_le (pending.below row member) le }

/-- Rows of another business leave the continuation as it is. -/
theorem frame {bound rows more other} (pending : Extends ledger bound call rows)
    (owned : ∀ row ∈ more, row.businessID = other) (different : other ≠ call.businessID)
    (apart : ∀ old ∈ more, ∀ row ∈ rows, old.idempotencyKey ≠ row.idempotencyKey) :
    Extends (ledger ++ more) bound call rows := by
  have balance : currentBalance (ledger ++ more) call.businessID =
      currentBalance ledger call.businessID := by
    rw [currentBalance, rowsOf_append, rowsOf_of_other owned different, append_nil]
    rfl
  refine { pending with running := ?_, later := ?_, fresh := ?_, opened := ?_ }
  · rw [balance]
    exact pending.running
  · intro row member old inside mine
    rcases mem_append.mp inside with before | added
    · exact pending.later row member old before mine
    · exact absurd ((owned old added).symm.trans mine) different
  · intro old inside
    rcases mem_append.mp inside with before | added
    · exact pending.fresh old before
    · exact apart old added
  · rw [balance]
    exact pending.opened

end Extends

namespace Server

/-- The facts about the committed rows alone. -/
structure Balanced (ledger : List Row) (bound : Nat) : Prop where
  running : ∀ business, Running (fun row : Row => row.deltaCredits) (fun row => row.balanceAfter) 0
    (rowsOf business ledger)
  sorted : ∀ business, (rowsOf business ledger).Pairwise fun earlier later =>
    earlier.seq < later.seq
  nonneg : ∀ row ∈ ledger, 0 ≤ row.balanceAfter
  formed : ∀ row ∈ ledger, row.Formed
  below : ∀ row ∈ ledger, row.seq < bound
  distinct : ledger.Pairwise fun first second => first.idempotencyKey ≠ second.idempotencyKey
  periods : PeriodsGranted ledger

namespace Balanced

variable {ledger rows : List Row} {bound : Nat} {call : Call}

section

variable (balanced : Balanced ledger bound) (business : UUID)

include balanced business

theorem currentBalance_eq :
    currentBalance ledger business = closing (fun row : Row => row.balanceAfter) 0 (rowsOf business ledger) :=
  closing_eq_newest (balanced.sorted business)

theorem currentBalance_nonneg : 0 ≤ currentBalance ledger business := by
  unfold currentBalance
  cases found : newest Row.seq (rowsOf business ledger) with
  | none => exact Int.le_refl 0
  | some row => exact balanced.nonneg row (mem_rowsOf.mp (mem_of_newest found)).1

theorem currentBalance_eq_sumDeltas : currentBalance ledger business = sumDeltas ledger business := by
  rw [balanced.currentBalance_eq, closing_eq_total (balanced.running business), zero_add]
  rfl

end

theorem mono (balanced : Balanced ledger bound) {higher} (le : bound ≤ higher) : Balanced ledger higher :=
  { balanced with below := fun row member => lt_of_lt_of_le (balanced.below row member) le }

/-- A committed call leaves the ledger balanced. -/
theorem append (balanced : Balanced ledger bound) (added : Extends ledger bound call rows) :
    Balanced (ledger ++ rows) bound := by
  have parts : ∀ business, rowsOf business (ledger ++ rows) =
      if call.businessID = business then rowsOf business ledger ++ rows
      else rowsOf business ledger := by
    intro business
    split
    · rename_i same
      rw [rowsOf_append, rowsOf_of_owned fun row member => (added.owned row member).trans same]
    · rename_i apart
      rw [rowsOf_append, rowsOf_of_other added.owned apart, append_nil]
  constructor
  case running =>
    intro business
    rw [parts]
    split
    · rename_i same
      subst same
      apply running_append.mpr
      rw [← balanced.currentBalance_eq]
      exact ⟨balanced.running _, added.running⟩
    · exact balanced.running business
  case sorted =>
    intro business
    rw [parts]
    split
    · rename_i same
      subst same
      apply pairwise_append.mpr
      refine ⟨balanced.sorted _, added.sorted, ?_⟩
      intro old inside row member
      obtain ⟨stored, mine⟩ := mem_rowsOf.mp inside
      exact added.later row member old stored mine
    · exact balanced.sorted business
  case periods =>
    intro business period expired
    simp only [hasKey, any_append, Bool.or_eq_true] at expired ⊢
    exact expired.imp (balanced.periods business period) (added.periods business period)
  case distinct =>
    exact pairwise_append.mpr ⟨balanced.distinct, added.distinct, added.fresh⟩
  all_goals
    intro row member
    rcases mem_append.mp member with old | own
  · exact balanced.nonneg row old
  · exact added.nonneg row own
  · exact balanced.formed row old
  · exact added.formed row own
  · exact balanced.below row old
  · exact added.below row own

end Balanced

/-- Open transactions hold different locks, and one that has written continues the committed ledger.
-/
structure Conserved (server : Server) : Prop where
  balanced : Balanced server.ledger server.nextSeq
  exclusive : ∀ {first second one two}, server.sessions first = some one →
    server.sessions second = some two → one.holdsLock → two.holdsLock →
    advisoryLockKey one.call.businessID = advisoryLockKey two.call.businessID → first = second
  pending : ∀ {id session}, server.sessions id = some session →
    Extends server.ledger server.nextSeq session.call session.pending
  apart : ∀ {first second one two}, server.sessions first = some one →
    server.sessions second = some two → first ≠ second →
    ∀ row ∈ one.pending, ∀ held ∈ two.pending, row.idempotencyKey ≠ held.idempotencyKey

namespace Conserved

variable {server next : Server} {id : Nat}

theorem empty : Conserved empty where
  balanced :=
    { running := fun _ => trivial
      sorted := fun _ => .nil
      nonneg := by simp [Server.empty]
      formed := by simp [Server.empty]
      below := by simp [Server.empty]
      distinct := .nil
      periods := by simp [PeriodsGranted, hasKey, Server.empty] }
  exclusive := nofun
  pending := nofun
  apart := nofun

/-- A step moves one transaction, which holds what it takes alone. -/
theorem move (conserved : Conserved server) {moved}
    (sessions : next.sessions = Function.update server.sessions id moved) (balanced : Balanced next.ledger next.nextSeq)
    (kept : server.Others id fun session => Extends next.ledger next.nextSeq session.call session.pending)
    (own : ∀ session, moved = some session → Extends next.ledger next.nextSeq session.call session.pending)
    (locks : ∀ session, moved = some session → session.holdsLock → server.Others id fun other =>
      other.holdsLock → advisoryLockKey other.call.businessID ≠ advisoryLockKey session.call.businessID)
    (keys : ∀ session, moved = some session → server.Others id fun other =>
      ∀ row ∈ session.pending, ∀ held ∈ other.pending, row.idempotencyKey ≠ held.idempotencyKey) :
    Conserved next := by
  constructor
  case balanced => exact balanced
  case exclusive =>
    intro first second one two
    rw [sessions]
    apply forall_update_pair fun first second (left right : Option Session) =>
      left = some one → right = some two → one.holdsLock → two.holdsLock →
        advisoryLockKey one.call.businessID = advisoryLockKey two.call.businessID → first = second
    · exact fun _ _ _ _ _ => rfl
    · intro other differs mine found holds held same
      exact absurd same.symm (locks one mine holds other two differs found held)
    · intro other differs found mine held holds same
      exact absurd same (locks two mine holds other one differs found held)
    · exact fun _ _ => conserved.exclusive
  case pending =>
    intro other session
    rw [sessions]
    apply (Function.forall_update_iff server.sessions fun _ cell => cell = some session →
      Extends next.ledger next.nextSeq session.call session.pending).mpr
    exact ⟨own session, fun other differs => kept other session differs⟩
  case apart =>
    intro first second one two
    rw [sessions]
    apply forall_update_pair fun first second (left right : Option Session) =>
      left = some one → right = some two → first ≠ second →
        ∀ row ∈ one.pending, ∀ held ∈ two.pending, row.idempotencyKey ≠ held.idempotencyKey
    · exact fun _ _ different => absurd rfl different
    · intro other differs mine found _
      exact keys one mine other two differs found
    · intro other differs found mine _ row member held holds
      exact (keys two mine other one differs found held holds row member).symm
    · exact fun _ _ => conserved.apart

theorem others (conserved : Conserved server) (id : Nat) : server.Others id fun session =>
    Extends server.ledger server.nextSeq session.call session.pending :=
  fun _ _ _ found => conserved.pending found

/-- The lock keeps committed rows away from the others' businesses. -/
theorem others_commit (conserved : Conserved server) {call rows}
    (written : server.sessions id = some ⟨call, .written rows⟩) : server.Others id fun session =>
      Extends (server.ledger ++ rows) server.nextSeq session.call session.pending := by
  have added := conserved.pending written
  intro other session differs found
  by_cases none : session.pending = []
  · rw [none]
    exact .nil _ _
  · apply (conserved.pending found).frame added.owned
    · intro same
      have held : session.holdsLock := by
        intro waiting
        exact none (by rw [Session.pending, waiting])
      exact differs (conserved.exclusive found written held (by simp [Session.holdsLock])
        (congrArg advisoryLockKey same.symm))
    · intro row member
      exact conserved.apart written found differs.symm row member

theorem step {action} (taken : Step server action next) (conserved : Conserved server) : Conserved next := by
  cases taken with
  | @start id call idle rows =>
    apply conserved.move rfl
    case balanced => exact conserved.balanced
    case kept => exact conserved.others id
    case own =>
      rintro session ⟨⟩
      exact .nil _ call
    case locks =>
      rintro session ⟨⟩ holds
      exact absurd rfl holds
    case keys =>
      rintro session ⟨⟩ other two _ _ row member
      cases member
  | @lock id call waiting _ free =>
    apply conserved.move rfl
    case balanced => exact conserved.balanced
    case kept => exact conserved.others id
    case own =>
      rintro session ⟨⟩
      exact .nil _ call
    case locks =>
      rintro session ⟨⟩ _
      exact free
    case keys =>
      rintro session ⟨⟩ other two _ _ row member
      cases member
  | @write id call tx locked performed free =>
    have written := Extends.perform conserved.balanced.below
      (conserved.balanced.currentBalance_nonneg _) conserved.balanced.periods performed
    apply conserved.move rfl
    case balanced => exact conserved.balanced.mono written.2
    case kept =>
      intro other session _ found
      exact (conserved.pending found).mono written.2
    case own =>
      rintro session ⟨⟩
      exact written.1
    case locks =>
      rintro session ⟨⟩ _ other two differs found held same
      have both := conserved.exclusive found locked held (by simp [Session.holdsLock]) same
      exact differs both
    case keys =>
      rintro session ⟨⟩
      exact free
  | @commit id call rows written =>
    apply conserved.move rfl
    case balanced => exact conserved.balanced.append (conserved.pending written)
    case kept => exact conserved.others_commit written
    all_goals rintro session ⟨⟩
  | @rollback id session found =>
    apply conserved.move rfl
    case balanced => exact conserved.balanced
    case kept => exact conserved.others id
    all_goals rintro session ⟨⟩

end Conserved

end Server

/-- Balances are the sums of their amounts and never negative, usages and periods count once, and a
charge splits into a drawn part and an overage. -/
theorem credit_ledger_conserved {actions : List Action} {server : Server}
    (run : Run Server.Step .empty actions server) :
    (∀ business, currentBalance server.ledger business = sumDeltas server.ledger business ∧
      0 ≤ currentBalance server.ledger business) ∧
    (∀ usage, server.ledger.countP (fun row => row.usageLogID = some usage) ≤ 1) ∧
    (∀ business period, server.ledger.countP (fun row => row.businessID = business ∧
      row.reason = .grant ∧ row.subscriptionPeriod = some period) ≤ 1) ∧ (∀ id business credits period rows next,
      server.sessions id = some ⟨.grantMonthly business credits period, .written rows⟩ →
      rows ≠ [] → Server.Step server (.commit id) next →
        currentBalance next.ledger business = credits) ∧ ∀ row ∈ server.ledger, row.usageLogID.isSome →
      row.deltaCredits ≤ 0 ∧ 0 ≤ row.overageCredits ∧ -row.deltaCredits + row.overageCredits = creditsPerUsage := by
  have conserved : server.Conserved := by
    apply run.invariant _ Server.Conserved.empty
    intro first action last taken
    exact Server.Conserved.step taken
  have balanced := conserved.balanced
  refine ⟨?_, ?_, ?_, ?_, ?_⟩
  · intro business
    exact ⟨balanced.currentBalance_eq_sumDeltas business, balanced.currentBalance_nonneg business⟩
  · intro usage
    apply countP_le_one (text usage) balanced.distinct
    intro row member charged
    have charged : row.usageLogID = some usage := by simpa using charged
    cases balanced.formed row member with
    | charge other logged keyed =>
      cases charged.symm.trans logged
      exact keyed
    | grant _ unlogged | expire _ unlogged => cases charged.symm.trans unlogged
  · intro business period
    apply countP_le_one (grantIdempotencyKey business period) balanced.distinct
    intro row member granted
    obtain ⟨rfl, reason, month⟩ : row.businessID = business ∧ row.reason = .grant ∧
      row.subscriptionPeriod = some period := by simpa using granted
    cases balanced.formed row member with
    | charge _ _ _ other => exact absurd reason other
    | grant _ _ opened keyed =>
      cases month.symm.trans opened
      exact keyed
    | expire _ _ other => cases reason.symm.trans other
  · intro id business credits period rows next found added taken
    have pending : Extends server.ledger server.nextSeq (.grantMonthly business credits period) rows :=
      conserved.pending found
    have own : rowsOf business rows = rows := rowsOf_of_owned pending.owned
    cases taken with
    | commit open_ =>
      cases found.symm.trans open_
      have grown := (balanced.append pending).currentBalance_eq business
      rw [rowsOf_append, own, closing_append, ← balanced.currentBalance_eq] at grown
      exact grown.trans (pending.opened business credits period rfl added)
  · intro row member charged
    cases balanced.formed row member with
    | charge _ _ _ _ drawn overage split => exact ⟨drawn, overage, split⟩
    | grant _ unlogged | expire _ unlogged => simp [unlogged] at charged

theorem credit_ledger_conserved_grant : ∃ server,
    Run Server.Step .empty [.start 0 (.grantMonthly 1 5 "2026-01"), .lock 0, .write 0, .commit 0] server ∧
      currentBalance server.ledger 1 = sumDeltas server.ledger 1 ∧ currentBalance server.ledger 1 = 5 := by
  exact Run.reaches (.cons (.start rfl nofun) <|
    .cons (.lock rfl rfl (by
      intro other session differs found
      simp [setSession, empty, differs] at found)) <|
    .cons (.write rfl rfl (by
      intro other session differs found
      simp [setSession, empty, differs] at found)) <|
    .cons (.commit rfl) <| .nil _)
    fun run => ⟨((credit_ledger_conserved run).1 1).1, rfl⟩

end OneVoice.Billing
