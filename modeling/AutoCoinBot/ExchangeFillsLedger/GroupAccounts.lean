/-
  ExchangeFillsLedger.GroupAccounts — what is the same for a ledger and for the sum of its
  groups, whatever the grouping.

  FIFO over a group pairs its sells with its own lots, FIFO over the ledger with the oldest of the
  market. An account weighs the realized sells, the open lots and the popped ones so that a row
  posts the same amount whatever lots it meets: such an account adds up over any groups.
-/
import AutoCoinBot.ExchangeFillsLedger.GroupedPnl

namespace AutoCoinBot

open Library

/-! ## Accounts -/

/-- How an account weighs values, fees, costs and quantities. -/
structure Weights where
  value : ℚ := 0
  sellFee : ℚ := 0
  cost : ℚ := 0
  buyFee : ℚ := 0
  price : String → ℚ

namespace Weights

variable (W : Weights)

def trade (t : RealizedTrade) : ℚ :=
  W.value * t.executedValue - W.sellFee * t.sellFee - W.cost * t.basisBeforeFee
    - W.buyFee * t.allocatedBuyFee

def lot (market : String) (l : Lot) : ℚ :=
  W.price market * l.quantity - W.cost * l.cost - W.buyFee * l.fee

def posted (row : LedgerRow) : ℚ :=
  if row.countsAs .buy then
    W.price row.market * row.quantity - W.cost * row.executedValue - W.buyFee * row.krwFee
  else if row.countsAs .sell then
    W.value * row.executedValue - W.sellFee * row.krwFee - W.price row.market * row.quantity
  else 0

end Weights

/-- The figure of the realized sells and of the open lots. -/
def FifoState.carried (st : FifoState) (W : Weights) : ℚ :=
  st.figure W.trade (fun market queue => (queue.map (W.lot market)).sum)

/-- What the figure leaves out: sells that found no lot, less what the popped lots still held. -/
def FifoState.leftOut (st : FifoState) (W : Weights) : ℚ :=
  st.realized (fun t => W.price t.market * t.unpairedQuantity)
    - (st.popped.map (fun p => W.lot p.1 p.2)).sum

def FifoState.account (st : FifoState) (W : Weights) : ℚ := st.carried W - st.leftOut W

/-! ## What one row posts -/

def LedgerRow.droppedOn (row : LedgerRow) (queue : List Lot) : List Lot :=
  if row.countsAs .sell then (sellLots { remaining := row.quantity } queue).popped else []

theorem applyLedgerRow_popped (st : FifoState) (row : LedgerRow) :
    (applyLedgerRow st row).popped
      = st.popped ++ (row.droppedOn (st.lots row.market)).map (fun lot => (row.market, lot)) := by
  obtain ⟨entry, -, -, hcases⟩ := applyLedgerRow_cases st row
  unfold LedgerRow.droppedOn
  rcases hcases with ⟨-, hsell, -, -, hpopped⟩ | ⟨-, hsell, -, -, hpopped⟩
    | ⟨-, hsell, loop, rfl, -, -, hpopped⟩
  · simp [hpopped, hsell]
  · simp [hpopped, hsell]
  · simp [hpopped, hsell]

section Posting

variable {W : Weights} {row : LedgerRow} {st : FifoState}

theorem sum_lot (market : String) (queue : List Lot) :
    (queue.map (W.lot market)).sum
      = W.price market * (queue.map Lot.quantity).sum - W.cost * (queue.map Lot.cost).sum
        - W.buyFee * (queue.map Lot.fee).sum := by
  induction queue with
  | nil => simp
  | cons lot queue ih =>
    simp only [List.map_cons, List.sum_cons, ih, Weights.lot]
    ring

theorem posted_on (queue : List Lot) :
    ((row.tradesOn queue).map (fun t => W.trade t - W.price t.market * t.unpairedQuantity)).sum
        + ((row.lotsAfter queue).map (W.lot row.market)).sum
        + ((row.droppedOn queue).map (W.lot row.market)).sum
      = (queue.map (W.lot row.market)).sum + W.posted row := by
  unfold LedgerRow.tradesOn LedgerRow.lotsAfter LedgerRow.droppedOn Weights.posted
  by_cases hbuy : row.countsAs .buy = true
  · have hsell : row.countsAs .sell = false := by
      unfold LedgerRow.countsAs at hbuy ⊢
      cases hside : row.side <;> simp_all
    simp [hbuy, hsell, Weights.lot]
  · by_cases hsell : row.countsAs .sell = true
    · have hquantity := sellLots_quantity row.quantity queue
      have hcost := sellLots_cost row.quantity queue
      have hfee := sellLots_fee row.quantity queue
      have hremaining := sellLots_remaining row.quantity queue
      simp only [if_neg hbuy, if_pos hsell, sum_lot, List.map_cons, List.map_nil, List.sum_cons,
        List.sum_nil, Weights.trade, realizedTrade]
      linear_combination W.price row.market * hquantity - W.cost * hcost - W.buyFee * hfee
        - W.price row.market * hremaining
    · simp [hbuy, hsell]

theorem sum_map_update_keyed {κ ρ : Type*} [DecidableEq κ] {keys : List κ} (hnodup : keys.Nodup)
    {k : κ} (hk : k ∈ keys) (f : κ → ρ) (x : ρ) (g : κ → ρ → ℚ) :
    (keys.map (fun j => g j (Function.update f k x j))).sum
      = (keys.map (fun j => g j (f j))).sum + (g k x - g k (f k)) := by
  -- the values with their keys beside them
  have hpair := sum_map_update hnodup hk (fun j => (j, f j)) (k, x) (fun p => g p.1 p.2)
  rw [← hpair]
  refine congrArg List.sum (List.map_congr_left (fun j _ => ?_))
  by_cases hj : j = k
  · rw [hj, Function.update_self, Function.update_self]
  · rw [Function.update_of_ne hj, Function.update_of_ne hj]

theorem sum_open_applyLedgerRow (h : FifoBooks st) (g : String → List Lot → ℚ)
    (hnil : g row.market [] = 0) :
    ((applyLedgerRow st row).markets.map
        (fun market => g market ((applyLedgerRow st row).lots market))).sum
      = (st.markets.map (fun market => g market (st.lots market))).sum
        + (g row.market (row.lotsAfter (st.lots row.market))
          - g row.market (st.lots row.market)) := by
  obtain ⟨hlots, hmarkets, -, -⟩ := applyLedgerRow_effect st row
  rw [hlots, hmarkets]
  unfold marketsWith
  split
  · rename_i hmem
    exact sum_map_update_keyed h.markets_nodup hmem st.lots _ g
  · rename_i hmem
    have hempty := h.untouched row.market hmem
    have hrest : st.markets.map (fun market => g market
          (Function.update st.lots row.market (row.lotsAfter (st.lots row.market)) market))
        = st.markets.map (fun market => g market (st.lots market)) := by
      refine List.map_congr_left (fun market hmarket => ?_)
      have hne : market ≠ row.market := fun heq => hmem (heq ▸ hmarket)
      rw [Function.update_of_ne hne]
    rw [List.map_append, List.sum_append, hrest, hempty, hnil, sub_zero]
    simp

theorem account_applyLedgerRow (h : FifoBooks st) :
    (applyLedgerRow st row).account W = st.account W + W.posted row := by
  obtain ⟨-, -, htrades, -⟩ := applyLedgerRow_effect st row
  have hopen := @sum_open_applyLedgerRow row st h
    (fun market queue => (queue.map (W.lot market)).sum) rfl
  have hposted := @posted_on W row (st.lots row.market)
  have hsplit : ∀ ts : List RealizedTrade,
      (ts.map (fun t => W.trade t - W.price t.market * t.unpairedQuantity)).sum
        = (ts.map W.trade).sum - (ts.map (fun t => W.price t.market * t.unpairedQuantity)).sum := by
    intro ts
    induction ts with
    | nil => simp
    | cons t ts ih =>
      simp only [List.map_cons, List.sum_cons, ih]
      ring
  rw [hsplit] at hposted
  unfold FifoState.account FifoState.carried FifoState.leftOut FifoState.figure
    FifoState.realized
  rw [hopen, htrades, applyLedgerRow_popped]
  simp only [List.map_append, List.sum_append, List.map_map, Function.comp_def]
  linarith

end Posting

/-! ## A ledger, and its groups -/

section Groups

variable (W : Weights) (rows : List LedgerRow)

theorem account_fifoState : (fifoState rows).account W = (rows.map W.posted).sum := by
  have hrun : ∀ (l : List LedgerRow) (st : FifoState), FifoBooks st →
      (Library.run applyLedgerRow st l).account W = st.account W + (l.map W.posted).sum := by
    intro l
    induction l with
    | nil => intro st _; simp
    | cons row l ih =>
      intro st h
      rw [run_cons, ih _ h.applyLedgerRow, account_applyLedgerRow h, List.map_cons,
        List.sum_cons, add_assoc]
  have hzero : FifoState.account {} W = 0 := by
    simp [FifoState.account, FifoState.carried, FifoState.leftOut, FifoState.figure,
      FifoState.realized]
  have hperm := ((List.perm_insertionSort LedgerRow.executedBefore rows).map W.posted).sum_eq
  have hbooks : FifoBooks {} := fifoBooks_fifoState []
  unfold fifoState
  rw [hrun _ _ hbooks, hperm, hzero, zero_add]

/-- The sum of a figure over the groups of a ledger. -/
def groupSum (key : LedgerRow → String) (rows : List LedgerRow) (figure : FifoState → ℚ) : ℚ :=
  ((distinctKeys (rows.map key)).map (fun k => figure (fifoState (groupRows key rows k)))).sum

variable {W rows} {key : LedgerRow → String}

theorem key_mem_distinctKeys {row : LedgerRow} (hrow : row ∈ rows) :
    key row ∈ distinctKeys (rows.map key) := by
  unfold distinctKeys
  rw [List.mem_reverse, List.mem_dedup, List.mem_reverse]
  exact List.mem_map_of_mem hrow

variable (key rows) in
theorem groupSum_add (f g : FifoState → ℚ) :
    groupSum key rows (fun st => f st + g st) = groupSum key rows f + groupSum key rows g :=
  List.sum_map_add

variable (key rows) in
theorem groupSum_sub (f g : FifoState → ℚ) :
    groupSum key rows (fun st => f st - g st) = groupSum key rows f - groupSum key rows g := by
  have hadd := groupSum_add rows key (fun st => f st - g st) g
  simp only [sub_add_cancel] at hadd
  exact eq_sub_of_add_eq hadd.symm

variable (W key rows) in
theorem account_groups :
    groupSum key rows (fun st => st.account W) = (fifoState rows).account W := by
  unfold groupSum
  rw [account_fifoState,
    ← sum_map_groups (distinctKeys_nodup (rows.map key)) key (fun _ => key_mem_distinctKeys)]
  exact congrArg List.sum (List.map_congr_left (fun k _ => account_fifoState W _))

variable (W key rows) in
theorem carried_groups :
    groupSum key rows (fun st => st.carried W) - (fifoState rows).carried W
      = groupSum key rows (fun st => st.leftOut W) - (fifoState rows).leftOut W := by
  have haccount := account_groups W rows key
  unfold FifoState.account at haccount
  rw [groupSum_sub] at haccount
  linarith

end Groups

/-! ## Covered sells -/

def soldQuantity (rows : List LedgerRow) (market : String) : ℚ :=
  sumWhere rows (fun r => r.countsAs .sell && r.market == market) LedgerRow.quantity

/-- At no time have the sells of a group sold more of a market than the group had bought of it. -/
def SellsCovered (key : LedgerRow → String) (rows : List LedgerRow) : Prop :=
  ∀ n ≤ rows.length, ∀ row ∈ rows,
    soldQuantity (groupRows key ((rows.insertionSort LedgerRow.executedBefore).take n) (key row))
        row.market
      ≤ boughtQuantity
          (groupRows key ((rows.insertionSort LedgerRow.executedBefore).take n) (key row))
          row.market

instance (key : LedgerRow → String) (rows : List LedgerRow) : Decidable (SellsCovered key rows) := by
  unfold SellsCovered
  infer_instance

section Covered

variable {queue : List Lot} {quantity : ℚ}

theorem sellLots_paired (hquantity : 0 ≤ quantity)
    (henough : quantity ≤ (queue.map Lot.quantity).sum)
    (hpopped : ∀ lot ∈ (sellLots { remaining := quantity } queue).popped, lot.quantity = 0) :
    (sellLots { remaining := quantity } queue).remaining = 0 := by
  have hsplit := sellLots_quantity quantity queue
  have hdemand := sellLots_remaining quantity queue
  have hzero : ((sellLots { remaining := quantity } queue).popped.map Lot.quantity).sum = 0 := by
    refine List.sum_eq_zero (fun x hx => ?_)
    obtain ⟨lot, hlot, rfl⟩ := List.mem_map.mp hx
    exact hpopped lot hlot
  have hdraw : (sellLots { remaining := quantity } queue).remaining
        = (draw sellCut quantity queue).unmet
      ∧ (sellLots { remaining := quantity } queue).queue = (draw sellCut quantity queue).queue := by
    rw [sellLots_eq_draw]
    exact ⟨rfl, rfl⟩
  obtain ⟨hremaining, hleft⟩ := hdraw
  have hnonneg : 0 ≤ (draw sellCut quantity queue).unmet := draw_unmet_nonneg hquantity queue
  rcases hnonneg.eq_or_lt with hmet | hunmet
  · rw [hremaining, ← hmet]
  · -- a demand that is not met leaves no lot behind
    have hwhole : ∀ lot, sellCut.exhausted (sellCut.rest (sellCut.size lot) lot) := by
      intro lot
      show lot.quantity - lot.quantity ≤ lotTolerance
      rw [sub_self]
      unfold lotTolerance
      norm_num
    rw [hleft, draw_queue_of_unmet hwhole hunmet] at hsplit
    simp only [List.map_nil, List.sum_nil] at hsplit
    linarith

/-- A run over rows whose sells are covered: its books are kept on the grid, every sell is paired,
and what is open is what was bought and not sold. -/
structure CoveredRun (l : List LedgerRow) (st : FifoState) : Prop where
  books : FifoBooks st
  grid : OnGrid (AddSubgroup.zmultiples (1 / 10 ^ 8 : ℚ)) st
  paired : ∀ t ∈ st.realizedTrades, t.unpairedQuantity = 0
  open_eq : ∀ market, st.openQuantity market = boughtQuantity l market - soldQuantity l market

variable {l : List LedgerRow} {st : FifoState} {row : LedgerRow}

/-- **One covered row.** -/
theorem CoveredRun.step (h : CoveredRun l st)
    (hgrid : row.quantity ∈ AddSubgroup.zmultiples (1 / 10 ^ 8 : ℚ))
    (hcovered : soldQuantity (l ++ [row]) row.market ≤ boughtQuantity (l ++ [row]) row.market) :
    CoveredRun (l ++ [row]) (applyLedgerRow st row) := by
  have hbooks : FifoBooks (applyLedgerRow st row) := h.books.applyLedgerRow
  have hnext := onGrid_applyLedgerRow hgrid h.grid
  have hpopped := popped_eq_zero hbooks hnext
  obtain ⟨hlots, -, htrades, -⟩ := applyLedgerRow_effect st row
  rw [applyLedgerRow_popped] at hpopped
  have hold := h.open_eq row.market
  unfold soldQuantity boughtQuantity at hcovered hold
  simp only [sumWhere_append, sumWhere_cons, sumWhere_nil, beq_self_eq_true, Bool.and_true,
    add_zero] at hcovered
  -- what the row does to its own market
  have hown : (∀ t ∈ row.tradesOn (st.lots row.market), t.unpairedQuantity = 0)
      ∧ ((row.lotsAfter (st.lots row.market)).map Lot.quantity).sum
        = ((st.lots row.market).map Lot.quantity).sum
          + (if row.countsAs .buy then row.quantity else 0)
          - (if row.countsAs .sell then row.quantity else 0) := by
    unfold LedgerRow.tradesOn LedgerRow.lotsAfter
    by_cases hbuy : row.countsAs .buy = true
    · have hsell : row.countsAs .sell = false := by
        unfold LedgerRow.countsAs at hbuy ⊢
        cases hside : row.side <;> simp_all
      simp [hbuy, hsell]
    · by_cases hsell : row.countsAs .sell = true
      · have hpos : 0 < row.quantity := by
          unfold LedgerRow.countsAs at hsell
          simp only [Bool.and_eq_true, decide_eq_true_eq] at hsell
          exact hsell.1
        have hzero : ∀ lot ∈ (sellLots { remaining := row.quantity } (st.lots row.market)).popped,
            lot.quantity = 0 := by
          intro lot hlot
          have hmem : (row.market, lot) ∈ st.popped
              ++ (row.droppedOn (st.lots row.market)).map (fun lot => (row.market, lot)) := by
            refine List.mem_append_right _ (List.mem_map_of_mem ?_)
            unfold LedgerRow.droppedOn
            rw [if_pos hsell]
            exact hlot
          exact congrArg Lot.quantity (hpopped _ hmem)
        have henough : row.quantity ≤ ((st.lots row.market).map Lot.quantity).sum := by
          change ((st.lots row.market).map Lot.quantity).sum = _ at hold
          simp only [hsell, Bool.not_eq_true _ ▸ hbuy] at hcovered
          simp only [if_true, Bool.false_eq_true, if_false, add_zero] at hcovered
          linarith
        have hmet := sellLots_paired hpos.le henough hzero
        have hsplit := sellLots_quantity row.quantity (st.lots row.market)
        have hdemand := sellLots_remaining row.quantity (st.lots row.market)
        have hnone : ((sellLots { remaining := row.quantity } (st.lots row.market)).popped.map
            Lot.quantity).sum = 0 := by
          refine List.sum_eq_zero (fun x hx => ?_)
          obtain ⟨lot, hlot, rfl⟩ := List.mem_map.mp hx
          exact hzero lot hlot
        simp only [if_neg hbuy, if_pos hsell, List.mem_singleton, forall_eq]
        refine ⟨hmet, ?_⟩
        linarith
      · simp [hbuy, hsell]
  refine ⟨hbooks, hnext, ?_, ?_⟩
  · intro t ht
    rw [htrades] at ht
    rcases List.mem_append.mp ht with ht | ht
    · exact h.paired t ht
    · exact hown.1 t ht
  · intro market
    unfold FifoState.openQuantity boughtQuantity soldQuantity
    rw [hlots, sumWhere_append, sumWhere_append]
    simp only [sumWhere_cons, sumWhere_nil, add_zero]
    have hbefore := h.open_eq market
    unfold FifoState.openQuantity boughtQuantity soldQuantity at hbefore
    by_cases hmarket : market = row.market
    · subst hmarket
      rw [Function.update_self, hown.2, hbefore]
      simp only [beq_self_eq_true, Bool.and_true]
      ring
    · have hne : (row.market == market) = false := by simpa using Ne.symm hmarket
      rw [Function.update_of_ne hmarket, hbefore]
      simp [hne]

theorem coveredRun (hgrid : ∀ row ∈ l, row.quantity ∈ AddSubgroup.zmultiples (1 / 10 ^ 8 : ℚ))
    (hcovered : ∀ n, ∀ row ∈ l,
      soldQuantity (l.take n) row.market ≤ boughtQuantity (l.take n) row.market) :
    CoveredRun l (Library.run applyLedgerRow {} l) := by
  induction l using List.reverseRecOn with
  | nil => exact ⟨fifoBooks_fifoState [], ⟨by simp, by simp⟩, by simp, fun _ => by
    simp [FifoState.openQuantity, boughtQuantity, soldQuantity]⟩
  | append_singleton l row ih =>
    have hbefore : CoveredRun l (Library.run applyLedgerRow {} l) := by
      refine ih (fun r hr => hgrid r (List.mem_append_left _ hr)) (fun n r hr => ?_)
      have htake : (l ++ [row]).take (min n l.length) = l.take n := by
        rw [List.take_append_of_le_length (Nat.min_le_right _ _), ← List.take_eq_take_min]
      rw [← htake]
      exact hcovered _ r (List.mem_append_left _ hr)
    rw [run_append]
    have hlast := hcovered (l ++ [row]).length row (by simp)
    rw [List.take_length] at hlast
    exact hbefore.step (hgrid row (by simp)) hlast

/-- **A covered run leaves nothing out** of any account. -/
theorem CoveredRun.leftOut_eq_zero (h : CoveredRun l st) (W : Weights) : st.leftOut W = 0 := by
  have htrades : st.realized (fun t => W.price t.market * t.unpairedQuantity) = 0 := by
    refine List.sum_eq_zero (fun x hx => ?_)
    obtain ⟨t, ht, rfl⟩ := List.mem_map.mp hx
    rw [h.paired t ht, mul_zero]
  have hpopped : (st.popped.map (fun p => W.lot p.1 p.2)).sum = 0 := by
    refine List.sum_eq_zero (fun x hx => ?_)
    obtain ⟨p, hp, rfl⟩ := List.mem_map.mp hx
    rw [popped_eq_zero h.books h.grid p hp]
    simp [Weights.lot]
  rw [FifoState.leftOut, htrades, hpopped, sub_zero]

end Covered

section CoveredGroups

variable {key : LedgerRow → String} {rows : List LedgerRow}

theorem SellsCovered.at (h : SellsCovered key rows) (n : ℕ) (k market : String) :
    soldQuantity (groupRows key ((rows.insertionSort LedgerRow.executedBefore).take n) k) market
      ≤ boughtQuantity (groupRows key ((rows.insertionSort LedgerRow.executedBefore).take n) k)
          market := by
  rw [List.take_eq_take_min, List.length_insertionSort]
  by_cases hrow : ∃ row ∈ rows, key row = k ∧ row.market = market
  · obtain ⟨row, hrow, rfl, rfl⟩ := hrow
    exact h _ (Nat.min_le_right _ _) row hrow
  · -- no row of the group trades the market
    have hnone : ∀ side, sumWhere
        (groupRows key ((rows.insertionSort LedgerRow.executedBefore).take (min n rows.length)) k)
        (fun r => r.countsAs side && r.market == market) LedgerRow.quantity = 0 := by
      intro side
      refine List.sum_eq_zero (fun x hx => ?_)
      obtain ⟨row, hmem, rfl⟩ := List.mem_map.mp hx
      obtain ⟨htake, hkey⟩ := List.mem_filter.mp hmem
      have hmem' := (List.perm_insertionSort _ rows).mem_iff.mp (List.mem_of_mem_take htake)
      have hmarket : (row.market == market) = false := by
        refine beq_false_of_ne (fun heq => hrow ⟨row, hmem', ?_, heq⟩)
        simpa using hkey
      simp [hmarket]
    exact le_of_eq ((hnone .sell).trans (hnone .buy).symm)

theorem SellsCovered.group (h : SellsCovered key rows)
    (hgrid : ∀ row ∈ rows, row.quantity ∈ AddSubgroup.zmultiples (1 / 10 ^ 8 : ℚ)) (k : String) :
    CoveredRun ((groupRows key rows k).insertionSort LedgerRow.executedBefore)
      (fifoState (groupRows key rows k)) := by
  have hmem : ∀ row ∈ (groupRows key rows k).insertionSort LedgerRow.executedBefore, row ∈ rows :=
    fun row hrow => (List.mem_filter.mp ((List.perm_insertionSort _ _).mem_iff.mp hrow)).1
  refine coveredRun (fun row hrow => hgrid row (hmem row hrow)) (fun n row _ => ?_)
  unfold groupRows
  rw [← filter_insertionSort executedBefore_trans executedBefore_total]
  -- the first rows of the group are the group's rows among the first of the ledger
  obtain ⟨first, hfirst, htake⟩ := List.prefix_filter_iff.mp (List.take_prefix n
    ((rows.insertionSort LedgerRow.executedBefore).filter (fun row => key row = k)))
  rw [htake, List.prefix_iff_eq_take.mp hfirst]
  exact h.at first.length k row.market

theorem SellsCovered.ledger (h : SellsCovered key rows)
    (hgrid : ∀ row ∈ rows, row.quantity ∈ AddSubgroup.zmultiples (1 / 10 ^ 8 : ℚ)) :
    CoveredRun (rows.insertionSort LedgerRow.executedBefore) (fifoState rows) := by
  refine coveredRun
    (fun row hrow => hgrid row ((List.perm_insertionSort _ _).mem_iff.mp hrow)) (fun n row _ => ?_)
  have hgroups : ∀ side (l : List LedgerRow),
      sumWhere l (fun r => r.countsAs side && r.market == row.market) LedgerRow.quantity
        = ((distinctKeys (l.map key)).map (fun k => sumWhere (groupRows key l k)
            (fun r => r.countsAs side && r.market == row.market) LedgerRow.quantity)).sum := by
    intro side l
    exact (sum_map_groups (distinctKeys_nodup _) key (fun _ => key_mem_distinctKeys) _).symm
  unfold soldQuantity boughtQuantity
  rw [hgroups .sell, hgroups .buy]
  exact List.sum_le_sum (fun k _ => h.at n k row.market)

end CoveredGroups

end AutoCoinBot
