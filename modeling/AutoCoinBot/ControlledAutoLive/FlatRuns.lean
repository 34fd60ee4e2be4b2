/-
  ControlledAutoLive.FlatRuns — a run that passes has sold what it has bought.

  The exchange is taken at its word: it answers an order with its volume, what is executed of it and
  what remains, and an order that is done is executed in full.
-/
import AutoCoinBot.ControlledAutoLive.Runs

namespace AutoCoinBot

open Library

/-! ## Answers -/

def Encounter.answers (e : Encounter) : List RawOrder :=
  (e.placeOrder :: (e.getOrder ++ [e.cancelOrder])).filterMap Except.toOption

theorem mem_filterMap_toOption {ε α : Type*} {replies : List (Except ε α)} {a : α} :
    a ∈ replies.filterMap Except.toOption ↔ .ok a ∈ replies := by
  induction replies with
  | nil => simp
  | cons reply replies ih =>
    cases reply with
    | error e =>
      rw [List.filterMap_cons_none rfl, ih]
      simp
    | ok b =>
      have hhead : Except.toOption (Except.ok b : Except ε α) = some b := rfl
      rw [List.filterMap_cons_some hhead, List.mem_cons, ih, List.mem_cons, Except.ok.injEq]

theorem Encounter.mem_answers {e : Encounter} {raw : RawOrder} :
    raw ∈ e.answers
      ↔ e.placeOrder = .ok raw ∨ .ok raw ∈ e.getOrder ∨ e.cancelOrder = .ok raw := by
  unfold Encounter.answers
  rw [mem_filterMap_toOption, List.mem_cons, List.mem_append, List.mem_singleton]
  exact or_congr eq_comm (or_congr Iff.rfl eq_comm)

/-- An answer that only takes note of a request. -/
def RawOrder.Acknowledges (raw : RawOrder) : Prop :=
  raw.executedVolume = none ∧ raw.rawState ∉ doneStates

/-- An answer that describes an order of that volume, of which `executed` is executed in the end. -/
structure RawOrder.Describes (raw : RawOrder) (volume executed : ℚ) : Prop where
  requested : raw.volume = some volume
  remaining : raw.remainingVolume = some (volume - toFloat raw.executedVolume)
  executed_le : toFloat raw.executedVolume ≤ executed
  done : raw.rawState ∈ doneStates → toFloat raw.executedVolume = volume

/-- **The exchange answers truthfully**: whatever it says of an order, and it never executes more
than was asked for. -/
structure Encounter.Truthful (e : Encounter) (volume : ℚ) : Prop where
  executed_le : e.finallyExecuted ≤ volume
  answers : ∀ raw ∈ e.answers, raw.Acknowledges ∨ raw.Describes volume e.finallyExecuted

def Exchange.Truthful (exchange : Exchange) : Prop :=
  ∀ request, (exchange.encounter request).Truthful request.volume

theorem normalizeExchangeOrder_filled {raw : RawOrder}
    (h : (normalizeExchangeOrder raw).status = .filled) :
    raw.rawState ∈ doneStates
      ∨ (0 < toFloat raw.executedVolume ∧ toFloat raw.remainingVolume ≤ 0) := by
  by_cases hstate : raw.rawState ∈ doneStates
  · exact .inl hstate
  · right
    have hnot : ["done", "filled", "completed"].contains raw.rawState = false := by
      simpa [doneStates] using hstate
    unfold normalizeExchangeOrder at h
    simp only [hnot, Bool.false_eq_true, false_or] at h
    -- the rest that it is given where there is none does not make one
    split_ifs at h <;> grind

theorem executed_of_filled {e : Encounter} {volume : ℚ} (h : e.Truthful volume) {raw : RawOrder}
    (hraw : raw ∈ e.answers) (hfilled : (normalizeExchangeOrder raw).status = .filled) :
    e.finallyExecuted = volume ∧ toFloat raw.executedVolume = volume := by
  have hreads := normalizeExchangeOrder_filled hfilled
  rcases h.answers raw hraw with ⟨hnone, hstate⟩ | hdescribes
  · -- an acknowledgement reads as no fill
    rcases hreads with hdone | ⟨hpos, -⟩
    · exact absurd hdone hstate
    · rw [hnone] at hpos
      exact absurd hpos (lt_irrefl 0)
  · have hfull : toFloat raw.executedVolume = volume := by
      rcases hreads with hdone | ⟨-, hrest⟩
      · exact hdescribes.done hdone
      · rw [hdescribes.remaining] at hrest
        exact le_antisymm (hdescribes.executed_le.trans h.executed_le) (sub_nonpos.mp hrest)
    refine ⟨le_antisymm h.executed_le ?_, hfull⟩
    rw [← hfull]
    exact hdescribes.executed_le

/-! ## Results -/

section Results

variable {owner : String → Option String} {row : OrderRow}

theorem OrderRow.update_payload (u : LiveOrderLogUpdates) :
    (row.update owner u).exchangeResponsePayload
      = u.exchangeResponsePayload.getD row.exchangeResponsePayload := by
  unfold OrderRow.update
  dsimp only
  split <;> rfl

theorem OrderRow.reconcile_payload (reply : ExchangeReply) :
    (row.reconcile owner reply).1.exchangeResponsePayload = row.exchangeResponsePayload
      ∨ reply = .ok (row.reconcile owner reply).1.exchangeResponsePayload := by
  unfold OrderRow.reconcile
  split_ifs
  · exact .inl rfl
  · cases reply with
    | ok raw =>
      right
      dsimp only
      rw [OrderRow.update_payload]
      rfl
    | error exc =>
      left
      dsimp only
      split_ifs
      · rw [OrderRow.update_payload]
        rfl
      · rfl

theorem OrderRow.reconcile_filled {reply : ExchangeReply} {status : ReconciledOrderStatus}
    (h : (row.reconcile owner reply).2 = .ok (some status)) (hfilled : status.status = .filled) :
    ∃ raw, reply = .ok raw ∧ status = normalizeExchangeOrder raw := by
  unfold OrderRow.reconcile at h
  split_ifs at h
  · cases h
  · cases reply with
    | ok raw => exact ⟨raw, rfl, (Option.some.inj (Except.ok.inj h)).symm⟩
    | error exc =>
      dsimp only at h
      split_ifs at h
      -- an order that is not found is canceled
      obtain rfl := Option.some.inj (Except.ok.inj h)
      cases hfilled

/-- **After the polls**, the row has its payload, or that of a reply; an order that is filled is so
by a reply. -/
theorem pollLoop_payload (row : OrderRow) (replies : List ExchangeReply) :
    ((pollLoop owner row replies).1.exchangeResponsePayload = row.exchangeResponsePayload
        ∨ .ok (pollLoop owner row replies).1.exchangeResponsePayload ∈ replies)
      ∧ ∀ status, (pollLoop owner row replies).2 = .filled status →
          ∃ raw, .ok raw ∈ replies ∧ status = normalizeExchangeOrder raw
            ∧ status.status = .filled := by
  induction replies generalizing row with
  | nil => exact ⟨.inl rfl, fun _ h => by cases h⟩
  | cons reply replies ih =>
    have hpayload := @OrderRow.reconcile_payload owner row reply
    have hstatus := fun status => @OrderRow.reconcile_filled owner row reply status
    unfold pollLoop
    generalize row.reconcile owner reply = after at hpayload hstatus
    obtain ⟨row', returned⟩ := after
    dsimp only at hpayload hstatus
    have hfirst : row'.exchangeResponsePayload = row.exchangeResponsePayload
        ∨ .ok row'.exchangeResponsePayload ∈ reply :: replies :=
      hpayload.imp_right (fun h => by rw [← h]; exact List.mem_cons_self)
    -- the rest of the loop
    have hrest : ((pollLoop owner row' replies).1.exchangeResponsePayload
            = row.exchangeResponsePayload
          ∨ .ok (pollLoop owner row' replies).1.exchangeResponsePayload ∈ reply :: replies)
        ∧ ∀ status, (pollLoop owner row' replies).2 = .filled status →
            ∃ raw, .ok raw ∈ reply :: replies ∧ status = normalizeExchangeOrder raw
              ∧ status.status = .filled := by
      obtain ⟨hlast, hfilled⟩ := ih row'
      refine ⟨?_, fun status h => ?_⟩
      · rcases hlast with hsame | hmem
        · rw [hsame]
          exact hfirst
        · exact .inr (List.mem_cons_of_mem _ hmem)
      · obtain ⟨raw, hmem, hraw⟩ := hfilled status h
        exact ⟨raw, List.mem_cons_of_mem _ hmem, hraw⟩
    rcases returned with exc | _ | status
    · exact ⟨hfirst, fun _ h => by cases h⟩
    · exact hrest
    · dsimp only
      split_ifs with hfilled hcanceled
      · refine ⟨hfirst, fun status' h => ?_⟩
        obtain rfl := PollEnd.filled.inj h
        obtain ⟨raw, rfl, hraw⟩ := hstatus status rfl hfilled
        exact ⟨raw, List.mem_cons_self, hraw, hfilled⟩
      · exact ⟨hfirst, fun _ h => by cases h⟩
      · exact hrest

theorem OrderRow.cancel_payload (runner : Runner) (reply : ExchangeReply) :
    (row.cancel runner owner reply).exchangeResponsePayload = row.exchangeResponsePayload
      ∨ reply = .ok (row.cancel runner owner reply).exchangeResponsePayload := by
  unfold OrderRow.cancel
  cases reply with
  | ok raw =>
    right
    dsimp only
    rw [OrderRow.update_payload]
    rfl
  | error exc =>
    left
    dsimp only
    rw [OrderRow.update_payload]
    rfl

end Results

/-- The figures of a result are those of an answer that reads as filled. -/
def OrderResult.FilledBy (result : OrderResult) (raw : RawOrder) : Prop :=
  (normalizeExchangeOrder raw).status = .filled
    ∧ result.executedVolume = some (toFloat raw.executedVolume) ∧ result.requested = true

theorem afterWait_filled {result : OrderResult} {row : OrderRow} (hresult : result.filled = false)
    (hrequested : result.requested = true) (h : (result.afterWait row).filled = true) :
    (result.afterWait row).FilledBy row.exchangeResponsePayload := by
  unfold OrderResult.afterWait at h ⊢
  dsimp only at h ⊢
  split_ifs at h ⊢ with hpos
  · exact ⟨beq_iff_eq.mp h, rfl, hrequested⟩
  · rw [hresult] at h
    cases h

theorem waitForOrder_filled {runner : Runner} {owner : String → Option String} {row : OrderRow}
    {orderUuid : String} {e : Encounter} {result : OrderResult}
    (hrow : row.exchangeResponsePayload ∈ e.answers)
    (h : (waitForOrder runner owner row orderUuid e).2 = .ok result)
    (hfilled : result.filled = true) :
    ∃ raw ∈ e.answers, result.FilledBy raw := by
  have hanswers : ∀ raw, .ok raw ∈ e.getOrder → raw ∈ e.answers := by
    intro raw hmem
    exact Encounter.mem_answers.mpr (.inr (.inl hmem))
  have hcancelAnswer : ∀ raw, e.cancelOrder = .ok raw → raw ∈ e.answers := by
    intro raw hcancel
    exact Encounter.mem_answers.mpr (.inr (.inr hcancel))
  -- the row after the polls, and how they end
  have hpolled : ∃ row' ending, (if orderUuid = "" then (row, PollEnd.deadline)
        else pollLoop owner row e.getOrder) = (row', ending)
      ∧ row'.exchangeResponsePayload ∈ e.answers
      ∧ ∀ status, ending = .filled status → ∃ raw, .ok raw ∈ e.getOrder
          ∧ status = normalizeExchangeOrder raw ∧ status.status = .filled := by
    by_cases huuid : orderUuid = ""
    · exact ⟨row, .deadline, if_pos huuid, hrow, fun _ h => nomatch h⟩
    · obtain ⟨hpayload, hstatus⟩ := @pollLoop_payload owner row e.getOrder
      refine ⟨_, _, if_neg huuid, ?_, hstatus⟩
      rcases hpayload with hsame | hmem
      · rw [hsame]
        exact hrow
      · exact hanswers _ hmem
  obtain ⟨row', ending, hloop, hpayload, hstatus⟩ := hpolled
  -- what a cancel leaves
  have hcanceled : (if orderUuid = "" then row' else
      row'.cancel runner owner e.cancelOrder).exchangeResponsePayload ∈ e.answers := by
    split_ifs
    · exact hpayload
    · rcases @OrderRow.cancel_payload owner row' runner e.cancelOrder with hsame | hanswer
      · rw [hsame]
        exact hpayload
      · exact hcancelAnswer _ hanswer
  unfold waitForOrder at h
  rw [hloop] at h
  cases ending with
  | raises exc => cases h
  | filled status =>
    obtain ⟨raw, hmem, rfl, hreads⟩ := hstatus status rfl
    obtain rfl := Except.ok.inj h
    exact ⟨raw, hanswers raw hmem, hreads, rfl, rfl⟩
  | canceled =>
    obtain rfl := Except.ok.inj h
    exact ⟨_, hcanceled, afterWait_filled rfl rfl hfilled⟩
  | deadline =>
    obtain rfl := Except.ok.inj h
    exact ⟨_, hcanceled, afterWait_filled rfl rfl hfilled⟩

theorem result_filled {runner : Runner} {owner : String → Option String} {e : Encounter}
    {result : OrderResult} (h : (submitAndWait runner owner e).2 = .ok result)
    (hfilled : result.filled = true) :
    e.sendsNothing runner = false ∧ ∃ raw ∈ e.answers, result.FilledBy raw := by
  unfold submitAndWait at h
  unfold Encounter.sendsNothing
  cases hexists : runner.seesDuplicates && e.clientOrderIdExists with
  | true =>
    rw [hexists, if_pos rfl] at h
    obtain rfl := Except.ok.inj h
    cases hfilled
  | false =>
    rw [hexists, if_neg Bool.false_ne_true] at h
    cases hinsert : e.insertLiveOrderLog with
    | error exc =>
      rw [hinsert] at h
      dsimp only at h
      split_ifs at h
      obtain rfl := Except.ok.inj h
      cases hfilled
    | ok _ =>
      rw [hinsert] at h
      refine ⟨rfl, ?_⟩
      cases hplace : e.placeOrder with
      | error exc =>
        rw [hplace] at h
        cases h
      | ok response =>
        rw [hplace] at h
        refine waitForOrder_filled ?_ h hfilled
        rw [OrderRow.update_payload]
        exact Encounter.mem_answers.mpr (.inl hplace)

/-! ## The property -/

namespace Exchange

variable (exchange : Exchange)

/-- What the exchange has executed of an order in the end. -/
def executed (request : OrderRequest) : ℚ :=
  if (exchange.encounter request).sendsNothing request.runType.runner then 0
  else (exchange.encounter request).finallyExecuted

/-- The value of an order, as its result has it. -/
def value (request : OrderRequest) : ℚ :=
  toFloat ((exchange.result request).toOption.bind OrderResult.filledAmountKrw)

def fee (request : OrderRequest) : ℚ :=
  toFloat ((exchange.result request).toOption.bind OrderResult.paidFee)

/-- What is executed in a market on one side. -/
def executedIn (requests : List OrderRequest) (market : String) (side : OrderSide) : ℚ :=
  sumWhere requests (fun request => request.market == market && request.side == side)
    exchange.executed

/-- The sell value less the buy value and the fees. -/
def netPnl (requests : List OrderRequest) : ℚ :=
  sumWhere requests (fun request => request.side == .sell) exchange.value
    - sumWhere requests (fun request => request.side == .buy) exchange.value
    - sumWhere requests (fun request => request.side == .buy) exchange.fee
    - sumWhere requests (fun request => request.side == .sell) exchange.fee

/-- **The orders end flat**, and the P&L is theirs. -/
structure EndsFlat (requests : List OrderRequest) (netPnlAfterFee : ℚ) : Prop where
  flat : ∀ market, |exchange.executedIn requests market .buy
    - exchange.executedIn requests market .sell| ≤ 1 / 10 ^ 8
  net : netPnlAfterFee = exchange.netPnl requests

end Exchange

/-- **A run that passes ends flat.** -/
def RunOutcome.PassesFlat (exchange : Exchange) (o : RunOutcome) : Prop :=
  o.report.status.isPassing = true → exchange.EndsFlat o.requests o.report.netPnlAfterFee

/-! ## A BUY and its SELL -/

theorem roundVolume_le {value : ℚ} (h : 0 ≤ value) : roundVolume value ≤ value := by
  unfold roundVolume
  split_ifs
  · exact h
  · rw [div_le_iff₀ (by positivity)]
    exact Int.floor_le _

/-- A BUY that is filled, and a SELL of what it has bought that is filled. -/
structure RoundTrip (exchange : Exchange) (buy sell : OrderRequest) (bought sold : OrderResult)
    (netPnlAfterFee : ℚ) : Prop where
  buy_side : buy.side = .buy
  sell_side : sell.side = .sell
  market : sell.market = buy.market
  volume_nonneg : 0 ≤ buy.volume
  buy_result : exchange.result buy = .ok bought
  bought_filled : bought.filled = true
  sell_result : exchange.result sell = .ok sold
  sold_filled : sold.filled = true
  sell_volume : sell.volume = roundVolume (toFloat bought.executedVolume)
  net : netPnlAfterFee = toFloat sold.filledAmountKrw - toFloat bought.filledAmountKrw
    - (toFloat bought.paidFee + toFloat sold.paidFee)

theorem Exchange.executed_of_filled {exchange : Exchange} (hexchange : exchange.Truthful)
    {request : OrderRequest} {result : OrderResult} (h : exchange.result request = .ok result)
    (hfilled : result.filled = true) :
    exchange.executed request = request.volume
      ∧ toFloat result.executedVolume = request.volume := by
  obtain ⟨hsends, raw, hraw, hreads, hvolume, -⟩ := result_filled h hfilled
  obtain ⟨hfinally, htold⟩ := AutoCoinBot.executed_of_filled (hexchange request) hraw hreads
  refine ⟨?_, ?_⟩
  · unfold Exchange.executed
    rw [hsends, if_neg Bool.false_ne_true, hfinally]
  · rw [hvolume]
    exact htold

namespace RoundTrip

variable {exchange : Exchange} {buy sell : OrderRequest} {bought sold : OrderResult} {net : ℚ}

theorem executed_close (h : RoundTrip exchange buy sell bought sold net)
    (hexchange : exchange.Truthful) :
    |exchange.executed buy - exchange.executed sell| ≤ 1 / 10 ^ 8 := by
  obtain ⟨hbuy, htold⟩ := Exchange.executed_of_filled hexchange h.buy_result h.bought_filled
  obtain ⟨hsell, -⟩ := Exchange.executed_of_filled hexchange h.sell_result h.sold_filled
  rw [hbuy, hsell, h.sell_volume, htold]
  have hlow := roundVolume_le h.volume_nonneg
  have hhigh := @le_roundVolume_add buy.volume
  rw [abs_of_nonneg (sub_nonneg.mpr hlow)]
  linarith

/-- **The two orders end flat.** -/
theorem endsFlat (h : RoundTrip exchange buy sell bought sold net)
    (hexchange : exchange.Truthful) : exchange.EndsFlat [buy, sell] net where
  flat := by
    intro market
    unfold Exchange.executedIn
    simp only [sumWhere_cons, sumWhere_nil, h.buy_side, h.sell_side, h.market, beq_self_eq_true,
      Bool.and_true, Bool.and_false, Bool.false_eq_true, if_false, zero_add, add_zero,
      show (OrderSide.sell == OrderSide.buy) = false from rfl,
      show (OrderSide.buy == OrderSide.sell) = false from rfl]
    split_ifs
    · exact h.executed_close hexchange
    · norm_num
  net := by
    have hbuy : exchange.value buy = toFloat bought.filledAmountKrw
        ∧ exchange.fee buy = toFloat bought.paidFee := by
      unfold Exchange.value Exchange.fee
      rw [h.buy_result]
      exact ⟨rfl, rfl⟩
    have hsell : exchange.value sell = toFloat sold.filledAmountKrw
        ∧ exchange.fee sell = toFloat sold.paidFee := by
      unfold Exchange.value Exchange.fee
      rw [h.sell_result]
      exact ⟨rfl, rfl⟩
    unfold Exchange.netPnl
    simp only [sumWhere_cons, sumWhere_nil, h.buy_side, h.sell_side, beq_self_eq_true, if_true,
      show (OrderSide.sell == OrderSide.buy) = false from rfl,
      show (OrderSide.buy == OrderSide.sell) = false from rfl, Bool.false_eq_true, if_false,
      zero_add, add_zero]
    rw [h.net, hbuy.1, hbuy.2, hsell.1, hsell.2]
    ring

end RoundTrip

/-- Nothing was ordered. -/
structure Idle (report : RunReport) (requests : List OrderRequest) : Prop where
  requests : requests = []
  orderCount : report.orderCount = 0
  net : report.netPnlAfterFee = 0

/-- One position was bought in a market, and is held. -/
structure Holds (exchange : Exchange) (market : String) (bought : OrderResult) (report : RunReport)
    (requests : List OrderRequest) : Prop where
  buys : ∃ buy : OrderRequest, requests = [buy] ∧ buy.side = .buy ∧ buy.market = market
    ∧ 0 ≤ buy.volume ∧ exchange.result buy = .ok bought ∧ bought.filled = true
  orderCount : report.orderCount = 1
  net : report.netPnlAfterFee = 0

/-- One position was bought in a market, and sold. -/
structure Traded (exchange : Exchange) (market : String) (report : RunReport)
    (requests : List OrderRequest) : Prop where
  trades : ∃ buy sell bought sold, requests = [buy, sell] ∧ buy.market = market
    ∧ RoundTrip exchange buy sell bought sold report.netPnlAfterFee
  orderCount : report.orderCount = 2

/-! ## Steps of a run -/

section Steps

variable {exchange : Exchange} {p p' : Progress} {request : OrderRequest} {market : String}
  {bought sold : OrderResult}

/-- **A BUY that is filled** is held. -/
theorem Idle.submit (hp : Idle p.report p.requests)
    (h : p.submit exchange request = (p', .ok bought)) (hfilled : bought.filled = true)
    (hside : request.side = .buy) (hvolume : 0 ≤ request.volume) :
    Holds exchange request.market bought p'.report p'.requests := by
  unfold Progress.submit at h
  cases hresult : exchange.result request with
  | error exc =>
    rw [hresult] at h
    cases (Prod.mk.inj h).2
  | ok result =>
    rw [hresult] at h
    obtain ⟨rfl, hok⟩ := Prod.mk.inj h
    obtain rfl := Except.ok.inj hok
    obtain ⟨-, raw, -, -, -, hrequested⟩ := result_filled hresult hfilled
    refine ⟨⟨request, ?_, hside, rfl, hvolume, hresult, hfilled⟩, ?_, hp.net⟩
    · show p.requests ++ [request] = [request]
      rw [hp.requests]
      rfl
    · show p.report.orderCount + _ = 1
      rw [hp.orderCount, hrequested]
      rfl

/-- **A SELL of it that is filled** closes it. -/
theorem Holds.sell {position : HeldPosition} {sellPrice : OrderResult → ℚ}
    (hp : Holds exchange market bought p.report p.requests) (hside : request.side = .sell)
    (hmarket : request.market = market)
    (hvolume : request.volume = roundVolume (toFloat bought.executedVolume))
    (hvalue : position.buyValue = toFloat bought.filledAmountKrw)
    (hfee : position.buyFee = toFloat bought.paidFee)
    (h : p.sell exchange position request sellPrice = (p', .ok sold))
    (hfilled : sold.filled = true) :
    Traded exchange market p'.report p'.requests := by
  obtain ⟨⟨buy, hrequests, hbuySide, hbuyMarket, hnonneg, hbuy, hbuyFilled⟩, hcount, hnet⟩ := hp
  unfold Progress.sell Progress.submit at h
  cases hresult : exchange.result request with
  | error exc =>
    rw [hresult] at h
    cases (Prod.mk.inj h).2
  | ok result =>
    rw [hresult] at h
    dsimp only at h
    cases hsoldFilled : result.filled with
    | false =>
      rw [hsoldFilled, if_neg Bool.false_ne_true] at h
      obtain rfl := Except.ok.inj (Prod.mk.inj h).2
      rw [hsoldFilled] at hfilled
      cases hfilled
    | true =>
      rw [hsoldFilled, if_pos rfl] at h
      obtain ⟨rfl, hok⟩ := Prod.mk.inj h
      obtain rfl := Except.ok.inj hok
      obtain ⟨-, raw, -, -, -, hrequested⟩ := result_filled hresult hfilled
      refine ⟨⟨buy, request, bought, result, ?_, hbuyMarket, ?_⟩, ?_⟩
      · show p.requests ++ [request] = [buy, request]
        rw [hrequests]
        rfl
      · refine ⟨hbuySide, hside, hmarket.trans hbuyMarket.symm, hnonneg, hbuy, hbuyFilled,
          hresult, hfilled, hvolume, ?_⟩
        show p.report.netPnlAfterFee + (toFloat result.filledAmountKrw - position.buyValue
          - (position.buyFee + toFloat result.paidFee)) = _
        rw [hnet, hvalue, hfee, zero_add]
      · show p.report.orderCount + _ = 2
        rw [hcount, hrequested]
        rfl

theorem Progress.submit_selectedSymbol {result : Except String OrderResult}
    (h : p.submit exchange request = (p', result)) :
    p'.report.selectedSymbol = p.report.selectedSymbol := by
  unfold Progress.submit at h
  cases hresult : exchange.result request <;> rw [hresult] at h <;>
    obtain ⟨rfl, -⟩ := Prod.mk.inj h <;> rfl

theorem Progress.sell_selectedSymbol {position : HeldPosition} {sellPrice : OrderResult → ℚ}
    {result : Except String OrderResult}
    (h : p.sell exchange position request sellPrice = (p', result)) :
    p'.report.selectedSymbol = p.report.selectedSymbol := by
  unfold Progress.sell at h
  split at h
  · rename_i hsubmit
    obtain ⟨rfl, -⟩ := Prod.mk.inj h
    exact Progress.submit_selectedSymbol hsubmit
  · rename_i hsubmit
    have hkept := Progress.submit_selectedSymbol hsubmit
    split_ifs at h <;> obtain ⟨rfl, -⟩ := Prod.mk.inj h <;> exact hkept

theorem Idle.congr {report report' : RunReport} {requests : List OrderRequest}
    (h : Idle report requests) (hcount : report'.orderCount = report.orderCount)
    (hnet : report'.netPnlAfterFee = report.netPnlAfterFee) : Idle report' requests :=
  ⟨h.requests, hcount.trans h.orderCount, hnet.trans h.net⟩

theorem Traded.congr {report report' : RunReport} {requests : List OrderRequest}
    (h : Traded exchange market report requests) (hcount : report'.orderCount = report.orderCount)
    (hnet : report'.netPnlAfterFee = report.netPnlAfterFee) :
    Traded exchange market report' requests :=
  ⟨by rw [hnet]; exact h.trades, hcount.trans h.orderCount⟩

end Steps

/-! ## How a run ends -/

/-- **What a run that passes has done**: nothing, or one trade, in a market that its report
`selects`. -/
def Settled (exchange : Exchange) (selects : RunReport → String → Prop) (o : RunOutcome) : Prop :=
  o.report.status.isPassing = true →
    Idle o.report o.requests
      ∨ (o.report.status ≠ .passIdle
          ∧ ∃ market, selects o.report market ∧ Traded exchange market o.report o.requests)

section Ends

variable {exchange : Exchange} {selects : RunReport → String → Prop} {p : Progress}
  {runType : RunType} {status : ResultStatus} {closing : Closing}

theorem settled_finalize (hstatus : status.isPassing = false) (reasons : List String) :
    Settled exchange selects (p.finalize status reasons) := by
  intro h
  have hpassing : status.isPassing = true := h
  rw [hstatus] at hpassing
  cases hpassing

theorem settled_fail (error : String) : Settled exchange selects (p.fail runType error) :=
  settled_finalize rfl _

theorem settled_of_reasons {reasons : List String} (hreasons : reasons ≠ [])
    (hstatus : status.isPassing = false) :
    Settled exchange selects (p.finalizeAfterOrders runType status reasons closing) := by
  intro h
  unfold Progress.finalizeAfterOrders at h
  cases hraises : closing.raises with
  | some error =>
    rw [hraises] at h
    cases h
  | none =>
    rw [hraises] at h
    dsimp only at h
    rw [if_pos hreasons] at h
    have hne : status ≠ .passed := by
      rintro rfl
      cases hstatus
    have hpassing :
        (controlledResultStatus runType p.report.orderCount status).isPassing = true := h
    unfold controlledResultStatus at hpassing
    rw [if_pos hne, hstatus] at hpassing
    cases hpassing

theorem settled_finalizeAfterOrders
    (h : Idle p.report p.requests
      ∨ ∃ market, (∀ report : RunReport, report.selectedSymbol = p.report.selectedSymbol →
            selects report market)
          ∧ Traded exchange market p.report p.requests) :
    Settled exchange selects (p.finalizeAfterOrders runType status [] closing) := by
  intro hpassing
  unfold Progress.finalizeAfterOrders at hpassing ⊢
  cases hraises : closing.raises with
  | some error =>
    rw [hraises] at hpassing
    cases hpassing
  | none =>
    dsimp only
    rcases h with hidle | ⟨market, hselects, htraded⟩
    · exact .inl (hidle.congr rfl rfl)
    · refine .inr ⟨?_, market, hselects _ rfl, htraded.congr rfl rfl⟩
      -- it has sent orders
      have hcount : (0 : ℕ) < p.report.orderCount := by
        rw [htraded.orderCount]
        decide
      show controlledResultStatus runType p.report.orderCount _ ≠ .passIdle
      unfold controlledResultStatus
      rw [if_neg (not_not.mpr rfl)]
      split_ifs <;> decide

/-- **What is settled passes flat.** -/
theorem Settled.passesFlat {o : RunOutcome} (h : Settled exchange selects o)
    (hexchange : exchange.Truthful) : o.PassesFlat exchange := by
  intro hpassing
  rcases h hpassing with hidle | ⟨-, market, -, htraded⟩
  · rw [hidle.requests, hidle.net]
    refine ⟨fun market => ?_, ?_⟩
    · simp [Exchange.executedIn]
    · simp [Exchange.netPnl]
  · obtain ⟨buy, sell, bought, sold, hrequests, -, htrip⟩ := htraded.trades
    rw [hrequests]
    exact htrip.endsFlat hexchange

end Ends

/-! ## The runs -/

section Runs

variable {exchange : Exchange}

theorem idle_empty : Idle {} [] := ⟨rfl, rfl, rfl⟩

theorem TradeProbe.settled_sellAfter {run : TradeProbe} {quote : Quote} {p : Progress}
    {bought : OrderResult}
    (hp : Holds exchange ("KRW-" ++ run.symbol) bought p.report p.requests) :
    Settled exchange (fun _ _ => True) (run.sellAfter exchange quote p bought) := by
  unfold TradeProbe.sellAfter
  split_ifs
  · exact settled_of_reasons (List.cons_ne_nil _ _) rfl
  split
  · exact settled_fail _
  dsimp only
  split
  · exact settled_fail _
  · rename_i sold hsell
    cases hsold : sold.filled with
    | false => exact settled_of_reasons (List.cons_ne_nil _ _) rfl
    | true =>
      have htraded := hp.sell rfl rfl rfl rfl rfl hsell hsold
      exact settled_finalizeAfterOrders (.inr ⟨_, fun _ _ => trivial, htraded⟩)

theorem TradeProbe.settled_buy {run : TradeProbe} {quote : Quote} :
    Settled exchange (fun _ _ => True) (run.buy exchange quote {}) := by
  unfold TradeProbe.buy
  split
  · exact settled_fail _
  · rename_i bought hbuy
    cases hbought : bought.filled with
    | false => exact settled_of_reasons (List.cons_ne_nil _ _) rfl
    | true =>
      have hholds := idle_empty.submit hbuy hbought rfl (buyVolume_nonneg _ _)
      exact settled_sellAfter hholds

/-- **The trade probe.** -/
theorem settled_tradeProbe (run : TradeProbe) :
    Settled exchange (fun _ _ => True) (runControlledTradeProbe exchange run) := by
  unfold runControlledTradeProbe
  dsimp only
  split
  · exact settled_finalize rfl _
  · exact settled_fail _
  split
  · exact settled_fail _
  · exact settled_of_reasons (List.cons_ne_nil _ _) rfl
  split_ifs
  · exact settled_of_reasons (List.cons_ne_nil _ _) rfl
  split
  · exact settled_fail _
  split_ifs with hblockers
  · exact settled_of_reasons hblockers rfl
  · exact TradeProbe.settled_buy

/-- The market of a position run: that of the symbol that it has selected among its own. -/
def SelectsAmong (symbols : List String) (report : RunReport) (market : String) : Prop :=
  report.selectedSymbol ∈ symbols ∧ market = "KRW-" ++ report.selectedSymbol

theorem PositionRunReadings.settled_sellAfter {args : PositionRunArgs} {run : PositionRunReadings}
    {selected : SelectedCandidate} {buyPrice : ℚ} {p : Progress} {bought : OrderResult}
    (hsymbol : selected.symbol ∈ positionSymbols args.symbols)
    (hselected : p.report.selectedSymbol = selected.symbol)
    (hp : Holds exchange ("KRW-" ++ selected.symbol) bought p.report p.requests) :
    Settled exchange (SelectsAmong (positionSymbols args.symbols))
      (sellAfter exchange args run selected buyPrice p bought) := by
  unfold sellAfter
  dsimp only
  split
  · exact settled_fail _
  split
  · exact settled_fail _
  rename_i quote _
  by_cases hprice : quote.bestBid ≤ 0
  · rw [if_pos hprice]
    exact settled_of_reasons (List.cons_ne_nil _ _) rfl
  rw [if_neg hprice]
  split
  · exact settled_fail _
  · rename_i p' sold hsell
    cases hsold : sold.filled with
    | false => exact settled_of_reasons (List.cons_ne_nil _ _) rfl
    | true =>
      have htraded := hp.sell rfl rfl rfl rfl rfl hsell hsold
      refine settled_finalizeAfterOrders (.inr ⟨_, fun report hreport => ?_, htraded⟩)
      have hreportSymbol : report.selectedSymbol = selected.symbol :=
        hreport.trans ((Progress.sell_selectedSymbol hsell).trans hselected)
      exact ⟨hreportSymbol ▸ hsymbol, by rw [hreportSymbol]⟩

theorem PositionRunReadings.settled_buy {args : PositionRunArgs} {run : PositionRunReadings}
    {selected : SelectedCandidate} (hsymbol : selected.symbol ∈ positionSymbols args.symbols) :
    Settled exchange (SelectsAmong (positionSymbols args.symbols))
      (buy exchange args run selected {}) := by
  unfold buy
  dsimp only
  split
  · exact settled_fail _
  split_ifs
  · exact settled_of_reasons (List.cons_ne_nil _ _) rfl
  split
  · exact settled_fail _
  · rename_i p' bought hbuy
    cases hbought : bought.filled with
    | false => exact settled_of_reasons (List.cons_ne_nil _ _) rfl
    | true =>
      have hidle : Idle { ({} : RunReport) with selectedSymbol := selected.symbol } [] :=
        ⟨rfl, rfl, rfl⟩
      have hholds := hidle.submit hbuy hbought rfl (buyVolume_nonneg _ _)
      exact settled_sellAfter hsymbol (Progress.submit_selectedSymbol hbuy) hholds

theorem PositionRunReadings.settled_scan {args : PositionRunArgs} {run : PositionRunReadings}
    (ticks : List ScanTick) :
    Settled exchange (SelectsAmong (positionSymbols args.symbols))
      (scan exchange args run ticks {}) := by
  induction ticks with
  | nil => exact settled_finalizeAfterOrders (.inl idle_empty)
  | cons tick ticks ih =>
    unfold scan
    split_ifs
    · exact settled_of_reasons (List.cons_ne_nil _ _) rfl
    split
    · exact settled_fail _
    · exact settled_of_reasons (List.cons_ne_nil _ _) rfl
    split
    · exact settled_fail _
    · exact ih
    · rename_i selected hselected
      have hsymbol : selected.symbol ∈ positionSymbols args.symbols := by
        cases hread : tick.selected with
        | error error =>
          rw [hread] at hselected
          cases hselected
        | ok candidate =>
          rw [hread] at hselected
          have hfilter := Option.filter_eq_some_iff.mp (Except.ok.inj hselected)
          simpa using hfilter.2
      exact settled_buy hsymbol

/-- **The position run.** -/
theorem settled_positionRun (args : PositionRunArgs) (run : PositionRunReadings) :
    Settled exchange (SelectsAmong (positionSymbols args.symbols))
      (runControlledEntryV3PositionRun exchange args run) := by
  unfold runControlledEntryV3PositionRun
  dsimp only
  split
  · exact settled_finalize rfl _
  · exact settled_fail _
  · exact PositionRunReadings.settled_scan run.scans

/-- What `run_controlled_auto_live` holds is what it has bought. -/
def HoldsBought (exchange : Exchange) (p : Progress) : Option HeldPosition → Prop
  | none => Idle p.report p.requests
  | some held => ∃ bought, Holds exchange held.market bought p.report p.requests
      ∧ held.quantity = toFloat bought.executedVolume
      ∧ held.buyValue = toFloat bought.filledAmountKrw ∧ held.buyFee = toFloat bought.paidFee

/-- Its loop goes on with what it has bought, or ends without: it has sold it, or the loop ends for
a reason. -/
def TurnKeeps (exchange : Exchange) : AutoTurn → Prop
  | .goesOn p held => HoldsBought exchange p held
  | .breaks p held => HoldsBought exchange p held
      ∨ (held = none ∧ ∃ market, Traded exchange market p.report p.requests)
  | .stops _ reasons => reasons ≠ []
  | .raises _ _ => True

namespace AutoRun

variable {run : AutoRun} {tick : AutoTick} {p : Progress}

theorem turnKeeps_afterSleep {held : Option HeldPosition} (h : HoldsBought exchange p held) :
    TurnKeeps exchange (afterSleep tick p held) := by
  unfold afterSleep
  split_ifs
  · exact List.cons_ne_nil _ _
  · exact h

theorem turnKeeps_entryTurn (h : Idle p.report p.requests) :
    TurnKeeps exchange (entryTurn exchange run tick p) := by
  unfold entryTurn
  split
  · trivial
  · exact h
  split_ifs
  · trivial
  split
  · trivial
  · rename_i bought hbuy
    cases hbought : bought.filled with
    | false => exact List.cons_ne_nil _ _
    | true =>
      have hholds := h.submit hbuy hbought rfl (roundVolume_nonneg _)
      exact turnKeeps_afterSleep ⟨bought, hholds, rfl, rfl, rfl⟩

theorem sell_traded {held : HeldPosition} (h : HoldsBought exchange p (some held)) {price : ℚ}
    {reason : String} {p' : Progress} {sold : OrderResult}
    (hsell : p.sell exchange held (run.sellRequest p held price reason) (fun _ => price)
      = (p', .ok sold)) (hsold : sold.filled = true) :
    Traded exchange held.market p'.report p'.requests := by
  obtain ⟨bought, hholds, hquantity, hvalue, hfee⟩ := h
  have hvolume : (run.sellRequest p held price reason).volume
      = roundVolume (toFloat bought.executedVolume) := congrArg roundVolume hquantity
  exact hholds.sell rfl rfl hvolume hvalue hfee hsell hsold

theorem turnKeeps_exitTurn {held : HeldPosition} (h : HoldsBought exchange p (some held)) :
    TurnKeeps exchange (exitTurn exchange run tick p held) := by
  unfold exitTurn
  split
  · trivial
  split_ifs
  · split
    · trivial
    · rename_i sold hsell
      cases hsold : sold.filled with
      | false => exact List.cons_ne_nil _ _
      | true => exact .inr ⟨rfl, _, sell_traded h hsell hsold⟩
  · exact turnKeeps_afterSleep h

theorem turnKeeps_turn {held : Option HeldPosition} (h : HoldsBought exchange p held) :
    TurnKeeps exchange (turn exchange run tick p held) := by
  unfold turn
  by_cases hstop : tick.stopRequested = true
  · rw [if_pos hstop]
    exact List.cons_ne_nil _ _
  rw [if_neg hstop]
  split
  · trivial
  · exact List.cons_ne_nil _ _
  by_cases hcount : controlledMaxOrders RunType.autoLive.text ≤ p.report.orderCount
  · rw [if_pos hcount]
    exact .inl h
  rw [if_neg hcount]
  cases held with
  | none => exact turnKeeps_entryTurn h
  | some position => exact turnKeeps_exitTurn h

theorem turnKeeps_turns (ticks : List AutoTick) {held : Option HeldPosition}
    (h : HoldsBought exchange p held) : TurnKeeps exchange (turns exchange run ticks p held) := by
  induction ticks generalizing p held with
  | nil => exact h
  | cons tick ticks ih =>
    have hturn : TurnKeeps exchange (turn exchange run tick p held) := turnKeeps_turn h
    unfold turns
    split
    · rename_i hgoes
      rw [hgoes] at hturn
      exact ih hturn
    · exact hturn

theorem settled_flatten {held : Option HeldPosition}
    (h : HoldsBought exchange p held
      ∨ (held = none ∧ ∃ market, Traded exchange market p.report p.requests)) :
    Settled exchange (fun _ _ => True) (flatten exchange run p held) := by
  cases held with
  | none =>
    refine settled_finalizeAfterOrders ?_
    rcases h with hidle | ⟨-, market, htraded⟩
    · exact .inl hidle
    · exact .inr ⟨market, fun _ _ => trivial, htraded⟩
  | some position =>
    have hholds : HoldsBought exchange p (some position) :=
      h.resolve_right (fun hsold => nomatch hsold.1)
    have hcount : p.report.orderCount < controlledMaxOrders RunType.autoLive.text := by
      obtain ⟨bought, hbought, -⟩ := hholds
      rw [hbought.orderCount]
      decide
    unfold flatten
    dsimp only
    rw [if_pos hcount]
    split
    · exact settled_fail _
    split
    · exact settled_fail _
    · rename_i sold hsell
      split_ifs with hsold
      · have htraded := sell_traded hholds hsell hsold
        exact settled_finalizeAfterOrders (.inr ⟨_, fun _ _ => trivial, htraded⟩)
      · exact settled_of_reasons (List.cons_ne_nil _ _) rfl

end AutoRun

/-- **The controlled run.** -/
theorem settled_autoLive (run : AutoRun) :
    Settled exchange (fun _ _ => True) (runControlledAutoLive exchange run) := by
  have hturns : TurnKeeps exchange (AutoRun.turns exchange run run.ticks {} none) :=
    AutoRun.turnKeeps_turns run.ticks idle_empty
  unfold runControlledAutoLive
  dsimp only
  split
  · exact settled_finalize rfl _
  · exact settled_fail _
  split
  · rename_i hends
    rw [hends] at hturns
    exact AutoRun.settled_flatten (.inl hturns)
  · rename_i hends
    rw [hends] at hturns
    exact AutoRun.settled_flatten hturns
  · rename_i hends
    rw [hends] at hturns
    exact settled_of_reasons hturns rfl
  · exact settled_fail _

end Runs

end AutoCoinBot
