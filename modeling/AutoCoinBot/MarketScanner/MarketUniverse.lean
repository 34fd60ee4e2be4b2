/-
  MarketScanner.MarketUniverse — the market scan of app/market_scanner.py and the
  universe it writes.

  The scan takes the tickers with most trade, scores each, accepts the best of those that pass, and
  writes one row for each that it looked at.
-/
import AutoCoinBot.Library.Upsert
import AutoCoinBot.LiveStrategyPilot.Sizing
import AutoCoinBot.SmartDecision.TargetExposure

namespace AutoCoinBot

open Library

/-! ## Tickers -/

/-- A ticker; a field that is missing or no number is `none`. -/
structure Ticker where
  market : String
  accTradePrice24h : Option ℚ := none
  signedChangeRate : Option ℚ := none
  changeRate : Option ℚ := none
  tradePrice : Option ℚ := none
  prevClosingPrice : Option ℚ := none

/-- `_float(ticker.get(a) or ticker.get(b))` -/
def eitherField (a b : Option ℚ) : ℚ := if toFloat a = 0 then toFloat b else toFloat a

/-- `_float(ticker.get("acc_trade_price_24h"))` -/
def Ticker.tradePrice24h (ticker : Ticker) : ℚ := toFloat ticker.accTradePrice24h

structure TickerScore where
  liquidity : ℚ
  volatility : ℚ
  risk : ℚ

def TickerScore.total (score : TickerScore) : ℚ := score.liquidity + score.volatility + score.risk

def scoreTicker (ticker : Ticker) : TickerScore :=
  let changeRate := |eitherField ticker.signedChangeRate ticker.changeRate|
  { liquidity := min (ticker.tradePrice24h / 10000000000 * 60) 60
    volatility := max 0 (25 - min (changeRate * 100) 25)
    risk := max 0 (15 - max (changeRate * 100 - 8) 0) }

structure CandleDiagnostics where
  available : Bool
  reason : String
  volatility : ℚ
  count : ℕ

/-- `_candle_diagnostics`, by the trade prices that are fetched or the class of what is raised -/
def candleDiagnostics (fetched : Except String (List (Option ℚ))) : CandleDiagnostics :=
  match fetched with
  | .error exc => ⟨false, "candle fetch failed: " ++ exc, 0, 0⟩
  | .ok candles =>
    if candles.length < 200 then
      ⟨false, "insufficient candles: " ++ toString candles.length ++ "/200", 0, candles.length⟩
    else
      let prices := (candles.map toFloat).filter (fun price => decide (0 < price))
      if prices = [] then ⟨false, "no valid candle prices", 0, candles.length⟩
      else
        let avgPrice := prices.sum / prices.length
        let volatility :=
          if 0 < avgPrice then (prices.max?.getD 0 - prices.min?.getD 0) / avgPrice else 0
        if 35 / 100 ≤ volatility then ⟨false, "volatility too high", volatility, candles.length⟩
        else ⟨true, "scan passed", volatility, candles.length⟩

/-! ## The universe -/

/-- What a scan writes of a market. -/
structure UniverseItem where
  exchange : String
  market : String
  symbol : String := ""
  quoteCurrency : String := "KRW"
  status : String := "DISCOVERED"
  isEnabled : Bool := true
  isLiveAllowed : Bool := false
  isAutoSelectable : Bool := true
  scanRank : ℕ := 0
  score : ℚ := 0
  reason : String := ""
  min24hTradePriceKrw : ℚ := 0
  last24hTradePriceKrw : ℚ := 0
  lastPrice : ℚ := 0
  lastChangeRate : ℚ := 0
  lastVolatilityScore : ℚ := 0
  lastLiquidityScore : ℚ := 0
  lastRiskScore : ℚ := 0
  lastScannedAt : UtcTime := 0

/-- A row of `market_universe`. -/
structure MarketUniverse extends UniverseItem where
  id : ℕ
  updatedAt : UtcTime := 0

instance : Row MarketUniverse := ⟨MarketUniverse.id⟩

/-- `UNIQUE(exchange, market)` -/
def MarketUniverse.key (r : MarketUniverse) : String × String := (r.exchange, r.market)

def UniverseItem.key (item : UniverseItem) : String × String := (item.exchange, item.market)

/-- The table `market_universe`. -/
structure MarketUniverses where
  table : Table MarketUniverse
  unique : table.UniqueOn MarketUniverse.key

def emptyUniverse : MarketUniverses := ⟨Table.empty, List.nodup_nil⟩

/-- The row of a conflict: a live permission stays. -/
def overwriteUniverse (item : UniverseItem) (now : UtcTime) (r : MarketUniverse) :
    MarketUniverse :=
  { r with
    toUniverseItem :=
      { item with exchange := r.exchange, market := r.market, isLiveAllowed := r.isLiveAllowed }
    updatedAt := now }

def writeUniverseItem (now : UtcTime) (t : Table MarketUniverse) (item : UniverseItem) :
    Table MarketUniverse :=
  t.upsert MarketUniverse.key (fun k => { toUniverseItem := item, id := k, updatedAt := now })
    (fun _ => rfl) (overwriteUniverse item now) (fun _ => rfl)

theorem unique_writeUniverseItem (now : UtcTime) {t : Table MarketUniverse} (item : UniverseItem)
    (h : t.UniqueOn MarketUniverse.key) : (writeUniverseItem now t item).UniqueOn MarketUniverse.key :=
  h.upsert _ _ _ (fun _ => rfl)

theorem unique_writeUniverseItems (now : UtcTime) (items : List UniverseItem)
    {t : Table MarketUniverse} (h : t.UniqueOn MarketUniverse.key) :
    (items.foldl (writeUniverseItem now) t).UniqueOn MarketUniverse.key := by
  induction items generalizing t with
  | nil => exact h
  | cons item items ih => exact ih (unique_writeUniverseItem now item h)

def upsertMarketUniverse (now : UtcTime) (items : List UniverseItem) (universes : MarketUniverses) :
    MarketUniverses :=
  { table := items.foldl (writeUniverseItem now) universes.table
    unique := unique_writeUniverseItems now items universes.unique }

/-! ## The scan -/

/-- The arguments of `scan_market_universe`. -/
structure ScanRequest where
  exchange : String := "upbit"
  quoteCurrency : String := "KRW"
  topN : ℤ := 10
  maxCandidates : ℤ := 20
  min24hTradePriceKrw : ℚ := 500000000

section Scan

variable (request : ScanRequest) (tickers : List Ticker)
  (candles : String → Except String (List (Option ℚ))) (now : UtcTime)

/-- `exchange.lower().strip() or "upbit"` -/
def ScanRequest.exchangeOrDefault : String := orText (stripText request.exchange.toLower) "upbit"

/-- `max(1, min(int(top_n), 20))` -/
def ScanRequest.clampedTopN : ℕ := (max 1 (min request.topN 20)).toNat

/-- `max(top_n, min(int(max_candidates), 40))` -/
def ScanRequest.clampedMaxCandidates : ℕ :=
  max request.clampedTopN (min request.maxCandidates 40).toNat

def rankedTickers : List Ticker :=
  tickers.insertionSort (fun a b => b.tradePrice24h ≤ a.tradePrice24h)

def scannedRow (ticker : Ticker) : UniverseItem :=
  let score := scoreTicker ticker
  let candle := candleDiagnostics (candles ticker.market)
  let volatilityScore :=
    if candle.available then max 0 (score.volatility - min (candle.volatility * 100) 20)
    else score.volatility
  let enabled := decide (request.min24hTradePriceKrw ≤ ticker.tradePrice24h) && candle.available
  { exchange := request.exchangeOrDefault
    market := ticker.market
    symbol := symbolOf ticker.market
    quoteCurrency := request.quoteCurrency
    status := if enabled then "DISCOVERED" else "REJECTED"
    isEnabled := enabled
    isLiveAllowed := false
    isAutoSelectable := enabled
    scanRank := 0
    score := round2 (score.liquidity + volatilityScore + score.risk)
    reason :=
      if !candle.available then candle.reason
      else if enabled then "scan passed" else "low 24h trade price"
    min24hTradePriceKrw := request.min24hTradePriceKrw
    last24hTradePriceKrw := ticker.tradePrice24h
    lastPrice := eitherField ticker.tradePrice ticker.prevClosingPrice
    lastChangeRate := eitherField ticker.signedChangeRate ticker.changeRate
    lastVolatilityScore := round2 volatilityScore
    lastLiquidityScore := round2 score.liquidity
    lastRiskScore := round2 score.risk
    lastScannedAt := now }

/-- `rows` -/
def scannedRows : List UniverseItem :=
  (((rankedTickers tickers).take request.clampedMaxCandidates).filter
    (fun ticker => "KRW-".toList.isPrefixOf ticker.market.toList)).map
      (scannedRow request candles now)

/-- `accepted` -/
def acceptedRows (rows : List UniverseItem) : List UniverseItem :=
  ((rows.filter UniverseItem.isEnabled).insertionSort (fun a b => b.score ≤ a.score)).take
    request.clampedTopN

/-- `persisted_rows`: accepted markets are numbered as they come. -/
def persistedRows (acceptedMarkets : List String) : ℕ → List UniverseItem → List UniverseItem
  | _, [] => []
  | rank, row :: rows =>
    if row.market ∈ acceptedMarkets then
      { row with
        scanRank := rank, status := "DISCOVERED", isEnabled := true, isAutoSelectable := true }
        :: persistedRows acceptedMarkets (rank + 1) rows
    else
      { row with scanRank := 999, isAutoSelectable := false }
        :: persistedRows acceptedMarkets rank rows

/-- What `scan_market_universe` returns. -/
structure ScanReport where
  exchange : String
  quoteCurrency : String
  scannedAt : UtcTime
  requestedTopN : ℕ
  persistedCount : ℕ
  accepted : List UniverseItem
  rejected : List UniverseItem

/-- `scan_market_universe`, once markets and tickers are fetched -/
def scanMarketUniverse (universes : MarketUniverses) :
    Except String (MarketUniverses × ScanReport) :=
  if request.quoteCurrency ≠ "KRW" then
    .error "Only KRW markets are supported for the initial scanner."
  else
    let rows := scannedRows request tickers candles now
    let accepted := acceptedRows request rows
    let acceptedMarkets := accepted.map UniverseItem.market
    let persisted := persistedRows acceptedMarkets 1 rows
    .ok (upsertMarketUniverse now persisted universes,
      { exchange := request.exchangeOrDefault
        quoteCurrency := request.quoteCurrency
        scannedAt := now
        requestedTopN := request.clampedTopN
        persistedCount := persisted.length
        accepted := accepted
        rejected := persisted.filter (fun row => row.market ∉ acceptedMarkets) })

end Scan

/-! ## The universe after a scan -/

/-- A row is one of the item, whatever its live permission. -/
def ShowsItem (item : UniverseItem) (r : MarketUniverse) : Prop :=
  r.toUniverseItem = { item with isLiveAllowed := r.isLiveAllowed }

theorem ShowsItem.key_eq {item : UniverseItem} {r : MarketUniverse} (h : ShowsItem item r) :
    r.key = item.key := by
  unfold ShowsItem at h
  unfold MarketUniverse.key UniverseItem.key
  rw [h]

theorem writesRecord_universe (now : UtcTime) :
    WritesRecord (writeUniverseItem now) MarketUniverse.key UniverseItem.key ShowsItem := by
  intro t item r hr
  unfold writeUniverseItem at hr
  rcases Table.mem_rows_upsert hr with hold | hnew | hover
  · exact .inl hold
  · refine .inr ?_
    rw [hnew]
    rfl
  · obtain ⟨old, -, hkey, hr⟩ := hover
    have hexchange : old.exchange = item.exchange := congrArg Prod.fst hkey
    have hmarket : old.market = item.market := congrArg Prod.snd hkey
    refine .inr ?_
    rw [hr]
    unfold ShowsItem overwriteUniverse
    dsimp only
    rw [hexchange, hmarket]

theorem keepsKeys_universe (now : UtcTime) :
    KeepsKeys (writeUniverseItem now) MarketUniverse.key UniverseItem.key := by
  intro t item x hx
  have hkey : ∀ r, (overwriteUniverse item now r).key = r.key := fun _ => rfl
  unfold writeUniverseItem
  exact Table.exists_key_upsert hkey hx

section Universe

variable {now : UtcTime} {items : List UniverseItem} {universes : MarketUniverses}

theorem mem_rows_upsertMarketUniverse {r : MarketUniverse}
    (h : r ∈ (upsertMarketUniverse now items universes).table.rows) :
    (r ∈ universes.table.rows ∧ ∀ item ∈ items, r.key ≠ item.key)
      ∨ ∃ item ∈ lastPerKey UniverseItem.key items, ShowsItem item r :=
  mem_rows_batch_last (writesRecord_universe now) (fun _ _ hshows => hshows.key_eq) h

theorem exists_row_of_key {key : String × String}
    (h : (∃ item ∈ items, item.key = key) ∨ ∃ r ∈ universes.table.rows, r.key = key) :
    ∃ r ∈ (upsertMarketUniverse now items universes).table.rows, r.key = key :=
  exists_key_batch (keepsKeys_universe now) h

variable (now universes) in
theorem exists_row_of_item {item : UniverseItem}
    (h : item ∈ lastPerKey UniverseItem.key items) :
    ∃ r ∈ (upsertMarketUniverse now items universes).table.rows, ShowsItem item r := by
  obtain ⟨r, hr, hkey⟩ := exists_row_of_key (.inl ⟨item, mem_of_mem_lastPerKey h, rfl⟩)
  rcases mem_rows_upsertMarketUniverse hr with ⟨-, hother⟩ | ⟨item', hitem', hshows⟩
  · exact absurd hkey (hother item (mem_of_mem_lastPerKey h))
  · have hsame : item' = item := by
      apply List.inj_on_of_nodup_map (nodup_lastPerKey UniverseItem.key items) hitem' h
      rw [← hshows.key_eq, hkey]
    rw [hsame] at hshows
    exact ⟨r, hr, hshows⟩

theorem mem_rows_of_other {r : MarketUniverse} (hr : r ∈ universes.table.rows)
    (h : ∀ item ∈ items, r.key ≠ item.key) :
    r ∈ (upsertMarketUniverse now items universes).table.rows := by
  obtain ⟨r', hr', hkey⟩ := exists_row_of_key (.inr ⟨r, hr, rfl⟩)
  rcases mem_rows_upsertMarketUniverse hr' with ⟨hold, -⟩ | ⟨item, hitem, hshows⟩
  · rw [← universes.unique.eq_of_key hold hr hkey]
    exact hr'
  · exact absurd (hkey.symm.trans hshows.key_eq) (h item (mem_of_mem_lastPerKey hitem))

end Universe

/-! ## The rows that are written -/

section Persisted

variable {acceptedMarkets : List String}

theorem mem_persistedRows {row : UniverseItem} {rank : ℕ} {rows : List UniverseItem}
    (h : row ∈ persistedRows acceptedMarkets rank rows) :
    (row.isAutoSelectable = true ↔ row.market ∈ acceptedMarkets)
      ∧ ∃ row' ∈ rows, row'.key = row.key := by
  induction rows generalizing rank with
  | nil => cases h
  | cons head rows ih =>
    unfold persistedRows at h
    split at h
    case isTrue hmarket =>
      rcases List.mem_cons.mp h with rfl | h
      · exact ⟨iff_of_true rfl hmarket, head, List.mem_cons_self, rfl⟩
      · obtain ⟨hflag, row', hrow', hkey⟩ := ih h
        exact ⟨hflag, row', List.mem_cons_of_mem head hrow', hkey⟩
    case isFalse hmarket =>
      rcases List.mem_cons.mp h with rfl | h
      · exact ⟨iff_of_false Bool.false_ne_true hmarket, head, List.mem_cons_self, rfl⟩
      · obtain ⟨hflag, row', hrow', hkey⟩ := ih h
        exact ⟨hflag, row', List.mem_cons_of_mem head hrow', hkey⟩

theorem pairwise_persistedRows (rank : ℕ) (rows : List UniverseItem) :
    (persistedRows acceptedMarkets rank rows).Pairwise
        (fun a b => a.isAutoSelectable = true → b.isAutoSelectable = true →
          a.scanRank < b.scanRank)
      ∧ ∀ b ∈ persistedRows acceptedMarkets rank rows, b.isAutoSelectable = true →
          rank ≤ b.scanRank := by
  induction rows generalizing rank with
  | nil =>
    constructor
    · exact List.Pairwise.nil
    · intro b hb
      cases hb
  | cons head rows ih =>
    unfold persistedRows
    split
    case isTrue hmarket =>
      obtain ⟨hrest, hfrom⟩ := ih (rank + 1)
      constructor
      · refine List.pairwise_cons.mpr ⟨?_, hrest⟩
        intro b hb _ hflag
        exact hfrom b hb hflag
      · intro b hb hflag
        rcases List.mem_cons.mp hb with rfl | hb
        · exact Nat.le_refl rank
        · have hlater := hfrom b hb hflag
          omega
    case isFalse hmarket =>
      obtain ⟨hrest, hfrom⟩ := ih rank
      constructor
      · refine List.pairwise_cons.mpr ⟨?_, hrest⟩
        intro b hb hflag _
        cases hflag
      · intro b hb hflag
        rcases List.mem_cons.mp hb with rfl | hb
        · cases hflag
        · exact hfrom b hb hflag

theorem figures_persistedRows (rank : ℕ) (rows : List UniverseItem) :
    (persistedRows acceptedMarkets rank rows).map (fun r => (r.key, r.score))
      = rows.map (fun r => (r.key, r.score)) := by
  induction rows generalizing rank with
  | nil => rfl
  | cons head rows ih =>
    unfold persistedRows
    split
    case isTrue => exact congrArg (_ :: ·) (ih (rank + 1))
    case isFalse => exact congrArg (_ :: ·) (ih rank)

end Persisted

/-! ## Selectable markets and ranks -/

/-- Of the rows in order of trade, the last ones of accepted markets have falling scores. -/
def ScoresFall (acceptedMarkets : List String) (rows : List UniverseItem) : Prop :=
  ((lastPerKey UniverseItem.key rows).filter (fun r => r.market ∈ acceptedMarkets)).Pairwise
    (fun a b => b.score ≤ a.score)

theorem scoresFall_congr {acceptedMarkets : List String} {rows rows' : List UniverseItem}
    (h : rows.map (fun r => (r.key, r.score)) = rows'.map (fun r => (r.key, r.score))) :
    ScoresFall acceptedMarkets rows ↔ ScoresFall acceptedMarkets rows' := by
  have hfigures : ∀ rows : List UniverseItem, ScoresFall acceptedMarkets rows
      ↔ ((lastPerKey Prod.fst (rows.map (fun r => (r.key, r.score)))).filter
          (fun f => f.1.2 ∈ acceptedMarkets)).Pairwise (fun f g => g.2 ≤ f.2) := by
    intro rows
    have hmap := map_lastPerKey (k := UniverseItem.key) (j := Prod.fst)
      (f := fun r : UniverseItem => (r.key, r.score)) (fun _ => rfl) rows
    rw [← hmap, List.filter_map, List.pairwise_map]
    rfl
  rw [hfigures, hfigures, h]

/-- **After a scan** the selectable markets of the exchange are the accepted ones, which are at
most as many as asked for, and a smaller rank goes with no smaller score. -/
structure ScanExact (request : ScanRequest) (universes : MarketUniverses) (report : ScanReport) :
    Prop where
  atMost : report.accepted.length ≤ request.clampedTopN
  selectable : ∀ market,
    (∃ r ∈ universes.table.rows, r.exchange = request.exchangeOrDefault ∧ r.market = market
      ∧ r.isAutoSelectable = true) ↔ ∃ row ∈ report.accepted, row.market = market
  ranked : ∀ r ∈ universes.table.rows, ∀ s ∈ universes.table.rows,
    r.exchange = request.exchangeOrDefault → s.exchange = request.exchangeOrDefault →
    r.isAutoSelectable = true → s.isAutoSelectable = true →
    r.scanRank < s.scanRank → s.score ≤ r.score

/-- What the scan writes: the scanned rows of the exchange, flagged and numbered as accepted. -/
structure Persisted (exchange : String) (markets : List String) (rows items : List UniverseItem) :
    Prop where
  exchange : ∀ row ∈ rows, row.exchange = exchange
  accepted : ∀ market ∈ markets, ∃ row ∈ rows, row.market = market
  flag : ∀ item ∈ items, item.isAutoSelectable = true ↔ item.market ∈ markets
  figures : items.map (fun r => (r.key, r.score)) = rows.map (fun r => (r.key, r.score))
  ranks : items.Pairwise (fun a b => a.isAutoSelectable = true → b.isAutoSelectable = true →
    a.scanRank < b.scanRank)

namespace Persisted

variable {exchange : String} {markets : List String} {rows items : List UniverseItem}
  {now : UtcTime} {universes : MarketUniverses}

theorem keys (h : Persisted exchange markets rows items) :
    items.map UniverseItem.key = rows.map UniverseItem.key := by
  have hkeys := congrArg (List.map Prod.fst) h.figures
  rw [List.map_map, List.map_map] at hkeys
  exact hkeys

theorem exists_item_iff (h : Persisted exchange markets rows items) (market : String) :
    (∃ item ∈ items, item.key = (exchange, market)) ↔ ∃ row ∈ rows, row.market = market := by
  have hitems : (∃ item ∈ items, item.key = (exchange, market))
      ↔ (exchange, market) ∈ items.map UniverseItem.key := List.mem_map.symm
  rw [hitems, h.keys, List.mem_map]
  constructor
  · intro hrow
    obtain ⟨row, hmem, hkey⟩ := hrow
    exact ⟨row, hmem, congrArg Prod.snd hkey⟩
  · intro hrow
    obtain ⟨row, hmem, hmarket⟩ := hrow
    refine ⟨row, hmem, ?_⟩
    unfold UniverseItem.key
    rw [h.exchange row hmem, hmarket]

theorem exists_item (h : Persisted exchange markets rows items) {r : MarketUniverse}
    (hr : r ∈ (upsertMarketUniverse now items universes).table.rows)
    (hexchange : r.exchange = exchange) (hscanned : ∃ row ∈ rows, row.market = r.market) :
    ∃ item ∈ lastPerKey UniverseItem.key items, ShowsItem item r := by
  rcases mem_rows_upsertMarketUniverse hr with ⟨-, hother⟩ | hshows
  · obtain ⟨item, hitem, hkey⟩ := (h.exists_item_iff r.market).mpr hscanned
    refine absurd ?_ (hother item hitem)
    rw [hkey, ← hexchange]
    rfl
  · exact hshows

variable (now universes) in
/-- **The selectable markets after a scan**: the accepted ones, and those that were selectable
and are not scanned again. -/
theorem selectable_iff (h : Persisted exchange markets rows items) (market : String) :
    (∃ r ∈ (upsertMarketUniverse now items universes).table.rows,
        r.exchange = exchange ∧ r.market = market ∧ r.isAutoSelectable = true)
      ↔ market ∈ markets
        ∨ (¬ (∃ row ∈ rows, row.market = market) ∧ ∃ r ∈ universes.table.rows,
            r.exchange = exchange ∧ r.market = market ∧ r.isAutoSelectable = true) := by
  constructor
  · intro hafter
    obtain ⟨r, hr, hexchange, hmarket, hflag⟩ := hafter
    by_cases hscanned : ∃ row ∈ rows, row.market = market
    · rw [← hmarket] at hscanned ⊢
      obtain ⟨item, hitem, hshows⟩ := h.exists_item hr hexchange hscanned
      unfold ShowsItem at hshows
      rw [hshows] at hflag ⊢
      exact .inl ((h.flag item (mem_of_mem_lastPerKey hitem)).mp hflag)
    · refine .inr ⟨hscanned, ?_⟩
      rcases mem_rows_upsertMarketUniverse hr with ⟨hold, -⟩ | ⟨item, hitem, hshows⟩
      · exact ⟨r, hold, hexchange, hmarket, hflag⟩
      · refine absurd ((h.exists_item_iff market).mp ⟨item, mem_of_mem_lastPerKey hitem, ?_⟩)
          hscanned
        rw [← hshows.key_eq, ← hexchange, ← hmarket]
        rfl
  · intro hbefore
    rcases hbefore with haccepted | ⟨hscanned, r, hr, hexchange, hmarket, hflag⟩
    · obtain ⟨item, hitem, hkey⟩ := (h.exists_item_iff market).mpr (h.accepted market haccepted)
      obtain ⟨r, hr, hrkey⟩ := exists_row_of_key (.inl ⟨item, hitem, hkey⟩)
      have hexchange : r.exchange = exchange := congrArg Prod.fst hrkey
      have hmarket : r.market = market := congrArg Prod.snd hrkey
      have hscanned : ∃ row ∈ rows, row.market = r.market := by
        rw [hmarket]
        exact h.accepted market haccepted
      obtain ⟨item', hitem', hshows⟩ := h.exists_item hr hexchange hscanned
      have hmarket' : item'.market = market :=
        (congrArg Prod.snd hshows.key_eq).symm.trans hmarket
      have hflag : item'.isAutoSelectable = true := by
        apply (h.flag item' (mem_of_mem_lastPerKey hitem')).mpr
        rw [hmarket']
        exact haccepted
      refine ⟨r, hr, hexchange, hmarket, ?_⟩
      unfold ShowsItem at hshows
      rw [hshows]
      exact hflag
    · refine ⟨r, mem_rows_of_other hr ?_, hexchange, hmarket, hflag⟩
      intro item hitem hkey
      refine hscanned ((h.exists_item_iff market).mp ⟨item, hitem, ?_⟩)
      rw [← hkey, ← hexchange, ← hmarket]
      rfl

variable (now universes) in
theorem ranked_iff (h : Persisted exchange markets rows items)
    (hscanned : ∀ r ∈ (upsertMarketUniverse now items universes).table.rows,
      r.exchange = exchange → r.isAutoSelectable = true → ∃ row ∈ rows, row.market = r.market) :
    (∀ r ∈ (upsertMarketUniverse now items universes).table.rows,
      ∀ s ∈ (upsertMarketUniverse now items universes).table.rows,
        r.exchange = exchange → s.exchange = exchange → r.isAutoSelectable = true →
        s.isAutoSelectable = true → r.scanRank < s.scanRank → s.score ≤ r.score)
      ↔ ScoresFall markets items := by
  unfold ScoresFall
  have hlast : (lastPerKey UniverseItem.key items).Sublist items := List.pwFilter_sublist items
  have hranks := (h.ranks.sublist hlast).filter (fun r => r.market ∈ markets)
  have hmem : ∀ {item : UniverseItem},
      item ∈ (lastPerKey UniverseItem.key items).filter (fun r => r.market ∈ markets)
        ↔ item ∈ lastPerKey UniverseItem.key items ∧ item.isAutoSelectable = true := by
    intro item
    rw [List.mem_filter, decide_eq_true_iff]
    constructor
    · intro hitem
      exact ⟨hitem.1, (h.flag item (mem_of_mem_lastPerKey hitem.1)).mpr hitem.2⟩
    · intro hitem
      exact ⟨hitem.1, (h.flag item (mem_of_mem_lastPerKey hitem.1)).mp hitem.2⟩
  generalize hfiltered :
    (lastPerKey UniverseItem.key items).filter (fun r => r.market ∈ markets) = kept at hranks hmem ⊢
  constructor
  · intro hranked
    refine hranks.imp_of_mem ?_
    intro a b ha hb hlt
    obtain ⟨hlasta, hflaga⟩ := hmem.mp ha
    obtain ⟨hlastb, hflagb⟩ := hmem.mp hb
    obtain ⟨r, hr, hshowsr⟩ := exists_row_of_item now universes hlasta
    obtain ⟨s, hs, hshowss⟩ := exists_row_of_item now universes hlastb
    have hexchange : ∀ item ∈ items, item.exchange = exchange := by
      intro item hitem
      have hkey : item.key ∈ rows.map UniverseItem.key := by
        rw [← h.keys]
        exact List.mem_map_of_mem hitem
      obtain ⟨row, hrow, hsame⟩ := List.mem_map.mp hkey
      rw [← h.exchange row hrow]
      exact (congrArg Prod.fst hsame).symm
    have hfall := hranked r hr s hs
    unfold ShowsItem at hshowsr hshowss
    rw [hshowsr, hshowss] at hfall
    exact hfall (hexchange a (mem_of_mem_lastPerKey hlasta))
      (hexchange b (mem_of_mem_lastPerKey hlastb)) hflaga hflagb (hlt hflaga hflagb)
  · intro hfall r hr s hs hexchanger hexchanges hflagr hflags hlt
    obtain ⟨a, hlasta, hshowsr⟩ := h.exists_item hr hexchanger (hscanned r hr hexchanger hflagr)
    obtain ⟨b, hlastb, hshowss⟩ := h.exists_item hs hexchanges (hscanned s hs hexchanges hflags)
    unfold ShowsItem at hshowsr hshowss
    rw [hshowsr] at hflagr hlt ⊢
    rw [hshowss] at hflags hlt ⊢
    have ha : a ∈ kept := hmem.mpr ⟨hlasta, hflagr⟩
    have hb : b ∈ kept := hmem.mpr ⟨hlastb, hflags⟩
    -- of two rows, the one with the smaller rank comes first
    have hordered : ∀ ⦃x⦄, x ∈ kept → ∀ ⦃y⦄, y ∈ kept →
        x.scanRank < y.scanRank → y.score ≤ x.score := by
      refine List.Pairwise.forall_of_forall_of_flip ?_ ?_ ?_
      · intro x _ hself
        exact absurd hself (lt_irrefl _)
      · refine hfall.imp ?_
        intro x y hscore _
        exact hscore
      · refine hranks.imp_of_mem ?_
        intro x y hx hy hrank hback
        have hbefore := hrank (hmem.mp hx).2 (hmem.mp hy).2
        omega
    have hscores : a.scanRank < b.scanRank → b.score ≤ a.score := hordered ha hb
    exact hscores hlt

end Persisted

section Exact

variable {request : ScanRequest} {tickers : List Ticker}
  {candles : String → Except String (List (Option ℚ))} {now : UtcTime}
  {universes universes' : MarketUniverses} {report : ScanReport}

theorem scanMarketUniverse_ok
    (h : scanMarketUniverse request tickers candles now universes = .ok (universes', report)) :
    report.accepted = acceptedRows request (scannedRows request tickers candles now)
      ∧ universes' = upsertMarketUniverse now (persistedRows (report.accepted.map
          UniverseItem.market) 1 (scannedRows request tickers candles now)) universes := by
  unfold scanMarketUniverse at h
  split at h
  case isTrue => cases h
  case isFalse =>
    obtain ⟨huniverses, hreport⟩ := Prod.mk.inj (Except.ok.inj h)
    have haccepted : report.accepted
        = acceptedRows request (scannedRows request tickers candles now) := by
      rw [← hreport]
    refine ⟨haccepted, ?_⟩
    rw [haccepted, ← huniverses]

theorem exchange_of_scanned {row : UniverseItem}
    (h : row ∈ scannedRows request tickers candles now) :
    row.exchange = request.exchangeOrDefault := by
  obtain ⟨ticker, -, rfl⟩ := List.mem_map.mp h
  rfl

theorem scanned_of_accepted {rows : List UniverseItem} {row : UniverseItem}
    (h : row ∈ acceptedRows request rows) : row ∈ rows := by
  have hsorted := List.mem_of_mem_take h
  rw [List.mem_insertionSort] at hsorted
  exact (List.mem_filter.mp hsorted).1

/-- **The selectable markets are the accepted ones, ranked by score**, just if every market that
was selectable before is scanned again and the scores of the accepted rows fall with their
trade. -/
theorem scanExact_iff
    (h : scanMarketUniverse request tickers candles now universes = .ok (universes', report)) :
    ScanExact request universes' report
      ↔ (∀ r ∈ universes.table.rows, r.exchange = request.exchangeOrDefault →
          r.isAutoSelectable = true →
          ∃ row ∈ scannedRows request tickers candles now, row.market = r.market)
        ∧ ScoresFall (report.accepted.map UniverseItem.market)
          (scannedRows request tickers candles now) := by
  obtain ⟨haccepted, huniverses⟩ := scanMarketUniverse_ok h
  generalize hmarkets : report.accepted.map UniverseItem.market = markets at huniverses ⊢
  generalize hrows : scannedRows request tickers candles now = rows at haccepted huniverses ⊢
  have hpersisted : Persisted request.exchangeOrDefault markets rows
      (persistedRows markets 1 rows) := by
    refine ⟨?_, ?_, fun item hitem => (mem_persistedRows hitem).1, figures_persistedRows 1 rows,
      (pairwise_persistedRows 1 rows).1⟩
    · rw [← hrows]
      exact fun row hrow => exchange_of_scanned hrow
    · intro market hmarket
      rw [← hmarkets, haccepted] at hmarket
      obtain ⟨row, hrow, hsame⟩ := List.mem_map.mp hmarket
      exact ⟨row, scanned_of_accepted hrow, hsame⟩
  have hmem : ∀ market, (∃ row ∈ report.accepted, row.market = market) ↔ market ∈ markets := by
    intro market
    rw [← hmarkets, List.mem_map]
  have hselectable := hpersisted.selectable_iff now universes
  have hranked := hpersisted.ranked_iff now universes
  rw [scoresFall_congr hpersisted.figures] at hranked
  rw [← huniverses] at hselectable hranked
  have hscanned : (∀ r ∈ universes.table.rows, r.exchange = request.exchangeOrDefault →
      r.isAutoSelectable = true → ∃ row ∈ rows, row.market = r.market) →
      ∀ r ∈ universes'.table.rows, r.exchange = request.exchangeOrDefault →
        r.isAutoSelectable = true → ∃ row ∈ rows, row.market = r.market := by
    intro hagain r hr hexchange hflag
    rcases (hselectable r.market).mp ⟨r, hr, hexchange, rfl, hflag⟩ with haccepts | ⟨-, hold⟩
    · exact hpersisted.accepted r.market haccepts
    · obtain ⟨old, hold, hexchange', hmarket, hflag'⟩ := hold
      rw [← hmarket]
      exact hagain old hold hexchange' hflag'
  constructor
  · intro hexact
    have hagain : ∀ r ∈ universes.table.rows, r.exchange = request.exchangeOrDefault →
        r.isAutoSelectable = true → ∃ row ∈ rows, row.market = r.market := by
      intro r hr hexchange hflag
      by_contra hnot
      have hafter := (hselectable r.market).mpr (.inr ⟨hnot, r, hr, hexchange, rfl, hflag⟩)
      have haccepts := (hmem r.market).mp ((hexact.selectable r.market).mp hafter)
      exact hnot (hpersisted.accepted r.market haccepts)
    exact ⟨hagain, (hranked (hscanned hagain)).mp hexact.ranked⟩
  · intro hcondition
    obtain ⟨hagain, hfall⟩ := hcondition
    refine ⟨?_, ?_, (hranked (hscanned hagain)).mpr hfall⟩
    · rw [haccepted]
      exact List.length_take_le _ _
    · intro market
      rw [hselectable market, hmem market]
      constructor
      · intro hor
        rcases hor with haccepts | ⟨hnot, r, hr, hexchange, hmarket, hflag⟩
        · exact haccepts
        · refine absurd ?_ hnot
          rw [← hmarket]
          exact hagain r hr hexchange hflag
      · intro haccepts
        exact .inl haccepts

end Exact

def steadyCandles (_ : String) : Except String (List (Option ℚ)) := .ok (List.replicate 200 (some 100))

def tradedTicker (market : String) (tradePrice changeRate : ℚ) : Ticker :=
  { market := market, accTradePrice24h := some tradePrice, signedChangeRate := some changeRate }

theorem scanExact_quiet :
    ∃ universes report, scanMarketUniverse {}
        [tradedTicker "KRW-BTC" 10000000000 (1 / 100), tradedTicker "KRW-ETH" 5000000000 (1 / 100)]
        steadyCandles 0 emptyUniverse = .ok (universes, report)
      ∧ ScanExact {} universes report := by
  refine ⟨_, _, rfl, (scanExact_iff rfl).mpr ⟨?_, ?_⟩⟩
  · intro r hr
    cases hr
  · unfold ScoresFall
    decide +kernel

def oneMarketUniverse : MarketUniverses :=
  upsertMarketUniverse 0 [{ exchange := "upbit", market := "KRW-XRP" }] emptyUniverse

/-- **A market that is not looked at stays selectable, and ranks follow the trade**: the scan
accepts two markets, and XRP stays; BTC is ranked before ETH with the smaller score. -/
theorem scan_keeps_stale_and_misranks :
    ∃ universes report, scanMarketUniverse {}
        [tradedTicker "KRW-BTC" 20000000000 (1 / 10), tradedTicker "KRW-ETH" 10000000000 (1 / 100)]
        steadyCandles 0 oneMarketUniverse = .ok (universes, report)
      ∧ report.accepted.map UniverseItem.market = ["KRW-ETH", "KRW-BTC"]
      ∧ universes.table.rows.map (fun r => (r.market, r.isAutoSelectable, r.scanRank, r.score))
        = [("KRW-XRP", true, 0, 0), ("KRW-BTC", true, 1, 88), ("KRW-ETH", true, 2, 99)]
      ∧ ¬ ScanExact {} universes report := by
  refine ⟨_, _, rfl, by decide +kernel, by decide +kernel, ?_⟩
  intro h
  have hstale := (h.selectable "KRW-XRP").mp (by decide +kernel)
  exact absurd hstale (by decide +kernel)

end AutoCoinBot
