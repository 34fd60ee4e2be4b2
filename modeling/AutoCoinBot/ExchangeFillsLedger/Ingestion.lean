/-
  ExchangeFillsLedger.Ingestion — fetching the same orders again and again.

  Every payload of orders goes through `build_exchange_fill_records` into the ledger, which holds
  one row a fill key.
-/
import AutoCoinBot.ExchangeFillsLedger.FillRecords
import AutoCoinBot.Library.Upsert

namespace AutoCoinBot

open Library

/-! ## The ledger -/

/-- The columns of `UNIQUE(exchange_name, fill_key)`. -/
def LedgerRow.tableKey (row : LedgerRow) : String × Option FillKey := (row.exchangeName, row.fillKey)

def LedgerRow.stored (record : LedgerRow) (now : UtcTime) (id : ℕ) : LedgerRow :=
  { record with
    id := id
    exchangeName := orText record.exchangeName "bithumb"
    exchangeOrderUuid :=
      if toText record.exchangeOrderUuid = "" then none else record.exchangeOrderUuid
    feeCurrency := orText record.feeCurrency "KRW"
    -- the table has no column for these two
    fillSequence := none
    multiFillSameOrderUuid := false
    source := orText record.source "exchange_api"
    createdAtUtc := now
    updatedAtUtc := now }

/-- The row an update leaves: all but its key and its creation. -/
def LedgerRow.rewritten (row record : LedgerRow) (now : UtcTime) : LedgerRow :=
  { record.stored now row.id with
    exchangeName := row.exchangeName
    fillKey := row.fillKey
    createdAtUtc := row.createdAtUtc }

/-- `exchange_fills_ledger`. -/
structure FillsLedger where
  table : Table LedgerRow := Table.empty
  key_unique : table.UniqueOn LedgerRow.tableKey := by decide

def upsertExchangeFillLedger (now : UtcTime) (ledger : FillsLedger) (record : LedgerRow) :
    FillsLedger where
  table := ledger.table.upsert LedgerRow.tableKey (record.stored now) (fun _ => rfl)
    (fun row => row.rewritten record now) (fun _ => rfl)
  key_unique := ledger.key_unique.upsert _ _ _ (fun _ => rfl)

def persistExchangeFillRecords (now : UtcTime) (ledger : FillsLedger) (records : List LedgerRow) :
    FillsLedger :=
  records.foldl (upsertExchangeFillLedger now) ledger

/-- What the ledger counts of a figure for an order. -/
def FillsLedger.orderTotal (ledger : FillsLedger) (g : LedgerRow → ℚ) (uuid : String) : ℚ :=
  ((ledger.table.rows.filter (fun row => row.orderRef == uuid)).map g).sum

/-! ## Payloads -/

/-- One fetch: the orders of the exchange and of the database, and its time. -/
structure FillsPayload where
  exchangeOrders : List ExchangeOrder
  dbOrders : List DbOrder := []
  now : UtcTime := 0

def FillsPayload.orderFills (payload : FillsPayload) (uuid : String) : List ExchangeFill :=
  (normalizeExchangeFills payload.exchangeOrders).filter (fun f => f.exchangeOrderUuid == uuid)

def FillsPayload.Lists (payload : FillsPayload) (uuid : String) : Prop :=
  ∃ order ∈ payload.exchangeOrders, order.ref = uuid

instance (payload : FillsPayload) (uuid : String) : Decidable (payload.Lists uuid) :=
  inferInstanceAs (Decidable (∃ order ∈ payload.exchangeOrders, order.ref = uuid))

/-- The ledger, and what the latest snapshot of each order showed: its quantity and its
executed value. -/
structure IngestState where
  ledger : FillsLedger := {}
  latest : String → ℚ × ℚ := fun _ => (0, 0)

/-- One payload: its records are built and persisted. -/
def ingest (exchangeName : String) (st : IngestState) (payload : FillsPayload) : IngestState where
  ledger := persistExchangeFillRecords payload.now st.ledger
    (buildExchangeFillRecords exchangeName payload.exchangeOrders payload.dbOrders "exchange_api"
      none)
  latest := fun uuid =>
    if payload.Lists uuid then
      (((payload.orderFills uuid).map ExchangeFill.quantity).sum,
        ((payload.orderFills uuid).map ExchangeFill.amountKrw).sum)
    else st.latest uuid

/-- The ledger counts every order as its latest snapshot does. -/
def CountsLatest (st : IngestState) : Prop :=
  ∀ uuid, st.ledger.orderTotal LedgerRow.quantity uuid = (st.latest uuid).1
    ∧ st.ledger.orderTotal LedgerRow.executedValue uuid = (st.latest uuid).2

/-- **The payload repeats the keys**: for every order it lists, no two fills share a key,
and every ledger row of the order has the key of one of them. -/
def RepeatsKeys (exchangeName : String) (st : IngestState) (payload : FillsPayload) : Prop :=
  ∀ order ∈ payload.exchangeOrders,
    ((payload.orderFills order.ref).map (ExchangeFill.canonicalFillKey exchangeName)).Nodup
      ∧ ∀ row ∈ st.ledger.table.rows, row.orderRef = order.ref →
          ∃ fill ∈ payload.orderFills order.ref,
            row.fillKey = some (fill.canonicalFillKey exchangeName)

instance (exchangeName : String) (st : IngestState) (payload : FillsPayload) :
    Decidable (RepeatsKeys exchangeName st payload) := by
  unfold RepeatsKeys
  infer_instance

/-! ## One payload -/

/-- Every row carries the run's exchange, and its key the uuid of its order. -/
def RowsKeyed (exchangeName : String) (ledger : FillsLedger) : Prop :=
  ∀ row ∈ ledger.table.rows, row.exchangeName = orText exchangeName "bithumb"
    ∧ ∃ key, row.fillKey = some key ∧ key.orderUuid = row.orderRef

def ExchangeFill.tableKey (exchangeName : String) (fill : ExchangeFill) :
    String × Option FillKey :=
  (orText exchangeName "bithumb", some (fill.canonicalFillKey exchangeName))

def RecordsFill (exchangeName : String) (fill : ExchangeFill) (row : LedgerRow) : Prop :=
  row.tableKey = fill.tableKey exchangeName
    ∧ row.orderRef = fill.exchangeOrderUuid ∧ row.quantity = fill.quantity
    ∧ row.executedValue = fill.amountKrw

/-- The table after the record of one fill is written. -/
def writeRecord (now : UtcTime) (record : ExchangeFill → LedgerRow) (t : Table LedgerRow)
    (fill : ExchangeFill) : Table LedgerRow :=
  t.upsert LedgerRow.tableKey ((record fill).stored now) (fun _ => rfl)
    (fun row => row.rewritten (record fill) now) (fun _ => rfl)

theorem persistExchangeFillRecords_table (now : UtcTime) (record : ExchangeFill → LedgerRow)
    (fills : List ExchangeFill) (ledger : FillsLedger) :
    (persistExchangeFillRecords now ledger (fills.map record)).table
      = fills.foldl (writeRecord now record) ledger.table := by
  induction fills generalizing ledger with
  | nil => rfl
  | cons fill fills ih => exact ih (upsertExchangeFillLedger now ledger (record fill))

section Writes

variable (exchangeName : String) (fills : List ExchangeFill) (dbFills : List DbFill)
  (source : String) (now : UtcTime)

theorem showsFill_stored (fill : ExchangeFill) (id : ℕ) :
    RecordsFill exchangeName fill
      ((recordOf exchangeName fills dbFills source fill).stored now id) := by
  refine ⟨rfl, ?_, rfl, rfl⟩
  have hrecord := recordOf_orderRef exchangeName fills dbFills source fill
  generalize hr : recordOf exchangeName fills dbFills source fill = record at *
  unfold LedgerRow.orderRef LedgerRow.stored at *
  by_cases hempty : toText record.exchangeOrderUuid = ""
  · -- a record of a fill carries no empty exchange uuid
    have hnone : record.exchangeOrderUuid = none := by
      rw [← hr] at hempty ⊢
      unfold recordOf at hempty ⊢
      dsimp only at hempty ⊢
      by_cases hreal : isRealExchangeOrderUuid fill.exchangeOrderUuid = true
      · rw [if_pos hreal, toText_some] at hempty
        rw [hempty] at hreal
        cases hreal
      · rw [if_neg hreal]
    simpa [hnone] using hrecord
  · simpa [hempty] using hrecord

theorem writesRecord_fill :
    WritesRecord (writeRecord now (recordOf exchangeName fills dbFills source))
      LedgerRow.tableKey (ExchangeFill.tableKey exchangeName) (RecordsFill exchangeName) := by
  intro t fill row hrow
  -- inserted, or written over the row of the same key
  have hstored := showsFill_stored exchangeName fills dbFills source now fill
  rcases Table.mem_rows_upsert hrow with hold | rfl | ⟨old, -, hkey, rfl⟩
  · exact .inl hold
  · exact .inr (hstored t.nextId)
  · -- a rewritten row keeps its key, which is the fill's
    exact .inr ⟨hkey, (hstored old.id).2⟩

theorem keepsKeys_fill :
    KeepsKeys (writeRecord now (recordOf exchangeName fills dbFills source))
      LedgerRow.tableKey (ExchangeFill.tableKey exchangeName) := by
  intro t fill x h
  unfold writeRecord
  have hkey : ∀ row : LedgerRow,
      (row.rewritten (recordOf exchangeName fills dbFills source fill) now).tableKey
        = row.tableKey := fun _ => rfl
  refine Table.exists_key_upsert hkey ?_
  exact h

end Writes

/-! ## Totals after a payload -/

section Payload

variable {exchangeName : String} {st : IngestState} {payload : FillsPayload}

theorem ingest_table (exchangeName : String) (st : IngestState) (payload : FillsPayload) :
    (ingest exchangeName st payload).ledger.table
      = (normalizeExchangeFills payload.exchangeOrders).foldl
          (writeRecord payload.now
            (recordOf exchangeName (normalizeExchangeFills payload.exchangeOrders)
              (payload.dbOrders.map normalizeDbFill) "exchange_api")) st.ledger.table :=
  persistExchangeFillRecords_table ..

theorem mem_rows_ingest {row : LedgerRow}
    (h : row ∈ (ingest exchangeName st payload).ledger.table.rows) :
    (row ∈ st.ledger.table.rows ∧ ∀ fill ∈ normalizeExchangeFills payload.exchangeOrders,
        row.tableKey ≠ fill.tableKey exchangeName)
      ∨ ∃ fill ∈ normalizeExchangeFills payload.exchangeOrders, RecordsFill exchangeName fill row := by
  have hwrites := writesRecord_fill exchangeName (normalizeExchangeFills payload.exchangeOrders)
    (payload.dbOrders.map normalizeDbFill) "exchange_api" payload.now
  rw [ingest_table] at h
  exact mem_rows_batch hwrites h

theorem exists_row_ingest {x : String × Option FillKey}
    (h : (∃ fill ∈ normalizeExchangeFills payload.exchangeOrders, fill.tableKey exchangeName = x)
      ∨ ∃ row ∈ st.ledger.table.rows, row.tableKey = x) :
    ∃ row ∈ (ingest exchangeName st payload).ledger.table.rows, row.tableKey = x := by
  have hkeys := keepsKeys_fill exchangeName (normalizeExchangeFills payload.exchangeOrders)
    (payload.dbOrders.map normalizeDbFill) "exchange_api" payload.now
  rw [ingest_table]
  exact exists_key_batch hkeys h

theorem FillsPayload.lists_of_mem {fill : ExchangeFill}
    (h : fill ∈ normalizeExchangeFills payload.exchangeOrders) :
    ∃ order ∈ payload.exchangeOrders, order.ref = fill.exchangeOrderUuid := by
  obtain ⟨order, horder, hfill⟩ := List.mem_flatMap.mp h
  exact ⟨order, horder, (exchangeOrderFills_ref hfill).symm⟩

theorem RowsKeyed.ingest (h : RowsKeyed exchangeName st.ledger) :
    RowsKeyed exchangeName (ingest exchangeName st payload).ledger := by
  intro row hrow
  rcases mem_rows_ingest hrow with ⟨hold, -⟩ | ⟨fill, -, hkey, href, -⟩
  · exact h row hold
  · obtain ⟨hname, hfillKey⟩ := Prod.mk.inj hkey
    exact ⟨hname, _, hfillKey, by rw [ExchangeFill.orderUuid_key, href]⟩

theorem FillsLedger.nodup_orderRows (ledger : FillsLedger) (uuid : String) :
    ((ledger.table.rows.filter (fun row => row.orderRef == uuid)).map LedgerRow.tableKey).Nodup :=
  (List.filter_sublist.map _).nodup ledger.key_unique

theorem orderTotal_ingest_of_not_listed (hkeyed : RowsKeyed exchangeName st.ledger) {uuid : String}
    (hlists : ¬ payload.Lists uuid) (g : LedgerRow → ℚ) :
    (ingest exchangeName st payload).ledger.orderTotal g uuid = st.ledger.orderTotal g uuid := by
  have hkeyed' : RowsKeyed exchangeName (ingest exchangeName st payload).ledger := hkeyed.ingest
  have hbefore : ∀ row ∈ (ingest exchangeName st payload).ledger.table.rows,
      row.orderRef = uuid → row ∈ st.ledger.table.rows := by
    intro row hrow href
    rcases mem_rows_ingest hrow with ⟨hold, -⟩ | ⟨fill, hfill, hshows⟩
    · exact hold
    · obtain ⟨order, horder, hfillRef⟩ := FillsPayload.lists_of_mem hfill
      exact absurd ⟨order, horder, hfillRef.trans (hshows.2.1.symm.trans href)⟩ hlists
  -- the rows of the order before and after have the same keys and are the same rows
  refine sum_eq_of_keys (FillsLedger.nodup_orderRows _ uuid) (FillsLedger.nodup_orderRows _ uuid)
    ?_ ?_
  · intro row hrow
    obtain ⟨hmem, href⟩ := List.mem_filter.mp hrow
    refine ⟨row, List.mem_filter.mpr ⟨hbefore row hmem (by simpa using href), href⟩, rfl, rfl⟩
  · intro row hrow
    obtain ⟨hmem, href⟩ := List.mem_filter.mp hrow
    obtain ⟨row', hrow', hkey⟩ :=
      @exists_row_ingest exchangeName st payload _ (.inr ⟨row, hmem, rfl⟩)
    -- equal keys belong to one order
    obtain ⟨-, k, hk, hkref⟩ := hkeyed row hmem
    obtain ⟨-, k', hk', hkref'⟩ := hkeyed' row' hrow'
    have hkk : k' = k := by
      have := (Prod.mk.inj hkey).2
      rw [hk, hk'] at this
      exact Option.some.inj this
    refine ⟨row', List.mem_filter.mpr ⟨hrow', ?_⟩, hkey⟩
    rw [← hkref', hkk, hkref]
    exact href

theorem orderTotal_ingest_of_listed (hkeyed : RowsKeyed exchangeName st.ledger)
    (hok : RepeatsKeys exchangeName st payload) {uuid : String} (hlists : payload.Lists uuid)
    {g : LedgerRow → ℚ} {g' : ExchangeFill → ℚ}
    (hshow : ∀ fill row, RecordsFill exchangeName fill row → g row = g' fill) :
    (ingest exchangeName st payload).ledger.orderTotal g uuid
      = ((payload.orderFills uuid).map g').sum := by
  obtain ⟨order, horder, rfl⟩ := hlists
  obtain ⟨hdistinct, hrepeat⟩ := hok order horder
  have hkeyed' : RowsKeyed exchangeName (ingest exchangeName st payload).ledger := hkeyed.ingest
  have hfillKeys : ((payload.orderFills order.ref).map
      (ExchangeFill.tableKey exchangeName)).Nodup := by
    have hinj : Function.Injective
        (fun key : FillKey => (orText exchangeName "bithumb", some key)) := by
      intro k k' hkk
      exact Option.some.inj (Prod.mk.inj hkk).2
    have hmap := hdistinct.map hinj
    rwa [List.map_map] at hmap
  -- rows and fills of the order correspond by their keys, one to one
  refine sum_eq_of_keys (FillsLedger.nodup_orderRows _ order.ref) hfillKeys ?_ ?_
  · intro row hrow
    obtain ⟨hmem, href⟩ := List.mem_filter.mp hrow
    have href' : row.orderRef = order.ref := by simpa using href
    rcases mem_rows_ingest hmem with ⟨hold, hother⟩ | ⟨fill, hfill, hshows⟩
    · -- a row left over from an earlier snapshot would have a key the payload repeats
      obtain ⟨fill, hfill, hkey⟩ := hrepeat row hold href'
      refine absurd ?_ (hother fill (List.mem_filter.mp hfill).1)
      exact Prod.ext (hkeyed row hold).1 hkey
    · refine ⟨fill, List.mem_filter.mpr ⟨hfill, ?_⟩, hshows.1.symm, (hshow fill row hshows).symm⟩
      rw [← hshows.2.1]
      exact href
  · intro fill hfill
    obtain ⟨hmem, href⟩ := List.mem_filter.mp hfill
    obtain ⟨row, hrow, hkey⟩ :=
      @exists_row_ingest exchangeName st payload _ (.inl ⟨fill, hmem, rfl⟩)
    obtain ⟨-, k, hk, hkref⟩ := hkeyed' row hrow
    have hfillKey : k = fill.canonicalFillKey exchangeName := by
      have := (Prod.mk.inj hkey).2
      rw [hk] at this
      exact Option.some.inj this
    refine ⟨row, List.mem_filter.mpr ⟨hrow, ?_⟩, hkey⟩
    rw [← hkref, hfillKey, ExchangeFill.orderUuid_key]
    exact href

theorem CountsLatest.ingest (h : CountsLatest st) (hkeyed : RowsKeyed exchangeName st.ledger)
    (hok : RepeatsKeys exchangeName st payload) : CountsLatest (ingest exchangeName st payload) := by
  intro uuid
  by_cases hlists : payload.Lists uuid
  · have hlatest : (AutoCoinBot.ingest exchangeName st payload).latest uuid
        = (((payload.orderFills uuid).map ExchangeFill.quantity).sum,
            ((payload.orderFills uuid).map ExchangeFill.amountKrw).sum) := if_pos hlists
    rw [hlatest]
    exact ⟨orderTotal_ingest_of_listed hkeyed hok hlists (fun _ _ hshows => hshows.2.2.1),
      orderTotal_ingest_of_listed hkeyed hok hlists (fun _ _ hshows => hshows.2.2.2)⟩
  -- nothing of the order was fetched: neither side moves
  · have hlatest : (AutoCoinBot.ingest exchangeName st payload).latest uuid = st.latest uuid :=
      if_neg hlists
    rw [hlatest, orderTotal_ingest_of_not_listed hkeyed hlists,
      orderTotal_ingest_of_not_listed hkeyed hlists]
    exact h uuid

end Payload

/-! ## Runs of payloads -/

/-- **The ledger counts every order as its latest snapshot does**, in every state of a run
whose payloads repeat the keys of the earlier ones. -/
theorem ledger_counts_latest (exchangeName : String) (payloads : List FillsPayload)
    (hok : StepsOk (ingest exchangeName) (RepeatsKeys exchangeName) {} payloads) (n : ℕ) :
    CountsLatest (Library.run (ingest exchangeName) {} (payloads.take n)) := by
  have hrun : ∀ (payloads : List FillsPayload) (st : IngestState),
      RowsKeyed exchangeName st.ledger → CountsLatest st →
      StepsOk (ingest exchangeName) (RepeatsKeys exchangeName) st payloads →
      CountsLatest (Library.run (ingest exchangeName) st payloads) := by
    -- induction on the payloads: the rows stay keyed and every order stays counted
    intro payloads
    induction payloads with
    | nil => exact fun st _ h _ => h
    | cons payload payloads ih =>
      rintro st hkeyed h ⟨hstep, hrest⟩
      exact ih _ hkeyed.ingest (h.ingest hkeyed hstep) hrest
  refine hrun _ _ (fun row hrow => ?_) (fun uuid => ⟨rfl, rfl⟩) (hok.take n)
  cases hrow

/-- An order of one unit, filled in two trades, as the exchange lists it. -/
def orderExample (trades : Option (List FillSource)) (executedVolume : ℚ) : ExchangeOrder :=
  { uuid := some "C0101000000001", market := some "KRW-BTC", side := some "bid"
    price := some 100, executedVolume := some executedVolume, trades := trades }

def tradeExample (uuid : String) (volume : ℚ) : FillSource :=
  { uuid := some uuid, volume := some volume, price := some 100, createdAt := some 0 }

theorem ledger_counts_latest_example :
    CountsLatest (Library.run (ingest "bithumb") {}
      [{ exchangeOrders := [orderExample (some [tradeExample "T1" (1 / 4)]) (1 / 4)] },
       { exchangeOrders :=
          [orderExample (some [tradeExample "T2" (3 / 4), tradeExample "T1" (1 / 4)]) 1] }]) :=
  ledger_counts_latest "bithumb"
    [{ exchangeOrders := [orderExample (some [tradeExample "T1" (1 / 4)]) (1 / 4)] },
     { exchangeOrders :=
        [orderExample (some [tradeExample "T2" (3 / 4), tradeExample "T1" (1 / 4)]) 1] }]
    (by decide +kernel) 2

theorem ledger_counts_twice :
    ¬ CountsLatest (Library.run (ingest "bithumb") {}
      [{ exchangeOrders := [orderExample none 1] },
       { exchangeOrders := [orderExample (some [tradeExample "T1" 1]) 1] }]) := by
  intro h
  have hquantity := (h "C0101000000001").1
  revert hquantity
  decide +kernel

end AutoCoinBot
