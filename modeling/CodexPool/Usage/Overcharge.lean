import CodexPool.Tenant.Repricing
import CodexPool.Usage.ReconcileProgress

/-!
# Reconciliation of captured requests

Once a request has been captured, the reconcile loop prices its log row again. The loop runs
beside all other billing operations. It leaves the request alone, in every run, exactly when
the usage costs the same without its cached and reasoning tokens.
-/

namespace CodexPool

open Saturating

/-! ## Log rows -/

def RowOf (req : BillingCaptureRequest) (row : RequestLogRow) : Prop :=
  row.tenantId = some req.tenantId ∧
    row.requestId.map Text.trim = some (Text.trim req.requestId)

structure CarriesUsage (req : BillingCaptureRequest) (row : RequestLogRow) : Prop where
  model : row.model = some req.model
  serviceTier : row.serviceTier = req.serviceTier
  inputTokens : row.inputTokens = some req.inputTokens
  cachedInputTokens : row.cachedInputTokens = some req.cachedInputTokens
  outputTokens : row.outputTokens = some req.outputTokens
  reasoningTokens : row.reasoningTokens = some req.reasoningTokens

theorem CarriesUsage.factOf {req : BillingCaptureRequest} {row : RequestLogRow}
    {fact : BillingReconcileFact} (hfact : BillingReconcileFact.fromRow row = some fact)
    (hrow : RowOf req row → CarriesUsage req row) (htenant : fact.tenantId = req.tenantId)
    (hrequest : Text.trim fact.requestId = Text.trim req.requestId) : FactOf req fact.request := by
  rcases Option.bind_eq_some_iff.1 hfact with ⟨tenantId, htenantId, hfact⟩
  rcases Option.map_eq_some_iff.1 hfact with ⟨requestId, hrequestId, rfl⟩
  have hcarries : CarriesUsage req row := by
    apply hrow
    constructor
    · rw [htenantId]
      exact congrArg some htenant
    · rw [hrequestId]
      exact congrArg some hrequest
  exact ⟨htenant, hrequest, hcarries.model, hcarries.serviceTier, hcarries.inputTokens, rfl,
    hcarries.outputTokens, rfl⟩

/-- The facts of the page come from the log. -/
def ReconcileRun.FactsLogged (run : ReconcileRun) : Prop :=
  ∀ tick, run.loop.tick = some tick → ∀ fact ∈ tick.facts,
    fact ∈ run.log.filterMap BillingReconcileFact.fromRow

/-! ## The loop beside the billing operations -/

structure BillingWorld where
  run : ReconcileRun
  db : Db

inductive BillingInput where
  | op (op : BillingOp)
  | insert (row : RequestLogRow)
  | start (nowTs : Int) (fullSweepDue : Bool)
  | fetch (succeeds : Bool)
  | apply (call : BillingCall)
  | commit

namespace BillingWorld

variable (config : ReconcileConfig)

/-- The fact that is applied next. -/
def nextFact (s : BillingWorld) : Option BillingReconcileFact :=
  s.run.loop.tick.bind fun tick => tick.facts.head?

def loopStep (s : BillingWorld) (i : ReconcileInput) : BillingWorld :=
  { s with run := s.run.step config i }

def step (s : BillingWorld) : BillingInput → BillingWorld
  | .op op => { s with db := op.run s.db }
  | .insert row => s.loopStep config (.insert row)
  | .start nowTs fullSweepDue => s.loopStep config (.start nowTs fullSweepDue)
  | .fetch succeeds => s.loopStep config (.fetch succeeds)
  | .apply call =>
    match s.nextFact with
    | some fact =>
      let reconciled := reconcileFactWith foundAuthorization call fact.request s.db
      { s with db := reconciled.2 }.loopStep config (.apply reconciled.1)
    | none => s
  | .commit => s.loopStep config .commit

def SameUsageAndPrices (call : BillingCall) (req : BillingCaptureRequest) (s : BillingWorld) :
    BillingInput → Prop
  | .apply call' => (∀ row ∈ s.run.log, RowOf req row → CarriesUsage req row) ∧
      call'.tables = call.tables ∧ call'.env = call.env
  | _ => True

def Settles (req : BillingCaptureRequest) (captured : I64) (s : BillingWorld) :
    BillingInput → Prop
  | .apply call => ∀ fact, s.nextFact = some fact → fact.tenantId = req.tenantId →
      Text.trim fact.requestId = Text.trim req.requestId →
        FactSettles call fact.request captured s.db
  | _ => True

/-- The usage of a capture costs the same without its cached and reasoning tokens, at the
prices for the API key of the hold. -/
def PricedAlike (call : BillingCall) (req : BillingCaptureRequest) (row : AuthorizationRow)
    (session : Option String) : Prop :=
  ∃ decision decision',
    req.pricing call (Text.trim req.model) row.record session = .ok decision ∧
      factPricing call req row session = .ok decision' ∧
      req.usage.detailedCharge decision.pricing = req.usage.plainCharge decision'.pricing

variable {config} {s : BillingWorld}

/-! ## What every step keeps -/

theorem factsLogged_step {run : ReconcileRun} (h : run.FactsLogged) (i : ReconcileInput) :
    (run.step config i).FactsLogged := by
  cases i with
  | insert row =>
      intro tick htick fact hfact
      have hold := h tick htick fact hfact
      change fact ∈ (run.log ++ [row]).filterMap _
      rw [List.filterMap_append]
      exact List.mem_append_left _ hold
  | start nowTs fullSweepDue =>
      rw [ReconcileRun.step]
      cases htick : run.loop.tick with
      | some tick => exact h
      | none =>
          intro tick' htick' fact hfact
          obtain rfl := Option.some.inj htick'
          exact absurd hfact List.not_mem_nil
  | fetch succeeds =>
      rw [ReconcileRun.step]
      cases htick : run.loop.tick with
      | none => exact h
      | some tick =>
          dsimp only
          unfold ReconcileRun.fetchStep
          split
          · exact h
          · split
            · intro tick' htick' fact hfact
              obtain rfl := Option.some.inj htick'
              have hvisible := Paging.page_subset hfact
              exact (List.mem_filter.1 hvisible).1
            · intro tick' htick' fact hfact
              obtain rfl := Option.some.inj htick'
              exact h tick htick fact hfact
  | apply outcome =>
      rw [ReconcileRun.step]
      cases htick : run.loop.tick with
      | none => exact h
      | some tick =>
          dsimp only
          unfold ReconcileRun.applyStep
          split
          · exact h
          all_goals
            rename_i fact rest _ hfacts
            intro tick' htick' fact' hfact'
            obtain rfl := Option.some.inj htick'
            apply h tick htick
            rw [hfacts]
            exact List.mem_cons_of_mem fact hfact'
  | commit =>
      rw [ReconcileRun.step]
      cases htick : run.loop.tick with
      | none => exact h
      | some tick =>
          dsimp only
          split
          · intro tick' htick'
            exact absurd htick' (Option.some_ne_none tick').symm
          · exact h

theorem db_apply {call : BillingCall} {fact : BillingReconcileFact}
    (hnext : s.nextFact = some fact) :
    (s.step config (.apply call)).db =
      (reconcileFactWith foundAuthorization call fact.request s.db).2 := by
  rw [step, hnext]
  dsimp only [loopStep]

theorem sound_step (h : RowsSound s.db.authorizations) (i : BillingInput) :
    RowsSound (s.step config i).db.authorizations := by
  cases i with
  | op op => exact h.rowChanges (op.rowChanges s.db)
  | apply call =>
      cases hnext : s.nextFact with
      | none =>
          rw [step, hnext]
          exact h
      | some fact =>
          rw [db_apply hnext]
          exact reconcileFactWith_sound call fact.request h
  | insert | start | fetch | commit => exact h

/-- Along a run in which facts settle the captured request, its row is kept. -/
theorem kept_step {c : AuthorizationRow} {req : BillingCaptureRequest} {captured : I64}
    (hsound : RowsSound s.db.authorizations) (hkept : Kept c s.db.authorizations)
    (htenant : c.tenantId = req.tenantId) (hrequest : c.requestId = Text.trim req.requestId)
    {i : BillingInput} (hsettles : s.Settles req captured i) :
    Kept c (s.step config i).db.authorizations := by
  cases i with
  | op op => exact hkept.rowChanges hsound (op.rowChanges s.db)
  | apply call =>
      cases hnext : s.nextFact with
      | none =>
          rw [step, hnext]
          exact hkept
      | some fact =>
          rw [db_apply hnext]
          by_cases hfact : fact.tenantId = req.tenantId ∧
              Text.trim fact.requestId = Text.trim req.requestId
          · have hcloses := (hsettles fact hnext hfact.1 hfact.2).closes
            have hrows := reconcileFactCloseWith_rowChanges foundAuthorization call fact.request
              (Text.trim fact.request.requestId) {} s.db
            rw [← hcloses] at hrows
            exact hkept.rowChanges hsound hrows
          · apply reconcileFactWith_kept hsound hkept
            rw [htenant, hrequest]
            exact hfact
  | insert | start | fetch | commit => exact hkept

theorem nextFact_mem (h : s.run.FactsLogged) {fact : BillingReconcileFact}
    (hnext : s.nextFact = some fact) :
    ∃ row ∈ s.run.log, BillingReconcileFact.fromRow row = some fact := by
  rcases Option.bind_eq_some_iff.1 hnext with ⟨tick, htick, hhead⟩
  exact List.mem_filterMap.1 (h tick htick fact (List.mem_of_mem_head? hhead))

/-! ## A captured request -/

section Captured

variable {call : BillingCall} {req : BillingCaptureRequest} {row : AuthorizationRow}
  {decision : BillingPricingDecision} {session : Option String}

theorem settles_of_pricedAlike (hid : Text.trim req.requestId ≠ "")
    (hmodel : Text.trim req.model ≠ "") (hobject : row.metaJson.isObject = true)
    (htenant : row.tenantId = req.tenantId) (hrequest : row.requestId = Text.trim req.requestId)
    (hpricing : req.pricing call (Text.trim req.model) row.record session = .ok decision)
    (hsound : RowsSound s.db.authorizations)
    (hkept : Kept (capturedRow call req row decision) s.db.authorizations)
    (hlogged : s.run.FactsLogged) (halike : PricedAlike call req row session) {i : BillingInput}
    (hgiven : s.SameUsageAndPrices call req i) :
    s.Settles req (req.usage.charged decision.pricing) i := by
  cases i with
  | apply call' =>
      rcases hgiven with ⟨hrows, htables, henv⟩
      intro fact hnext hfactTenant hfactRequest
      rcases nextFact_mem hlogged hnext with ⟨logRow, hlogRow, hfromRow⟩
      have hfact := CarriesUsage.factOf hfromRow (hrows logRow hlogRow) hfactTenant hfactRequest
      rcases hkept.findAuthorization hsound with ⟨a, hfind, hsame⟩
      rcases halike with ⟨decision', priced, hdecision, hpriced, halike⟩
      obtain rfl := Except.ok.inj (hpricing.symm.trans hdecision)
      have hcharge := factCharge_of_sameCapture hmodel hobject hpricing hsame htables henv hfact
      rw [hpriced, Except.map, ← halike] at hcharge
      have hcaptured : req.usage.charged decision.pricing =
          req.usage.detailedCharge decision.pricing :=
        BillableUsage.charged_ofTokens _ _ _ _ _
      rw [← hcaptured] at hcharge
      have hfind' : s.db.findAuthorization fact.request.tenantId
          (Text.trim fact.request.requestId) = some a := by
        rw [hfact.tenantId, hfact.requestId, ← htenant, ← hrequest]
        exact hfind
      apply factSettles_of_priced hfind' hsame.status hsame.capturedMicrocredits hcharge
      · rw [hfact.requestId]
        exact hid
      · exact hfact.model_eq hmodel _
      · exact hfact.inputTokens
      · exact hfact.outputTokens
  | op | insert | start | fetch | commit => trivial

/-- A fact that settles the request anyway says that the two charges are equal. -/
theorem pricedAlike_of_settles (hmodel : Text.trim req.model ≠ "")
    (hobject : row.metaJson.isObject = true) (htenant : row.tenantId = req.tenantId)
    (hrequest : row.requestId = Text.trim req.requestId)
    (hpricing : req.pricing call (Text.trim req.model) row.record session = .ok decision)
    {db : Db} (hsound : RowsSound db.authorizations)
    (hkept : Kept (capturedRow call req row decision) db.authorizations)
    {fact : BillingReconcileFactRequest} (hfact : FactOf req fact)
    (hsettles : FactSettles call fact (req.usage.charged decision.pricing) db) :
    PricedAlike call req row session := by
  rcases hkept.findAuthorization hsound with ⟨a, hfind, hsame⟩
  rcases hsettles.priced with ⟨a', hfind', -, hcharge⟩
  have heq : db.findAuthorization fact.tenantId (Text.trim fact.requestId) = some a := by
    rw [hfact.tenantId, hfact.requestId, ← htenant, ← hrequest]
    exact hfind
  obtain rfl := Option.some.inj (heq.symm.trans hfind')
  rw [factCharge_of_sameCapture hmodel hobject hpricing hsame rfl rfl hfact] at hcharge
  rcases Except.map_eq_ok hcharge with ⟨decision', hpriced, hplain⟩
  refine ⟨decision, decision', hpricing, hpriced, ?_⟩
  rw [hplain]
  exact (BillableUsage.charged_ofTokens _ _ _ _ _).symm

/-- A capture under the API key of its hold, without cached tokens and with no more reasoning
than output tokens, is priced alike. -/
theorem pricedAlike_of_plain {db db' : Db} {response : BillingCaptureResponse}
    (hcapture : billingCapture call req db = (.ok response, db'))
    (hfind : db.findAuthorization req.tenantId (Text.trim req.requestId) = some row)
    (hopen : row.status = .authorized) (hkey : row.apiKeyId.or req.apiKeyId = req.apiKeyId)
    (hcached : req.cachedInputTokens ≤ 0)
    (hreasoning : req.reasoningTokens ≤ max req.outputTokens 0) :
    PricedAlike call req row
      (db.sessionBand call req.tenantId (req.effectiveSessionKey row.record)) := by
  rcases billingCapture_eq_ok_priced hcapture with ⟨row', hfind', ⟨hcaptured, -⟩ | ⟨-, decision, p,
    sessions, hpricing, -⟩⟩
  · obtain rfl := Option.some.inj (hfind.symm.trans hfind')
    cases hopen.symm.trans hcaptured
  · obtain rfl := Option.some.inj (hfind.symm.trans hfind')
    refine ⟨decision, decision, hpricing, ?_, ?_⟩
    · rw [factPricing, hkey]
      exact hpricing
    · exact BillableUsage.detailedCharge_eq_plainCharge _ _ _ _ _ hcached hreasoning

/-- What holds after the capture of a request as long as its facts settle it. -/
structure Holds (c : AuthorizationRow) (s : BillingWorld) : Prop where
  sound : RowsSound s.db.authorizations
  kept : Kept c s.db.authorizations
  logged : s.run.FactsLogged

theorem Holds.step {c : AuthorizationRow} (h : s.Holds c) {captured : I64}
    (htenant : c.tenantId = req.tenantId) (hrequest : c.requestId = Text.trim req.requestId)
    {i : BillingInput} (hsettles : s.Settles req captured i) : (s.step config i).Holds c where
  sound := sound_step h.sound i
  kept := kept_step h.sound h.kept htenant hrequest hsettles
  logged := by
    cases i with
    | op op => exact h.logged
    | apply call =>
        rw [BillingWorld.step]
        cases s.nextFact with
        | none => exact h.logged
        | some fact => exact factsLogged_step h.logged _
    | insert | start | fetch | commit => exact factsLogged_step h.logged _

end Captured

/-! ## One tick over one row -/

section SoleRow

variable (req : BillingCaptureRequest)

def soleRow : RequestLogRow where
  id := ⟨"row"⟩
  accountId := ⟨"account"⟩
  tenantId := some req.tenantId
  apiKeyId := req.apiKeyId
  requestId := some req.requestId
  path := "/v1/responses"
  method := "POST"
  model := some req.model
  serviceTier := req.serviceTier
  inputTokens := some req.inputTokens
  cachedInputTokens := some req.cachedInputTokens
  outputTokens := some req.outputTokens
  reasoningTokens := some req.reasoningTokens
  firstTokenLatencyMs := none
  statusCode := 200
  latencyMs := 40
  isStream := req.isStream
  errorCode := none
  billingPhase := some "captured"
  authorizationId := none
  captureStatus := none
  estimatedCostMicrousd := none
  createdAt := 0
  eventVersion := 1

def soleFact : BillingReconcileFact where
  id := ⟨"row"⟩
  tenantId := req.tenantId
  apiKeyId := req.apiKeyId
  requestId := req.requestId
  model := some req.model
  serviceTier := req.serviceTier
  inputTokens := some req.inputTokens
  outputTokens := some req.outputTokens
  statusCode := 200
  billingPhase := some "captured"
  captureStatus := none
  createdAt := 0

def soleRun : ReconcileRun := .idle [soleRow req] ⟨0, ""⟩

theorem soleFact_factOf : FactOf req (soleFact req).request :=
  ⟨rfl, rfl, rfl, rfl, rfl, rfl, rfl, rfl⟩

theorem carriesUsage_soleRow : CarriesUsage req (soleRow req) :=
  ⟨rfl, rfl, rfl, rfl, rfl, rfl⟩

theorem factsLogged_soleRun : (soleRun req).FactsLogged :=
  fun tick htick => absurd htick (Option.some_ne_none tick).symm

def soleTick (config : ReconcileConfig) : ReconcileTick where
  nowTs := 0
  lookbackStartTs := 0 - config.lookbackSec
  localCursor := ⟨0, ""⟩

theorem cursorAt_soleRun (config : ReconcileConfig) :
    (soleRun req).loop.cursorAt (0 - config.lookbackSec) false = ⟨0, ""⟩ := by
  rw [ReconcileLoop.cursorAt, Bool.false_or]
  exact if_neg (by simp [soleRun, ReconcileRun.idle])

theorem visible_soleTick (config : ReconcileConfig) :
    ReconcileLoop.visible [soleRow req] (soleTick config) = [soleFact req] := by
  have hfromRow : [soleRow req].filterMap BillingReconcileFact.fromRow = [soleFact req] := rfl
  have hwindow : (soleFact req).inWindow (soleTick config).lookbackStartTs
      (soleTick config).nowTs = true := by
    simp [BillingReconcileFact.inWindow, soleFact, soleTick, timestamp]
  have hid : "" < "row" := by decide
  have hcursor : (soleTick config).localCursor < (soleFact req).cursor :=
    ReconcileCursor.lt_iff.2 (.inr ⟨rfl, hid⟩)
  rw [ReconcileLoop.visible, visibleFacts, hfromRow, List.filter_singleton, hwindow,
    decide_eq_true hcursor]
  rfl

theorem fetched_soleRun (config : ReconcileConfig) :
    ((soleRun req).step config (.start 0 false)).step config (.fetch true) =
      { soleRun req with
        seen := (ReconcileLoop.visible [soleRow req] (soleTick config)).map
          BillingReconcileFact.cursor }.setTick
        (ReconcileLoop.fetched config [soleRow req] (soleTick config)) := by
  have hstart : (soleRun req).step config (.start 0 false) =
      { soleRun req with loop := { cursor := ⟨0, ""⟩, tick := some (soleTick config) } } := by
    rw [ReconcileRun.step, ReconcileLoop.start]
    dsimp only
    rw [cursorAt_soleRun]
    rfl
  rw [hstart]
  rfl

/-- The page holds the sole fact. -/
theorem nextFact_soleRun (config : ReconcileConfig) (db : Db) :
    (Machine.run (step config) ⟨soleRun req, db⟩ [.start 0 false, .fetch true]).nextFact =
      some (soleFact req) := by
  have hpage : (ReconcileLoop.fetched config [soleRow req] (soleTick config)).facts =
      [soleFact req] := by
    rw [ReconcileRun.fetched_facts, visible_soleTick, Paging.page]
    exact List.take_of_length_le config.batch_mem.1
  change (((soleRun req).step config (.start 0 false)).step config (.fetch true)).loop.tick.bind
    (fun tick => tick.facts.head?) = _
  rw [fetched_soleRun]
  change (ReconcileLoop.fetched config [soleRow req] (soleTick config)).facts.head? = _
  rw [hpage]
  rfl

theorem log_soleRun (config : ReconcileConfig) (db : Db) :
    (Machine.run (step config) ⟨soleRun req, db⟩ [.start 0 false, .fetch true]).run.log =
      [soleRow req] := by
  change (((soleRun req).step config (.start 0 false)).step config (.fetch true)).log = _
  rw [fetched_soleRun]
  rfl

end SoleRow

/-! ## Runs -/

theorem sound_run (config : ReconcileConfig) {db₀ : Db} (h₀ : db₀.Fresh) (run₀ : ReconcileRun)
    (before : List BillingInput) :
    RowsSound (Machine.run (step config) ⟨run₀, db₀⟩ before).db.authorizations := by
  apply Machine.run_invariant (P := fun s : BillingWorld => RowsSound s.db.authorizations)
  · exact fun s i hs => sound_step hs i
  · change RowsSound db₀.authorizations
    rw [h₀.authorizations]
    exact rowsSound_nil

/-- Whatever happens after a request was captured, its facts are priced at the captured amount
and change the tables only by closing the hold, exactly when its usage costs the same without
its cached and reasoning tokens. -/
theorem settles_iff (config : ReconcileConfig) {db₀ : Db} (h₀ : db₀.Fresh) (run₀ : ReconcileRun)
    (before : List BillingInput) {call : BillingCall} {req : BillingCaptureRequest}
    {row : AuthorizationRow} {response : BillingCaptureResponse} {db : Db}
    (hfind : (Machine.run (step config) ⟨run₀, db₀⟩ before).db.findAuthorization req.tenantId
      (Text.trim req.requestId) = some row)
    (hopen : row.status = .authorized)
    (hcapture : billingCapture call req (Machine.run (step config) ⟨run₀, db₀⟩ before).db =
      (.ok response, db)) :
    (∀ run : ReconcileRun, run.FactsLogged → ∀ after,
        Machine.Along (step config) (SameUsageAndPrices call req) ⟨run, db⟩ after →
          Machine.Along (step config) (Settles req response.chargedMicrocredits) ⟨run, db⟩ after) ↔
      PricedAlike call req row ((Machine.run (step config) ⟨run₀, db₀⟩ before).db.sessionBand
        call req.tenantId (req.effectiveSessionKey row.record)) := by
  have hsound₀ := sound_run config h₀ run₀ before
  generalize (Machine.run (step config) ⟨run₀, db₀⟩ before).db = db₁ at *
  rcases Db.findAuthorization_eq_some hfind with ⟨hmem, htenant, hrequest⟩
  rcases billingCapture_names hcapture with ⟨hid, hmodel⟩
  have hobject := hsound₀.objects row hmem
  have hsound : RowsSound db.authorizations := by
    have hrows := billingCapture_rowChanges call req db₁
    rw [hcapture] at hrows
    exact hsound₀.rowChanges hrows
  rcases billingCapture_eq_ok_priced hcapture with ⟨row', hfind', ⟨hcaptured, -⟩ | ⟨-, decision, p,
    sessions, hpricing, hcharged, -, -, -, -, hdb⟩⟩
  · obtain rfl := Option.some.inj (hfind.symm.trans hfind')
    cases hopen.symm.trans hcaptured
  obtain rfl := Option.some.inj (hfind.symm.trans hfind')
  have hkept : Kept (capturedRow call req row decision) db.authorizations := by
    refine ⟨_, ?_, SameCapture.refl nofun⟩
    rw [hdb]
    exact Table.mem_updateKey.2 ⟨row, hmem, if_pos rfl⟩
  rw [hcharged]
  constructor
  · intro hsettles
    have halong := hsettles (soleRun req) (factsLogged_soleRun req)
      [.start 0 false, .fetch true, .apply call] ⟨trivial, trivial, ⟨?_, rfl, rfl⟩, trivial⟩
    · have hlast := halong.2.2.1 (soleFact req) (nextFact_soleRun req config db) rfl rfl
      exact pricedAlike_of_settles hmodel hobject htenant hrequest hpricing hsound hkept
        (soleFact_factOf req) hlast
    · intro logRow hlogRow _
      have hlog := log_soleRun req config db
      rw [Machine.run, Machine.run, Machine.run] at hlog
      rw [hlog] at hlogRow
      rw [List.mem_singleton.1 hlogRow]
      exact carriesUsage_soleRow req
  · intro halike run hlogged after hgiven
    apply hgiven.of_invariant (P := Holds (capturedRow call req row decision)) _ hgiven
      ⟨hsound, hkept, hlogged⟩
    intro s i hs hgiven _
    have hsettles := settles_of_pricedAlike hid hmodel hobject htenant hrequest hpricing hs.sound
      hs.kept hs.logged halike hgiven
    exact ⟨hs.step htenant hrequest hsettles, hsettles⟩

/-! ## Samples -/

def sampleConfig : ReconcileConfig := .fromEnv none none

/-- A tenant is granted 1000 and reserves 100. -/
def sampleBefore : List BillingInput :=
  [.op (.recharge (sampleCall 0 sampleTenant) sampleTenant ⟨1000, none⟩),
    .op (.authorize (sampleCall 1 sampleHold) (sampleAuthorize 100))]

def sampleReserved : Db :=
  (Machine.run (step sampleConfig) ⟨.idle [] ⟨0, ""⟩, sampleDb⟩ sampleBefore).db

def cachedCapture : BillingCaptureRequest := { sampleCapture 80 with cachedInputTokens := 60 }

def capturedFrom (req : BillingCaptureRequest) : Db :=
  (billingCapture (sampleCall 2 sampleTenant) req sampleReserved).2

/-- All 60 tokens are charged, and nothing is changed afterwards. -/
def sampleCaptured : BillingCaptureResponse :=
  ⟨sampleHold, sampleTenant, "req-1", .captured, 100, 60, 60, 900⟩

theorem sampleCapture_settles :
    billingCapture (sampleCall 2 sampleTenant) (sampleCapture 60) sampleReserved =
        (.ok sampleCaptured, capturedFrom (sampleCapture 60)) ∧
      ∀ run : ReconcileRun, run.FactsLogged → ∀ after,
        Machine.Along (step sampleConfig)
            (SameUsageAndPrices (sampleCall 2 sampleTenant) (sampleCapture 60))
            ⟨run, capturedFrom (sampleCapture 60)⟩ after →
          Machine.Along (step sampleConfig) (Settles (sampleCapture 60) 60)
            ⟨run, capturedFrom (sampleCapture 60)⟩ after := by
  let hold := sampleReserved.findAuthorization (sampleCapture 60).tenantId
    (Text.trim (sampleCapture 60).requestId)
  let row : AuthorizationRow := hold.get (by decide +kernel)
  have hfind : sampleReserved.findAuthorization (sampleCapture 60).tenantId
      (Text.trim (sampleCapture 60).requestId) = some row :=
    (Option.some_get _).symm
  have hopen : row.status = .authorized := by decide +kernel
  have hcapture : billingCapture (sampleCall 2 sampleTenant) (sampleCapture 60) sampleReserved =
      (.ok sampleCaptured, capturedFrom (sampleCapture 60)) :=
    Prod.ext (by decide +kernel) rfl
  have halike := pricedAlike_of_plain hcapture hfind hopen (by decide +kernel) (by decide)
    (by decide)
  constructor
  · exact hcapture
  · exact (settles_iff sampleConfig sampleDb_fresh (.idle [] ⟨0, ""⟩) sampleBefore hfind hopen
      hcapture).2 halike

/-- The cached tokens cost a tenth, so that 26 are charged. The fact is priced at 80. -/
theorem cachedCapture_not_settled :
    ¬ ∀ run : ReconcileRun, run.FactsLogged → ∀ after,
      Machine.Along (step sampleConfig)
          (SameUsageAndPrices (sampleCall 2 sampleTenant) cachedCapture)
          ⟨run, capturedFrom cachedCapture⟩ after →
        Machine.Along (step sampleConfig) (Settles cachedCapture 26)
          ⟨run, capturedFrom cachedCapture⟩ after := by
  intro h
  have halong := h (soleRun cachedCapture) (factsLogged_soleRun cachedCapture)
    [.start 0 false, .fetch true, .apply (sampleCall 3 sampleTenant)]
    ⟨trivial, trivial, ⟨?_, rfl, rfl⟩, trivial⟩
  · have hlast := halong.2.2.1 (soleFact cachedCapture)
      (nextFact_soleRun cachedCapture sampleConfig _) rfl rfl
    rcases hlast.priced with ⟨row, hfind, -, hcharge⟩
    have hpriced : ((capturedFrom cachedCapture).findAuthorization sampleTenant
        (Text.trim cachedCapture.requestId)).map
          (factCharge (sampleCall 3 sampleTenant) (soleFact cachedCapture).request) =
            some (.ok 80) := by
      decide +kernel
    replace hfind : (capturedFrom cachedCapture).findAuthorization sampleTenant
        (Text.trim cachedCapture.requestId) = some row := hfind
    rw [hfind, Option.map_some, hcharge] at hpriced
    revert hpriced
    decide
  · intro logRow hlogRow _
    have hlog := log_soleRun cachedCapture sampleConfig (capturedFrom cachedCapture)
    rw [Machine.run, Machine.run, Machine.run] at hlog
    rw [hlog] at hlogRow
    rw [List.mem_singleton.1 hlogRow]
    exact carriesUsage_soleRow cachedCapture

end BillingWorld

end CodexPool
