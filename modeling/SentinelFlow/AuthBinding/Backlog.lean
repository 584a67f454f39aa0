import SentinelFlow.AuthBinding.Reconciler

/-!
# The backlog of pending rows

Reconcilers that run one after the other, with no other transaction and no new
rows.  A row that can be decided is decided once it is selected.  The selection
takes the rows with the earliest deadlines, so that rows that have to wait are
selected again and again.
-/

namespace SentinelFlow.AuthBinding

open GoLib Program

/-- Only the clock moves between two calls. -/
def Quiet (database : Database) (request : Call) (answer : request.Answer)
    (later : Database) : Prop :=
  ∃ clock, database.clock ≤ clock ∧
    Effect { database with clock } request answer later

/-- No transaction is open. -/
structure Database.Idle (database : Database) : Prop where
  locks : ∀ eventID, database.locks eventID = none
  writes : ∀ tx, database.writes tx = []

/-- The rows of the database that a reconciler decides. -/
inductive Settles (database : Database) (auth : PendingAuth) : Prop
  | expired (passed : auth.bindingDeadline < database.clock)
  | byRequest (gateway : GatewayEvent) (source : auth.trusted = true)
      (found : database.gateways.find?
        (·.requestID == auth.gatewayRequestID) = some gateway)
      (trusted : gateway.trusted = true)
  | byTrace (gateway : GatewayEvent) (source : auth.trusted = true)
      (unknown : database.gateways.find?
        (·.requestID == auth.gatewayRequestID) = none)
      (found : onlyTrusted database.gateways auth.traceID = some gateway)
      (trusted : gateway.trusted = true)
      (mismatch : mismatchReason auth gateway false = some .requestMismatch)

/-- Consecutive runs, each in its own transaction. -/
def reconcileTimes (limit : Nat) : List Nat → Run (List (Option Result))
  | [] => pure []
  | tx :: rest => do
      let result ← reconcile tx limit
      let results ← reconcileTimes limit rest
      pure (result :: results)

variable {row : AuthRow} {database : Database} {limit : Nat}

theorem yields_call
    {α : Type} {request : Call} {next : request.Answer → Run α}
    {post : α → Database → Prop} :
    Yields Quiet (call request >>= next) database post ↔
      ∀ answer later, Quiet database request answer later →
        Yields Quiet (next answer) later post :=
  Iff.rfl

/-! ## Inside a transaction -/

/-- The rows that the transaction has updated. -/
def Database.updated (database : Database) (tx : Nat) : List Bytes :=
  (database.writes tx).map Prod.fst

/-- The only open transaction has updated the given rows, and nothing is
committed since `base`. -/
structure Open (base : Database) (tx : Nat) (rows : List Bytes)
    (database : Database) : Prop where
  auths : database.auths = base.auths
  gateways : database.gateways = base.gateways
  clock : base.clock ≤ database.clock
  locks : ∀ eventID, database.locks eventID = none ∨
    database.locks eventID = some tx
  others : ∀ other, other ≠ tx → database.writes other = []
  decided : ∀ entry ∈ database.writes tx, entry.2 ≠ .pending
  updated : ∀ eventID ∈ rows, eventID ∈ database.updated tx

section Transaction

variable {base database : Database} {tx : Nat} {rows : List Bytes}

theorem Open.later
    (opened : Open base tx rows database) {clock : Int}
    (passed : database.clock ≤ clock) :
    Open base tx rows { database with clock } :=
  { opened with clock := opened.clock.trans passed }

theorem Open.record
    (opened : Open base tx rows database) (statement : Statement) :
    Open base tx (statement.eventID :: rows)
      (database.record tx statement) := by
  have appended : (database.record tx statement).writes tx =
      database.writes tx ++
        [(statement.eventID, statement.binding ⟨tx, database.clock⟩)] :=
    Function.update_self ..
  have made : statement.binding ⟨tx, database.clock⟩ ≠ .pending := by
    cases statement <;> exact nofun
  refine ⟨opened.auths, opened.gateways, opened.clock, ?_, ?_, ?_, ?_⟩
  · intro eventID
    by_cases same : eventID = statement.eventID
    · subst same
      exact .inr (Function.update_self ..)
    · have kept : (database.record tx statement).locks eventID =
          database.locks eventID := Function.update_of_ne same ..
      rw [kept]
      exact opened.locks eventID
  · intro other different
    have kept : (database.record tx statement).writes other =
        database.writes other := Function.update_of_ne different ..
    rw [kept, opened.others other different]
  · intro entry member
    rw [appended] at member
    rcases List.mem_append.mp member with old | new
    · exact opened.decided entry old
    · rw [List.mem_singleton.mp new]
      exact made
  · rw [Database.updated, appended, List.map_append]
    refine List.forall_mem_cons.mpr
      ⟨List.mem_append_right _ List.mem_cons_self, ?_⟩
    intro eventID member
    exact List.mem_append_left _ (opened.updated eventID member)

/-- A statement either changes its row or leaves the database as it was. -/
theorem Open.transition
    (opened : Open base tx rows database) (statement : Statement) :
    Yields Quiet (transition tx statement) database fun changed later =>
      Open base tx rows later ∧
        (changed = some true →
          Open base tx (statement.eventID :: rows) later) := by
  rw [AuthBinding.transition, yields_call]
  rintro answer later ⟨clock, passed, ⟨rfl, rfl⟩ | ⟨-, executed⟩⟩
  · exact ⟨opened.later passed, nofun⟩
  have current := opened.later passed
  unfold Database.execute at executed
  split at executed
  · cases executed
    exact ⟨current, nofun⟩
  split at executed
  · split at executed
    · cases executed
      exact ⟨current, nofun⟩
    · cases executed
      have recorded := current.record statement
      exact ⟨{ recorded with
        updated := (List.forall_mem_cons.mp recorded.updated).2 },
        fun _ => recorded⟩
  · cases executed
    exact ⟨current, nofun⟩

theorem Open.transitionBeforeDeadline
    (opened : Open base tx rows database) (statement : Statement)
    (success : Disposition) :
    Yields Quiet (transitionBeforeDeadline tx statement success) database
      fun value later => Open base tx rows later ∧
        (value ≠ none → Open base tx (statement.eventID :: rows) later) := by
  rw [AuthBinding.transitionBeforeDeadline, yields_bind]
  refine (opened.transition statement).mono ?_
  rintro changed later ⟨kept, made⟩
  match changed with
  | none => exact ⟨kept, absurd rfl⟩
  | some true => exact ⟨kept, fun _ => made rfl⟩
  | some false =>
      rw [yields_bind]
      refine (kept.transition _).mono ?_
      rintro changed later ⟨kept, made⟩
      match changed with
      | none => exact ⟨kept, absurd rfl⟩
      | some true => exact ⟨kept, fun _ => made rfl⟩
      | some false => exact ⟨kept, absurd rfl⟩

/-- A row that can be decided is updated when it is examined. -/
theorem Open.reconcileOne
    (opened : Open base tx rows database) (auth : PendingAuth)
    {databaseNow : Int} (later : base.clock ≤ databaseNow) :
    Yields Quiet (reconcileOne tx auth databaseNow) database
      fun value later => Open base tx rows later ∧
        (value ≠ none → Settles base auth →
          Open base tx (auth.eventID :: rows) later) := by
  unfold AuthBinding.reconcileOne
  split
  · rw [yields_bind]
    refine (opened.transition _).mono ?_
    rintro changed later ⟨kept, made⟩
    match changed with
    | none => exact ⟨kept, absurd rfl⟩
    | some true => exact ⟨kept, fun _ _ => made rfl⟩
    | some false => exact ⟨kept, absurd rfl⟩
  next current =>
  have unexpired : ¬ auth.bindingDeadline < base.clock := by omega
  split
  next untrusted =>
    refine ⟨opened, fun _ settles => ?_⟩
    cases settles with
    | expired passed => exact absurd passed unexpired
    | byRequest _ source
    | byTrace _ source => rw [source] at untrusted; cases untrusted
  rw [yields_call]
  rintro answer state ⟨clock, passed, found, rfl⟩
  have kept := opened.later passed
  rcases found with rfl | rfl
  · exact ⟨kept, absurd rfl⟩
  have waits (undecided : ∀ gateway, base.gateways.find?
      (·.requestID == auth.gatewayRequestID) = some gateway →
        gateway.trusted = false)
      (untraced : ∀ gateway, base.gateways.find?
        (·.requestID == auth.gatewayRequestID) = none →
        onlyTrusted base.gateways auth.traceID = some gateway →
        ¬ (gateway.trusted = true ∧
          mismatchReason auth gateway false = some .requestMismatch)) :
      ¬ Settles base auth := by
    intro settles
    cases settles with
    | expired passed => exact unexpired passed
    | byRequest gateway _ found trusted =>
        rw [undecided gateway found] at trusted
        cases trusted
    | byTrace gateway _ unknown found trusted mismatch =>
        exact untraced gateway unknown found ⟨trusted, mismatch⟩
  rw [← opened.gateways] at waits
  dsimp only
  cases known : database.gateways.find?
      (·.requestID == auth.gatewayRequestID) with
  | some gateway =>
      dsimp only
      split
      next untrusted =>
        refine ⟨kept, fun _ settles => absurd settles (waits ?_ ?_)⟩
        · rintro other found
          cases known.symm.trans found
          exact untrusted
        · intro other unknown
          cases known.symm.trans unknown
      split
      · exact (kept.transitionBeforeDeadline _ _).mono fun _ _ made =>
          ⟨made.1, fun decided _ => made.2 decided⟩
      · exact (kept.transitionBeforeDeadline _ _).mono fun _ _ made =>
          ⟨made.1, fun decided _ => made.2 decided⟩
  | none =>
      dsimp only
      rw [yields_call]
      rintro answer state ⟨clock, passed, found, rfl⟩
      have kept := kept.later passed
      rcases found with rfl | rfl
      · exact ⟨kept, absurd rfl⟩
      have unknown {other : GatewayEvent} : database.gateways.find?
          (·.requestID == auth.gatewayRequestID) ≠ some other := by
        rw [known]
        exact nofun
      dsimp only
      cases traced : onlyTrusted database.gateways auth.traceID with
      | none =>
          refine ⟨kept, fun _ settles => absurd settles (waits ?_ ?_)⟩
          · exact fun other found => absurd found unknown
          · intro other _ found
            cases traced.symm.trans found
      | some =>
          dsimp only
          split
          · exact (kept.transitionBeforeDeadline _ _).mono fun _ _ made =>
              ⟨made.1, fun decided _ => made.2 decided⟩
          next differs =>
            refine ⟨kept, fun _ settles => absurd settles (waits ?_ ?_)⟩
            · exact fun other found => absurd found unknown
            · intro other _ found
              cases traced.symm.trans found
              exact differs

/-- The rows that can be decided are updated in the loop. -/
theorem Open.reconcileAll
    (opened : Open base tx rows database) {databaseNow : Int}
    (later : base.clock ≤ databaseNow) (result : Result)
    (auths : List PendingAuth) :
    Yields Quiet (reconcileAll tx databaseNow result auths) database
      fun value later => Open base tx rows later ∧
        (value ≠ none → ∀ auth ∈ auths, Settles base auth →
          auth.eventID ∈ later.updated tx) := by
  induction auths generalizing database rows result with
  | nil => exact ⟨opened, fun _ => List.forall_mem_nil _⟩
  | cons auth rest ih =>
      rw [AuthBinding.reconcileAll, yields_bind]
      refine (opened.reconcileOne auth later).mono ?_
      rintro value state ⟨kept, made⟩
      cases value with
      | none => exact ⟨kept, absurd rfl⟩
      | some =>
          dsimp only
          by_cases settles : Settles base auth
          · refine (ih (made nofun settles) _).mono ?_
            rintro value last ⟨held, others⟩
            have updated := List.forall_mem_cons.mp held.updated
            exact ⟨{ held with updated := updated.2 }, fun ended =>
              List.forall_mem_cons.mpr
                ⟨fun _ => updated.1, others ended⟩⟩
          · refine (ih kept _).mono ?_
            rintro value last ⟨held, others⟩
            exact ⟨held, fun ended => List.forall_mem_cons.mpr
              ⟨fun holds => absurd holds settles, others ended⟩⟩

end Transaction

/-! ## One run -/

/-- What a successful run leaves pending. -/
structure Reconciled (database : Database) (limit : Nat) (later : Database) :
    Prop where
  idle : later.Idle
  gateways : later.gateways = database.gateways
  clock : database.clock ≤ later.clock
  pending : ∀ row ∈ later.auths, row.binding = .pending →
    row ∈ database.auths ∧
      (row.auth ∈ database.pendingRows limit → ¬ Settles database row.auth)

theorem Open.commit
    {base : Database} {tx : Nat} {rows : List Bytes}
    (opened : Open base tx rows database)
    (examined : ∀ auth ∈ base.pendingRows limit, Settles base auth →
      auth.eventID ∈ database.updated tx) :
    Reconciled base limit (database.commit tx) := by
  refine ⟨⟨?_, ?_⟩, opened.gateways, opened.clock, ?_⟩
  · intro eventID
    change (if _ then _ else _) = _
    split
    · rfl
    next other => exact (opened.locks eventID).resolve_right other
  · intro other
    by_cases same : other = tx
    · subst same
      exact Function.update_self ..
    · have kept : (database.commit tx).writes other = database.writes other :=
        Function.update_of_ne same ..
      rw [kept, opened.others other same]
  · intro row member pending
    obtain ⟨old, known, rfl⟩ := List.mem_map.mp member
    have visible : database.visible tx old = .pending := pending
    unfold Database.visible at visible
    split at visible
    next entry found =>
      exact absurd visible
        (opened.decided _ (List.mem_of_find?_eq_some found))
    next unwritten =>
      have same : database.written tx old = old := by
        rw [Database.written, Database.visible, unwritten]
      rw [same]
      rw [opened.auths] at known
      refine ⟨known, fun selected settles => ?_⟩
      obtain ⟨entry, written, named⟩ :=
        List.mem_map.mp (examined old.auth selected settles)
      have absent := List.find?_eq_none.mp unwritten entry written
      exact absent (beq_iff_eq.mpr named)

theorem Database.Idle.opened
    (idle : database.Idle) (tx : Nat) :
    Open database tx [] database where
  auths := rfl
  gateways := rfl
  clock := le_refl _
  locks eventID := .inl (idle.locks eventID)
  others other _ := idle.writes other
  decided entry member := by
    rw [idle.writes] at member
    cases member
  updated := List.forall_mem_nil _

theorem Open.lock
    {base : Database} {tx : Nat}
    (opened : Open base tx [] database) (auths : List PendingAuth) :
    Open base tx [] (database.lock tx auths) := by
  refine { opened with locks := fun eventID => ?_ }
  change (if _ then _ else _) = _ ∨ (if _ then _ else _) = _
  split
  · exact .inr rfl
  · exact opened.locks eventID

/-- A run that succeeds has examined the rows that it selected. -/
theorem Database.Idle.reconcile
    (idle : database.Idle) (tx limit : Nat) :
    Yields Quiet (reconcile tx limit) database fun result later =>
      result ≠ none → Reconciled database limit later := by
  unfold AuthBinding.reconcile
  split
  · exact absurd rfl
  rw [yields_call]
  rintro begun _ ⟨clock, passed, rfl⟩
  cases begun with
  | false => exact absurd rfl
  | true =>
  have ended : Yields Quiet (AuthBinding.transaction tx limit)
      { database with clock } fun result later =>
        result ≠ none → Reconciled database limit later := by
    rw [AuthBinding.transaction, yields_call]
    rintro _ _ ⟨now, later, rfl | rfl, rfl⟩
    · exact absurd rfl
    dsimp only
    split
    · exact absurd rfl
    have since : database.clock ≤ now := passed.trans later
    rw [yields_call]
    rintro _ _ ⟨clock, passed, ⟨rfl, rfl⟩ | ⟨rfl, rfl⟩⟩
    · exact absurd rfl
    dsimp only
    split
    · exact absurd rfl
    rw [yields_bind]
    have opened := ((idle.opened tx).later (since.trans passed)).lock
      (database.pendingRows limit)
    refine (opened.reconcileAll since _ _).mono ?_
    rintro result state ⟨kept, examined⟩
    cases result with
    | none => exact absurd rfl
    | some =>
        rw [yields_call]
        rintro committed last ⟨clock, passed, made⟩
        cases committed with
        | false => exact absurd rfl
        | true =>
            rcases made with rfl | ⟨failed, -⟩
            · exact fun _ => (kept.later passed).commit (examined nofun)
            · cases failed
  rw [if_pos rfl, yields_bind]
  refine ended.mono ?_
  intro result later reconciled
  cases result with
  | some => exact reconciled
  | none =>
      rw [yields_call]
      exact fun _ _ _ => absurd rfl

/-! ## The order of the selection -/

/-- The rows are selected in the order of this key. -/
def AuthRow.place (row : AuthRow) : Int ×ₗ Bytes :=
  toLex (row.auth.bindingDeadline, row.auth.eventID)

theorem compares_lessDeadline : Compares lessDeadline AuthRow.place := by
  intro first second
  unfold lessDeadline AuthRow.place
  rw [Prod.Lex.toLex_lt_toLex]
  split
  next different =>
    simp [different]
  next same =>
    rw [not_not] at same
    simp [same]

/-- The pending rows that are selected before a row. -/
def Database.ahead (database : Database) (row : AuthRow) : List AuthRow :=
  database.auths.filter fun other =>
    other.binding == .pending && lessDeadline other row

theorem mem_ahead {other : AuthRow} :
    other ∈ database.ahead row ↔ other ∈ database.auths ∧
      other.binding = .pending ∧ lessDeadline other row = true := by
  rw [Database.ahead, List.mem_filter, Bool.and_eq_true, beq_iff_eq]

theorem Database.nodup_auths (database : Database) : database.auths.Nodup :=
  .of_map _ database.distinct

/-- The rows that a run selects while no transaction is open. -/
def Database.selection (database : Database) (limit : Nat) : List AuthRow :=
  (sortSlice lessDeadline (database.auths.filter fun row =>
    row.binding == .pending && (database.locks row.auth.eventID).isNone)).take
      limit

theorem Database.increasing_pending (database : Database) :
    Increasing AuthRow.place (sortSlice lessDeadline
      (database.auths.filter fun row => row.binding == .pending &&
        (database.locks row.auth.eventID).isNone)) := by
  refine compares_lessDeadline.increasing ?_
  have names : ((database.auths.filter fun row => row.binding == .pending &&
      (database.locks row.auth.eventID).isNone).map
        (·.auth.eventID)).Nodup :=
    database.distinct.sublist (List.filter_sublist.map _)
  refine List.Nodup.of_map (fun place => (ofLex place).2) ?_
  rw [List.map_map]
  exact names

/-- A pending row that is not selected has a whole selection ahead of it. -/
theorem Database.Idle.selection_ahead
    (idle : database.Idle)
    (member : row ∈ database.auths) (pending : row.binding = .pending)
    (missed : row ∉ database.selection limit) :
    (database.selection limit).length = limit ∧
      ∀ other ∈ database.selection limit, other ∈ database.ahead row := by
  have increasing := database.increasing_pending
  unfold Database.selection at missed ⊢
  have listed : row ∈ sortSlice lessDeadline
      (database.auths.filter fun row => row.binding == .pending &&
        (database.locks row.auth.eventID).isNone) := by
    rw [mem_sortSlice, List.mem_filter, idle.locks, pending]
    exact ⟨member, rfl⟩
  have known : ∀ other, other ∈ sortSlice lessDeadline
      (database.auths.filter fun row => row.binding == .pending &&
        (database.locks row.auth.eventID).isNone) →
      other ∈ database.auths ∧ other.binding = .pending := by
    intro other found
    rw [mem_sortSlice, List.mem_filter, Bool.and_eq_true, beq_iff_eq] at found
    exact ⟨found.1, found.2.1⟩
  generalize sortSlice lessDeadline _ = rows at *
  rw [← List.take_append_drop limit rows] at listed increasing
  have left := (List.mem_append.mp listed).resolve_left missed
  refine ⟨?_, ?_⟩
  · rw [List.length_take, Nat.min_eq_left]
    by_contra short
    rw [List.drop_eq_nil_of_le (by omega)] at left
    cases left
  · intro other taken
    obtain ⟨present, waiting⟩ := known other (List.mem_of_mem_take taken)
    exact mem_ahead.mpr ⟨present, waiting, (compares_lessDeadline _ _).mpr
      ((List.pairwise_append.mp increasing).2.2 other taken row left)⟩

/-! ## Consecutive runs -/

/-- No row that has to wait is selected before the row. -/
def Unblocked (database : Database) (row : AuthRow) : Prop :=
  ∀ other ∈ database.ahead row, Settles database other.auth

theorem Settles.later
    {later : Database} {auth : PendingAuth}
    (gateways : later.gateways = database.gateways)
    (clock : database.clock ≤ later.clock)
    (settles : Settles database auth) : Settles later auth := by
  cases settles with
  | expired => exact .expired (by omega)
  | byRequest gateway source found trusted =>
      rw [← gateways] at found
      exact .byRequest gateway source found trusted
  | byTrace gateway source unknown found trusted mismatch =>
      rw [← gateways] at unknown found
      exact .byTrace gateway source unknown found trusted mismatch

/-- A run that leaves such a row pending decides a whole selection ahead of
it. -/
theorem Reconciled.ahead
    {later : Database}
    (idle : database.Idle) (reconciled : Reconciled database limit later)
    (settles : Settles database row.auth) (unblocked : Unblocked database row)
    (member : row ∈ later.auths) (pending : row.binding = .pending) :
    (later.ahead row).length + limit ≤ (database.ahead row).length ∧
      Settles later row.auth ∧ Unblocked later row := by
  have kept : ∀ other ∈ later.ahead row, other ∈ database.ahead row ∧
      (other.auth ∈ database.pendingRows limit →
        ¬ Settles database other.auth) := by
    intro other found
    obtain ⟨present, waiting, earlier⟩ := mem_ahead.mp found
    obtain ⟨old, undecided⟩ := reconciled.pending other present waiting
    exact ⟨mem_ahead.mpr ⟨old, waiting, earlier⟩, undecided⟩
  obtain ⟨old, undecided⟩ := reconciled.pending row member pending
  have missed : row ∉ database.selection limit := fun selected =>
    undecided (List.mem_map_of_mem selected) settles
  obtain ⟨full, before⟩ := idle.selection_ahead old pending missed
  have transport {auth : PendingAuth} (holds : Settles database auth) :=
    holds.later reconciled.gateways reconciled.clock
  refine ⟨?_, transport settles, fun other found =>
    transport (unblocked other (kept other found).1)⟩
  have apart : (later.ahead row ++ database.selection limit).Nodup := by
    refine List.nodup_append.mpr ⟨later.nodup_auths.filter _,
      database.increasing_pending.nodup.sublist (List.take_sublist _ _), ?_⟩
    rintro other found _ selected rfl
    exact (kept other found).2 (List.mem_map_of_mem selected)
      (unblocked other (kept other found).1)
  have within : later.ahead row ++ database.selection limit ⊆
      database.ahead row := by
    intro other found
    rcases List.mem_append.mp found with remaining | selected
    · exact (kept other remaining).1
    · exact before other selected
  have counted := (apart.subperm within).length_le
  rw [List.length_append, full] at counted
  exact counted

/-- The row, while it is pending, is decided within so many runs. -/
def Due (database : Database) (limit count : Nat) (eventID : Bytes) : Prop :=
  ∀ row ∈ database.auths, row.auth.eventID = eventID →
    row.binding = .pending →
    Settles database row.auth ∧ Unblocked database row ∧
      (database.ahead row).length < count * limit

theorem Due.reconcileTimes
    {eventID : Bytes} {txs : List Nat}
    (idle : database.Idle) (due : Due database limit txs.length eventID) :
    Yields Quiet (reconcileTimes limit txs) database fun results later =>
      none ∉ results → ∀ row ∈ later.auths, row.auth.eventID = eventID →
        row.binding ≠ .pending := by
  induction txs generalizing database with
  | nil =>
      intro _ row member named pending
      have late := (due row member named pending).2.2
      rw [List.length_nil, Nat.zero_mul] at late
      exact absurd late (Nat.not_lt_zero _)
  | cons tx rest ih =>
      rw [AuthBinding.reconcileTimes, yields_bind]
      refine (idle.reconcile tx limit).mono ?_
      intro result state reconciled
      rw [yields_bind]
      by_cases failed : result = none
      · exact yields_of_forall fun results last succeeded =>
          absurd (List.mem_cons.mpr (.inl failed.symm)) succeeded
      · have held := reconciled failed
        have still : Due state limit rest.length eventID := by
          intro row member named pending
          obtain ⟨old, -⟩ := held.pending row member pending
          obtain ⟨settles, unblocked, within⟩ := due row old named pending
          obtain ⟨fewer, settles, unblocked⟩ :=
            held.ahead idle settles unblocked member pending
          rw [List.length_cons, Nat.succ_mul] at within
          exact ⟨settles, unblocked, by omega⟩
        refine (ih held.idle still).mono ?_
        intro results last decided succeeded
        exact decided fun member => succeeded (List.mem_cons_of_mem _ member)

/-- An untrusted event and one whose gateway event is there. -/
def backlog (waiting ready : Int) : Database :=
  let auth (eventID trustState : Bytes) (deadline : Int) : PendingAuth :=
    { eventID, trustState
      gatewayRequestID := ascii "request-1"
      traceID := ascii "trace-1"
      occurredAt := 900
      sourceIP := ascii "192.0.2.7"
      serviceLabel := demoServiceLabel
      routeLabel := ascii "login"
      receivedAt := 950
      trustReason := ascii "none"
      bindingDeadline := deadline }
  { clock := 1000
    gateways := [{ eventID := ascii "gateway-1"
                   requestID := ascii "request-1"
                   traceID := ascii "trace-1"
                   sourceIP := ascii "192.0.2.7"
                   serviceLabel := demoServiceLabel
                   routeLabel := ascii "login"
                   trustState := ascii "trusted"
                   trustReason := ascii "none" }]
    auths := [⟨auth (ascii "auth-1") (ascii "untrusted") waiting, .pending⟩,
      ⟨auth (ascii "auth-2") (ascii "trusted") ready, .pending⟩]
    locks := fun _ => none
    writes := fun _ => []
    distinct := (by decide +kernel : [ascii "auth-1", ascii "auth-2"].Nodup)
    distinctGateways := List.nodup_singleton _
    distinctRequests := List.nodup_singleton _ }

end SentinelFlow.AuthBinding
