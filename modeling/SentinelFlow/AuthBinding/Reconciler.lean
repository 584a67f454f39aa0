import SentinelFlow.GoLib.Ordered
import SentinelFlow.GoLib.Program
import SentinelFlow.GoLib.Time

/-!
# Reconciliation of authentication events

An authentication event stays pending until the gateway event of its request has
arrived.  `Reconcile` is one transaction: it locks pending rows, compares each
with the gateway rows, and updates it by a statement that checks the state, the
clock and the evidence again.  The program is written with its calls to the
database, and the database as what each call does to the tables.
-/

namespace SentinelFlow.AuthBinding

open GoLib

def maxBatchSize : Nat := 100

def demoServiceLabel : Bytes := ascii "demo-app"

inductive Reason where
  | requestMismatch
  | traceMismatch
  | sourceMismatch
  | serviceMismatch
  | routeMismatch
  | expired
deriving DecidableEq, Repr

structure PendingAuth where
  eventID : Bytes
  gatewayRequestID : Bytes
  traceID : Bytes
  occurredAt : Int
  sourceIP : Bytes
  serviceLabel : Bytes
  routeLabel : Bytes
  receivedAt : Int
  trustState : Bytes
  trustReason : Bytes
  bindingDeadline : Int
deriving DecidableEq, Repr

structure GatewayEvent where
  eventID : Bytes
  requestID : Bytes
  traceID : Bytes
  sourceIP : Bytes
  serviceLabel : Bytes
  routeLabel : Bytes
  trustState : Bytes
  trustReason : Bytes
deriving DecidableEq, Repr

def trusted (state reason : Bytes) : Bool :=
  state == ascii "trusted" && reason == ascii "none"

def PendingAuth.trusted (auth : PendingAuth) : Bool :=
  AuthBinding.trusted auth.trustState auth.trustReason

def GatewayEvent.trusted (gateway : GatewayEvent) : Bool :=
  AuthBinding.trusted gateway.trustState gateway.trustReason

/-- The first dimension that does not fit.  `requestKnown` says that the gateway
event was found by the request. -/
def mismatchReason (auth : PendingAuth) (gateway : GatewayEvent)
    (requestKnown : Bool) : Option Reason :=
  if requestKnown = false ∧ gateway.requestID ≠ auth.gatewayRequestID then
    if gateway.traceID = auth.traceID ∧ gateway.sourceIP = auth.sourceIP ∧
        auth.serviceLabel = demoServiceLabel ∧
        gateway.serviceLabel = demoServiceLabel ∧
        gateway.routeLabel = auth.routeLabel then
      some .requestMismatch
    else none
  else if gateway.traceID ≠ auth.traceID then some .traceMismatch
  else if gateway.sourceIP ≠ auth.sourceIP then some .sourceMismatch
  else if auth.serviceLabel ≠ demoServiceLabel ∨
      gateway.serviceLabel ≠ demoServiceLabel ∨
      gateway.serviceLabel ≠ auth.serviceLabel then
    some .serviceMismatch
  else if gateway.routeLabel ≠ auth.routeLabel then some .routeMismatch
  else none

/-! ## The program -/

/-- The three updates of a row. -/
inductive Statement where
  | verifyBinding (eventID gatewayID : Bytes)
  | markUntrusted (eventID : Bytes) (reason : Reason)
  | expireBinding (eventID : Bytes)
deriving DecidableEq, Repr

def Statement.eventID : Statement → Bytes
  | .verifyBinding eventID _ => eventID
  | .markUntrusted eventID _ => eventID
  | .expireBinding eventID => eventID

/-- A call in the transaction with the given number. -/
inductive Call where
  | beginTx (tx : Nat)
  | databaseClock (tx : Nat)
  | lockPending (tx limit : Nat)
  | gatewayByRequest (tx : Nat) (requestID : Bytes)
  | gatewayByTrace (tx : Nat) (traceID : Bytes)
  | update (tx : Nat) (statement : Statement)
  | commit (tx : Nat)
  | rollback (tx : Nat)
deriving DecidableEq, Repr

/-- `none` and `false` are errors; an update returns the number of rows. -/
abbrev Call.Answer : Call → Type
  | .beginTx _ => Bool
  | .databaseClock _ => Option Int
  | .lockPending _ _ => Option (List PendingAuth)
  | .gatewayByRequest _ _ => Option (Option GatewayEvent)
  | .gatewayByTrace _ _ => Option (Option GatewayEvent)
  | .update _ _ => Option Nat
  | .commit _ => Bool
  | .rollback _ => Unit

abbrev Run (α : Type) : Type :=
  Program Call.Answer α

def call (request : Call) : Run request.Answer :=
  Program.perform request

inductive Disposition where
  | pending
  | verified
  | untrusted
  | expired
deriving DecidableEq, Repr

structure Result where
  examined : Nat
  verified : Nat := 0
  untrusted : Nat := 0
  expired : Nat := 0
  pending : Nat := 0
deriving DecidableEq, Repr

def Result.count (result : Result) : Disposition → Result
  | .verified => { result with verified := result.verified + 1 }
  | .untrusted => { result with untrusted := result.untrusted + 1 }
  | .expired =>
      { result with
        untrusted := result.untrusted + 1
        expired := result.expired + 1 }
  | .pending => { result with pending := result.pending + 1 }

/-- Whether the statement changed its row; more than one row is an error. -/
def transition (tx : Nat) (statement : Statement) : Run (Option Bool) := do
  match ← call (.update tx statement) with
  | some 0 => pure (some false)
  | some 1 => pure (some true)
  | _ => pure none

def transitionBeforeDeadline (tx : Nat) (statement : Statement)
    (success : Disposition) : Run (Option Disposition) := do
  match ← transition tx statement with
  | none => pure none
  | some true => pure (some success)
  | some false =>
      match ← transition tx (.expireBinding statement.eventID) with
      | some true => pure (some .expired)
      | _ => pure none

def reconcileOne (tx : Nat) (auth : PendingAuth) (databaseNow : Int) :
    Run (Option Disposition) := do
  if auth.bindingDeadline < databaseNow then
    match ← transition tx (.expireBinding auth.eventID) with
    | some true => pure (some .expired)
    | _ => pure none
  else if auth.trusted = false then pure (some .pending)
  else
    match ← call (.gatewayByRequest tx auth.gatewayRequestID) with
    | none => pure none
    | some (some gateway) =>
        if gateway.trusted = false then pure (some .pending)
        else
          match mismatchReason auth gateway true with
          | some reason =>
              transitionBeforeDeadline tx (.markUntrusted auth.eventID reason)
                .untrusted
          | none =>
              transitionBeforeDeadline tx
                (.verifyBinding auth.eventID gateway.eventID) .verified
    | some none =>
        match ← call (.gatewayByTrace tx auth.traceID) with
        | none => pure none
        | some none => pure (some .pending)
        | some (some gateway) =>
            if gateway.trusted = true ∧
                mismatchReason auth gateway false = some .requestMismatch then
              transitionBeforeDeadline tx
                (.markUntrusted auth.eventID .requestMismatch) .untrusted
            else pure (some .pending)

/-- The loop over the locked rows. -/
def reconcileAll (tx : Nat) (databaseNow : Int) :
    Result → List PendingAuth → Run (Option Result)
  | result, [] => pure (some result)
  | result, auth :: rest => do
      match ← reconcileOne tx auth databaseNow with
      | none => pure none
      | some disposition =>
          reconcileAll tx databaseNow (result.count disposition) rest

/-- What happens between the beginning and the end of the transaction. -/
def transaction (tx batchLimit : Nat) : Run (Option Result) := do
  match ← call (.databaseClock tx) with
  | none => pure none
  | some databaseNow =>
      if databaseNow = 0 ∨ Time.year databaseNow < 1 ∨
          9999 < Time.year databaseNow then pure none
      else
        match ← call (.lockPending tx batchLimit) with
        | none => pure none
        | some rows =>
            if batchLimit < rows.length then pure none
            else
              match ← reconcileAll tx databaseNow ⟨rows.length, 0, 0, 0, 0⟩
                  rows with
              | none => pure none
              | some result =>
                  if ← call (.commit tx) then pure (some result)
                  else pure none

def reconcile (tx batchLimit : Nat) : Run (Option Result) := do
  if batchLimit < 1 ∨ maxBatchSize < batchLimit then pure none
  else if ← call (.beginTx tx) then
    match ← transaction tx batchLimit with
    | some result => pure (some result)
    | none => do
        call (.rollback tx)
        pure none
  else pure none

/-! ## The database -/

/-- The transaction that decided a binding, and the clock of its statement. -/
structure Decision where
  tx : Nat
  clock : Int
deriving DecidableEq, Repr

inductive Binding where
  | pending
  | verified (gatewayID : Bytes) (decision : Decision)
  | untrusted (reason : Reason) (decision : Decision)
deriving DecidableEq, Repr

structure AuthRow where
  auth : PendingAuth
  binding : Binding
deriving DecidableEq, Repr

/-- The committed rows, the rows that a transaction has locked, and what it has
written but not committed. -/
structure Database where
  clock : Int
  gateways : List GatewayEvent
  auths : List AuthRow
  locks : Bytes → Option Nat
  writes : Nat → List (Bytes × Binding)
  distinct : (auths.map (·.auth.eventID)).Nodup
  distinctGateways : (gateways.map (·.eventID)).Nodup
  distinctRequests : (gateways.map (·.requestID)).Nodup

/-- `ORDER BY binding_deadline, event_id`. -/
def lessDeadline (first second : AuthRow) : Bool :=
  if first.auth.bindingDeadline ≠ second.auth.bindingDeadline then
    first.auth.bindingDeadline < second.auth.bindingDeadline
  else first.auth.eventID < second.auth.eventID

/-- `lockPendingSQL`; rows that are locked are skipped. -/
def Database.pendingRows (database : Database) (limit : Nat) :
    List PendingAuth :=
  ((sortSlice lessDeadline (database.auths.filter fun row =>
    row.binding == .pending && (database.locks row.auth.eventID).isNone)).take
      limit).map (·.auth)

def Database.lock (database : Database) (tx : Nat) (rows : List PendingAuth) :
    Database :=
  { database with
    locks := fun eventID =>
      if rows.any (·.eventID == eventID) then some tx
      else database.locks eventID }

/-- `gatewayByTraceSQL`: a trusted row, if it is the only one. -/
def onlyTrusted (gateways : List GatewayEvent) (traceID : Bytes) :
    Option GatewayEvent :=
  gateways.find? fun gateway =>
    gateway.traceID == traceID && gateway.trusted &&
      gateways.all fun other => !(other.traceID == gateway.traceID &&
        other.eventID != gateway.eventID && other.trusted)

/-- The evidence that `verifyBindingSQL` asks for. -/
def supports (auth : PendingAuth) (gatewayID : Bytes)
    (gateway : GatewayEvent) : Bool :=
  gateway.eventID == gatewayID &&
    gateway.requestID == auth.gatewayRequestID &&
    gateway.traceID == auth.traceID && gateway.sourceIP == auth.sourceIP &&
    gateway.serviceLabel == demoServiceLabel &&
    gateway.serviceLabel == auth.serviceLabel &&
    gateway.routeLabel == auth.routeLabel && gateway.trusted

/-- The `WHERE` of a statement on a pending row. -/
def Database.admits (database : Database) (auth : PendingAuth) :
    Statement → Bool
  | .verifyBinding _ gatewayID =>
      decide (database.clock ≤ auth.bindingDeadline) && auth.trusted &&
        auth.serviceLabel == demoServiceLabel &&
        database.gateways.any (supports auth gatewayID)
  | .markUntrusted _ reason =>
      decide (database.clock ≤ auth.bindingDeadline) && reason != .expired
  | .expireBinding _ => decide (auth.bindingDeadline < database.clock)

/-- The `SET` of a statement. -/
def Statement.binding (decision : Decision) : Statement → Binding
  | .verifyBinding _ gatewayID => .verified gatewayID decision
  | .markUntrusted _ reason => .untrusted reason decision
  | .expireBinding _ => .untrusted .expired decision

/-- The trigger refuses to verify an event after its deadline. -/
def Statement.refused (auth : PendingAuth) : Statement → Bool
  | .verifyBinding _ _ => decide (auth.bindingDeadline < auth.occurredAt)
  | _ => false

/-- What the transaction sees of a row. -/
def Database.visible (database : Database) (tx : Nat) (row : AuthRow) :
    Binding :=
  match (database.writes tx).find? (·.1 == row.auth.eventID) with
  | some (_, binding) => binding
  | none => row.binding

def Database.record (database : Database) (tx : Nat) (statement : Statement) :
    Database :=
  { database with
    locks := Function.update database.locks statement.eventID (some tx)
    writes := Function.update database.writes tx
      (database.writes tx ++
        [(statement.eventID, statement.binding ⟨tx, database.clock⟩)]) }

/-- The number of rows that a statement changes, or an error of the trigger. -/
def Database.execute (database : Database) (tx : Nat) (statement : Statement) :
    Option Nat × Database :=
  match database.auths.find? (·.auth.eventID == statement.eventID) with
  | none => (some 0, database)
  | some row =>
      if database.visible tx row = .pending ∧
          database.admits row.auth statement = true then
        if statement.refused row.auth then (none, database)
        else (some 1, database.record tx statement)
      else (some 0, database)

/-- Another transaction has the row. -/
def Database.blocks (database : Database) (tx : Nat) (statement : Statement) :
    Bool :=
  (database.locks statement.eventID).any (· != tx)

/-- The row with what the transaction wrote. -/
def Database.written (database : Database) (tx : Nat) (row : AuthRow) :
    AuthRow :=
  { row with binding := database.visible tx row }

/-- The end of a transaction releases its locks. -/
def Database.release (database : Database) (tx : Nat) : Database :=
  { database with
    locks := fun eventID =>
      if database.locks eventID = some tx then none
      else database.locks eventID
    writes := Function.update database.writes tx [] }

def Database.commit (database : Database) (tx : Nat) : Database :=
  { database.release tx with
    auths := database.auths.map (database.written tx)
    distinct := by
      rw [List.map_map]
      exact database.distinct }

/-- What a call does; every call but a rollback may fail, and a commit that
fails may have been made. -/
def Effect (database : Database) :
    (request : Call) → request.Answer → Database → Prop
  | .beginTx _, _, later => later = database
  | .databaseClock _, answer, later =>
      (answer = none ∨ answer = some database.clock) ∧ later = database
  | .lockPending tx limit, answer, later =>
      answer = none ∧ later = database ∨
        answer = some (database.pendingRows limit) ∧
          later = database.lock tx (database.pendingRows limit)
  | .gatewayByRequest _ requestID, answer, later =>
      (answer = none ∨ answer =
        some (database.gateways.find? (·.requestID == requestID))) ∧
        later = database
  | .gatewayByTrace _ traceID, answer, later =>
      (answer = none ∨ answer = some (onlyTrusted database.gateways traceID)) ∧
        later = database
  | .update tx statement, answer, later =>
      answer = none ∧ later = database ∨
        database.blocks tx statement = false ∧
          (answer, later) = database.execute tx statement
  | .commit tx, answer, later =>
      later = database.commit tx ∨ answer = false ∧ later = database
  | .rollback tx, _, later => later = database.release tx

/-- The answers when nothing fails. -/
def Database.serve (database : Database) :
    (request : Call) → request.Answer × Database
  | .beginTx _ => (true, database)
  | .databaseClock _ => (some database.clock, database)
  | .lockPending tx limit =>
      (some (database.pendingRows limit),
        database.lock tx (database.pendingRows limit))
  | .gatewayByRequest _ requestID =>
      (some (database.gateways.find? (·.requestID == requestID)), database)
  | .gatewayByTrace _ traceID =>
      (some (onlyTrusted database.gateways traceID), database)
  | .update tx statement =>
      if database.blocks tx statement then (none, database)
      else database.execute tx statement
  | .commit tx => (true, database.commit tx)
  | .rollback tx => ((), database.release tx)

theorem Database.effect_serve (database : Database) (request : Call) :
    Effect database request (database.serve request).1
      (database.serve request).2 := by
  cases request with
  | beginTx
  | rollback => exact rfl
  | databaseClock
  | gatewayByRequest
  | gatewayByTrace => exact ⟨.inr rfl, rfl⟩
  | lockPending => exact .inr ⟨rfl, rfl⟩
  | update tx statement =>
      by_cases free : database.blocks tx statement = true
      · simp only [Database.serve, if_pos free]
        exact .inl ⟨rfl, rfl⟩
      · simp only [Database.serve, if_neg free]
        exact .inr ⟨Bool.eq_false_iff.mpr free, rfl⟩
  | commit => exact .inl rfl

end SentinelFlow.AuthBinding
