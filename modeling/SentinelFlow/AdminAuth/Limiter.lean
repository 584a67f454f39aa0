import SentinelFlow.GoLib.Guarded
import SentinelFlow.GoLib.Netip
import SentinelFlow.GoLib.RollingWindow
import SentinelFlow.GoLib.Time

/-!
# Limits on logins and decisions

Package `adminauth` lets at most so many attempts in a rolling minute through.
A call reads the clock before it takes the lock, so the queue of a window may be
pruned by a later reading than that of the call that is let in next.
-/

namespace SentinelFlow.AdminAuth

open GoLib

def loginPerSourcePerMinute : Nat := 5

def loginGlobalPerMinute : Nat := 20

def decisionsPerSessionMinute : Nat := 5

def limiterWindow : Int := 60 * Time.second

def defaultMaxLoginSources : Int := 4096

def defaultMaxDecisionSessions : Int := 4096

inductive RateLimitScope where
  | loginSource
  | loginGlobal
  | decision
  | capacity
deriving DecidableEq, Repr

structure RateLimitError where
  scope : RateLimitScope
  retryAfter : Int
deriving DecidableEq, Repr

/-- `netip.Addr`: the zero value, or an address with the zone of an IPv6 one. -/
inductive Addr where
  | invalid
  | v4 (address : IPv4)
  | v6 (high low : UInt64) (zone : Bytes)
deriving DecidableEq, Repr

/-- `Addr.Unmap`: the IPv4 address in an IPv6-mapped one, without the zone. -/
def Addr.unmap : Addr → Addr
  | .v6 high low zone =>
      if high = 0 ∧ low >>> 32 = 0xFFFF then
        .v4 ⟨(low >>> 24).toUInt8, (low >>> 16).toUInt8, (low >>> 8).toUInt8,
          low.toUInt8⟩
      else .v6 high low zone
  | address => address

/-! ## Windows -/

def retryAfter (times : List Int) (now : Int) : Int :=
  match times with
  | [] => Time.second
  | first :: _ =>
      if first + limiterWindow - now ≤ 0 then Time.second
      else first + limiterWindow - now

section Keyed

variable {K : Type}

/-- The least first instant of a window, or zero. -/
def oldestOf (windows : Windows K) : Int :=
  windows.entries.foldl (fun oldest entry =>
    match entry.2 with
    | [] => oldest
    | first :: _ => if oldest = 0 ∨ first < oldest then first else oldest) 0

def capacityRetryAfter (windows : Windows K) (now : Int) : Int :=
  if oldestOf windows = 0 then limiterWindow
  else if oldestOf windows + limiterWindow - now ≤ 0 then Time.second
  else oldestOf windows + limiterWindow - now

/-- What both limiters do with the window of a key, once all are pruned. -/
def attempt [DecidableEq K] (limit : Nat) (maxKeys : Int)
    (scope : RateLimitScope) (windows : Windows K) (key : K) (now : Int) :
    Except RateLimitError (Windows K) :=
  if windows.find key = none ∧ maxKeys ≤ windows.size then
    .error ⟨.capacity, capacityRetryAfter windows now⟩
  else if limit ≤ (windows.times key).length then
    .error ⟨scope, retryAfter (windows.times key) now⟩
  else .ok (windows.add key now)

end Keyed

/-! ## The limiters -/

structure LoginLimiter where
  maxSources : Int
  global : List Int
  bySource : Windows Addr

def newLoginLimiter (maxSources : Int) : Option LoginLimiter :=
  let maxSources := if maxSources = 0 then defaultMaxLoginSources else maxSources
  if maxSources < 1 ∨ 1000000 < maxSources then none
  else some { maxSources, global := [], bySource := .empty }

def LoginLimiter.prune (limiter : LoginLimiter) (now : Int) : LoginLimiter :=
  { limiter with
    global := dropUntil (now - limiterWindow) limiter.global
    bySource := limiter.bySource.prune (now - limiterWindow) }

/-- The critical section of `LoginLimiter.Allow`. -/
def LoginLimiter.locked (limiter : LoginLimiter) (source : Addr) (now : Int) :
    Option RateLimitError × LoginLimiter :=
  if loginGlobalPerMinute ≤ (limiter.prune now).global.length then
    (some ⟨.loginGlobal, retryAfter (limiter.prune now).global now⟩,
      limiter.prune now)
  else match attempt loginPerSourcePerMinute limiter.maxSources .loginSource
      (limiter.prune now).bySource source now with
  | .error refusal => (some refusal, limiter.prune now)
  | .ok windows =>
      (none, { limiter.prune now with
        global := (limiter.prune now).global ++ [now]
        bySource := windows })

/-- `LoginLimiter.Allow`. -/
def LoginLimiter.allow : Guarded Addr Addr LoginLimiter RateLimitError where
  check source :=
    if source = .invalid then .error ⟨.capacity, limiterWindow⟩
    else .ok source.unmap
  locked := LoginLimiter.locked

abbrev SessionID := Vector UInt8 16

structure DecisionLimiter where
  maxSessions : Int
  bySession : Windows SessionID

def newDecisionLimiter (maxSessions : Int) : Option DecisionLimiter :=
  let maxSessions :=
    if maxSessions = 0 then defaultMaxDecisionSessions else maxSessions
  if maxSessions < 1 ∨ 1000000 < maxSessions then none
  else some { maxSessions, bySession := .empty }

def DecisionLimiter.prune (limiter : DecisionLimiter) (now : Int) :
    DecisionLimiter :=
  { limiter with bySession := limiter.bySession.prune (now - limiterWindow) }

/-- The critical section of `DecisionLimiter.Allow`. -/
def DecisionLimiter.locked (limiter : DecisionLimiter) (sessionID : SessionID)
    (now : Int) : Option RateLimitError × DecisionLimiter :=
  match attempt decisionsPerSessionMinute limiter.maxSessions .decision
      (limiter.prune now).bySession sessionID now with
  | .error refusal => (some refusal, limiter.prune now)
  | .ok windows => (none, { limiter.prune now with bySession := windows })

/-- `DecisionLimiter.Allow`. -/
def DecisionLimiter.allow :
    Guarded SessionID SessionID DecisionLimiter RateLimitError where
  check sessionID :=
    if sessionID = Vector.replicate 16 0 then
      .error ⟨.capacity, limiterWindow⟩
    else .ok sessionID
  locked := DecisionLimiter.locked

/-! ## What a critical section does -/

theorem retryAfter_pos (times : List Int) (now : Int) :
    0 < retryAfter times now := by
  unfold retryAfter
  split
  · decide
  · split
    · decide
    · omega

variable {K : Type} {windows : Windows K} {key : K} {now maxKeys : Int}
  {limit : Nat} {scope : RateLimitScope}

theorem capacityRetryAfter_pos (windows : Windows K) (now : Int) :
    0 < capacityRetryAfter windows now := by
  unfold capacityRetryAfter
  split
  · decide
  · split
    · decide
    · omega

variable [DecidableEq K]

variable {maxSources : Int} {limiter : LoginLimiter} {refusal : RateLimitError}

theorem attempt_error
    (refused : attempt limit maxKeys scope windows key now = .error refusal) :
    0 < refusal.retryAfter := by
  unfold attempt at refused
  split at refused
  · cases refused
    exact capacityRetryAfter_pos windows now
  · split at refused
    · cases refused
      exact retryAfter_pos _ now
    · cases refused

theorem attempt_ok {later : Windows K}
    (allowed : attempt limit maxKeys scope windows key now = .ok later) :
    later = windows.add key now ∧ (windows.times key).length < limit ∧
      (windows.size ≤ maxKeys → later.size ≤ maxKeys) := by
  unfold attempt at allowed
  split at allowed
  · cases allowed
  next room =>
    split at allowed
    · cases allowed
    next short =>
      cases allowed
      refine ⟨rfl, Nat.lt_of_not_le short, ?_⟩
      intro bounded
      rw [Windows.size_add]
      split
      · exact bounded
      next missing =>
        rw [not_and, not_le] at room
        have below := room (Option.not_isSome_iff_eq_none.mp missing)
        omega

/-! ## Runs -/

/-- What the windows of the keys keep: each accounts for the calls of its key,
as long as all calls come in order, and there are not too many of them. -/
structure Accounts (limit : Nat) (maxKeys : Int) (windows : Windows K)
    (entered : List (Entered K RateLimitError)) : Prop where
  tracks : ∀ key, Tracks limiterWindow (entered.map Entered.reading)
    (permitted entered (· = key)) (windows.times key)
  atMost : InOrder entered → ∀ key,
    AtMost limit limiterWindow (permitted entered (· = key))
  bounded : windows.size ≤ maxKeys
  positive : ∀ refusal ∈ entered.filterMap Entered.refusal,
    0 < refusal.retryAfter

theorem accounts_empty (maximum : 0 ≤ maxKeys) :
    Accounts limit maxKeys (.empty : Windows K) [] where
  tracks _ := tracks_nil
  atMost _ _ _ := Nat.zero_le _
  bounded := maximum
  positive := nofun

variable {entered : List (Entered K RateLimitError)}

theorem Accounts.refused
    (accounts : Accounts limit maxKeys windows entered) (key : K) (now : Int)
    (positive : 0 < refusal.retryAfter) :
    Accounts limit maxKeys (windows.prune (now - limiterWindow))
      (entered ++ [⟨key, now, some refusal⟩]) where
  tracks other := by
    rw [permitted_concat, Windows.times_prune, List.map_append]
    simpa using (accounts.tracks other).dropUntil now
  atMost ordered other := by
    rw [permitted_concat]
    simpa using accounts.atMost (inOrder_concat ordered).1 other
  bounded := by
    have := windows.size_prune_le (now - limiterWindow)
    have := accounts.bounded
    omega
  positive := by
    rw [List.filterMap_append, List.forall_mem_append]
    exact ⟨accounts.positive, by simpa using positive⟩

theorem Accounts.allowed
    (accounts : Accounts limit maxKeys windows entered) {later : Windows K}
    (allowed : attempt limit maxKeys scope
      (windows.prune (now - limiterWindow)) key now = .ok later) :
    Accounts limit maxKeys later (entered ++ [⟨key, now, none⟩]) := by
  obtain ⟨rfl, short, room⟩ := attempt_ok allowed
  refine ⟨?_, ?_, ?_, ?_⟩
  · intro other
    have pruned := (accounts.tracks other).dropUntil now
    rw [permitted_concat, Windows.times_add, Windows.times_prune,
      Windows.times_prune, List.map_append]
    by_cases same : key = other
    · subst same
      simpa using pruned.concat now
    · simpa [same, Ne.symm same] using pruned
  · intro ordered other
    obtain ⟨before, latest⟩ := inOrder_concat ordered
    rw [permitted_concat]
    by_cases same : key = other
    · subst same
      rw [Windows.times_prune] at short
      have all : ∀ reading ∈ entered.map Entered.reading ++ [now],
          reading ≤ now := by
        rw [List.forall_mem_append, List.forall_mem_singleton]
        exact ⟨latest, le_refl now⟩
      simpa using (accounts.atMost before key).concat
        ((accounts.tracks key).dropUntil now) all short
    · simpa [same] using accounts.atMost before other
  · refine room ?_
    have := windows.size_prune_le (now - limiterWindow)
    have := accounts.bounded
    omega
  · simpa using accounts.positive

/-- What a login limiter keeps: its windows, and the one of all sources. -/
structure LoginLimiter.Sound (maxSources : Int) (limiter : LoginLimiter)
    (entered : List (Entered Addr RateLimitError)) : Prop where
  maximum : limiter.maxSources = maxSources
  sources : Accounts loginPerSourcePerMinute maxSources limiter.bySource entered
  tracks : Tracks limiterWindow (entered.map Entered.reading)
    (permitted entered fun _ => true) limiter.global
  atMost : InOrder entered →
    AtMost loginGlobalPerMinute limiterWindow (permitted entered fun _ => true)

theorem LoginLimiter.Sound.refused
    {entered : List (Entered Addr RateLimitError)}
    (sound : limiter.Sound maxSources entered) (source : Addr) (now : Int)
    (positive : 0 < refusal.retryAfter) :
    (limiter.prune now).Sound maxSources
      (entered ++ [⟨source, now, some refusal⟩]) where
  maximum := sound.maximum
  sources := sound.sources.refused source now positive
  tracks := by
    rw [permitted_concat, List.map_append]
    simpa [LoginLimiter.prune] using sound.tracks.dropUntil now
  atMost ordered := by
    rw [permitted_concat]
    simpa using sound.atMost (inOrder_concat ordered).1

theorem LoginLimiter.Sound.locked
    {entered : List (Entered Addr RateLimitError)}
    (sound : limiter.Sound maxSources entered) (source : Addr) (now : Int) :
    (limiter.locked source now).2.Sound maxSources
      (entered ++ [⟨source, now, (limiter.locked source now).1⟩]) := by
  unfold LoginLimiter.locked
  split
  · exact sound.refused source now (retryAfter_pos _ now)
  next short =>
    split
    next refused => exact sound.refused source now (attempt_error refused)
    next windows allowed =>
      rw [sound.maximum] at allowed
      have pruned := sound.tracks.dropUntil now
      refine ⟨sound.maximum, sound.sources.allowed allowed, ?_, ?_⟩
      · rw [permitted_concat, List.map_append]
        simpa [LoginLimiter.prune] using pruned.concat now
      · intro ordered
        obtain ⟨before, latest⟩ := inOrder_concat ordered
        have all : ∀ reading ∈ entered.map Entered.reading ++ [now],
            reading ≤ now := by
          rw [List.forall_mem_append, List.forall_mem_singleton]
          exact ⟨latest, le_refl now⟩
        rw [permitted_concat]
        simpa using (sound.atMost before).concat pruned all
          (Nat.lt_of_not_le short)

theorem DecisionLimiter.accounts_locked
    {maxSessions : Int} {limiter : DecisionLimiter}
    {entered : List (Entered SessionID RateLimitError)}
    (maximum : limiter.maxSessions = maxSessions)
    (accounts : Accounts decisionsPerSessionMinute maxSessions
      limiter.bySession entered) (sessionID : SessionID) (now : Int) :
    (limiter.locked sessionID now).2.maxSessions = maxSessions ∧
      Accounts decisionsPerSessionMinute maxSessions
        (limiter.locked sessionID now).2.bySession
        (entered ++ [⟨sessionID, now, (limiter.locked sessionID now).1⟩]) := by
  unfold DecisionLimiter.locked
  split
  next refused =>
    exact ⟨maximum, accounts.refused sessionID now (attempt_error refused)⟩
  next windows allowed =>
    rw [maximum] at allowed
    exact ⟨maximum, accounts.allowed allowed⟩

theorem newLoginLimiter_sound
    (made : newLoginLimiter maxSources = some limiter) :
    limiter.Sound limiter.maxSources [] := by
  unfold newLoginLimiter at made
  dsimp only at made
  generalize (if maxSources = 0 then defaultMaxLoginSources else maxSources) =
    maximum at made
  split at made
  · cases made
  next valid =>
    have least : 0 ≤ maximum := by omega
    cases made
    exact ⟨rfl, accounts_empty least, tracks_nil, fun _ _ => Nat.zero_le _⟩

theorem newDecisionLimiter_accounts
    {maxSessions : Int} {limiter : DecisionLimiter}
    (made : newDecisionLimiter maxSessions = some limiter) :
    Accounts decisionsPerSessionMinute limiter.maxSessions
      limiter.bySession [] := by
  unfold newDecisionLimiter at made
  dsimp only at made
  generalize (if maxSessions = 0 then defaultMaxDecisionSessions
    else maxSessions) = maximum at made
  split at made
  · cases made
  next valid =>
    have least : 0 ≤ maximum := by omega
    cases made
    exact accounts_empty least

/-- In every interleaving the maps stay bounded and a refusal names a positive
time, and the limits hold in every minute if the calls take the lock in the order
in which they have read the clock. -/
theorem limits_of_inOrder
    (maxSources maxSessions : Int) (login : LoginLimiter)
    (decision : DecisionLimiter)
    (loginMade : newLoginLimiter maxSources = some login)
    (decisionMade : newDecisionLimiter maxSessions = some decision)
    (clock : Int) (logins : List (Guarded.Event Addr))
    (decisions : List (Guarded.Event SessionID)) :
    (InOrder (LoginLimiter.allow.run clock login logins).entered →
      (∀ source : Addr, AtMost 5 limiterWindow
        (permitted (LoginLimiter.allow.run clock login logins).entered
          (· = source.unmap))) ∧
      AtMost 20 limiterWindow
        (permitted (LoginLimiter.allow.run clock login logins).entered
          fun _ => true)) ∧
    (InOrder (DecisionLimiter.allow.run clock decision decisions).entered →
      ∀ session, AtMost 5 limiterWindow
        (permitted (DecisionLimiter.allow.run clock decision decisions).entered
          (· = session))) ∧
    (LoginLimiter.allow.run clock login logins).state.bySource.size ≤
      login.maxSources ∧
    (DecisionLimiter.allow.run clock decision decisions).state.bySession.size ≤
      decision.maxSessions ∧
    (∀ refusal ∈ (LoginLimiter.allow.run clock login logins).refusals,
      0 < refusal.retryAfter) ∧
    ∀ refusal ∈ (DecisionLimiter.allow.run clock decision decisions).refusals,
      0 < refusal.retryAfter := by
  have sound : (LoginLimiter.allow.run clock login logins).state.Sound
      login.maxSources (LoginLimiter.allow.run clock login logins).entered :=
    Guarded.run_keeps
      (motive := LoginLimiter.Sound login.maxSources)
      (newLoginLimiter_sound loginMade)
      (fun limiter entered source now sound => sound.locked source now)
      clock logins
  have accounts :
      (DecisionLimiter.allow.run clock decision decisions).state.maxSessions =
          decision.maxSessions ∧
        Accounts decisionsPerSessionMinute decision.maxSessions
          (DecisionLimiter.allow.run clock decision decisions).state.bySession
          (DecisionLimiter.allow.run clock decision decisions).entered :=
    Guarded.run_keeps
      (motive := fun (limiter : DecisionLimiter) entered =>
        limiter.maxSessions = decision.maxSessions ∧
          Accounts decisionsPerSessionMinute decision.maxSessions
            limiter.bySession entered)
      ⟨rfl, newDecisionLimiter_accounts decisionMade⟩
      (fun limiter entered sessionID now holds =>
        DecisionLimiter.accounts_locked holds.1 holds.2 sessionID now)
      clock decisions
  refine ⟨?_, ?_, sound.sources.bounded, accounts.2.bounded, ?_, ?_⟩
  · intro ordered
    exact ⟨fun source => sound.sources.atMost ordered source.unmap,
      sound.atMost ordered⟩
  · exact fun ordered session => accounts.2.atMost ordered session
  · rw [Guarded.World.refusals, List.forall_mem_append]
    refine ⟨Guarded.turnedAway_of_check ?_ clock login logins,
      sound.sources.positive⟩
    intro source refusal refused
    unfold LoginLimiter.allow at refused
    dsimp only at refused
    split at refused <;> cases refused
    decide
  · rw [Guarded.World.refusals, List.forall_mem_append]
    refine ⟨Guarded.turnedAway_of_check ?_ clock decision decisions,
      accounts.2.positive⟩
    intro sessionID refusal refused
    unfold DecisionLimiter.allow at refused
    dsimp only at refused
    split at refused <;> cases refused
    decide

def sampleSource : Addr := .v4 ⟨203, 0, 113, 7⟩

def mappedSource : Addr := .v6 0 0xFFFFCB007107 []

def freshLimiter : LoginLimiter :=
  { maxSources := 4096, global := [], bySource := .empty }

/-- The address and its IPv6-mapped form share a window. -/
theorem limits_of_inOrder_sample :
    InOrder (LoginLimiter.allow.run 0 freshLimiter
      [.call sampleSource, .advance 1, .call mappedSource, .enter 0,
        .enter 0]).entered ∧
    permitted (LoginLimiter.allow.run 0 freshLimiter
      [.call sampleSource, .advance 1, .call mappedSource, .enter 0,
        .enter 0]).entered (· = mappedSource.unmap) = [0, 1] ∧
    AtMost 5 limiterWindow (permitted (LoginLimiter.allow.run 0 freshLimiter
      [.call sampleSource, .advance 1, .call mappedSource, .enter 0,
        .enter 0]).entered (· = mappedSource.unmap)) := by
  have ordered : InOrder (LoginLimiter.allow.run 0 freshLimiter
      [.call sampleSource, .advance 1, .call mappedSource, .enter 0,
        .enter 0]).entered := by
    decide +kernel
  exact ⟨ordered, by decide +kernel, ((limits_of_inOrder 0 1 freshLimiter
    ⟨1, .empty⟩ rfl rfl 0 _ []).1 ordered).1 mappedSource⟩

/-- Five logins at once.  One that reads the clock just before a minute has
passed is overtaken by one that reads it a nanosecond later and empties the
queue. -/
def overtakenLogins : List (Guarded.Event Addr) :=
  [.call sampleSource, .call sampleSource, .call sampleSource,
    .call sampleSource, .call sampleSource, .enter 0, .enter 0, .enter 0,
    .enter 0, .enter 0, .advance 59999999999, .call sampleSource, .advance 1,
    .call sampleSource, .enter 1, .enter 0]

/-- Six logins of one source within a minute. -/
theorem overtakenLogins_exceed :
    newLoginLimiter 0 = some freshLimiter ∧
    (permitted (LoginLimiter.allow.run 0 freshLimiter overtakenLogins).entered
        (· = sampleSource.unmap)).countP (fun instant =>
          59999999999 - limiterWindow < instant ∧ instant ≤ 59999999999) = 6 :=
  ⟨rfl, by decide +kernel⟩

end SentinelFlow.AdminAuth
