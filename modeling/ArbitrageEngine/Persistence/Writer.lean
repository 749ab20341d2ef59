import Mathlib.Data.List.Basic

/-!
# The asynchronous writer

`persistence.AsyncWriter` hands the engine's writes to its two stores from two goroutines. `Write`
sends a risk checkpoint on `riskCh`, of capacity 100, and waits while that channel is full; it
offers any other write to `writeCh`, of capacity `bufferSize`, and drops it with a warning when
that channel is full. `processWrites` and `processRiskCheckpoints` receive their channel's
requests in order and pass each to `handleWrite`. `handleWrite` sends a checkpoint to the SQLite
store, and a trade, a cycle or a risk event to the PostgreSQL store, each only when that store is
configured. It logs "unknown write type" for a PnL record or a config audit record. `Stop` closes
both channels: a later `Write` or `Stop` panics, and the consumers drain what is left.

An interleaving of the producers' writes, the consumers' iterations with the stores' answers, and
`Stop` is a list of events, and `AsyncWriter.run` executes it. Every step keeps the buffers within
their capacities and each channel's requests of its own kind (`AsyncWriter.Inv.step`). Along every
run:
- with a SQLite store, the checkpoints written are, in order, the checkpoints handed to the store
  followed by those still queued, whatever the store answers: none is lost, duplicated or
  reordered, and none is retried (`newAsyncWriter_run_checkpoints`);
- every other write is dropped with a warning, handled once, or still queued, and what its
  handling leaves is never duplicated or reordered (`newAsyncWriter_run_nonCritical`).

The risk consumer drains every queued checkpoint, also after `Stop` (`AsyncWriter.drain_riskCh`).
-/

set_option autoImplicit false

namespace ArbitrageEngine.Persistence

/-- `persistence.WriteType`. -/
inductive WriteType where
  | trade
  | cycle
  | pnl
  | riskEvent
  | configAudit
  | riskCheckpoint
  deriving DecidableEq, Repr

/-- `persistence.WriteRequest`; the `interface{}` payload is a value of any type `α`. -/
structure WriteRequest (α : Type) where
  type : WriteType
  payload : α
  deriving DecidableEq, Repr

/-- The store methods `handleWrite` calls: `SQLiteStore.WriteRiskCheckpoint`, and
`PostgresStore.WriteTrade`, `WriteCycle` and `WriteRiskEvent`. -/
inductive StoreCall (α : Type) where
  | writeRiskCheckpoint (payload : α)
  | writeTrade (payload : α)
  | writeCycle (payload : α)
  | writeRiskEvent (payload : α)
  deriving DecidableEq, Repr

/-- What the writer does outside its channels: a store call, an error log, or a warning with the
write type it names. -/
inductive Effect (α : Type) where
  | store (call : StoreCall α)
  | logError (msg : String)
  | logWarn (msg : String) (type : WriteType)
  deriving DecidableEq, Repr

/-- `persistence.AsyncWriter`: the requests buffered on `writeCh` and `riskCh`, the capacity of
`writeCh`, whether each store is configured (a non-nil pointer), and whether `Stop` has closed the
channels. The logger and the `done` channel, from which nothing receives, are left out. -/
structure AsyncWriter (α : Type) where
  writeCh : List (WriteRequest α)
  riskCh : List (WriteRequest α)
  bufferSize : ℕ
  hasSqliteStore : Bool
  hasPostgresStore : Bool
  closed : Bool

/-- The capacity `NewAsyncWriter` gives `riskCh`. -/
def riskChCapacity : ℕ := 100

variable {α : Type}

/-- `NewAsyncWriter`; `none` is the panic of `make` on a negative buffer size. -/
def newAsyncWriter (hasSqliteStore hasPostgresStore : Bool) (bufferSize : ℤ) :
    Option (AsyncWriter α) :=
  if bufferSize < 0 then none
  else some ⟨[], [], bufferSize.toNat, hasSqliteStore, hasPostgresStore, false⟩

/-- One store write of `handleWrite`: the call when the store is configured, followed by the
error log when the store answers with an error. -/
def storeWrite (configured : Bool) (call : StoreCall α) (msg : String) (fails : Bool) :
    List (Effect α) :=
  if configured then .store call :: (if fails then [.logError msg] else []) else []

/-- `handleWrite`; `fails` is whether the store answers with an error. -/
def AsyncWriter.handleWrite (w : AsyncWriter α) (req : WriteRequest α) (fails : Bool) :
    List (Effect α) :=
  match req.type with
  | .riskCheckpoint => storeWrite w.hasSqliteStore (.writeRiskCheckpoint req.payload)
      "failed to write risk checkpoint" fails
  | .trade => storeWrite w.hasPostgresStore (.writeTrade req.payload) "failed to write trade" fails
  | .cycle => storeWrite w.hasPostgresStore (.writeCycle req.payload) "failed to write cycle" fails
  | .riskEvent => storeWrite w.hasPostgresStore (.writeRiskEvent req.payload)
      "failed to write risk event" fails
  | _ => [.logWarn "unknown write type" req.type]

/-- Why an action cannot be taken: its goroutine waits on a channel, or it panics. -/
inductive Stuck where
  | waits
  | panics
  deriving DecidableEq, Repr

/-- `Write`. A send on a closed channel panics, also inside a `select`. -/
def AsyncWriter.write (w : AsyncWriter α) (req : WriteRequest α) :
    Except Stuck (AsyncWriter α × List (Effect α)) :=
  if w.closed then .error .panics
  else if req.type = .riskCheckpoint then
    if w.riskCh.length < riskChCapacity then .ok ({ w with riskCh := w.riskCh ++ [req] }, [])
    else .error .waits
  else if w.writeCh.length < w.bufferSize then .ok ({ w with writeCh := w.writeCh ++ [req] }, [])
  else .ok (w, [.logWarn "write channel full, dropping non-critical write" req.type])

/-- The writer's two channels. -/
inductive Chan where
  | writeCh
  | riskCh
  deriving DecidableEq, Repr

/-- The requests buffered on a channel. -/
def AsyncWriter.buffered (w : AsyncWriter α) : Chan → List (WriteRequest α)
  | .writeCh => w.writeCh
  | .riskCh => w.riskCh

/-- The writer with a channel's buffer replaced. -/
def AsyncWriter.setBuffered (w : AsyncWriter α) : Chan → List (WriteRequest α) → AsyncWriter α
  | .writeCh, q => { w with writeCh := q }
  | .riskCh, q => { w with riskCh := q }

/-- One iteration of a consumer's loop `for req := range ch { w.handleWrite(req) }`: the oldest
buffered request is handled. On an empty channel the loop waits, or ends once it is closed. -/
def AsyncWriter.consume (w : AsyncWriter α) (ch : Chan) (fails : Bool) :
    Except Stuck (AsyncWriter α × List (Effect α)) :=
  match w.buffered ch with
  | [] => .error .waits
  | req :: rest => .ok (w.setBuffered ch rest, w.handleWrite req fails)

/-- One iteration of `processWrites`. -/
def AsyncWriter.processWrites (w : AsyncWriter α) (fails : Bool) :
    Except Stuck (AsyncWriter α × List (Effect α)) :=
  w.consume .writeCh fails

/-- One iteration of `processRiskCheckpoints`. -/
def AsyncWriter.processRiskCheckpoints (w : AsyncWriter α) (fails : Bool) :
    Except Stuck (AsyncWriter α × List (Effect α)) :=
  w.consume .riskCh fails

/-- `Stop`; closing a closed channel panics. -/
def AsyncWriter.stop (w : AsyncWriter α) : Except Stuck (AsyncWriter α × List (Effect α)) :=
  if w.closed then .error .panics else .ok ({ w with closed := true }, [])

/-- An action of the writer's goroutines: a producer's `Write`, an iteration of `processWrites`
or of `processRiskCheckpoints` with the store's answer, or `Stop`. -/
inductive Event (α : Type) where
  | write (req : WriteRequest α)
  | processWrite (fails : Bool)
  | processRiskCheckpoint (fails : Bool)
  | stop

/-- One action. -/
def AsyncWriter.step (w : AsyncWriter α) : Event α → Except Stuck (AsyncWriter α × List (Effect α))
  | .write req => w.write req
  | .processWrite fails => w.processWrites fails
  | .processRiskCheckpoint fails => w.processRiskCheckpoints fails
  | .stop => w.stop

/-- An interleaving of actions, with the effects in the order they happen. -/
def AsyncWriter.run (w : AsyncWriter α) : List (Event α) →
    Except Stuck (AsyncWriter α × List (Effect α))
  | [] => .ok (w, [])
  | e :: es =>
    match w.step e with
    | .error err => .error err
    | .ok (w', fx) =>
      match w'.run es with
      | .error err => .error err
      | .ok (w'', fx') => .ok (w'', fx ++ fx')

/-! ## What a step can do -/

section Steps

variable {w w' w'' : AsyncWriter α} {e : Event α} {fx : List (Effect α)}

/-- Everything a successful action does: a checkpoint queued on `riskCh` with room left, another
write queued on `writeCh` with room left or dropped with the warning on a full `writeCh`, the
oldest request of a channel handled, or the channels closed. -/
theorem AsyncWriter.step_eq_ok (h : w.step e = .ok (w', fx)) :
    (∃ req, e = .write req ∧ w.closed = false ∧ req.type = .riskCheckpoint ∧
      w.riskCh.length < riskChCapacity ∧ w' = { w with riskCh := w.riskCh ++ [req] } ∧ fx = []) ∨
    (∃ req, e = .write req ∧ w.closed = false ∧ req.type ≠ .riskCheckpoint ∧
      w.writeCh.length < w.bufferSize ∧ w' = { w with writeCh := w.writeCh ++ [req] } ∧ fx = []) ∨
    (∃ req, e = .write req ∧ w.closed = false ∧ req.type ≠ .riskCheckpoint ∧
      w.bufferSize ≤ w.writeCh.length ∧ w' = w ∧
      fx = [.logWarn "write channel full, dropping non-critical write" req.type]) ∨
    (∃ fails req rest, e = .processWrite fails ∧ w.writeCh = req :: rest ∧
      w' = { w with writeCh := rest } ∧ fx = w.handleWrite req fails) ∨
    (∃ fails req rest, e = .processRiskCheckpoint fails ∧ w.riskCh = req :: rest ∧
      w' = { w with riskCh := rest } ∧ fx = w.handleWrite req fails) ∨
    (e = .stop ∧ w.closed = false ∧ w' = { w with closed := true } ∧ fx = []) := by
  cases e with
  | write req =>
    simp only [AsyncWriter.step, AsyncWriter.write] at h
    split_ifs at h with hc hcp hlen hlen <;> cases h
    · exact .inl ⟨req, rfl, by simpa using hc, hcp, hlen, rfl, rfl⟩
    · exact .inr (.inl ⟨req, rfl, by simpa using hc, hcp, hlen, rfl, rfl⟩)
    · exact .inr (.inr (.inl ⟨req, rfl, by simpa using hc, hcp, by omega, rfl, rfl⟩))
  | processWrite fails =>
    simp only [AsyncWriter.step, AsyncWriter.processWrites, AsyncWriter.consume,
      AsyncWriter.buffered] at h
    split at h
    · cases h
    · cases h
      exact .inr (.inr (.inr (.inl ⟨fails, _, _, rfl, ‹_›, rfl, rfl⟩)))
  | processRiskCheckpoint fails =>
    simp only [AsyncWriter.step, AsyncWriter.processRiskCheckpoints, AsyncWriter.consume,
      AsyncWriter.buffered] at h
    split at h
    · cases h
    · cases h
      exact .inr (.inr (.inr (.inr (.inl ⟨fails, _, _, rfl, ‹_›, rfl, rfl⟩))))
  | stop =>
    simp only [AsyncWriter.step, AsyncWriter.stop] at h
    split_ifs at h with hc
    cases h
    exact .inr (.inr (.inr (.inr (.inr ⟨rfl, by simpa using hc, rfl, rfl⟩))))

/-- An action changes neither the capacity of `writeCh` nor the stores. -/
theorem AsyncWriter.step_config (h : w.step e = .ok (w', fx)) :
    w'.bufferSize = w.bufferSize ∧ w'.hasSqliteStore = w.hasSqliteStore ∧
      w'.hasPostgresStore = w.hasPostgresStore := by
  rcases AsyncWriter.step_eq_ok h with ⟨_, -, -, -, -, rfl, -⟩ | ⟨_, -, -, -, -, rfl, -⟩ |
    ⟨_, -, -, -, -, rfl, -⟩ | ⟨_, _, _, -, -, rfl, -⟩ | ⟨_, _, _, -, -, rfl, -⟩ | ⟨-, -, rfl, -⟩ <;>
    exact ⟨rfl, rfl, rfl⟩

theorem AsyncWriter.run_cons_eq_ok {es : List (Event α)} :
    w.run (e :: es) = .ok (w'', fx) ↔
      ∃ w' fx₁ fx₂, w.step e = .ok (w', fx₁) ∧ w'.run es = .ok (w'', fx₂) ∧ fx = fx₁ ++ fx₂ := by
  simp only [AsyncWriter.run]
  constructor
  · intro h
    split at h
    · cases h
    · split at h
      · cases h
      · cases h
        exact ⟨_, _, _, ‹_›, ‹_›, rfl⟩
  · rintro ⟨w', fx₁, fx₂, h₁, h₂, rfl⟩
    simp only [h₁, h₂]

end Steps

/-! ## The channels' invariant -/

/-- Each buffer within its capacity; `riskCh` holds only checkpoints and `writeCh` none. -/
structure AsyncWriter.Inv (w : AsyncWriter α) : Prop where
  riskCh_checkpoint : ∀ req ∈ w.riskCh, req.type = .riskCheckpoint
  writeCh_noncritical : ∀ req ∈ w.writeCh, req.type ≠ .riskCheckpoint
  riskCh_length_le : w.riskCh.length ≤ riskChCapacity
  writeCh_length_le : w.writeCh.length ≤ w.bufferSize

theorem newAsyncWriter_inv {hasSqliteStore hasPostgresStore : Bool} {bufferSize : ℤ}
    {w : AsyncWriter α} (h : newAsyncWriter hasSqliteStore hasPostgresStore bufferSize = some w) :
    w.Inv := by
  simp only [newAsyncWriter] at h
  split_ifs at h
  cases h
  exact ⟨nofun, nofun, Nat.zero_le _, Nat.zero_le _⟩

section Invariant

variable {w w' : AsyncWriter α} {e : Event α} {fx : List (Effect α)}

theorem AsyncWriter.Inv.step (hi : w.Inv) (h : w.step e = .ok (w', fx)) : w'.Inv := by
  rcases AsyncWriter.step_eq_ok h with ⟨req, -, -, hcp, hlen, rfl, -⟩ |
    ⟨req, -, -, hcp, hlen, rfl, -⟩ | ⟨_, -, -, -, -, rfl, -⟩ | ⟨_, req, rest, -, hq, rfl, -⟩ |
    ⟨_, req, rest, -, hq, rfl, -⟩ | ⟨-, -, rfl, -⟩
  · refine ⟨fun r hr => ?_, hi.writeCh_noncritical, ?_, hi.writeCh_length_le⟩
    · rcases List.mem_append.mp hr with hr | hr
      · exact hi.riskCh_checkpoint r hr
      · rw [List.mem_singleton.mp hr]
        exact hcp
    · simp only [List.length_append, List.length_singleton]
      omega
  · refine ⟨hi.riskCh_checkpoint, fun r hr => ?_, hi.riskCh_length_le, ?_⟩
    · rcases List.mem_append.mp hr with hr | hr
      · exact hi.writeCh_noncritical r hr
      · rw [List.mem_singleton.mp hr]
        exact hcp
    · simp only [List.length_append, List.length_singleton]
      omega
  · exact hi
  · have hlen := hi.writeCh_length_le
    rw [hq, List.length_cons] at hlen
    refine ⟨hi.riskCh_checkpoint, fun r hr => hi.writeCh_noncritical r (hq ▸ .tail _ hr),
      hi.riskCh_length_le, ?_⟩
    show rest.length ≤ w.bufferSize
    omega
  · have hlen := hi.riskCh_length_le
    rw [hq, List.length_cons] at hlen
    refine ⟨fun r hr => hi.riskCh_checkpoint r (hq ▸ .tail _ hr), hi.writeCh_noncritical, ?_,
      hi.writeCh_length_le⟩
    show rest.length ≤ riskChCapacity
    omega
  · exact ⟨hi.riskCh_checkpoint, hi.writeCh_noncritical, hi.riskCh_length_le,
      hi.writeCh_length_le⟩

end Invariant

theorem newAsyncWriter_eq_some {hasSqliteStore hasPostgresStore : Bool} {bufferSize : ℤ}
    {w : AsyncWriter α} :
    newAsyncWriter hasSqliteStore hasPostgresStore bufferSize = some w ↔
      0 ≤ bufferSize ∧ w = ⟨[], [], bufferSize.toNat, hasSqliteStore, hasPostgresStore, false⟩ := by
  simp only [newAsyncWriter]
  split_ifs with h
  · exact ⟨nofun, fun h' => absurd h'.1 (by omega)⟩
  · have h0 : 0 ≤ bufferSize := by omega
    simp only [Option.some.injEq, h0, true_and]
    exact eq_comm

/-! ## Risk checkpoints: none lost, duplicated or reordered -/

/-- The payload of a checkpoint write. -/
def Event.checkpoint? : Event α → Option α
  | .write req => if req.type = .riskCheckpoint then some req.payload else none
  | _ => none

/-- The payload of a checkpoint handed to the SQLite store. -/
def Effect.checkpointStored? : Effect α → Option α
  | .store (.writeRiskCheckpoint payload) => some payload
  | _ => none

theorem storeWrite_filterMap {β : Type} (f : Effect α → Option β) (configured : Bool)
    (call : StoreCall α) (msg : String) (fails : Bool) (hf : f (.logError msg) = none) :
    (storeWrite configured call msg fails).filterMap f =
      if configured then (f (.store call)).toList else [] := by
  cases configured <;> cases fails <;> cases hc : f (.store call) <;> simp [storeWrite, hf, hc]

theorem AsyncWriter.handleWrite_checkpointStored (w : AsyncWriter α) (req : WriteRequest α)
    (fails : Bool) :
    (w.handleWrite req fails).filterMap Effect.checkpointStored? =
      if req.type = .riskCheckpoint ∧ w.hasSqliteStore = true then [req.payload] else [] := by
  obtain ⟨type, payload⟩ := req
  cases type <;>
    simp [AsyncWriter.handleWrite, storeWrite_filterMap, Effect.checkpointStored?]

section Checkpoints

variable {w w' : AsyncWriter α} {e : Event α} {fx : List (Effect α)}

theorem AsyncWriter.step_checkpoints (hi : w.Inv) (hs : w.hasSqliteStore = true)
    (h : w.step e = .ok (w', fx)) :
    w.riskCh.map (·.payload) ++ [e].filterMap Event.checkpoint? =
      fx.filterMap Effect.checkpointStored? ++ w'.riskCh.map (·.payload) := by
  rcases AsyncWriter.step_eq_ok h with ⟨req, rfl, -, hcp, -, rfl, rfl⟩ |
    ⟨req, rfl, -, hcp, -, rfl, rfl⟩ | ⟨req, rfl, -, hcp, -, rfl, rfl⟩ |
    ⟨fails, req, rest, rfl, hq, rfl, rfl⟩ | ⟨fails, req, rest, rfl, hq, rfl, rfl⟩ | ⟨rfl, -, rfl, rfl⟩
  · simp [Event.checkpoint?, hcp]
  · simp [Event.checkpoint?, hcp]
  · simp [Event.checkpoint?, hcp, Effect.checkpointStored?]
  · have := hi.writeCh_noncritical req (hq ▸ List.mem_cons_self _ _)
    simp [Event.checkpoint?, AsyncWriter.handleWrite_checkpointStored, this]
  · have := hi.riskCh_checkpoint req (hq ▸ List.mem_cons_self _ _)
    simp [Event.checkpoint?, AsyncWriter.handleWrite_checkpointStored, this, hs, hq]
  · simp [Event.checkpoint?]

/-- Along every run from a state with a SQLite store, the checkpoints queued and then written are
the checkpoints handed to the store followed by those still queued. -/
theorem AsyncWriter.run_checkpoints (hi : w.Inv) (hs : w.hasSqliteStore = true)
    {es : List (Event α)} (h : w.run es = .ok (w', fx)) :
    w.riskCh.map (·.payload) ++ es.filterMap Event.checkpoint? =
      fx.filterMap Effect.checkpointStored? ++ w'.riskCh.map (·.payload) := by
  induction es generalizing w fx with
  | nil => cases h; simp
  | cons e es ih =>
    obtain ⟨w₁, fx₁, fx₂, h₁, h₂, rfl⟩ := AsyncWriter.run_cons_eq_ok.mp h
    have hs₁ : w₁.hasSqliteStore = true := (AsyncWriter.step_config h₁).2.1.trans hs
    calc w.riskCh.map (·.payload) ++ (e :: es).filterMap Event.checkpoint?
        = (w.riskCh.map (·.payload) ++ [e].filterMap Event.checkpoint?) ++
            es.filterMap Event.checkpoint? := by
          rw [List.append_assoc, ← List.filterMap_append]
          rfl
      _ = fx₁.filterMap Effect.checkpointStored? ++
            (w₁.riskCh.map (·.payload) ++ es.filterMap Event.checkpoint?) := by
          rw [AsyncWriter.step_checkpoints hi hs h₁, List.append_assoc]
      _ = (fx₁ ++ fx₂).filterMap Effect.checkpointStored? ++ w'.riskCh.map (·.payload) := by
          rw [ih (hi.step h₁) hs₁ h₂, List.filterMap_append, List.append_assoc]

end Checkpoints

/-- **No risk checkpoint is lost, duplicated or reordered.** Along every interleaving of writes,
consumer iterations, store answers and `Stop` on a new writer with a SQLite store, the checkpoints
written are, in order, the ones handed to `WriteRiskCheckpoint`, once each whether or not the store
fails, followed by the ones still queued on `riskCh`. -/
theorem newAsyncWriter_run_checkpoints {hasPostgresStore : Bool} {bufferSize : ℤ}
    {w w' : AsyncWriter α} {es : List (Event α)} {fx : List (Effect α)}
    (h₀ : newAsyncWriter true hasPostgresStore bufferSize = some w)
    (h : w.run es = .ok (w', fx)) :
    es.filterMap Event.checkpoint? =
      fx.filterMap Effect.checkpointStored? ++ w'.riskCh.map (·.payload) := by
  obtain ⟨-, rfl⟩ := newAsyncWriter_eq_some.mp h₀
  simpa using AsyncWriter.run_checkpoints (newAsyncWriter_inv h₀) rfl h

/-- A checkpoint whose store write fails is not retried, and one written before `Stop` stays
queued. -/
theorem newAsyncWriter_run_checkpoints_failing_store :
    ∃ (w w' : AsyncWriter ℕ) (fx : List (Effect ℕ)), newAsyncWriter true false 10000 = some w ∧
      w.run [.write ⟨.riskCheckpoint, 1⟩, .processRiskCheckpoint true,
        .write ⟨.riskCheckpoint, 2⟩, .stop] = .ok (w', fx) ∧
      [Event.write ⟨.riskCheckpoint, 1⟩, .processRiskCheckpoint true,
        .write ⟨.riskCheckpoint, 2⟩, .stop].filterMap Event.checkpoint? =
        fx.filterMap Effect.checkpointStored? ++ w'.riskCh.map (·.payload) := by
  have h₀ : (newAsyncWriter true false 10000 : Option (AsyncWriter ℕ)) =
      some ⟨[], [], 10000, true, false, false⟩ := rfl
  obtain ⟨w', fx, h⟩ : ∃ w' fx, (⟨[], [], 10000, true, false, false⟩ : AsyncWriter ℕ).run
      [.write ⟨.riskCheckpoint, 1⟩, .processRiskCheckpoint true,
        .write ⟨.riskCheckpoint, 2⟩, .stop] = .ok (w', fx) := ⟨_, _, rfl⟩
  exact ⟨_, w', fx, h₀, h, newAsyncWriter_run_checkpoints h₀ h⟩

/-! ## Non-critical writes: dropped with a warning, or handled once and in order -/

/-- A non-critical write. -/
def Event.nonCritical? : Event α → Option (WriteRequest α)
  | .write req => if req.type = .riskCheckpoint then none else some req
  | _ => none

/-- What handling a request leaves among the effects: its type, with its payload when it goes to
the PostgreSQL store. -/
def WriteRequest.outcome (req : WriteRequest α) : WriteType × Option α :=
  match req.type with
  | .trade | .cycle | .riskEvent => (req.type, some req.payload)
  | _ => (req.type, none)

/-- The outcome of a handled non-critical request among the effects: a PostgreSQL call, or the
unknown type warning. -/
def Effect.outcome? : Effect α → Option (WriteType × Option α)
  | .store (.writeTrade payload) => some (.trade, some payload)
  | .store (.writeCycle payload) => some (.cycle, some payload)
  | .store (.writeRiskEvent payload) => some (.riskEvent, some payload)
  | .logWarn msg type => if msg = "unknown write type" then some (type, none) else none
  | _ => none

/-- The type of a write dropped on a full `writeCh`. -/
def Effect.dropped? : Effect α → Option WriteType
  | .logWarn msg type =>
    if msg = "write channel full, dropping non-critical write" then some type else none
  | _ => none

theorem AsyncWriter.handleWrite_dropped (w : AsyncWriter α) (req : WriteRequest α) (fails : Bool) :
    (w.handleWrite req fails).filterMap Effect.dropped? = [] := by
  obtain ⟨type, payload⟩ := req
  cases type <;> simp [AsyncWriter.handleWrite, storeWrite_filterMap, Effect.dropped?]

/-- Handling a checkpoint leaves no non-critical outcome. -/
theorem AsyncWriter.handleWrite_outcome_of_checkpoint (w : AsyncWriter α) {req : WriteRequest α}
    (hcp : req.type = .riskCheckpoint) (fails : Bool) :
    (w.handleWrite req fails).filterMap Effect.outcome? = [] := by
  obtain ⟨type, payload⟩ := req
  subst hcp
  simp [AsyncWriter.handleWrite, storeWrite_filterMap, Effect.outcome?]

/-- Handling a request leaves at most its own outcome. -/
theorem AsyncWriter.handleWrite_outcome_sublist (w : AsyncWriter α) (req : WriteRequest α)
    (fails : Bool) : ((w.handleWrite req fails).filterMap Effect.outcome?).Sublist [req.outcome] := by
  obtain ⟨type, payload⟩ := req
  cases type <;> cases w.hasPostgresStore <;>
    simp [AsyncWriter.handleWrite, storeWrite_filterMap, Effect.outcome?, WriteRequest.outcome]

/-- With a PostgreSQL store, handling a non-critical request leaves exactly its outcome. -/
theorem AsyncWriter.handleWrite_outcome (w : AsyncWriter α) {req : WriteRequest α}
    (hp : w.hasPostgresStore = true) (hcp : req.type ≠ .riskCheckpoint) (fails : Bool) :
    (w.handleWrite req fails).filterMap Effect.outcome? = [req.outcome] := by
  obtain ⟨type, payload⟩ := req
  cases type <;>
    simp_all [AsyncWriter.handleWrite, storeWrite_filterMap, Effect.outcome?, WriteRequest.outcome]

section NonCritical

variable {w w' : AsyncWriter α} {e : Event α} {fx : List (Effect α)}

theorem Effect.outcome?_dropped (type : WriteType) :
    (Effect.outcome? (.logWarn "write channel full, dropping non-critical write" type) :
      Option (WriteType × Option α)) = none := by
  simp [Effect.outcome?]

theorem AsyncWriter.step_outcomes (hi : w.Inv) (h : w.step e = .ok (w', fx)) :
    (fx.filterMap Effect.outcome? ++ w'.writeCh.map WriteRequest.outcome).Sublist
      (w.writeCh.map WriteRequest.outcome ++
        ([e].filterMap Event.nonCritical?).map WriteRequest.outcome) := by
  rcases AsyncWriter.step_eq_ok h with ⟨req, rfl, -, hcp, -, rfl, rfl⟩ |
    ⟨req, rfl, -, hcp, -, rfl, rfl⟩ | ⟨req, rfl, -, hcp, -, rfl, rfl⟩ |
    ⟨fails, req, rest, rfl, hq, rfl, rfl⟩ | ⟨fails, req, rest, rfl, hq, rfl, rfl⟩ | ⟨rfl, -, rfl, rfl⟩
  · simp [Event.nonCritical?, hcp]
  · simp [Event.nonCritical?, hcp]
  · simp [Event.nonCritical?, hcp, Effect.outcome?_dropped]
  · rw [hq]
    simpa [Event.nonCritical?] using
      (w.handleWrite_outcome_sublist req fails).append_right (rest.map WriteRequest.outcome)
  · simp [Event.nonCritical?,
      w.handleWrite_outcome_of_checkpoint (hi.riskCh_checkpoint req (hq ▸ List.mem_cons_self _ _))]
  · simp [Event.nonCritical?]

theorem AsyncWriter.step_nonCritical_length (hi : w.Inv) (hp : w.hasPostgresStore = true)
    (h : w.step e = .ok (w', fx)) :
    w.writeCh.length + ([e].filterMap Event.nonCritical?).length =
      (fx.filterMap Effect.outcome?).length + (fx.filterMap Effect.dropped?).length +
        w'.writeCh.length := by
  rcases AsyncWriter.step_eq_ok h with ⟨req, rfl, -, hcp, -, rfl, rfl⟩ |
    ⟨req, rfl, -, hcp, -, rfl, rfl⟩ | ⟨req, rfl, -, hcp, -, rfl, rfl⟩ |
    ⟨fails, req, rest, rfl, hq, rfl, rfl⟩ | ⟨fails, req, rest, rfl, hq, rfl, rfl⟩ | ⟨rfl, -, rfl, rfl⟩
  · simp [Event.nonCritical?, hcp]
  · simp [Event.nonCritical?, hcp]
  · simp [Event.nonCritical?, hcp, Effect.outcome?_dropped, Effect.dropped?]
    omega
  · have hcp := hi.writeCh_noncritical req (hq ▸ List.mem_cons_self _ _)
    simp [Event.nonCritical?, hq, w.handleWrite_outcome hp hcp, AsyncWriter.handleWrite_dropped]
    omega
  · simp [Event.nonCritical?, AsyncWriter.handleWrite_dropped,
      w.handleWrite_outcome_of_checkpoint (hi.riskCh_checkpoint req (hq ▸ List.mem_cons_self _ _))]
  · simp [Event.nonCritical?]

theorem Event.filterMap_cons {β : Type} (f : Event α → Option β) (e : Event α)
    (es : List (Event α)) : (e :: es).filterMap f = [e].filterMap f ++ es.filterMap f := by
  rw [← List.filterMap_append]
  rfl

/-- Along every run, the outcomes of the handled non-critical requests followed by those still
queued are a sublist of the requests queued and then written: none is invented, duplicated or
reordered. -/
theorem AsyncWriter.run_outcomes (hi : w.Inv) {es : List (Event α)} (h : w.run es = .ok (w', fx)) :
    (fx.filterMap Effect.outcome? ++ w'.writeCh.map WriteRequest.outcome).Sublist
      (w.writeCh.map WriteRequest.outcome ++
        (es.filterMap Event.nonCritical?).map WriteRequest.outcome) := by
  induction es generalizing w fx with
  | nil => cases h; simp
  | cons e es ih =>
    obtain ⟨w₁, fx₁, fx₂, h₁, h₂, rfl⟩ := AsyncWriter.run_cons_eq_ok.mp h
    rw [Event.filterMap_cons]
    simp only [List.filterMap_append, List.map_append, List.append_assoc]
    exact ((ih (hi.step h₁) h₂).append_left _).trans
      (by simpa only [List.append_assoc] using (AsyncWriter.step_outcomes hi h₁).append_right _)

/-- With a PostgreSQL store, every non-critical write of a run is accounted for once: dropped with
the warning, handled, or still queued. -/
theorem AsyncWriter.run_nonCritical_length (hi : w.Inv) (hp : w.hasPostgresStore = true)
    {es : List (Event α)} (h : w.run es = .ok (w', fx)) :
    w.writeCh.length + (es.filterMap Event.nonCritical?).length =
      (fx.filterMap Effect.outcome?).length + (fx.filterMap Effect.dropped?).length +
        w'.writeCh.length := by
  induction es generalizing w fx with
  | nil => cases h; simp
  | cons e es ih =>
    obtain ⟨w₁, fx₁, fx₂, h₁, h₂, rfl⟩ := AsyncWriter.run_cons_eq_ok.mp h
    have h₁' := AsyncWriter.step_nonCritical_length hi hp h₁
    have h₂' := ih (hi.step h₁) ((AsyncWriter.step_config h₁).2.2.trans hp) h₂
    rw [Event.filterMap_cons]
    simp only [List.filterMap_append, List.length_append] at h₁' h₂' ⊢
    omega

end NonCritical

/-- **Every non-critical write is dropped with a warning, or handled once and in order.** Along
every interleaving on a new writer with a PostgreSQL store, what the handled trades, cycles, risk
events, PnL records and config audits leave (the store call, or the unknown type warning),
followed by the requests still queued on `writeCh`, is a sublist of the non-critical writes; and
their number is that of the writes less the drop warnings. -/
theorem newAsyncWriter_run_nonCritical {hasSqliteStore : Bool} {bufferSize : ℤ}
    {w w' : AsyncWriter α} {es : List (Event α)} {fx : List (Effect α)}
    (h₀ : newAsyncWriter hasSqliteStore true bufferSize = some w)
    (h : w.run es = .ok (w', fx)) :
    (fx.filterMap Effect.outcome? ++ w'.writeCh.map WriteRequest.outcome).Sublist
        ((es.filterMap Event.nonCritical?).map WriteRequest.outcome) ∧
      (es.filterMap Event.nonCritical?).length =
        (fx.filterMap Effect.outcome?).length + (fx.filterMap Effect.dropped?).length +
          w'.writeCh.length := by
  have hi := newAsyncWriter_inv h₀
  obtain ⟨-, rfl⟩ := newAsyncWriter_eq_some.mp h₀
  exact ⟨by simpa using AsyncWriter.run_outcomes hi h,
    by simpa using AsyncWriter.run_nonCritical_length hi rfl h⟩

/-- On a `writeCh` of capacity 1: a trade queued, a PnL record dropped, the trade stored, a config
audit queued and then warned about. -/
theorem newAsyncWriter_run_nonCritical_one_slot :
    ∃ (w w' : AsyncWriter ℕ) (fx : List (Effect ℕ)), newAsyncWriter false true 1 = some w ∧
      w.run [.write ⟨.trade, 1⟩, .write ⟨.pnl, 2⟩, .processWrite false,
        .write ⟨.configAudit, 3⟩, .processWrite true] = .ok (w', fx) ∧
      (fx.filterMap Effect.outcome? ++ w'.writeCh.map WriteRequest.outcome).Sublist
        (([Event.write ⟨.trade, 1⟩, .write ⟨.pnl, 2⟩, .processWrite false,
          .write ⟨.configAudit, 3⟩, .processWrite true].filterMap Event.nonCritical?).map
            WriteRequest.outcome) ∧
      ([Event.write ⟨.trade, 1⟩, .write ⟨.pnl, 2⟩, .processWrite false,
          .write ⟨.configAudit, 3⟩, .processWrite true].filterMap Event.nonCritical?).length =
        (fx.filterMap Effect.outcome?).length + (fx.filterMap Effect.dropped?).length +
          w'.writeCh.length := by
  have h₀ : (newAsyncWriter false true 1 : Option (AsyncWriter ℕ)) =
      some ⟨[], [], 1, false, true, false⟩ := rfl
  obtain ⟨w', fx, h⟩ : ∃ w' fx, (⟨[], [], 1, false, true, false⟩ : AsyncWriter ℕ).run
      [.write ⟨.trade, 1⟩, .write ⟨.pnl, 2⟩, .processWrite false,
        .write ⟨.configAudit, 3⟩, .processWrite true] = .ok (w', fx) := ⟨_, _, rfl⟩
  exact ⟨_, w', fx, h₀, h, newAsyncWriter_run_nonCritical h₀ h⟩

/-- The actions of the program's writer: `runCheckpointer`'s writes, the only calls of `Write`,
the consumers' iterations, and `Stop` at shutdown. -/
def Event.ofMain : Event α → Bool
  | .write req => req.type = .riskCheckpoint
  | _ => true

/-- **The cold store never receives a write.** With the program's only producer, the
checkpointer, no run on a new writer calls the PostgreSQL store or logs an unknown type. -/
theorem newAsyncWriter_run_ofMain {hasSqliteStore hasPostgresStore : Bool} {bufferSize : ℤ}
    {w w' : AsyncWriter α} {es : List (Event α)} {fx : List (Effect α)}
    (h₀ : newAsyncWriter hasSqliteStore hasPostgresStore bufferSize = some w)
    (hes : ∀ e ∈ es, e.ofMain = true) (h : w.run es = .ok (w', fx)) :
    fx.filterMap Effect.outcome? = [] := by
  have hi := newAsyncWriter_inv h₀
  have hnc : es.filterMap Event.nonCritical? = [] := by
    refine List.filterMap_eq_nil_iff.mpr fun e he => ?_
    have := hes e he
    cases e <;> simp_all [Event.ofMain, Event.nonCritical?]
  obtain ⟨-, rfl⟩ := newAsyncWriter_eq_some.mp h₀
  have := AsyncWriter.run_outcomes hi h
  simp only [hnc, List.map_nil, List.append_nil, List.sublist_nil, List.append_eq_nil] at this
  exact this.1

/-- The program's writer through two checkpoints, one iteration of each consumer, and `Stop`. -/
theorem newAsyncWriter_run_ofMain_checkpointer :
    ∃ (w w' : AsyncWriter ℕ) (fx : List (Effect ℕ)), newAsyncWriter true true 10000 = some w ∧
      (∀ e ∈ [Event.write ⟨.riskCheckpoint, 1⟩, .write ⟨.riskCheckpoint, 2⟩,
        .processRiskCheckpoint false, .stop], e.ofMain = true) ∧
      w.run [.write ⟨.riskCheckpoint, 1⟩, .write ⟨.riskCheckpoint, 2⟩,
        .processRiskCheckpoint false, .stop] = .ok (w', fx) ∧
      fx.filterMap Effect.outcome? = [] := by
  have hes : ∀ e ∈ ([.write ⟨.riskCheckpoint, 1⟩, .write ⟨.riskCheckpoint, 2⟩,
      .processRiskCheckpoint false, .stop] : List (Event ℕ)), e.ofMain = true := by
    simp [Event.ofMain]
  have h₀ : (newAsyncWriter true true 10000 : Option (AsyncWriter ℕ)) =
      some ⟨[], [], 10000, true, true, false⟩ := rfl
  obtain ⟨w', fx, h⟩ : ∃ w' fx, (⟨[], [], 10000, true, true, false⟩ : AsyncWriter ℕ).run
      [.write ⟨.riskCheckpoint, 1⟩, .write ⟨.riskCheckpoint, 2⟩,
        .processRiskCheckpoint false, .stop] = .ok (w', fx) := ⟨_, _, rfl⟩
  exact ⟨_, w', fx, h₀, hes, h, newAsyncWriter_run_ofMain h₀ hes h⟩

/-! ## Draining -/

/-- The risk consumer can take as many iterations as `riskCh` holds requests, and then has
emptied it. -/
theorem AsyncWriter.run_processRiskCheckpoints (w : AsyncWriter α) (answers : List Bool)
    (hlen : answers.length = w.riskCh.length) :
    ∃ w' fx, w.run (answers.map .processRiskCheckpoint) = .ok (w', fx) ∧ w'.riskCh = [] := by
  induction answers generalizing w with
  | nil => exact ⟨w, [], rfl, List.eq_nil_of_length_eq_zero hlen.symm⟩
  | cons a answers ih =>
    cases hq : w.riskCh with
    | nil => simp [hq] at hlen
    | cons r rest =>
      simp only [hq, List.length_cons, Nat.add_right_cancel_iff] at hlen
      obtain ⟨w', fx, h, hw'⟩ := ih { w with riskCh := rest } hlen
      refine ⟨w', w.handleWrite r a ++ fx, AsyncWriter.run_cons_eq_ok.mpr
        ⟨{ w with riskCh := rest }, w.handleWrite r a, fx, ?_, h, rfl⟩, hw'⟩
      simp only [AsyncWriter.step, AsyncWriter.processRiskCheckpoints, AsyncWriter.consume,
        AsyncWriter.buffered, hq]
      rfl

/-- **The risk consumer drains every queued checkpoint**, also after `Stop`: iterations as many as
the queued checkpoints, whatever the store answers, hand each to the SQLite store in order and
leave `riskCh` empty. -/
theorem AsyncWriter.drain_riskCh {w : AsyncWriter α} (hi : w.Inv) (hs : w.hasSqliteStore = true)
    (answers : List Bool) (hlen : answers.length = w.riskCh.length) :
    ∃ w' fx, w.run (answers.map .processRiskCheckpoint) = .ok (w', fx) ∧ w'.riskCh = [] ∧
      fx.filterMap Effect.checkpointStored? = w.riskCh.map (·.payload) := by
  obtain ⟨w', fx, h, hw'⟩ := w.run_processRiskCheckpoints answers hlen
  refine ⟨w', fx, h, hw', ?_⟩
  have hnone : ((answers.map Event.processRiskCheckpoint).filterMap Event.checkpoint? : List α) =
      [] := by
    simp [List.filterMap_map, Function.comp_def, Event.checkpoint?]
  simpa [hnone, hw'] using (AsyncWriter.run_checkpoints hi hs h).symm

/-- Two checkpoints queued at `Stop`, the first of whose store writes fails. -/
theorem drain_riskCh_after_stop :
    let w : AsyncWriter ℕ :=
      ⟨[], [⟨.riskCheckpoint, 1⟩, ⟨.riskCheckpoint, 2⟩], 0, true, false, true⟩
    w.Inv ∧ ∃ w' fx, w.run ([true, false].map .processRiskCheckpoint) = .ok (w', fx) ∧
      w'.riskCh = [] ∧ fx.filterMap Effect.checkpointStored? = w.riskCh.map (·.payload) := by
  intro w
  have hi : w.Inv := ⟨by simp [w], nofun, by simp [w, riskChCapacity], Nat.le_refl 0⟩
  exact ⟨hi, AsyncWriter.drain_riskCh hi rfl [true, false] rfl⟩

end ArbitrageEngine.Persistence
