import ArbitrageEngine.Risk.KillSwitch

/-!
# The kill switch across crashes and restarts

The kill switch's host is its file and the running process. `Activate` and `Deactivate` end in
`persistState`, an `os.WriteFile` of the whole record: the file is truncated, then written. A
crash during that write leaves any prefix of the new content, the empty file included; a restart
runs `NewKillSwitch` on whatever the file holds.

Along runs in which no write is cut short, a crash and a restart at any point restore the switch
that was running (`Host.crash_restart_restores`). `loadState` keeps the zero switch, inactive,
when the file does not decode. The periodic PnL check
activates the switch again every second while the loss stays at or beyond the cap, so a persisted
active switch is rewritten often, and a crash in one of those writes restores the switch inactive
(`crash_in_reactivation_restores_inactive`).
-/

set_option autoImplicit false

namespace ArbitrageEngine.Risk

open ArbitrageEngine.Encoding

/-- The file at the switch's path (`none` when absent) and the running switch (`none` while the
process is down). -/
structure Host where
  path : String
  file : Option (List Char)
  proc : Option KillSwitch

/-- What can happen to the host. The write that ends `Activate` or `Deactivate` completes when
`cut` is `none`; `some k` is a crash after the truncation and the first `k` characters. -/
inductive HostEvent where
  | activate (reason : String) (now : Nat) (cut : Option Nat)
  | deactivate (cut : Option Nat)
  | crash
  | restart

/-- `os.WriteFile` of `content`, cut short after `k` characters by a crash. -/
def writeFile (content : List Char) : Option Nat → List Char
  | none => content
  | some k => content.take k

/-- The switch `ks` set in memory and persisted; a crash in the write stops the process. A record
that does not marshal is not written. -/
def Host.persist (h : Host) (ks : KillSwitch) (cut : Option Nat) : Host :=
  match ks.persistState with
  | none => { h with proc := some ks }
  | some content =>
    { h with file := some (writeFile content cut), proc := if cut.isSome then none else some ks }

/-- One event; `Activate` and `Deactivate` need a running process. -/
def Host.step (h : Host) : HostEvent → Host
  | .activate reason now cut =>
    match h.proc with
    | some ks => h.persist (ks.activate reason now) cut
    | none => h
  | .deactivate cut =>
    match h.proc with
    | some ks => h.persist ks.deactivate cut
    | none => h
  | .crash => { h with proc := none }
  | .restart => { h with proc := some (newKillSwitch h.path h.file) }

/-- A sequence of events. -/
def Host.run (h : Host) (evs : List HostEvent) : Host := evs.foldl Host.step h

/-- A first start on the file as it is. -/
def Host.boot (path : String) (file : Option (List Char)) : Host :=
  ⟨path, file, some (newKillSwitch path file)⟩

/-- A complete write leaves the record of the switch in memory. -/
theorem Host.persist_complete (h : Host) (ks : KillSwitch) (content : List Char)
    (hc : ks.persistState = some content) :
    h.persist ks none = { h with file := some content, proc := some ks } := by
  unfold Host.persist
  rw [hc]
  rfl

/-! ## Runs without a torn write

A crash inside `os.WriteFile` can lose the record (above); where every write completes, the file
always holds the record of the running switch (`Host.Durable`), so a crash and a restart at any
point bring the switch back (`Host.crash_restart_restores`). The invariant needs one more thing
of the events: a record is written only when its activation time has a text, so activations
happen before year 10000. -/

/-- An event whose write, if it makes one, completes, and whose activation time marshals. -/
def HostEvent.Clean : HostEvent → Prop
  | .activate _ now cut => cut = none ∧ (now : ℤ) < marshalLimit
  | .deactivate cut => cut = none
  | .crash => True
  | .restart => True

instance : DecidablePred HostEvent.Clean
  | .activate _ now cut => inferInstanceAs (Decidable (cut = none ∧ (now : ℤ) < marshalLimit))
  | .deactivate cut => inferInstanceAs (Decidable (cut = none))
  | .crash => inferInstanceAs (Decidable True)
  | .restart => inferInstanceAs (Decidable True)

/-- A file the process could have left with complete writes only: none, or a whole record. -/
def FileComplete (file : Option (List Char)) : Prop :=
  file = none ∨ ∃ st content, marshalState st = some content ∧ file = some content

/-- The host invariant of runs without torn writes: the file is complete, and a running switch
marshals and is the switch a restart would load. -/
structure Host.Durable (h : Host) : Prop where
  file : FileComplete h.file
  proc : ∀ ks, h.proc = some ks →
    ks.persistState.isSome ∧ (newKillSwitch h.path h.file).toState = ks.toState

/-- A switch loaded from a complete file can be persisted. -/
theorem newKillSwitch_persistState_isSome (path : String) (file : Option (List Char))
    (hf : FileComplete file) : (newKillSwitch path file).persistState.isSome := by
  rcases hf with rfl | ⟨st, content, hc, rfl⟩
  · show (marshalState KillSwitchState.zero).isSome = true
    decide
  · show (marshalState (newKillSwitch path (some content)).toState).isSome
    rw [newKillSwitch, KillSwitch.loadState_marshalState _ st content hc, hc]
    rfl

/-- A complete write of a record that marshals establishes the invariant. -/
theorem Host.persist_durable (h : Host) (ks : KillSwitch) (hm : ks.persistState.isSome) :
    (h.persist ks none).Durable := by
  obtain ⟨content, hc⟩ := Option.isSome_iff_exists.mp hm
  rw [Host.persist_complete h ks content hc]
  refine ⟨.inr ⟨_, _, hc, rfl⟩, fun ks' hk => ?_⟩
  cases hk
  exact ⟨hm, KillSwitch.loadState_marshalState _ _ content hc⟩

/-- Every clean event keeps the invariant. -/
theorem Host.step_durable (h : Host) (ev : HostEvent) (hc : ev.Clean) (hd : h.Durable) :
    (h.step ev).Durable := by
  cases ev with
  | activate reason now cut =>
    obtain ⟨rfl, hlt⟩ := hc
    cases hp : h.proc with
    | none => simpa [Host.step, hp] using hd
    | some ks =>
      simp only [Host.step, hp]
      exact Host.persist_durable _ _ ((KillSwitch.persistState_isSome _).trans
        (formatRFC3339_isSome _ (Int.natCast_nonneg now) hlt))
  | deactivate cut =>
    cases hc
    cases hp : h.proc with
    | none => simpa [Host.step, hp] using hd
    | some ks =>
      simp only [Host.step, hp]
      exact Host.persist_durable _ _ ((KillSwitch.persistState_isSome _).trans
        ((KillSwitch.persistState_isSome ks).symm.trans (hd.proc ks hp).1))
  | crash => exact ⟨hd.file, fun ks hk => nomatch hk⟩
  | restart =>
    refine ⟨hd.file, fun ks hk => ?_⟩
    cases hk
    exact ⟨newKillSwitch_persistState_isSome _ _ hd.file, rfl⟩

/-- So does every run of clean events. -/
theorem Host.run_durable (h : Host) (evs : List HostEvent) (hc : ∀ ev ∈ evs, ev.Clean)
    (hd : h.Durable) : (h.run evs).Durable := by
  induction evs generalizing h with
  | nil => exact hd
  | cons ev evs ih =>
    exact ih (h.step ev) (fun e he => hc e (List.mem_cons_of_mem _ he))
      (h.step_durable ev (hc ev (List.mem_cons_self _ _)) hd)

/-- A first start on a complete file satisfies the invariant. -/
theorem Host.boot_durable (path : String) (file : Option (List Char)) (hf : FileComplete file) :
    (Host.boot path file).Durable :=
  ⟨hf, fun ks hk => by cases hk; exact ⟨newKillSwitch_persistState_isSome path file hf, rfl⟩⟩

/-- **Without a torn write the kill switch is durable.** From a first start on an absent file or a
complete record, along any sequence of activations before year 10000, deactivations, crashes and
restarts in which no crash cuts a write short, a crash followed by a restart at any point brings
back the record of the switch that was running. -/
theorem Host.crash_restart_restores (path : String) (file : Option (List Char))
    (hf : FileComplete file) (evs : List HostEvent) (hc : ∀ ev ∈ evs, ev.Clean) (ks : KillSwitch)
    (hp : ((Host.boot path file).run evs).proc = some ks) :
    ((((Host.boot path file).run evs).step .crash).step .restart).proc.map KillSwitch.toState =
      some ks.toState := by
  have hd := Host.run_durable _ evs hc (Host.boot_durable path file hf)
  simp only [Host.step, Option.map_some']
  rw [(hd.proc ks hp).2]

/-- A first start with no file, an activation, a deactivation and a second activation, all
written in full: a crash and a restart bring back the second activation's record. -/
theorem crash_restart_restores_reactivation :
    FileComplete none ∧
      (∀ ev ∈ [HostEvent.activate "daily PnL breach: -12600" 1700000000000000000 none,
        .deactivate none, .activate "manual halt" 1700000100000000000 none], ev.Clean) ∧
      ((((Host.boot "data/killswitch.json" none).run
        [.activate "daily PnL breach: -12600" 1700000000000000000 none, .deactivate none,
          .activate "manual halt" 1700000100000000000 none]).step .crash).step
          .restart).proc.map KillSwitch.toState =
        some ⟨true, "manual halt", 1700000100000000000⟩ :=
  ⟨.inl rfl, by decide, Host.crash_restart_restores _ none (.inl rfl) _ (by decide)
    ⟨true, "manual halt", 1700000100000000000, "data/killswitch.json"⟩ rfl⟩

/-- A loss at the cap activates and persists the switch, and the next periodic check activates
it again; that second write is cut after ten characters by a crash, and the process restarts. -/
def reactivationCrash : Host :=
  (Host.boot "data/killswitch.json" none).run
    [.activate "daily PnL breach: -12600" 1700000000000000000 none,
     .activate "daily PnL breach: -12600" 1700000001000000000 (some 10),
     .restart]

/-- After the first activation a restart sees the switch active; after the crash in the second
write, the file exists, does not decode, and the restart restores the switch inactive. -/
theorem crash_in_reactivation_restores_inactive :
    ((Host.boot "data/killswitch.json" none).run
        [.activate "daily PnL breach: -12600" 1700000000000000000 none, .restart]).proc.map
        (·.active) = some true ∧
      reactivationCrash.file.isSome = true ∧ reactivationCrash.file.bind unmarshalState = none ∧
      reactivationCrash.proc.map (·.active) = some false := by decide

end ArbitrageEngine.Risk
