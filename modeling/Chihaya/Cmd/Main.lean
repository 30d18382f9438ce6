import Mathlib.Data.List.Basic

/-!
# The tracker's run loop

`cmd/chihaya/main.go` runs an instance (`Run`) and loops on signals: `SIGUSR1` reloads it
(`Stop(true)`, then `Start` with the peer store `Stop` returned), `SIGINT` or `SIGTERM` shuts it
down (`Stop(false)`) and returns. `Start` parses the configuration, makes a new stop group with the
metrics server when `MetricsAddr` is set, creates the peer store only when none is passed, builds
the hooks and the logic over the store, and adds the frontends whose address is set; `Stop` stops
the group of frontends, then the logic, then, unless the store is kept, the store, and fails with
`combineErrors` at the first stage that reports errors.

The collaborators (`ParseConfigFile`, `storage.NewStorage`, `HooksFromHookConfigs`, the frontends'
constructors, the stop groups) are not among the modelled sources. What they return on each call is
an input: one `StartOutcome` per `Start`, one `StopOutcome` per `Stop`, carried by the signal that
causes the call, so that the results hold for every behaviour of the collaborators. The store itself
is a value of any type `S`; the model records the calls that create a store, build a logic over
one, and stop one (`Call`).

So the store is created once, by the first `Start`; every reload passes it to the next `Start`,
which builds the logic over that same store; and it is stopped only on shutdown, once, and only when
the frontends and the logic stopped cleanly. The loop returns `nil` only then.

## Main results

* `start_spec`, `start_some`, `stop_keep`, `stop_quit`: what one `Start` and one `Stop` can do;
* `loop_calls`: over any signals, from an instance holding a store, the loop builds logics over
  that store only and stops it at most once, last, on a shutdown; it returns `nil` only then;
* `rootRunCmdFunc_store`: over any signals, the command creates one store, builds every logic over
  it, stops no other store and it at most once, last, and returns `nil` only after stopping it.
-/

namespace Cmd

/-- The parts of the configuration `Start` reads: `MetricsAddr`, `HTTPConfig.Addr` and
`UDPConfig.Addr`. -/
structure Config where
  /-- `MetricsAddr`: where the metrics server listens; empty for none. -/
  metricsAddr : String
  /-- `HTTPConfig.Addr`: where the HTTP frontend listens; empty for none. -/
  httpAddr : String
  /-- `UDPConfig.Addr`: where the UDP frontend listens; empty for none. -/
  udpAddr : String

/-- A member of the stop group of an instance. -/
inductive Member where
  /-- `metrics.NewServer(cfg.MetricsAddr)`. -/
  | metricsServer
  /-- The HTTP frontend. -/
  | httpFrontend
  /-- The UDP frontend. -/
  | udpFrontend
  deriving DecidableEq

/-- What the collaborators of one `Start` return: the parsed configuration or the parse error, the
store `storage.NewStorage` creates or its error (read only when no store is passed), and the errors
of the two `HooksFromHookConfigs` and of the two frontends' constructors. -/
structure StartOutcome (S : Type) where
  /-- What `ParseConfigFile(r.configFilePath)` returns: the parsed config, or its error. -/
  config : Except String Config
  /-- What `storage.NewStorage(cfg.Storage.Name, cfg.Storage.Config)` returns: the new store, or
  its error. -/
  newStorage : Except String S
  /-- The error of `HooksFromHookConfigs(cfg.PreHooks, r.storage)`. -/
  preHooks : Option String
  /-- The error of `HooksFromHookConfigs(cfg.PostHooks, r.storage)`. -/
  postHooks : Option String
  /-- The error of `http.NewFrontend`. -/
  httpFrontend : Option String
  /-- The error of `udp.NewFrontend`. -/
  udpFrontend : Option String

/-- What the stop groups of one `Stop` report: the errors of the frontends and the metrics server,
of the logic, and of the peer store. -/
structure StopOutcome where
  /-- The errors `r.sg.Stop().Wait()` returns, those of the frontends and the metrics server. -/
  frontends : List String
  /-- The errors `r.logic.Stop().Wait()` returns, those of the hooks. -/
  logic : List String
  /-- The errors `r.storage.Stop().Wait()` returns, those of the store. -/
  storage : List String

/-- The calls on the peer store that `Start` and `Stop` make. -/
inductive Call (S : Type) where
  /-- `storage.NewStorage` returned this store. -/
  | newStorage (s : S)
  /-- `middleware.NewLogic` was given this store. -/
  | newLogic (s : S)
  /-- `Stop` was called on this store. -/
  | stopStorage (s : S)
  deriving DecidableEq

/-- `Run`: its peer store and the members of its stop group; its logic is recorded by the
`newLogic` call that built it. -/
structure Run (S : Type) where
  /-- `storage`: the store the run keeps across reloads, once one was created. -/
  storage : Option S
  /-- The members of `sg`. -/
  sg : List Member

/-- A received signal, with what the collaborators return while the loop handles it. -/
inductive Signal (S : Type) where
  /-- `SIGUSR1`: the outcomes of `Stop(true)` and of the `Start` after it. -/
  | reload (stop : StopOutcome) (start : StartOutcome S)
  /-- `SIGINT` or `SIGTERM`: the outcome of `Stop(false)`. -/
  | quit (stop : StopOutcome)

/-- `combineErrors`: the prefix, `": "`, and the errors' texts joined by `"; "`. -/
def combineErrors (pfx : String) (errs : List String) : String :=
  pfx ++ ": " ++ "; ".intercalate errs

variable {S : Type}

/-- The frontends of `Start`: each one whose address is set is constructed and added to the stop
group, and the first constructor's error is returned. -/
def addFrontends (cfg : Config) (out : StartOutcome S) (r : Run S) : Run S × Option String :=
  let http : Run S × Option String :=
    if cfg.httpAddr.isEmpty then (r, none)
    else match out.httpFrontend with
      | some e => (r, some e)
      | none => ({ r with sg := r.sg ++ [.httpFrontend] }, none)
  match http with
  | (r, some e) => (r, some e)
  | (r, none) =>
    if cfg.udpAddr.isEmpty then (r, none)
    else match out.udpFrontend with
      | some e => (r, some e)
      | none => ({ r with sg := r.sg ++ [.udpFrontend] }, none)

/-- The store `Start` works with: the one passed, or else the one `storage.NewStorage` creates, with
the call that created it. -/
def createStorage (out : StartOutcome S) : Option S → Except String (S × List (Call S))
  | some s => .ok (s, [])
  | none =>
    match out.newStorage with
    | .ok s => .ok (s, [.newStorage s])
    | .error e => .error ("failed to create storage: " ++ e)

/-- `Start(ps)`: the instance after it, its calls on the store, and its error. -/
def Run.start (r : Run S) (out : StartOutcome S) (ps : Option S) :
    Run S × List (Call S) × Option String :=
  match out.config with
  | .error e => (r, [], some ("failed to read config: " ++ e))
  | .ok cfg =>
    let r := { r with sg := if cfg.metricsAddr.isEmpty then [] else [.metricsServer] }
    match createStorage out ps with
    | .error e => (r, [], some e)
    | .ok (s, created) =>
      let r := { r with storage := some s }
      match out.preHooks, out.postHooks with
      | some e, _ => (r, created, some ("failed to validate hook config: " ++ e))
      | none, some e => (r, created, some ("failed to validate hook config: " ++ e))
      | none, none =>
        let (r, err) := addFrontends cfg out r
        (r, created ++ [.newLogic s], err)

/-- `Stop(keepPeerStore)`: the instance after it, the store it returns, its calls on the store, and
its error. -/
def Run.stop (r : Run S) (out : StopOutcome) (keepPeerStore : Bool) :
    Run S × Option S × List (Call S) × Option String :=
  if out.frontends ≠ [] then
    (r, none, [], some (combineErrors "failed while shutting down frontends" out.frontends))
  else if out.logic ≠ [] then
    (r, none, [], some (combineErrors "failed while shutting down middleware" out.logic))
  else if !keepPeerStore then
    let calls := r.storage.toList.map Call.stopStorage
    if out.storage ≠ [] then
      (r, none, calls, some (combineErrors "failed while shutting down peer store" out.storage))
    else ({ r with storage := none }, none, calls, none)
  else (r, r.storage, [], none)

/-- One turn of the loop of `RootRunCmdFunc`: the instance after the signal, the calls on the
store, and whether the loop goes on (`none`) or returns (`some err`). -/
def Run.handle (r : Run S) : Signal S → Run S × List (Call S) × Option (Option String)
  | .reload so go =>
    let (r, peerStore, c₁, err) := r.stop so true
    match err with
    | some e => (r, c₁, some (some e))
    | none =>
      let (r, c₂, err) := r.start go peerStore
      (r, c₁ ++ c₂, err.map some)
  | .quit so =>
    let (r, _, c, err) := r.stop so false
    (r, c, some err)

/-- The loop of `RootRunCmdFunc` over the signals it receives: its calls on the store, and what it
returns, `none` while it still runs when the signals run out. -/
def Run.loop : Run S → List (Signal S) → List (Call S) × Option (Option String)
  | _, [] => ([], none)
  | r, sig :: sigs =>
    match r.handle sig with
    | (_, c, some err) => (c, some err)
    | (r, c, none) =>
      let (c', res) := r.loop sigs
      (c ++ c', res)

/-- `NewRun`: `Start(nil)` on a fresh instance. -/
def newRun (out : StartOutcome S) : Run S × List (Call S) × Option String :=
  Run.start ⟨none, []⟩ out none

/-- `RootRunCmdFunc`, past reading its flag: `NewRun`, then the loop. -/
def rootRunCmdFunc (out : StartOutcome S) (sigs : List (Signal S)) :
    List (Call S) × Option (Option String) :=
  match newRun out with
  | (_, c, some e) => (c, some (some e))
  | (r, c, none) =>
    let (c', res) := r.loop sigs
    (c ++ c', res)

/-! ## One step -/

theorem addFrontends_storage (cfg : Config) (out : StartOutcome S) (r : Run S) :
    (addFrontends cfg out r).1.storage = r.storage := by
  unfold addFrontends
  split_ifs <;> (try split) <;> (try split) <;> rfl

theorem createStorage_none {out : StartOutcome S} {s : S} {created : List (Call S)}
    (h : createStorage out none = .ok (s, created)) : created = [.newStorage s] := by
  simp only [createStorage] at h
  cases hn : out.newStorage with
  | ok s' =>
    rw [hn] at h
    cases h
    rfl
  | error e =>
    rw [hn] at h
    cases h

/-- What a `Start` can do: fail before it has a store, with no call; or hold the store it was given
or created, with the call that created it, and then fail, or build the logic over that store. -/
theorem start_spec (r : Run S) (out : StartOutcome S) (ps : Option S) :
    ((r.start out ps).2.1 = [] ∧ (r.start out ps).2.2.isSome) ∨
      ∃ s created, createStorage out ps = .ok (s, created) ∧ (r.start out ps).1.storage = some s ∧
        (((r.start out ps).2.1 = created ∧ (r.start out ps).2.2.isSome) ∨
          ((r.start out ps).2.1 = created ++ [.newLogic s])) := by
  unfold Run.start
  split
  · exact .inl ⟨rfl, rfl⟩
  · dsimp only
    split
    · exact .inl ⟨rfl, rfl⟩
    · rename_i s created hc
      refine .inr ⟨s, created, hc, ?_⟩
      split
      · exact ⟨rfl, .inl ⟨rfl, rfl⟩⟩
      · exact ⟨rfl, .inl ⟨rfl, rfl⟩⟩
      · exact ⟨addFrontends_storage _ _ _, .inr rfl⟩

/-- A `Start` given the store `s` builds at most one logic, over `s`; when it succeeds it has built
one and holds `s`. -/
theorem start_some (r : Run S) (out : StartOutcome S) (s : S) :
    ((r.start out (some s)).2.1 = [] ∨ (r.start out (some s)).2.1 = [.newLogic s]) ∧
      ((r.start out (some s)).2.2 = none →
        (r.start out (some s)).2.1 = [.newLogic s] ∧ (r.start out (some s)).1.storage = some s) := by
  rcases start_spec r out (some s) with ⟨hc, herr⟩ | ⟨s', created, ⟨⟩, hst, ⟨hc, herr⟩ | hc⟩
  · exact ⟨.inl hc, fun h => by simp [h] at herr⟩
  · exact ⟨.inl hc, fun h => by simp [h] at herr⟩
  · rw [List.nil_append] at hc
    exact ⟨.inr hc, fun _ => ⟨hc, hst⟩⟩

/-- A `Stop` that keeps the store stops nothing, and when it succeeds it changes nothing and
returns the store. -/
theorem stop_keep (r : Run S) (so : StopOutcome) :
    (r.stop so true).2.2.1 = [] ∧
      ((r.stop so true).2.2.2 = none → (r.stop so true).1 = r ∧ (r.stop so true).2.1 = r.storage) := by
  unfold Run.stop
  split_ifs <;> simp_all

/-- A `Stop` that does not keep the store returns with or without an error, and calls `Stop` on the
store exactly when the frontends and the logic stopped cleanly; it returns `nil` only then. -/
theorem stop_quit (r : Run S) (so : StopOutcome) :
    (r.stop so false).2.2.1 =
        (if so.frontends = [] ∧ so.logic = [] then r.storage.toList.map Call.stopStorage else []) ∧
      ((r.stop so false).2.2.2 = none → so.frontends = [] ∧ so.logic = []) := by
  unfold Run.stop
  by_cases hf : so.frontends = [] <;> by_cases hl : so.logic = [] <;> simp [hf, hl]
  split_ifs <;> simp

/-! ## The loop -/

/-- One turn of the loop from an instance holding `s`: a reload that succeeds builds one logic, over
`s`, and keeps `s`; a turn that returns an error has built at most one logic, over `s`; otherwise
the turn was a shutdown that stopped `s`. -/
theorem handle_spec {r : Run S} {s : S} (hs : r.storage = some s) (sig : Signal S) :
    ((r.handle sig).2.2 = none ∧ (r.handle sig).1.storage = some s ∧
        (r.handle sig).2.1 = [.newLogic s]) ∨
      ((∃ e, (r.handle sig).2.2 = some (some e)) ∧
        ((r.handle sig).2.1 = [] ∨ (r.handle sig).2.1 = [.newLogic s])) ∨
      ((r.handle sig).2.2.isSome ∧ (r.handle sig).2.1 = [.stopStorage s]) := by
  cases sig with
  | reload so go =>
    obtain ⟨hc, hok⟩ := stop_keep r so
    simp only [Run.handle]
    rcases hst : r.stop so true with ⟨r₁, ps, c₁, err⟩
    rw [hst] at hc hok
    dsimp only at hc hok ⊢
    subst hc
    cases err with
    | some e => exact .inr (.inl ⟨⟨e, rfl⟩, .inl rfl⟩)
    | none =>
      obtain ⟨rfl, rfl⟩ := hok rfl
      rw [hs]
      obtain ⟨hc₂, hok₂⟩ := start_some r₁ go s
      cases he : (r₁.start go (some s)).2.2 with
      | none =>
        obtain ⟨hc₂, hst₂⟩ := hok₂ he
        exact .inl ⟨by simp [he], hst₂, by simp [hc₂]⟩
      | some e => exact .inr (.inl ⟨⟨e, by simp [he]⟩, by simpa using hc₂⟩)
  | quit so =>
    obtain ⟨hc, hok⟩ := stop_quit r so
    simp only [Run.handle]
    rcases hst : r.stop so false with ⟨r₁, ps, c₁, err⟩
    rw [hst] at hc hok
    dsimp only at hc hok ⊢
    by_cases hclean : so.frontends = [] ∧ so.logic = []
    · rw [if_pos hclean, hs] at hc
      exact .inr (.inr ⟨rfl, hc⟩)
    · rw [if_neg hclean] at hc
      cases err with
      | none => exact absurd (hok rfl) hclean
      | some e => exact .inr (.inl ⟨⟨e, rfl⟩, .inl hc⟩)

/-- Over any signals, from an instance holding `s`, the loop builds logics over `s` only, and stops
`s` at most once, as its last call, after which it has returned; it returns `nil` only then. -/
theorem loop_calls {r : Run S} {s : S} (hs : r.storage = some s) (sigs : List (Signal S)) :
    ∃ n, ((r.loop sigs).1 = List.replicate n (.newLogic s) ∧ (r.loop sigs).2 ≠ some none) ∨
      ((r.loop sigs).1 = List.replicate n (.newLogic s) ++ [.stopStorage s] ∧
        (r.loop sigs).2.isSome) := by
  induction sigs generalizing r with
  | nil => exact ⟨0, .inl ⟨rfl, by simp [Run.loop]⟩⟩
  | cons sig sigs ih =>
    have hspec := handle_spec hs sig
    rcases hh : r.handle sig with ⟨r', c, res⟩
    rw [hh] at hspec
    dsimp only at hspec
    unfold Run.loop
    rw [hh]
    rcases hspec with ⟨rfl, hs', rfl⟩ | ⟨⟨e, rfl⟩, hc⟩ | ⟨hres, rfl⟩
    · obtain ⟨n, hn⟩ := ih hs'
      refine ⟨n + 1, ?_⟩
      rcases hn with ⟨h₁, h₂⟩ | ⟨h₁, h₂⟩
      · exact .inl ⟨by simp [h₁, List.replicate_succ], h₂⟩
      · exact .inr ⟨by simp [h₁, List.replicate_succ], h₂⟩
    · rcases hc with rfl | rfl
      exacts [⟨0, .inl ⟨rfl, by simp⟩⟩, ⟨1, .inl ⟨rfl, by simp⟩⟩]
    · obtain ⟨err, rfl⟩ := Option.isSome_iff_exists.mp hres
      exact ⟨0, .inr ⟨rfl, rfl⟩⟩

/-- Over any behaviour of its collaborators and any signals, the command creates at most one peer
store, builds every logic over it, never stops another store, and stops it at most once, as its last
call, after building at least one logic over it; and it returns `nil` only after that stop. So a
reload never creates a store, never builds a logic over another one, and never stops the store. -/
theorem rootRunCmdFunc_store (out : StartOutcome S) (sigs : List (Signal S)) :
    ((rootRunCmdFunc out sigs).1 = [] ∧ (rootRunCmdFunc out sigs).2 ≠ some none) ∨
      ∃ s n, ((rootRunCmdFunc out sigs).1 = .newStorage s :: List.replicate n (.newLogic s) ∧
          (rootRunCmdFunc out sigs).2 ≠ some none) ∨
        ((rootRunCmdFunc out sigs).1 =
            .newStorage s :: List.replicate (n + 1) (.newLogic s) ++ [.stopStorage s] ∧
          (rootRunCmdFunc out sigs).2.isSome) := by
  have hspec := start_spec ⟨none, []⟩ out none
  unfold rootRunCmdFunc
  rcases hn : newRun out with ⟨r, c, err⟩
  rw [newRun] at hn
  rw [hn] at hspec
  dsimp only at hspec
  rcases hspec with ⟨rfl, herr⟩ | ⟨s, created, hcr, hs, hcases⟩
  · obtain ⟨e, rfl⟩ := Option.isSome_iff_exists.mp herr
    exact .inl ⟨rfl, by simp⟩
  · rw [createStorage_none hcr] at hcases
    refine .inr ⟨s, ?_⟩
    rcases hcases with ⟨rfl, herr⟩ | rfl
    · obtain ⟨e, rfl⟩ := Option.isSome_iff_exists.mp herr
      exact ⟨0, .inl ⟨rfl, by simp⟩⟩
    · cases err with
      | some e => exact ⟨1, .inl ⟨rfl, by simp⟩⟩
      | none =>
        obtain ⟨n, ⟨h₁, h₂⟩ | ⟨h₁, h₂⟩⟩ := loop_calls hs sigs
        · exact ⟨n + 1, .inl ⟨by simp [h₁, List.replicate_succ], h₂⟩⟩
        · exact ⟨n, .inr ⟨by simp [h₁, List.replicate_succ], h₂⟩⟩

end Cmd
