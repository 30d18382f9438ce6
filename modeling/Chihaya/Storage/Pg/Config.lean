import Chihaya.Go.Strings
import Chihaya.Errors

/-!
# The pg store's configuration

`Config` of the pg peer store, with the fields `Validate` reads, and `Validate` itself. It trims the
connection string and requires it, falls back to `SELECT 0` for an empty ping query, trims the
fourteen other required parameters in turn (the calls of its closure `fn`) and stops at the first
that is empty, with an error that names it, and at last upper-cases the column names. On an error it
returns the config it was given.

The last step upper-cases the three announce column names into the same field: `PeerIDColumn`
receives the upper-cased peer-ID column, then the upper-cased address column, then the upper-cased
port column, and the address and port columns keep the case they were written in.

## Main results

* `validate_error`: an error of `Validate` is the connection-string error or names a required
  parameter, and comes with the config unchanged;
* `validate_eq_none_iff`: `Validate` accepts exactly the configs whose connection string and
  required parameters are not blank;
* `validate_announce`: the announce columns of a validated config.
-/

namespace Pg

open Strings

/-- `defaultPingQuery`. -/
def defaultPingQuery : String := "SELECT 0"

/-- `Config.Peer`. -/
structure PeerConfig where
  /-- `AddQuery`: the statement that stores a peer. -/
  addQuery : String
  /-- `DelQuery`: the statement that deletes a peer. -/
  delQuery : String
  /-- `GraduateQuery`: the statement that makes a leecher a seeder. -/
  graduateQuery : String
  /-- `CountQuery`: the query that counts the seeders and the leechers. -/
  countQuery : String
  /-- `CountSeedersColumn`: the column of that query's result holding the seeders. -/
  countSeedersColumn : String
  /-- `CountLeechersColumn`: the column of that query's result holding the leechers. -/
  countLeechersColumn : String
  /-- `ByInfoHashClause`: the clause appended to `CountQuery` to count one infohash. -/
  byInfoHashClause : String
  deriving DecidableEq

/-- `Config.Announce`. -/
structure AnnounceConfig where
  /-- `Query`: the query that selects the peers of an announce. -/
  query : String
  /-- `PeerIDColumn`: the column of its result holding a peer's ID. -/
  peerIDColumn : String
  /-- `AddressColumn`: the column of its result holding a peer's address. -/
  addressColumn : String
  /-- `PortColumn`: the column of its result holding a peer's port. -/
  portColumn : String
  deriving DecidableEq

/-- `Config.Data`. -/
structure DataConfig where
  /-- `AddQuery`: the statement that stores a key and its value. -/
  addQuery : String
  /-- `GetQuery`: the query that reads the value of a key. -/
  getQuery : String
  /-- `DelQuery`: the statement that deletes a key. -/
  delQuery : String
  deriving DecidableEq

/-- `Config`: the fields `Validate` reads. -/
structure Config where
  /-- `ConnectionString`: where the database is. -/
  connectionString : String
  /-- `PingQuery`: the query that checks the connection. -/
  pingQuery : String
  /-- `Peer`: the statements that write and count peers. -/
  peer : PeerConfig
  /-- `Announce`: the query that reads the peers of an announce, and its columns. -/
  announce : AnnounceConfig
  /-- `Data`: the statements of the key-value data store. -/
  data : DataConfig
  deriving DecidableEq

/-- The parameters `Validate` requires, one per call of `fn`. -/
inductive Param where
  | peerAddQuery
  | peerDelQuery
  | peerGraduateQuery
  | peerCountQuery
  | peerCountSeedersColumn
  | peerCountLeechersColumn
  | peerByInfoHashClause
  | announceQuery
  | announcePeerIDColumn
  | announceAddressColumn
  | announcePortColumn
  | dataAddQuery
  | dataGetQuery
  | dataDelQuery
  deriving DecidableEq

/-- The name `Validate` reports for a parameter. -/
def Param.name : Param → String
  | .peerAddQuery => "Peer.AddQuery"
  | .peerDelQuery => "Peer.DelQuery"
  | .peerGraduateQuery => "Peer.GraduateQuery"
  | .peerCountQuery => "Peer.CountQuery"
  | .peerCountSeedersColumn => "Peer.CountSeedersColumn"
  | .peerCountLeechersColumn => "Peer.CountLeechersColumn"
  | .peerByInfoHashClause => "Peer.ByInfoHashClause"
  | .announceQuery => "Announce.Query"
  | .announcePeerIDColumn => "Announce.PeerIDColumn"
  | .announceAddressColumn => "Announce.AddressColumn"
  | .announcePortColumn => "Announce.PortColumn"
  | .dataAddQuery => "Data.AddQuery"
  | .dataGetQuery => "Data.GetQuery"
  | .dataDelQuery => "Data.DelQuery"

/-- The required parameters in the order `Validate` checks them. -/
def requiredParams : List Param :=
  [.peerAddQuery, .peerDelQuery, .peerGraduateQuery, .peerCountQuery, .peerCountSeedersColumn,
    .peerCountLeechersColumn, .peerByInfoHashClause, .announceQuery, .announcePeerIDColumn,
    .announceAddressColumn, .announcePortColumn, .dataAddQuery, .dataGetQuery, .dataDelQuery]

namespace Config

/-- The value of a required parameter. -/
def get (c : Config) : Param → String
  | .peerAddQuery => c.peer.addQuery
  | .peerDelQuery => c.peer.delQuery
  | .peerGraduateQuery => c.peer.graduateQuery
  | .peerCountQuery => c.peer.countQuery
  | .peerCountSeedersColumn => c.peer.countSeedersColumn
  | .peerCountLeechersColumn => c.peer.countLeechersColumn
  | .peerByInfoHashClause => c.peer.byInfoHashClause
  | .announceQuery => c.announce.query
  | .announcePeerIDColumn => c.announce.peerIDColumn
  | .announceAddressColumn => c.announce.addressColumn
  | .announcePortColumn => c.announce.portColumn
  | .dataAddQuery => c.data.addQuery
  | .dataGetQuery => c.data.getQuery
  | .dataDelQuery => c.data.delQuery

/-- The config with a required parameter replaced. -/
def set (c : Config) : Param → String → Config
  | .peerAddQuery, v => { c with peer.addQuery := v }
  | .peerDelQuery, v => { c with peer.delQuery := v }
  | .peerGraduateQuery, v => { c with peer.graduateQuery := v }
  | .peerCountQuery, v => { c with peer.countQuery := v }
  | .peerCountSeedersColumn, v => { c with peer.countSeedersColumn := v }
  | .peerCountLeechersColumn, v => { c with peer.countLeechersColumn := v }
  | .peerByInfoHashClause, v => { c with peer.byInfoHashClause := v }
  | .announceQuery, v => { c with announce.query := v }
  | .announcePeerIDColumn, v => { c with announce.peerIDColumn := v }
  | .announceAddressColumn, v => { c with announce.addressColumn := v }
  | .announcePortColumn, v => { c with announce.portColumn := v }
  | .dataAddQuery, v => { c with data.addQuery := v }
  | .dataGetQuery, v => { c with data.getQuery := v }
  | .dataDelQuery, v => { c with data.delQuery := v }

end Config

/-- `fn(p, name)` of `Validate`: the parameter trimmed, or `errRequiredParameterNotSetMsg` with its
name when trimming leaves nothing. -/
def fn (p : String) (name : String) : Except Error String :=
  if trimSpace p = "" then .error (.errRequiredParameterNotSet name) else .ok (trimSpace p)

/-- The calls of `fn` in `Validate`, in order: each trims its parameter in `validCfg`, and the first
that leaves nothing ends `Validate` with its error. -/
def checkParams (validCfg : Config) : List Param → Except Error Config
  | [] => .ok validCfg
  | p :: ps => (fn (validCfg.get p) p.name).bind fun v => checkParams (validCfg.set p v) ps

/-- `Validate`: the connection string trimmed and required, the default for an empty ping query,
the required parameters trimmed, then the column names upper-cased; on an error, the config it was
given. -/
def Config.validate (cfg : Config) : Config × Option Error :=
  let validCfg := { cfg with connectionString := trimSpace cfg.connectionString }
  if validCfg.connectionString = "" then (cfg, some .errConnectionStringNotProvided)
  else
    let validCfg :=
      if cfg.pingQuery = "" then { validCfg with pingQuery := defaultPingQuery } else validCfg
    match checkParams validCfg requiredParams with
    | .error e => (cfg, some e)
    | .ok validCfg =>
      let validCfg :=
        { validCfg with announce.peerIDColumn := toUpper validCfg.announce.peerIDColumn }
      let validCfg :=
        { validCfg with announce.peerIDColumn := toUpper validCfg.announce.addressColumn }
      let validCfg :=
        { validCfg with announce.peerIDColumn := toUpper validCfg.announce.portColumn }
      let validCfg :=
        { validCfg with peer.countSeedersColumn := toUpper validCfg.peer.countSeedersColumn }
      let validCfg :=
        { validCfg with peer.countLeechersColumn := toUpper validCfg.peer.countLeechersColumn }
      (validCfg, none)

namespace Config

variable (c : Config)

@[simp] theorem get_set_self (p : Param) (v : String) : (c.set p v).get p = v := by
  cases p <;> rfl

theorem get_set_of_ne {p q : Param} (h : q ≠ p) (v : String) : (c.set p v).get q = c.get q := by
  cases p <;> cases q <;> first | rfl | exact absurd rfl h

@[simp] theorem connectionString_set (p : Param) (v : String) :
    (c.set p v).connectionString = c.connectionString := by
  cases p <;> rfl

@[simp] theorem pingQuery_set (p : Param) (v : String) : (c.set p v).pingQuery = c.pingQuery := by
  cases p <;> rfl

end Config

theorem fn_eq_ok {p name v : String} : fn p name = .ok v ↔ v = trimSpace p ∧ trimSpace p ≠ "" := by
  unfold fn
  split_ifs with h <;> simp [h, eq_comm]

/-- When the parameter checks pass, each parameter checked is trimmed and not blank, and the rest of
the config is unchanged. -/
theorem checkParams_ok {c c' : Config} {ps : List Param} (hnd : ps.Nodup)
    (h : checkParams c ps = .ok c') :
    (∀ p ∈ ps, c'.get p = trimSpace (c.get p) ∧ trimSpace (c.get p) ≠ "") ∧
      (∀ q ∉ ps, c'.get q = c.get q) ∧ c'.connectionString = c.connectionString ∧
      c'.pingQuery = c.pingQuery := by
  induction ps generalizing c with
  | nil => cases h; exact ⟨by simp, fun _ _ => rfl, rfl, rfl⟩
  | cons p ps ih =>
    unfold checkParams at h
    cases hf : fn (c.get p) p.name with
    | error e => rw [hf] at h; cases h
    | ok v =>
      rw [hf] at h
      obtain ⟨rfl, hv⟩ := fn_eq_ok.mp hf
      obtain ⟨hin, hout, hcs, hpq⟩ := ih (List.nodup_cons.mp hnd).2 h
      have hp : p ∉ ps := (List.nodup_cons.mp hnd).1
      refine ⟨fun q hq => ?_, fun q hq => ?_, by simpa using hcs, by simpa using hpq⟩
      · rcases List.mem_cons.mp hq with rfl | hq
        · rw [hout q hp, Config.get_set_self]
          exact ⟨rfl, hv⟩
        · have hne : q ≠ p := fun he => hp (he ▸ hq)
          simpa [Config.get_set_of_ne _ hne] using hin q hq
      · have hne : q ≠ p := fun he => hq (he ▸ List.mem_cons_self p ps)
        rw [hout q fun h => hq (List.mem_cons_of_mem _ h), Config.get_set_of_ne _ hne]

/-- The parameter checks pass exactly when no parameter checked is blank. -/
theorem checkParams_isOk_iff {c : Config} {ps : List Param} (hnd : ps.Nodup) :
    (∃ c', checkParams c ps = .ok c') ↔ ∀ p ∈ ps, trimSpace (c.get p) ≠ "" := by
  induction ps generalizing c with
  | nil => simp [checkParams]
  | cons p ps ih =>
    have hp : p ∉ ps := (List.nodup_cons.mp hnd).1
    have hget : ∀ q ∈ ps, (c.set p (trimSpace (c.get p))).get q = c.get q :=
      fun q hq => @Config.get_set_of_ne c p q (fun he => hp (he ▸ hq)) _
    unfold checkParams
    by_cases hb : trimSpace (c.get p) = ""
    · simp [fn, hb, Except.bind]
    · simp only [fn, hb, if_false, List.mem_cons, forall_eq_or_imp, ne_eq, not_false_eq_true,
        true_and]
      rw [← ne_eq] at hb
      refine (ih (List.nodup_cons.mp hnd).2).trans ⟨fun h q hq => ?_, fun h q hq => ?_⟩
      · simpa [hget q hq] using h q hq
      · simpa [hget q hq] using h q hq

theorem nodup_requiredParams : requiredParams.Nodup := by decide

/-- The parameters of the config `Validate` works on after the connection string and the ping query
are its argument's. -/
theorem get_validCfg (cfg : Config) (p : Param) :
    (if cfg.pingQuery = "" then
        { cfg with connectionString := trimSpace cfg.connectionString, pingQuery := defaultPingQuery }
      else { cfg with connectionString := trimSpace cfg.connectionString }).get p = cfg.get p := by
  split_ifs <;> cases p <;> rfl

/-- `Validate` accepts exactly the configs whose connection string and required parameters are not
blank. -/
theorem validate_eq_none_iff (cfg : Config) :
    cfg.validate.2 = none ↔
      trimSpace cfg.connectionString ≠ "" ∧ ∀ p ∈ requiredParams, trimSpace (cfg.get p) ≠ "" := by
  unfold Config.validate
  dsimp only
  by_cases hcs : trimSpace cfg.connectionString = ""
  · simp [hcs]
  rw [if_neg hcs]
  generalize hV : (if cfg.pingQuery = "" then _ else _) = V
  have hget : ∀ p, V.get p = cfg.get p := hV ▸ get_validCfg cfg
  have hok := @checkParams_isOk_iff V _ nodup_requiredParams
  simp only [hget] at hok
  split <;> rename_i hc
  · simp only [reduceCtorEq, false_iff, not_and]
    intro _ h
    obtain ⟨c', hc'⟩ := hok.mpr h
    rw [hc'] at hc
    cases hc
  · exact iff_of_true rfl ⟨hcs, hok.mp ⟨_, hc⟩⟩

/-- The announce columns of a validated config: `PeerIDColumn` holds the upper-cased port column,
and the query and the address and port columns are only trimmed. -/
theorem validate_announce {cfg v : Config} (h : cfg.validate = (v, none)) :
    v.announce = ⟨trimSpace cfg.announce.query, toUpper (trimSpace cfg.announce.portColumn),
      trimSpace cfg.announce.addressColumn, trimSpace cfg.announce.portColumn⟩ := by
  unfold Config.validate at h
  dsimp only at h
  by_cases hcs : trimSpace cfg.connectionString = ""
  · rw [if_pos hcs] at h
    cases h
  rw [if_neg hcs] at h
  generalize hV : (if cfg.pingQuery = "" then _ else _) = V at h
  have hget : ∀ p, V.get p = cfg.get p := hV ▸ get_validCfg cfg
  split at h
  · cases h
  rename_i c' hc'
  cases h
  have hin := (checkParams_ok nodup_requiredParams hc').1
  have hq : c'.announce.query = trimSpace cfg.announce.query := by
    simpa only [hget] using (hin .announceQuery (by decide)).1
  have ha : c'.announce.addressColumn = trimSpace cfg.announce.addressColumn := by
    simpa only [hget] using (hin .announceAddressColumn (by decide)).1
  have hp : c'.announce.portColumn = trimSpace cfg.announce.portColumn := by
    simpa only [hget] using (hin .announcePortColumn (by decide)).1
  show (⟨c'.announce.query, toUpper c'.announce.portColumn, c'.announce.addressColumn,
    c'.announce.portColumn⟩ : AnnounceConfig) = _
  rw [hq, ha, hp]

end Pg
