import Chihaya.Bittorrent.InfoHash

/-!
# The list container of torrent approval

`build` of `container/list` makes the container from its decoded `Config`: it keeps `Invert`, takes
`DefaultStorageCtxName` when `StorageCtx` is empty, and, for a non-empty `HashList`, hex-decodes
each string, makes an infohash of the bytes with `bittorrent.NewInfoHash`, and puts all of them, each
paired with `DUMMY`, into the data store under the context with one `BulkPut`. The first string that
fails stops `build` with an error that names it. `Approved` is `Contains` under the context,
negated when `Invert` is set.

The `bittorrent` package `list.go` imports is the one of `bittorrent/bittorrent.go`
(`ChihayaBittorrent.newInfoHash`). The YAML decoding of the configuration is left out: `build` is
modelled from the decoded `Config`. `storage.Storage` and `container.DefaultStorageCtxName` are not
among the sources: the data store is any `DataStorage`, and the results that read it back assume
its contract, `DataStorage.Contract`; the default context is a parameter.

## Main results

* `build_isOk_iff`: `build` succeeds exactly when every string of `HashList` is 40 or 64 hex
  digits;
* `build_error`: when it fails, it names the first string that fails, with the decoding error or
  `InvalidHashSizeError`;
* `approved_build`: over a store that meets the contract, the built container approves an infohash
  exactly when it is listed (or was already in the store under the context), unless `Invert`.
-/

namespace ListContainer

open Bittorrent

/-- `storage.Storage`, as `build` and `Approved` call it, over the store's state `σ`. -/
structure DataStorage (σ : Type) where
  /-- `BulkPut(ctx, pairs...)`: stores each key of `pairs` under the context `ctx`. -/
  bulkPut : String → List (InfoHash × Bool) → σ → σ
  /-- `Contains(ctx, key)`: whether `key` is stored under the context `ctx`. -/
  contains : String → InfoHash → σ → Bool

/-- The contract of a data store: after `BulkPut(ctx, pairs)`, `Contains` holds under `ctx` for the
keys of the pairs, and otherwise as it did before. -/
def DataStorage.Contract {σ : Type} (S : DataStorage σ) : Prop :=
  ∀ ctx pairs st ctx' k, S.contains ctx' k (S.bulkPut ctx pairs st) = true ↔
    (ctx' = ctx ∧ ∃ p ∈ pairs, p.1 = k) ∨ S.contains ctx' k st = true

/-- `Config`, as decoded from YAML. -/
structure Config where
  /-- `HashList`: the infohashes, as hex strings. -/
  hashList : List (List UInt8)
  /-- `Invert`: approve the infohashes not listed instead. -/
  invert : Bool
  /-- `StorageCtx`: the data store's context. -/
  storageCtx : String

/-- The errors of `build` past the YAML decoding. -/
inductive BuildError where
  /-- `fmt.Errorf("whitelist : invalid hash %s, %v", hashString, err)`, for an error of
  `hex.DecodeString`. -/
  | invalidHash (hashString : List UInt8) (err : Hex.DecodeError)
  /-- `fmt.Errorf("whitelist : %s : %v", hashString, err)`, for an error of `bittorrent.NewInfoHash`. -/
  | newInfoHash (hashString : List UInt8) (err : Error)
  deriving DecidableEq

/-- `DUMMY`, the value stored with each infohash. -/
def dummy : Bool := true

/-- `List`, the container `build` returns; its `Storage` is the data store passed around with it. -/
structure Container where
  /-- `Invert`: whether the listed infohashes are refused instead of approved. -/
  invert : Bool
  /-- `StorageCtx`: the context under which the listed infohashes are stored. -/
  storageCtx : String
  deriving DecidableEq

/-- The body of the loop of `build`: the string hex-decoded, the bytes made an infohash by
`bittorrent.NewInfoHash`, paired with `DUMMY`. -/
def hashPair (hashString : List UInt8) : Except BuildError (InfoHash × Bool) := do
  let hashBytes ← (Hex.decodeString hashString).mapError (.invalidHash hashString)
  let ih ← (ChihayaBittorrent.newInfoHash (.byteSlice hashBytes)).mapError (.newInfoHash hashString)
  pure (ih, dummy)

variable {σ : Type}

/-- `build`, from the decoded `Config`, with `container.DefaultStorageCtxName` as
`defaultStorageCtxName`: the container and the data store's state after the `BulkPut`. -/
def build (defaultStorageCtxName : String) (S : DataStorage σ) (c : Config) (st : σ) :
    Except BuildError (Container × σ) := do
  let l : Container :=
    { invert := c.invert,
      storageCtx := if c.storageCtx.isEmpty then defaultStorageCtxName else c.storageCtx }
  if 0 < c.hashList.length then
    let init ← c.hashList.mapM hashPair
    pure (l, S.bulkPut l.storageCtx init st)
  else pure (l, st)

/-- `Approved`: `Contains` under the context, negated when `Invert` is set. -/
def Container.approved (S : DataStorage σ) (l : Container) (hash : InfoHash) (st : σ) : Bool :=
  S.contains l.storageCtx hash st != l.invert

/-! ## The loop -/

section MapM

variable {α β ε : Type} {f : α → Except ε β}

theorem mapM_cons_eq (x : α) (xs : List α) :
    (x :: xs).mapM f = (f x).bind fun y => (xs.mapM f).bind fun ys => .ok (y :: ys) := by
  rw [List.mapM_cons]
  rfl

/-- A traversal succeeds exactly when every element does. -/
theorem mapM_isOk_iff (xs : List α) : (∃ ys, xs.mapM f = .ok ys) ↔ ∀ x ∈ xs, ∃ y, f x = .ok y := by
  induction xs with
  | nil => exact ⟨fun _ _ h => (nomatch h), fun _ => ⟨[], rfl⟩⟩
  | cons x xs ih =>
    rw [mapM_cons_eq, List.forall_mem_cons, ← ih]
    cases f x <;> cases xs.mapM f <;> simp [Except.bind]

theorem mapM_cons_eq_ok {x : α} {xs : List α} {ys : List β} :
    (x :: xs).mapM f = .ok ys ↔ ∃ b bs, f x = .ok b ∧ xs.mapM f = .ok bs ∧ ys = b :: bs := by
  rw [mapM_cons_eq]
  cases f x <;> cases xs.mapM f <;> simp [Except.bind, eq_comm]

theorem mapM_cons_eq_error {x : α} {xs : List α} {e : ε} :
    (x :: xs).mapM f = .error e ↔ f x = .error e ∨ ∃ b, f x = .ok b ∧ xs.mapM f = .error e := by
  rw [mapM_cons_eq]
  cases f x <;> cases xs.mapM f <;> simp [Except.bind]

/-- The outputs of a successful traversal are the outputs of its elements. -/
theorem mem_mapM_ok {xs : List α} {ys : List β} (h : xs.mapM f = .ok ys) (y : β) :
    y ∈ ys ↔ ∃ x ∈ xs, f x = .ok y := by
  induction xs generalizing ys with
  | nil =>
    cases h
    simp
  | cons x xs ih =>
    obtain ⟨b, bs, hx, hxs, rfl⟩ := mapM_cons_eq_ok.mp h
    simp only [List.mem_cons, or_and_right, exists_or, exists_eq_left, hx, Except.ok.injEq, ih hxs,
      @eq_comm _ y b]

/-- A failed traversal fails with the error of its first failing element. -/
theorem mapM_eq_error {xs : List α} {e : ε} (h : xs.mapM f = .error e) :
    ∃ pre x post, xs = pre ++ x :: post ∧ (∀ y ∈ pre, ∃ b, f y = .ok b) ∧ f x = .error e := by
  induction xs with
  | nil => cases h
  | cons x xs ih =>
    rcases mapM_cons_eq_error.mp h with hx | ⟨b, hx, hxs⟩
    · exact ⟨[], x, xs, rfl, by simp, hx⟩
    · obtain ⟨pre, y, post, rfl, hpre, hy⟩ := ih hxs
      exact ⟨x :: pre, y, post, rfl, by simpa [hx] using hpre, hy⟩

end MapM

/-! ## One hash string -/

/-- The bytes `NewInfoHash` accepts in a byte slice: 20 or 32 of them. -/
theorem newInfoHash_byteSlice (b : List UInt8) :
    ChihayaBittorrent.newInfoHash (.byteSlice b) =
      if b.length = 20 ∨ b.length = 32 then .ok ⟨b⟩ else .error .invalidHashSizeError := by
  rw [ChihayaBittorrent.newInfoHash, @newInfoHashWith_of_bytes _ _ (.byteSlice b) (by simp) b rfl]
  by_cases hb : b.length = 20 ∨ b.length = 32
  · rw [if_neg (by omega), if_pos hb]
  · rw [if_pos (by omega), if_neg hb]

/-- The loop's body on one string: the infohash of its bytes, when it decodes into 20 or 32 bytes;
otherwise the decoding error, or `InvalidHashSizeError`, each naming the string. -/
theorem hashPair_eq (hashString : List UInt8) :
    hashPair hashString =
      match Hex.decodeString hashString with
      | .error err => .error (.invalidHash hashString err)
      | .ok b => if b.length = 20 ∨ b.length = 32 then .ok (⟨b⟩, dummy)
        else .error (.newInfoHash hashString .invalidHashSizeError) := by
  unfold hashPair
  cases Hex.decodeString hashString with
  | error err => rfl
  | ok b =>
    simp only [Except.mapError, newInfoHash_byteSlice, bind, Except.bind, pure, Except.pure]
    split_ifs <;> rfl

/-- A string passes the loop's body exactly when it is 40 or 64 hex digits. -/
theorem hashPair_isOk_iff (hashString : List UInt8) :
    (∃ p, hashPair hashString = .ok p) ↔
      (hashString.length = 40 ∨ hashString.length = 64) ∧ hashString.all Hex.isHexDigit := by
  have hiff := Hex.decodeString_isOk_iff hashString
  rw [hashPair_eq]
  cases hd : Hex.decodeString hashString with
  | error err =>
    simp only [hd, reduceCtorEq, exists_false, false_iff] at hiff ⊢
    exact fun ⟨hl, ha⟩ => hiff ⟨by omega, ha⟩
  | ok b =>
    have hlen := Hex.length_decodeString hd
    dsimp only
    simp only [(hiff.mp ⟨b, hd⟩).2, and_true]
    split_ifs with hb
    · exact ⟨fun _ => by omega, fun _ => ⟨_, rfl⟩⟩
    · exact ⟨fun ⟨_, h⟩ => (nomatch h), fun h => absurd (by omega) hb⟩

theorem hashPair_eq_ok_iff (hashString : List UInt8) (ih : InfoHash) (b : Bool) :
    hashPair hashString = .ok (ih, b) ↔
      Hex.decodeString hashString = .ok ih.raw ∧ (ih.raw.length = 20 ∨ ih.raw.length = 32) ∧
        b = dummy := by
  rw [hashPair_eq]
  cases hd : Hex.decodeString hashString with
  | error err => simp
  | ok bs =>
    dsimp only
    split_ifs with hb
    · constructor
      · rintro ⟨⟩
        exact ⟨rfl, hb, rfl⟩
      · rintro ⟨⟨⟩, -, rfl⟩
        rfl
    · simp only [reduceCtorEq, false_iff, not_and, Except.ok.injEq]
      rintro rfl hl
      exact absurd hl hb

/-! ## `build` and `Approved` -/

variable {d : String} {S : DataStorage σ} {c : Config} {st : σ}

/-- `build` is the loop, then the container and the `BulkPut` of the pairs, which an empty
`HashList` skips. -/
theorem build_eq (d : String) (S : DataStorage σ) (c : Config) (st : σ) :
    build d S c st = (c.hashList.mapM hashPair).bind fun init =>
      .ok (⟨c.invert, if c.storageCtx.isEmpty then d else c.storageCtx⟩,
        if 0 < c.hashList.length then
          S.bulkPut (if c.storageCtx.isEmpty then d else c.storageCtx) init st
        else st) := by
  unfold build
  by_cases hl : 0 < c.hashList.length
  · simp only [hl, if_true]
    cases c.hashList.mapM hashPair <;> rfl
  · rw [List.length_eq_zero.mp (Nat.eq_zero_of_not_pos hl)]
    rfl

theorem bne_eq_true_iff' (a b : Bool) : (a != b) = true ↔ (a = true ↔ b = false) := by
  cases a <;> cases b <;> decide

/-- `build` succeeds exactly when every string of `HashList` is 40 or 64 hex digits. -/
theorem build_isOk_iff :
    (∃ r, build d S c st = .ok r) ↔
      ∀ s ∈ c.hashList, (s.length = 40 ∨ s.length = 64) ∧ s.all Hex.isHexDigit := by
  rw [← forall₂_congr fun s _ => hashPair_isOk_iff s, ← mapM_isOk_iff, build_eq]
  cases c.hashList.mapM hashPair <;> simp [Except.bind]

/-- When `build` fails, its error names the first string of `HashList` that is not 40 or 64 hex
digits: the decoding error when the string does not decode, `InvalidHashSizeError` when its bytes
are not 20 or 32. -/
theorem build_error {e : BuildError} (h : build d S c st = .error e) :
    ∃ pre s post, c.hashList = pre ++ s :: post ∧
      (∀ t ∈ pre, (t.length = 40 ∨ t.length = 64) ∧ t.all Hex.isHexDigit) ∧
      ((∃ err, Hex.decodeString s = .error err ∧ e = .invalidHash s err) ∨
        ∃ b, Hex.decodeString s = .ok b ∧ ¬(b.length = 20 ∨ b.length = 32) ∧
          e = .newInfoHash s .invalidHashSizeError) := by
  rw [build_eq] at h
  cases hm : c.hashList.mapM hashPair <;> rw [hm] at h <;> cases h
  obtain ⟨pre, s, post, hsplit, hpre, hs⟩ := mapM_eq_error hm
  refine ⟨pre, s, post, hsplit, fun t ht => (hashPair_isOk_iff t).mp (hpre t ht), ?_⟩
  rw [hashPair_eq] at hs
  split at hs <;> rename_i hd
  · cases hs
    exact .inl ⟨_, hd, rfl⟩
  · split_ifs at hs with hb
    cases hs
    exact .inr ⟨_, hd, hb, rfl⟩

section Samples

/-- A sample data store: the `(context, infohash)` pairs put so far. -/
def sampleStorage : DataStorage (List (String × InfoHash)) :=
  ⟨fun ctx pairs st => pairs.map (fun p => (ctx, p.1)) ++ st, fun ctx k st => decide ((ctx, k) ∈ st)⟩

theorem sampleStorage_contract : sampleStorage.Contract := by
  intro ctx pairs st ctx' k
  simp only [sampleStorage, decide_eq_true_eq, List.mem_append, List.mem_map, Prod.mk.injEq]
  constructor
  · rintro (⟨p, hp, rfl, rfl⟩ | h)
    exacts [.inl ⟨rfl, p, hp, rfl⟩, .inr h]
  · rintro (⟨rfl, p, hp, rfl⟩ | h)
    exacts [.inl ⟨p, hp, rfl, rfl⟩, .inr h]

/-- The hex form of the sample v1 infohash, twenty bytes `7`. -/
def sampleHex : List UInt8 := Hex.encodeToString (List.replicate 20 7)

end Samples

/-- A list of the sample hash and of `"00"`, one byte: `build` names `"00"` with
`InvalidHashSizeError`. -/
theorem build_error_short :
    let c : Config := ⟨[sampleHex, [0x30, 0x30]], false, ""⟩
    build "approved" sampleStorage c [] = .error (.newInfoHash [0x30, 0x30] .invalidHashSizeError) ∧
      ∃ pre s post, c.hashList = pre ++ s :: post ∧
        (∀ t ∈ pre, (t.length = 40 ∨ t.length = 64) ∧ t.all Hex.isHexDigit) ∧
        ((∃ err, Hex.decodeString s = .error err ∧
            BuildError.newInfoHash [0x30, 0x30] .invalidHashSizeError = .invalidHash s err) ∨
          ∃ b, Hex.decodeString s = .ok b ∧ ¬(b.length = 20 ∨ b.length = 32) ∧
            BuildError.newInfoHash [0x30, 0x30] .invalidHashSizeError =
              .newInfoHash s .invalidHashSizeError) := by
  intro c
  have h : build "approved" sampleStorage c [] =
      .error (.newInfoHash [0x30, 0x30] .invalidHashSizeError) := by rfl
  exact ⟨h, build_error h⟩

/-- An infohash is among the pairs a successful loop puts exactly when a string of the list decodes
to its bytes. -/
theorem mem_init_iff {init : List (InfoHash × Bool)} (hm : c.hashList.mapM hashPair = .ok init)
    (ih : InfoHash) :
    (∃ p ∈ init, p.1 = ih) ↔ ∃ s ∈ c.hashList, Hex.decodeString s = .ok ih.raw := by
  constructor
  · rintro ⟨⟨ih', b⟩, hp, rfl⟩
    obtain ⟨s, hs, hps⟩ := (mem_mapM_ok hm _).mp hp
    exact ⟨s, hs, ((hashPair_eq_ok_iff s ih' b).mp hps).1⟩
  · rintro ⟨s, hs, hd⟩
    obtain ⟨⟨ih', b⟩, hps⟩ := (mapM_isOk_iff c.hashList).mp ⟨init, hm⟩ s hs
    have hraw : ih.raw = ih'.raw :=
      Except.ok.inj (hd.symm.trans ((hashPair_eq_ok_iff s ih' b).mp hps).1)
    exact ⟨_, (mem_mapM_ok hm _).mpr ⟨s, hs, hps⟩, congrArg InfoHash.mk hraw.symm⟩

/-- After `build`, over a data store that meets its contract, the container approves an infohash
exactly when being listed (some string of `HashList` decodes to its bytes) or already being in the
store under the context is the opposite of `Invert`. -/
theorem approved_build (hS : S.Contract) {l : Container} {st' : σ}
    (h : build d S c st = .ok (l, st')) (ih : InfoHash) :
    l.approved S ih st' = true ↔
      (((∃ s ∈ c.hashList, Hex.decodeString s = .ok ih.raw) ∨ S.contains l.storageCtx ih st = true) ↔
        c.invert = false) := by
  rw [build_eq] at h
  cases hm : c.hashList.mapM hashPair <;> rw [hm] at h <;> cases h
  rw [Container.approved, bne_eq_true_iff', ← mem_init_iff hm]
  dsimp only
  by_cases hl : 0 < c.hashList.length
  · rw [if_pos hl, hS, eq_self, true_and]
  · rw [if_neg hl]
    have hc : c.hashList = [] := List.length_eq_zero.mp (Nat.eq_zero_of_not_pos hl)
    rw [hc] at hm
    simp [← Except.ok.inj hm]

/-- A whitelist of the sample hash, over the sample store: `build` puts it under the default
context, and the container approves exactly that infohash. -/
theorem approved_build_whitelist :
    let c : Config := ⟨[sampleHex], false, ""⟩
    let ih : InfoHash := ⟨List.replicate 20 7⟩
    let l : Container := ⟨false, "approved"⟩
    let st' := [("approved", ih)]
    sampleStorage.Contract ∧ build "approved" sampleStorage c [] = .ok (l, st') ∧
      (l.approved sampleStorage ih st' = true ↔
        (((∃ s ∈ c.hashList, Hex.decodeString s = .ok ih.raw) ∨
          sampleStorage.contains l.storageCtx ih [] = true) ↔ c.invert = false)) := by
  intro c ih l st'
  have h : build "approved" sampleStorage c [] = .ok (l, st') := by rfl
  exact ⟨sampleStorage_contract, h, approved_build sampleStorage_contract h ih⟩

end ListContainer
