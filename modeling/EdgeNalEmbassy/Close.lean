import EdgeNalEmbassy.Net

/-! # Closing a TCP socket

`TcpSocket::close` and `TcpSocket::abort` of `tcp.rs`, run against an engine whose answers
are fixed in advance: the outcome of each read of the receive half, in order, and of the
flush of the transmit half. A read or flush that never completes has no outcome (`none`); a
finite sequence of reads is one whose outcomes are `none` from some index on.

Each function returns the engine calls it made, in order, and its result once it has
returned. `fuel` bounds the reads of the discard loop: a run that returns within some fuel
returns the same with more, and one that meets neither a zero-length read nor an error never
returns.
-/

namespace EdgeNalEmbassy

/-- `edge_nal::Close`. -/
inductive Close where
  | read
  | write
  | both
  deriving DecidableEq, Repr

/-- The engine's answers during one `close` or `abort`. -/
structure Engine where
  /-- The outcome of the `i`-th read of the receive half. -/
  reads : Nat → Option (Except EngineError Nat)
  /-- The outcome of the flush of the transmit half. -/
  flush : Option (Except EngineError Unit)

/-- A call into the engine's socket. -/
inductive Call where
  | close
  | abort
  | read
  | flush
  deriving DecidableEq, Repr

/-- A run so far: the engine calls made, in order, and the result once returned. -/
structure Run where
  calls : List Call
  result : Option (Except TcpError Unit)

/-- `discard_all_data`, from the `i`-th read on with `fuel` reads left: read into a scratch
buffer until a read returns `0` or fails. Gives the number of reads made and, once the loop
has returned, its result. -/
def discardAllData (reads : Nat → Option (Except EngineError Nat)) :
    Nat → Nat → Nat × Option (Except TcpError Unit)
  | 0, i => (i, none)
  | fuel + 1, i =>
    match reads i with
    | none => (i + 1, none)
    | some (.error e) => (i + 1, some (.error (.general e)))
    | some (.ok 0) => (i + 1, some (.ok ()))
    | some (.ok (_ + 1)) => discardAllData reads fuel (i + 1)

/-- `matches!(what, Close::Both | Close::Write)`. -/
def Close.shutsWrite : Close → Bool
  | .read => false
  | .write | .both => true

/-- The `match` on the pair `join(flush, read)` returns in `Close::Both`. -/
def joinResult : Except EngineError Unit → Except TcpError Unit → Except TcpError Unit
  | .error e, _ => .error (.general e)
  | _, .error e => .error e
  | _, _ => .ok ()

/-- `TcpSocket::close`. -/
def TcpSocket.close (what : Close) (eng : Engine) (fuel : Nat) : Run :=
  let pre := if what.shutsWrite then [Call.close] else []
  let discard := discardAllData eng.reads fuel 0
  match what with
  | .read => ⟨pre ++ List.replicate discard.1 .read, discard.2⟩
  | .write => ⟨pre ++ [.flush], eng.flush.map (·.mapError .general)⟩
  | .both =>
    ⟨pre ++ .flush :: List.replicate discard.1 .read, do
      let f ← eng.flush
      let r ← discard.2
      pure (joinResult f r)⟩

/-- `TcpSocket::abort`. -/
def TcpSocket.abort (eng : Engine) : Run :=
  ⟨[.abort, .flush], eng.flush.map (·.mapError .general)⟩

/-- Every read before the `k`-th returned data. -/
def DataUntil (reads : Nat → Option (Except EngineError Nat)) (k : Nat) : Prop :=
  ∀ j < k, ∃ n, reads j = some (.ok (n + 1))

/-- A computation that may need more fuel returns `r` once it has enough. -/
def Returns (run : Nat → Option (Except TcpError Unit)) (r : Except TcpError Unit) : Prop :=
  ∃ fuel, run fuel = some r

section Discard

variable {reads : Nat → Option (Except EngineError Nat)}

theorem discard_skip : ∀ {k i : Nat} (fuel : Nat),
    (∀ j < k, ∃ n, reads (i + j) = some (.ok (n + 1))) →
    discardAllData reads (fuel + k) i = discardAllData reads fuel (i + k)
  | 0, _, _, _ => rfl
  | k + 1, i, fuel, h => by
    obtain ⟨n, hn⟩ := h 0 (Nat.succ_pos k)
    show discardAllData reads (fuel + k + 1) i = _
    simp only [Nat.add_zero] at hn
    simp only [discardAllData, hn]
    rw [discard_skip fuel fun j hj => by
      simpa [Nat.add_assoc, Nat.add_comm 1 j] using h (j + 1) (by omega)]
    congr 1
    omega

theorem discard_ends {k fuel : Nat} (hd : DataUntil reads k) (hf : k < fuel) :
    (reads k = some (.ok 0) → discardAllData reads fuel 0 = (k + 1, some (.ok ()))) ∧
    (∀ e, reads k = some (.error e) →
      discardAllData reads fuel 0 = (k + 1, some (.error (.general e)))) := by
  obtain ⟨f, rfl⟩ : ∃ f, fuel = f + 1 + k := ⟨fuel - k - 1, by omega⟩
  rw [discard_skip (f + 1) (by simpa using hd)]
  exact ⟨fun hk => by simp [discardAllData, hk], fun e hk => by simp [discardAllData, hk]⟩

theorem discard_result : ∀ (fuel i : Nat) {r : Except TcpError Unit},
    (discardAllData reads fuel i).2 = some r →
    ∃ k, (∀ j < k, ∃ n, reads (i + j) = some (.ok (n + 1))) ∧
      (reads (i + k) = some (.ok 0) ∧ r = .ok () ∨
        ∃ e, reads (i + k) = some (.error e) ∧ r = .error (.general e))
  | 0, _, _, h => by simp [discardAllData] at h
  | fuel + 1, i, r, h => by
    match hi : reads i with
    | none => simp [discardAllData, hi] at h
    | some (.error e) =>
      simp only [discardAllData, hi, Option.some.injEq] at h
      exact ⟨0, by simp, .inr ⟨e, by simpa using hi, h.symm⟩⟩
    | some (.ok 0) =>
      simp only [discardAllData, hi, Option.some.injEq] at h
      exact ⟨0, by simp, .inl ⟨by simpa using hi, h.symm⟩⟩
    | some (.ok (n + 1)) =>
      simp only [discardAllData, hi] at h
      obtain ⟨k, hd, hk⟩ := discard_result fuel (i + 1) h
      refine ⟨k + 1, fun j hj => ?_, by simpa [Nat.add_assoc, Nat.add_comm 1 k] using hk⟩
      cases j with
      | zero => exact ⟨n, by simpa using hi⟩
      | succ j => simpa [Nat.add_assoc, Nat.add_comm 1 j] using hd j (by omega)

theorem discard_reads_le {k : Nat} (hd : DataUntil reads k)
    (hk : reads k = some (.ok 0) ∨ ∃ e, reads k = some (.error e)) :
    ∀ fuel i, i ≤ k → (discardAllData reads fuel i).1 ≤ k + 1
  | 0, i, hi => by simp only [discardAllData]; omega
  | fuel + 1, i, hi => by
    rcases Nat.lt_or_eq_of_le hi with hi | rfl
    · obtain ⟨n, hn⟩ := hd i hi
      simp only [discardAllData, hn]
      exact discard_reads_le hd hk fuel (i + 1) hi
    · rcases hk with hk | ⟨e, hk⟩ <;> simp [discardAllData, hk]

end Discard

theorem joinResult_eq (f : Except EngineError Unit) (d : Except TcpError Unit) :
    joinResult f d = match f with
      | .error e => .error (.general e)
      | .ok () => d := by
  cases f <;> cases d <;> rfl

section Close

variable (eng : Engine)

theorem returns_discard_ok :
    Returns (fun fuel => (discardAllData eng.reads fuel 0).2) (.ok ()) ↔
      ∃ k, DataUntil eng.reads k ∧ eng.reads k = some (.ok 0) := by
  constructor
  · rintro ⟨fuel, h⟩
    obtain ⟨k, hd, ⟨hk, -⟩ | ⟨e, -, he⟩⟩ := discard_result fuel 0 h
    · exact ⟨k, by simpa using hd, by simpa using hk⟩
    · cases he
  · rintro ⟨k, hd, hk⟩
    exact ⟨k + 1, by simp [(discard_ends hd (Nat.lt_succ_self k)).1 hk]⟩

theorem returns_discard_error (x : TcpError) :
    Returns (fun fuel => (discardAllData eng.reads fuel 0).2) (.error x) ↔
      ∃ k e, DataUntil eng.reads k ∧ eng.reads k = some (.error e) ∧ x = .general e := by
  constructor
  · rintro ⟨fuel, h⟩
    obtain ⟨k, hd, ⟨-, he⟩ | ⟨e, hk, he⟩⟩ := discard_result fuel 0 h
    · cases he
    · exact ⟨k, e, by simpa using hd, by simpa using hk, by cases he; rfl⟩
  · rintro ⟨k, e, hd, hk, rfl⟩
    exact ⟨k + 1, by simp [(discard_ends hd (Nat.lt_succ_self k)).2 e hk]⟩

theorem returns_close_both (r : Except TcpError Unit) :
    Returns (fun fuel => (TcpSocket.close .both eng fuel).result) r ↔
      ∃ f d, eng.flush = some f ∧
        Returns (fun fuel => (discardAllData eng.reads fuel 0).2) d ∧
        r = match f with
          | .error e => .error (.general e)
          | .ok () => d := by
  simp only [Returns, TcpSocket.close, ← joinResult_eq]
  cases eng.flush with
  | none => simp
  | some f =>
    constructor
    · rintro ⟨fuel, h⟩
      cases hd : (discardAllData eng.reads fuel 0).2 <;> simp [hd] at h
      exact ⟨f, _, rfl, ⟨fuel, hd⟩, h.symm⟩
    · rintro ⟨f, d, ⟨⟩, ⟨fuel, hd⟩, rfl⟩
      exact ⟨fuel, by simp [hd]⟩

theorem close_read_count {k : Nat} (what : Close) (hd : DataUntil eng.reads k)
    (hk : eng.reads k = some (.ok 0) ∨ ∃ e, eng.reads k = some (.error e)) (fuel : Nat) :
    (TcpSocket.close what eng fuel).calls.count .read ≤ k + 1 := by
  have := discard_reads_le hd hk fuel 0 (Nat.zero_le k)
  cases what <;> simp [TcpSocket.close, Close.shutsWrite, List.count_replicate] <;> omega

/-- What `close` and `abort` do, for every direction and every sequence of engine answers:
`close()` reaches the engine exactly for `Write` and `Both`; the discard loop returns `Ok` when
a zero-length read comes before any error, the first read error when an error comes first,
and nothing otherwise, and no read follows the one that ends it; `Read` returns what the
discard returns and `Write` the flush result; `Both` returns only once both the flush and the
discard have, and then the flush error first; `abort` aborts, then flushes, and returns the
flush result. -/
theorem close_abort_protocol (what : Close) :
    (∀ fuel, Call.close ∈ (TcpSocket.close what eng fuel).calls ↔ what = .write ∨ what = .both) ∧
    (Returns (fun fuel => (discardAllData eng.reads fuel 0).2) (.ok ()) ↔
      ∃ k, DataUntil eng.reads k ∧ eng.reads k = some (.ok 0)) ∧
    (∀ x, Returns (fun fuel => (discardAllData eng.reads fuel 0).2) (.error x) ↔
      ∃ k e, DataUntil eng.reads k ∧ eng.reads k = some (.error e) ∧ x = .general e) ∧
    (∀ k, DataUntil eng.reads k → (eng.reads k = some (.ok 0) ∨ ∃ e, eng.reads k = some (.error e)) →
      ∀ fuel, (TcpSocket.close what eng fuel).calls.count .read ≤ k + 1) ∧
    (∀ fuel, (TcpSocket.close .read eng fuel).result = (discardAllData eng.reads fuel 0).2) ∧
    (∀ fuel, (TcpSocket.close .write eng fuel).result = eng.flush.map (·.mapError .general)) ∧
    (∀ r, Returns (fun fuel => (TcpSocket.close .both eng fuel).result) r ↔
      ∃ f d, eng.flush = some f ∧ Returns (fun fuel => (discardAllData eng.reads fuel 0).2) d ∧
        r = match f with
          | .error e => .error (.general e)
          | .ok () => d) ∧
    (TcpSocket.abort eng).calls = [.abort, .flush] ∧
    (TcpSocket.abort eng).result = eng.flush.map (·.mapError .general) := by
  refine ⟨fun fuel => ?_, returns_discard_ok eng, returns_discard_error eng,
    fun k hd hk fuel => close_read_count eng what hd hk fuel, fun _ => rfl, fun _ => rfl,
    returns_close_both eng, rfl, rfl⟩
  cases what <;> simp [TcpSocket.close, Close.shutsWrite, List.mem_replicate]

end Close

/-- An engine whose reads all return one byte and whose flush succeeds. -/
def endlessData : Engine := ⟨fun _ => some (.ok 1), some (.ok ())⟩

/-- The flush succeeds and no read fails, yet `close(Both)` never returns `Ok`: `join` waits
for the discard, which does not end while the peer keeps sending. -/
theorem close_both_waits_for_discard :
    ¬ Returns (fun fuel => (TcpSocket.close .both endlessData fuel).result) (.ok ()) := by
  rw [returns_close_both endlessData]
  rintro ⟨f, d, -, ⟨fuel, h⟩, -⟩
  obtain ⟨k, -, ⟨hk, -⟩ | ⟨e, hk, -⟩⟩ := discard_result fuel 0 h <;>
    simp [endlessData] at hk

end EdgeNalEmbassy
