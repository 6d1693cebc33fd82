import ChainRelay.Proofs.Crypto.LeastKey
import ChainRelay.Relay.Basic

/-!
# What checked settings are good for

`Settings.check` looks at five settings. The texts that a bridge cannot do without are
not among them, nor is the interval at which failed heights are offered again, nor an
upper bound for the queue of heights. So checked settings may still be refused by a
bridge, for the first of those texts that is empty (`BridgeSettings.empty?`). There may
be no scanner, as its queue may be larger than there can be. The tasks of a scanner may
be unable to run, as the interval may be no time at all, or end behind the last moment
that the clock can tell. When it ends depends on when the tasks are started, so that is
said for a start at any moment (`Settings.hindrances_of_check`).
-/

namespace ChainRelay

/-! ## What is checked -/

theorem ScanSettings.check_eq_ok_iff (s : ScanSettings) :
    s.check = .ok () ↔ Blank.trim s.rpcHost ≠ "" ∧ s.processors ≠ 0 ∧ s.maxAttempts ≠ 0 := by
  rw [check]
  split_ifs <;> simp_all

theorem Settings.check_eq_ok_iff (s : Settings) :
    s.check = .ok () ↔ s.observer.scan.check = .ok () ∧ s.bridge.check = .ok () := by
  rw [check]
  cases s.observer.scan.check with
  | error _ => exact ⟨nofun, nofun⟩
  | ok _ => exact ⟨fun h => ⟨rfl, h⟩, fun h => h.2⟩

/-! ## The bridge -/

namespace BridgeSettings

/-- The texts that a bridge cannot do without, with what a failure calls them. -/
def needed (s : BridgeSettings) : List (String × String) :=
  [("chain id", s.chainId), ("chain host", s.chainHost), ("signer name", s.signerName),
    ("signer password", s.signerPassword)]

/-- What the first of them that is empty is called. -/
def empty? (s : BridgeSettings) : Option String := (s.needed.find? (·.2 = "")).map (·.1)

end BridgeSettings

/-- From checked settings a bridge is made as soon as no text is empty and the key can
    be opened. -/
theorem Bridge.create_of_check {s : BridgeSettings} (checked : s.check = .ok ())
    (openKey : String → String → Outcome Signer) :
    Bridge.create s openKey =
      match s.empty? with
      | some name => .error (.of (.emptySetting name))
      | none =>
        ((openKey s.signerName s.signerPassword).mapError (·.within "fail to get keybase")).map
          (⟨s, ·⟩) := by
  simp only [create, checked, BridgeSettings.empty?, BridgeSettings.needed, List.find?_cons]
  -- The texts are looked at one by one on both sides.
  by_cases hid : s.chainId = ""
  · simp [hid, bind, Except.bind]
  by_cases hhost : s.chainHost = ""
  · simp [hid, hhost, bind, Except.bind]
  by_cases hname : s.signerName = ""
  · simp [hid, hhost, hname, bind, Except.bind]
  by_cases hpassword : s.signerPassword = ""
  · simp [hid, hhost, hname, hpassword, bind, Except.bind]
  · simp only [hid, hhost, hname, hpassword, if_false, decide_false, List.find?_nil]
    cases openKey s.signerName s.signerPassword <;> rfl

/-! ## The queue and the tasks -/

namespace ScanSettings

variable {s : ScanSettings}

/-- Checked settings give the queue some room, but it may be too much. -/
theorem makeQueue_of_check (checked : s.check = .ok ()) :
    s.makeQueue = if s.processors.toNat ≤ 2 ^ 61 - 1 then .ok () else .broken .capacity := by
  have hroom : s.processors ≠ 0 := (s.check_eq_ok_iff.1 checked).2.1
  have hmost : maxCapacity = 2 ^ 61 - 1 := rfl
  rw [makeQueue, hmost]
  by_cases hle : s.processors.toNat ≤ 2 ^ 61 - 1
  · rw [if_pos hle, if_neg (not_or.2 ⟨hroom, not_lt.2 hle⟩)]
  · rw [if_neg hle, if_pos (.inr (not_le.1 hle))]

theorem create_of_check (checked : s.check = .ok ()) {endpoint : String}
    (normal : Endpoint.normalize s.rpcHost = .ok endpoint) :
    Scanner.create s =
      if s.processors.toNat ≤ 2 ^ 61 - 1 then .ok ⟨endpoint, s⟩ else .broken .capacity := by
  rw [Scanner.create, normal, checked, makeQueue_of_check checked]
  split_ifs <;> rfl

theorem startFault?_eq_none_iff (now : Moment) :
    s.startFault? now = none ↔
      now.nanoseconds + s.retryInterval.nanoseconds < 2 ^ 63 * 10 ^ 9 ∧
        s.retryInterval.nanoseconds ≠ 0 := by
  have hlate : (now.after? s.retryInterval).isNone ↔
      ¬ now.nanoseconds + s.retryInterval.nanoseconds < 2 ^ 63 * 10 ^ 9 := by
    rw [Option.isNone_iff_eq_none, Moment.after?_eq_none_iff, not_lt]
    rfl
  rw [startFault?]
  split_ifs with h hzero
  · exact ⟨nofun, fun hfit => absurd hfit.1 (hlate.1 h)⟩
  · exact ⟨nofun, fun hfit => absurd (of_decide_eq_true hzero) hfit.2⟩
  · exact ⟨fun _ => ⟨not_not.1 (mt hlate.2 h), fun hnone => hzero (decide_eq_true hnone)⟩,
      fun _ => rfl⟩

/-- The tasks run exactly if there can be a queue and the task that offers failed heights
    again can run. -/
theorem exists_run_iff (checked : s.check = .ok ()) {endpoint : String}
    (normal : Endpoint.normalize s.rpcHost = .ok endpoint) (store : Store) (now : Moment) :
    (∃ run, Run.start s store now = .ok run) ↔
      s.processors.toNat ≤ 2 ^ 61 - 1 ∧ s.startFault? now = none := by
  rw [Run.start, create_of_check checked normal, Observer.create, normal,
    makeQueue_of_check checked]
  split_ifs with hle
  · cases s.startFault? now with
    | none => exact ⟨fun _ => ⟨hle, rfl⟩, fun _ => ⟨_, rfl⟩⟩
    | some fault =>
      refine ⟨?_, nofun⟩
      rintro ⟨_, h⟩
      cases h
  · refine ⟨?_, fun h => absurd h.1 hle⟩
    rintro ⟨_, h⟩
    cases h

end ScanSettings

/-! ## All together -/

namespace Settings

/-- What can still stand in the way of checked settings: an empty text, a key that
    cannot be opened, more room for heights than there can be, and failed heights that
    are due at all times, or when the clock can tell no more. -/
theorem hindrances_of_check {s : Settings} (checked : s.check = .ok ()) {endpoint : String}
    (normal : Endpoint.normalize s.observer.scan.rpcHost = .ok endpoint) (store : Store)
    (now : Moment) (openKey : String → String → Outcome Signer) :
    (Bridge.create s.bridge openKey =
      match s.bridge.empty? with
      | some name => .error (.of (.emptySetting name))
      | none =>
        ((openKey s.bridge.signerName s.bridge.signerPassword).mapError
          (·.within "fail to get keybase")).map (⟨s.bridge, ·⟩)) ∧
    Scanner.create s.observer.scan =
      (if s.observer.scan.processors.toNat ≤ 2 ^ 61 - 1 then .ok ⟨endpoint, s.observer.scan⟩
      else .broken .capacity) ∧
    ((∃ run, Run.start s.observer.scan store now = .ok run) ↔
      s.observer.scan.processors.toNat ≤ 2 ^ 61 - 1 ∧
        now.nanoseconds + s.observer.scan.retryInterval.nanoseconds < 2 ^ 63 * 10 ^ 9 ∧
        s.observer.scan.retryInterval.nanoseconds ≠ 0) := by
  obtain ⟨hscan, hbridge⟩ := s.check_eq_ok_iff.1 checked
  refine ⟨Bridge.create_of_check hbridge openKey, ScanSettings.create_of_check hscan normal, ?_⟩
  rw [ScanSettings.exists_run_iff hscan normal store now, ScanSettings.startFault?_eq_none_iff]

/-- Settings for nodes on the same machine. -/
def nearby : Settings where
  observer := ⟨none, { ScanSettings.standard with rpcHost := "localhost:26657" }⟩
  bridge := { BridgeSettings.standard with signerName := "relay", signerPassword := "secret" }
  collector := none

theorem normalize_nearby :
    Endpoint.normalize nearby.observer.scan.rpcHost = .ok "http://localhost:26657" := by
  decide +kernel

/-- A clock that has been running for a second. -/
def early : Moment := ⟨1000000000, by decide⟩

theorem hindrances_of_nearby :
    nearby.check = .ok () ∧
    (∃ b, Bridge.create nearby.bridge (fun name _ => .ok ⟨name, .least⟩) = .ok b) ∧
    ∃ run, Run.start nearby.observer.scan .empty early = .ok run := by
  have checked : nearby.check = .ok () := by rfl
  obtain ⟨hbridge, -, hrun⟩ :=
    hindrances_of_check checked normalize_nearby .empty early fun name _ => .ok ⟨name, .least⟩
  exact ⟨checked, ⟨_, hbridge⟩, hrun.2 (by decide)⟩

/-- Settings pass the check without the name of a signer, without time between offers of
    failed heights or with more than the clock can tell, and with room for more heights than
    there can be. -/
theorem check_overlooks :
    (let nameless := { nearby.bridge with signerName := "" }
     { nearby with bridge := nameless }.check = .ok () ∧
      ∀ openKey, Bridge.create nameless openKey = .error (.of (.emptySetting "signer name"))) ∧
    (let restless := { nearby.observer.scan with retryInterval := .zero }
     { nearby with observer := ⟨none, restless⟩ }.check = .ok () ∧
      restless.startFault? early = some .noPeriod) ∧
    (let patient := { nearby.observer.scan with retryInterval := .seconds 9223372036854775807 }
     { nearby with observer := ⟨none, patient⟩ }.check = .ok () ∧
      patient.startFault? early = some .latePeriod) ∧
    (let huge := { nearby.observer.scan with processors := 2305843009213693952 }
     { nearby with observer := ⟨none, huge⟩ }.check = .ok () ∧
      Scanner.create huge = .broken .capacity) := by
  refine ⟨⟨rfl, fun _ => rfl⟩, ⟨rfl, by decide⟩, ⟨rfl, by decide⟩, rfl, ?_⟩
  have hcreate := ScanSettings.create_of_check
    (s := { nearby.observer.scan with processors := 2305843009213693952 }) rfl normalize_nearby
  exact hcreate.trans (if_neg (by decide))

end Settings

end ChainRelay
