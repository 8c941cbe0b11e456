import EdgeNode.Ingest.Admission

/-!
# The rate of admission

A bucket that is refilled in the order of the readings gives out no more than its burst and what the
time since it was made is worth. A refill with an older reading sets the time of the bucket back, and
the next one counts that time again.
-/

namespace EdgeNode

namespace Ingest

variable {config : AdmissionConfig} {s : AdmissionState} {c c' : AdmissionController}
  {t : Option (String × FlowClassLimit)} {clock now : ℕ}

/-! ## Buckets -/

def Kept (rate burst clock : ℕ) (b : TokenBucket) : Prop := b.Bounded rate burst ∧ b.lastMs ≤ clock

section Kept

variable {rate burst : ℕ} {b : TokenBucket}

theorem Kept.refillRate (h : Kept rate burst clock b) (hnow : b.lastMs ≤ now) (hclock : now ≤ clock) :
    Kept rate burst clock (b.refillRate rate burst now) := ⟨h.1.refillRate hnow, hclock⟩

theorem Kept.take {cost : ℕ} (h : Kept rate burst clock b) (hcost : cost ≤ b.tokensMilli) :
    Kept rate burst clock (b.take cost) := ⟨h.1.take hcost, h.2⟩

theorem Kept.giveBack {refund capacity : ℕ} (h : Kept rate burst clock b)
    (hcapacity : capacity = burst * 1000) : Kept rate burst clock (b.giveBack refund capacity) :=
  ⟨h.1.giveBack hcapacity.le, h.2⟩

theorem Kept.later {clock' : ℕ} (h : Kept rate burst clock b) (hclock : clock ≤ clock') :
    Kept rate burst clock' b := ⟨h.1, h.2.trans hclock⟩

end Kept

def KeptFlow (flow : FlowClassLimit) (clock : ℕ) (b : TokenBucket) : Prop :=
  Kept flow.ratePerSecond flow.burst clock b ∧ b.ratePerSecond = flow.ratePerSecond
    ∧ b.burst = flow.burst

structure BucketsSound (config : AdmissionConfig) (t : Option (String × FlowClassLimit)) (clock : ℕ)
    (s : AdmissionState) : Prop where
  auth : Kept config.authRatePerSecond config.authBurst clock s.auth
  reservedAuth : Kept config.reservedAuthRatePerSecond config.reservedAuthBurst clock s.reservedAuth
  globalFlow : Kept config.globalRatePerSecond config.globalBurst clock s.globalFlow
  principal : ∀ id flow, t = some (id, flow) → ∀ b, s.principals.lookup id = some b →
    KeptFlow flow clock b

theorem BucketsSound.alike {s' : AdmissionState} (h : BucketsSound config t clock s) (hauth : s'.auth = s.auth)
    (hreserved : s'.reservedAuth = s.reservedAuth) (hglobal : s'.globalFlow = s.globalFlow)
    (hprincipals : s'.principals = s.principals) : BucketsSound config t clock s' := by
  refine ⟨?_, ?_, ?_, ?_⟩
  · rw [hauth]
    exact h.auth
  · rw [hreserved]
    exact h.reservedAuth
  · rw [hglobal]
    exact h.globalFlow
  · rw [hprincipals]
    exact h.principal

/-! ## What leaves the buckets alone -/

theorem BucketsSound.noteDrop (h : BucketsSound config t clock s) : BucketsSound config t clock (s.noteDrop now) := by
  unfold AdmissionState.noteDrop
  dsimp only
  split_ifs
  · exact h.alike rfl rfl rfl rfl
  · exact h.alike rfl rfl rfl rfl

theorem BucketsSound.maybeRecover (h : BucketsSound config t clock s) :
    BucketsSound config t clock (s.maybeRecover config now) := by
  unfold AdmissionState.maybeRecover
  split_ifs
  · exact h
  · exact h.alike rfl rfl rfl rfl

theorem BucketsSound.rememberSource {peer : IpAddr} (h : BucketsSound config t clock s) :
    BucketsSound config t clock (s.rememberSource config peer now) := by
  unfold AdmissionState.rememberSource
  split_ifs
  · exact h.alike rfl rfl rfl rfl
  · exact h

theorem BucketsSound.recordAuthFailure {peer : IpAddr} (h : BucketsSound config t clock s) :
    BucketsSound config t clock (s.recordAuthFailure config peer now) := by
  unfold AdmissionState.recordAuthFailure
  split
  · exact h.alike rfl rfl rfl rfl
  · exact h

theorem BucketsSound.acknowledgeEpisodeEvents {events : List ThrottleEpisodeEvent}
    (h : BucketsSound config t clock s) : BucketsSound config t clock (s.acknowledgeEpisodeEvents events).2 := by
  unfold AdmissionState.acknowledgeEpisodeEvents
  split_ifs
  · exact h.alike rfl rfl rfl rfl
  · exact h

/-! ## What fills and empties them -/

theorem BucketsSound.refillAuth (h : BucketsSound config t clock s) (hnow : s.auth.lastMs ≤ now)
    (hclock : now ≤ clock) : BucketsSound config t clock (s.refillAuth config now) :=
  ⟨h.auth.refillRate hnow hclock, h.reservedAuth, h.globalFlow, h.principal⟩

theorem BucketsSound.refillReservedAuth (h : BucketsSound config t clock s) (hnow : s.reservedAuth.lastMs ≤ now)
    (hclock : now ≤ clock) : BucketsSound config t clock (s.refillReservedAuth config now) :=
  ⟨h.auth, h.reservedAuth.refillRate hnow hclock, h.globalFlow, h.principal⟩

theorem BucketsSound.refillGlobalFlow (h : BucketsSound config t clock s) (hnow : s.globalFlow.lastMs ≤ now)
    (hclock : now ≤ clock) : BucketsSound config t clock (s.refillGlobalFlow config now) :=
  ⟨h.auth, h.reservedAuth, h.globalFlow.refillRate hnow hclock, h.principal⟩

theorem BucketsSound.refillPrincipals (h : BucketsSound config t clock s)
    (hnow : ∀ e ∈ s.principals.entries, e.2.lastMs ≤ now) (hclock : now ≤ clock) :
    BucketsSound config t clock (s.refillPrincipals now) := by
  refine ⟨h.auth, h.reservedAuth, h.globalFlow, fun id flow ht b hb => ?_⟩
  simp only [AdmissionState.refillPrincipals, Keyed.lookup_updateWhere, if_true] at hb
  obtain ⟨b₀, hb₀, rfl⟩ := Option.map_eq_some_iff.1 hb
  obtain ⟨hkept, hrate, hburst⟩ := h.principal id flow ht b₀ hb₀
  have hlast : b₀.lastMs ≤ now := hnow ⟨id, b₀⟩ (AList.mem_lookup_iff.1 hb₀)
  rw [hrate, hburst]
  exact ⟨hkept.refillRate hlast hclock, hrate, hburst⟩

theorem BucketsSound.healthSnapshot (h : BucketsSound config t clock s) (hauth : s.auth.lastMs ≤ now)
    (hglobal : s.globalFlow.lastMs ≤ now) (hprincipals : ∀ e ∈ s.principals.entries, e.2.lastMs ≤ now)
    (hclock : now ≤ clock) : BucketsSound config t clock (s.healthSnapshot config now).2 :=
  (((h.refillAuth hauth hclock).refillGlobalFlow hglobal hclock).refillPrincipals hprincipals
    hclock).maybeRecover

theorem BucketsSound.beginAuth {peer : IpAddr} {recentlyValidated : Bool} (h : BucketsSound config t clock s)
    (hauth : s.auth.lastMs ≤ now) (hreserved : s.reservedAuth.lastMs ≤ now) (hclock : now ≤ clock) :
    BucketsSound config t clock (s.beginAuth config peer recentlyValidated now).2 := by
  unfold AdmissionState.beginAuth
  dsimp only
  have hretained : BucketsSound config t clock { s with
      sources := Keyed.retain (fun _ source => decide (now < source.expiresAtMs)) s.sources } :=
    h.alike rfl rfl rfl rfl
  have hrefilled := (hretained.refillAuth hauth hclock).refillReservedAuth hreserved hclock
  generalize { s with
    sources := Keyed.retain (fun _ source => decide (now < source.expiresAtMs)) s.sources } = s₁
    at hretained hrefilled ⊢
  split_ifs with hthrottled htokens hvalidated
  · exact hretained.noteDrop
  · exact BucketsSound.rememberSource ⟨hrefilled.auth.take htokens, hrefilled.reservedAuth,
      hrefilled.globalFlow, hrefilled.principal⟩
  · rw [Bool.and_eq_true, decide_eq_true_eq] at hvalidated
    exact BucketsSound.rememberSource ⟨hrefilled.auth, hrefilled.reservedAuth.take hvalidated.2,
      hrefilled.globalFlow, hrefilled.principal⟩
  · exact hrefilled.noteDrop

/-! ## Reservations -/

theorem principalBucket_kept {id : String} {flow : FlowClassLimit} (hclock : now ≤ clock)
    (h : ∀ b, s.principals.lookup id = some b → KeptFlow flow clock b ∧ b.lastMs ≤ now) :
    KeptFlow flow clock (s.principalBucket id flow now) := by
  have hkept : Kept flow.ratePerSecond flow.burst clock (((s.principals.lookup id).getD
      (.make flow.burst flow.ratePerSecond flow.burst now)).refillRate flow.ratePerSecond flow.burst
        now) := by
    cases hb : s.principals.lookup id with
    | none => exact ⟨(TokenBucket.make_bounded le_rfl).refillRate le_rfl, hclock⟩
    | some b => exact (h b hb).1.1.refillRate (h b hb).2 hclock
  unfold AdmissionState.principalBucket
  dsimp only
  generalize ((s.principals.lookup id).getD
    (.make flow.burst flow.ratePerSecond flow.burst now)).refillRate flow.ratePerSecond flow.burst
      now = b at hkept ⊢
  obtain ⟨⟨hfull, hstarted, hspent⟩, hlast⟩ := hkept
  rw [min_eq_left hfull]
  exact ⟨⟨⟨hfull, hstarted, hspent⟩, hlast⟩, rfl, rfl⟩

theorem lookup_insert_eq_some {id id' : String} {b b' : TokenBucket}
    {principals : AList fun _ : String => TokenBucket}
    (h : (principals.insert id b).lookup id' = some b') :
    id' = id ∧ b' = b ∨ id' ≠ id ∧ principals.lookup id' = some b' := by
  by_cases hid : id' = id
  · subst hid
    rw [AList.lookup_insert] at h
    exact .inl ⟨rfl, (Option.some.inj h).symm⟩
  · rw [AList.lookup_insert_ne hid] at h
    exact .inr ⟨hid, h⟩

theorem BucketsSound.insertPrincipal {id : String} {b : TokenBucket} (h : BucketsSound config t clock s)
    (hb : ∀ flow, t = some (id, flow) → KeptFlow flow clock b) :
    BucketsSound config t clock { s with principals := s.principals.insert id b } := by
  refine ⟨h.auth, h.reservedAuth, h.globalFlow, fun id' flow ht b' hb' => ?_⟩
  rcases lookup_insert_eq_some hb' with ⟨rfl, rfl⟩ | ⟨-, hb'⟩
  · exact hb flow ht
  · exact h.principal id' flow ht b' hb'

theorem BucketsSound.reserveFlow {id : String} {flow : FlowClassLimit} (cost : ℕ)
    (h : BucketsSound config t clock s) (hflow : ∀ flow', t = some (id, flow') → flow = flow')
    (hglobal : s.globalFlow.lastMs ≤ now)
    (hprincipal : ∀ b, s.principals.lookup id = some b → b.lastMs ≤ now) (hclock : now ≤ clock) :
    BucketsSound config t clock (s.reserveFlow config id flow cost now).2
      ∧ ∀ r, (s.reserveFlow config id flow cost now).1 = .ok r →
        r.globalCapacityMilli = config.globalBurst * 1000 ∧ r.principalId = id
          ∧ r.principalCapacityMilli = flow.burst * 1000 := by
  have hrefilled := h.refillGlobalFlow hglobal hclock
  have hbucket : ∀ flow', t = some (id, flow') →
      KeptFlow flow' clock ((s.refillGlobalFlow config now).principalBucket id flow now) := by
    intro flow' ht
    obtain rfl := hflow flow' ht
    exact principalBucket_kept hclock fun b hb => ⟨h.principal id flow ht b hb, hprincipal b hb⟩
  unfold AdmissionState.reserveFlow
  dsimp only
  generalize (s.refillGlobalFlow config now).principalBucket id flow now = b at hbucket ⊢
  generalize s.refillGlobalFlow config now = s₁ at hrefilled ⊢
  split_ifs with hroom hcost
  · exact ⟨hrefilled.noteDrop, by simp⟩
  · exact ⟨(hrefilled.insertPrincipal hbucket).noteDrop, by simp⟩
  · rw [Bool.or_eq_true, not_or, decide_eq_true_eq, decide_eq_true_eq, not_lt, not_lt] at hcost
    refine ⟨?_, ?_⟩
    · have hkept : ∀ flow', t = some (id, flow') → KeptFlow flow' clock (b.take (cost * 1000)) :=
        fun flow' ht => ⟨(hbucket flow' ht).1.take hcost.2, (hbucket flow' ht).2⟩
      have hinserted := (hrefilled.insertPrincipal hbucket).insertPrincipal hkept
      exact ⟨hinserted.auth, hinserted.reservedAuth, hinserted.globalFlow.take hcost.1,
        hinserted.principal⟩
    · rintro r ⟨rfl⟩
      exact ⟨rfl, rfl, rfl⟩

def Matches (config : AdmissionConfig) (t : Option (String × FlowClassLimit))
    (r : PrincipalReservation) : Prop :=
  r.globalCapacityMilli = config.globalBurst * 1000
    ∧ ∀ flow, t = some (r.principalId, flow) → r.principalCapacityMilli = flow.burst * 1000

theorem BucketsSound.onPrincipal {id : String} {f : TokenBucket → TokenBucket} (h : BucketsSound config t clock s)
    (hf : ∀ flow b, t = some (id, flow) → s.principals.lookup id = some b → KeptFlow flow clock b →
      KeptFlow flow clock (f b)) :
    BucketsSound config t clock (s.onPrincipal id f) := by
  refine ⟨h.auth, h.reservedAuth, h.globalFlow, fun id' flow ht b hb => ?_⟩
  simp only [AdmissionState.onPrincipal, Keyed.lookup_updateWhere] at hb
  obtain ⟨b₀, hb₀, rfl⟩ := Option.map_eq_some_iff.1 hb
  have hkept := h.principal id' flow ht b₀ hb₀
  split_ifs with hid
  · obtain rfl : id' = id := by simpa using hid
    exact hf flow b₀ ht hb₀ hkept
  · exact hkept

theorem BucketsSound.refundUnused {r : PrincipalReservation} (h : BucketsSound config t clock s)
    (hr : Matches config t r) : BucketsSound config t clock (s.refundUnused r) := by
  unfold AdmissionState.refundUnused
  dsimp only
  split_ifs
  · exact h
  · have hglobal : BucketsSound config t clock { s with
        globalFlow := s.globalFlow.giveBack (r.reservedMilli - r.consumedMilli)
          r.globalCapacityMilli } :=
      ⟨h.auth, h.reservedAuth, h.globalFlow.giveBack hr.1, h.principal⟩
    exact hglobal.onPrincipal fun flow b ht _ hb => ⟨hb.1.giveBack (hr.2 flow ht), hb.2⟩

theorem BucketsSound.reconcileAt {r : PrincipalReservation} {decodedBytes items : ℕ}
    (h : BucketsSound config t clock s) (hr : Matches config t r) :
    BucketsSound config t clock (s.reconcileAt r decodedBytes items now).2 := by
  unfold AdmissionState.reconcileAt
  dsimp only
  split_ifs with hmore hlack
  · exact h.noteDrop
  · rw [Bool.or_eq_true, not_or, decide_eq_true_eq, not_lt] at hlack
    refine BucketsSound.refundUnused (BucketsSound.onPrincipal ?_ fun flow b ht hb hkept => ?_) ⟨hr.1, hr.2⟩
    · exact ⟨h.auth, h.reservedAuth, h.globalFlow.take hlack.1, h.principal⟩
    · refine ⟨hkept.1.take ?_, hkept.2⟩
      have henough := hlack.2
      rw [show s.principals.lookup r.principalId = some b from hb] at henough
      simpa using henough
  · exact h.refundUnused ⟨hr.1, hr.2⟩

/-! ## Runs -/

def InOrder (c : AdmissionController) : AdmissionEvent → Prop
  | .beginAuth reading _ _ => ∀ nowMs ∈ c.readings[reading]?,
    c.state.auth.lastMs ≤ nowMs ∧ c.state.reservedAuth.lastMs ≤ nowMs
  | .reservePrincipal reading principalId _ _ => ∀ nowMs ∈ c.readings[reading]?,
    c.state.globalFlow.lastMs ≤ nowMs
      ∧ ∀ b ∈ c.state.principals.lookup principalId, b.lastMs ≤ nowMs
  | .healthSnapshot reading => ∀ nowMs ∈ c.readings[reading]?,
    c.state.auth.lastMs ≤ nowMs ∧ c.state.globalFlow.lastMs ≤ nowMs
      ∧ ∀ e ∈ c.state.principals.entries, e.2.lastMs ≤ nowMs
  | _ => True

instance (c : AdmissionController) (e : AdmissionEvent) : Decidable (InOrder c e) := by
  cases e <;> unfold InOrder <;> infer_instance

def KeepsFlow (config : AdmissionConfig) (id : String) (flow : FlowClassLimit) :
    AdmissionEvent → Prop
  | .reservePrincipal _ principalId flowClass _ =>
    principalId = id → ∀ flow' ∈ config.flow flowClass, flow' = flow
  | _ => True

structure ControllerSound (config : AdmissionConfig) (t : Option (String × FlowClassLimit))
    (c : AdmissionController) : Prop where
  sound : BucketsSound config t c.clockMs c.state
  readings : ∀ r ∈ c.readings, r ≤ c.clockMs
  reservations : ∀ r ∈ c.reservations, Matches config t r

theorem satU64_le (n : ℕ) : satU64 n ≤ n := min_le_left _ _

theorem BucketsSound.later {clock' : ℕ} (h : BucketsSound config t clock s) (hclock : clock ≤ clock') :
    BucketsSound config t clock' s :=
  ⟨h.auth.later hclock, h.reservedAuth.later hclock, h.globalFlow.later hclock,
    fun id flow ht b hb => ⟨(h.principal id flow ht b hb).1.later hclock,
      (h.principal id flow ht b hb).2⟩⟩

theorem ControllerSound.withReading {reading : ℕ}
    {f : ℕ → AdmissionController → AdmissionController} (h : ControllerSound config t c)
    (hf : ∀ nowMs c₁, c.readings[reading]? = some nowMs → nowMs ≤ c.clockMs → c₁.state = c.state →
      c₁.clockMs = c.clockMs → ControllerSound config t c₁ → ControllerSound config t (f nowMs c₁))
    (hc : c.withReading reading f = some c') : ControllerSound config t c' := by
  obtain ⟨nowMs, hreading, rfl⟩ := Option.map_eq_some_iff.1 hc
  refine hf nowMs _ hreading (h.readings _ (List.mem_of_getElem? hreading)) rfl rfl ?_
  exact ⟨h.sound, fun r hr => h.readings r (List.mem_of_mem_eraseIdx hr), h.reservations⟩

theorem ControllerSound.onState {f : AdmissionState → AdmissionState}
    (h : ControllerSound config t c) (hf : BucketsSound config t c.clockMs (f c.state)) :
    ControllerSound config t (c.onState f) := ⟨hf, h.readings, h.reservations⟩

theorem ControllerSound.endReservation {reservation : ℕ}
    {f : PrincipalReservation → AdmissionState → AdmissionState} (h : ControllerSound config t c)
    (hf : ∀ r, Matches config t r → BucketsSound config t c.clockMs (f r c.state))
    (hc : c.endReservation reservation f = some c') : ControllerSound config t c' := by
  obtain ⟨r, hr, rfl⟩ := Option.map_eq_some_iff.1 hc
  exact ⟨hf r (h.reservations r (List.mem_of_getElem? hr)), h.readings,
    fun r' hr' => h.reservations r' (List.mem_of_mem_eraseIdx hr')⟩

theorem ControllerSound.beginAuth {peer : IpAddr} {recentlyValidated : Bool}
    (h : ControllerSound config t c) (hclock : now ≤ c.clockMs) (hauth : c.state.auth.lastMs ≤ now)
    (hreserved : c.state.reservedAuth.lastMs ≤ now) :
    ControllerSound config t (c.beginAuth config peer recentlyValidated now) := by
  have hstate : BucketsSound config t c.clockMs (c.state.beginAuth config peer recentlyValidated now).2 :=
    h.sound.beginAuth hauth hreserved hclock
  unfold AdmissionController.beginAuth
  split
  all_goals
    rename_i state hout
    rw [hout] at hstate
    exact ⟨hstate, h.readings, h.reservations⟩

theorem ControllerSound.acquireWorker {recentlyValidated : Bool} (h : ControllerSound config t c) :
    ControllerSound config t (c.acquireWorker now recentlyValidated) := by
  unfold AdmissionController.acquireWorker
  split_ifs
  · exact ⟨h.sound, h.readings, h.reservations⟩
  · exact ⟨h.sound, h.readings, h.reservations⟩
  · exact h.onState h.sound.noteDrop

theorem ControllerSound.reservePrincipal {id flowClass : String} {cost : ℕ}
    (h : ControllerSound config t c) (hclock : now ≤ c.clockMs)
    (hflow : ∀ flow, t = some (id, flow) → ∀ flow' ∈ config.flow flowClass, flow' = flow)
    (hglobal : c.state.globalFlow.lastMs ≤ now)
    (hprincipal : ∀ b ∈ c.state.principals.lookup id, b.lastMs ≤ now) :
    ControllerSound config t (c.reservePrincipal config id flowClass cost now) := by
  have hstate : BucketsSound config t c.clockMs (c.state.reservePrincipal config id flowClass cost now).2
      ∧ ∀ r, (c.state.reservePrincipal config id flowClass cost now).1 = .ok r →
        Matches config t r := by
    unfold AdmissionState.reservePrincipal
    split_ifs
    · exact ⟨h.sound.noteDrop, by simp⟩
    · split
      · exact ⟨h.sound.noteDrop, by simp⟩
      · rename_i flow hclass
        have hfixed : ∀ flow', t = some (id, flow') → flow = flow' :=
          fun flow' ht => hflow flow' ht flow hclass
        have hreserved := h.sound.reserveFlow cost hfixed hglobal hprincipal hclock
        refine ⟨hreserved.1, fun r hr => ?_⟩
        obtain ⟨hcapacity, rfl, hprincipalCapacity⟩ := hreserved.2 r hr
        exact ⟨hcapacity, fun flow' ht => by rw [hprincipalCapacity, hfixed flow' ht]⟩
  unfold AdmissionController.reservePrincipal
  split
  · rename_i r state hout
    rw [hout] at hstate
    refine ⟨hstate.1, h.readings, fun r' hr' => ?_⟩
    rcases List.mem_append.1 hr' with hr' | hr'
    · exact h.reservations r' hr'
    · obtain rfl := List.mem_singleton.1 hr'
      exact hstate.2 _ rfl
  · rename_i state hout
    rw [hout] at hstate
    exact ⟨hstate.1, h.readings, h.reservations⟩

theorem ControllerSound.step (h : ControllerSound config t c) (e : AdmissionEvent)
    (horder : InOrder c e) (hflow : ∀ id flow, t = some (id, flow) → KeepsFlow config id flow e)
    (hc : c.step config e = some c') : ControllerSound config t c' := by
  cases e with
  | advance ms =>
    obtain rfl := Option.some.inj hc
    exact ⟨h.sound.later (Nat.le_add_right _ _), fun r hr => (h.readings r hr).trans
      (Nat.le_add_right _ _), h.reservations⟩
  | read =>
    obtain rfl := Option.some.inj hc
    refine ⟨h.sound, fun r hr => ?_, h.reservations⟩
    rcases List.mem_append.1 hr with hr | hr
    · exact h.readings r hr
    · rw [List.mem_singleton.1 hr]
      exact satU64_le _
  | beginAuth reading peer recentlyValidated =>
    refine h.withReading (fun nowMs c₁ hreading hclock hstate hclockMs h₁ => ?_) hc
    obtain ⟨hauth, hreserved⟩ := horder nowMs hreading
    exact h₁.beginAuth (hclockMs ▸ hclock) (hstate ▸ hauth) (hstate ▸ hreserved)
  | acquireWorker call =>
    obtain ⟨⟨nowMs, recentlyValidated⟩, -, rfl⟩ := Option.map_eq_some_iff.1 hc
    exact ControllerSound.acquireWorker ⟨h.sound, h.readings, h.reservations⟩
  | releaseWorker reserved =>
    obtain rfl := Option.some.inj hc
    split_ifs
    · exact ⟨h.sound, h.readings, h.reservations⟩
    · exact ⟨h.sound, h.readings, h.reservations⟩
  | recordAuthFailure reading peer =>
    exact h.withReading (fun _ _ _ _ _ _ h₁ => h₁.onState h₁.sound.recordAuthFailure) hc
  | recordThrottledDrop reading =>
    exact h.withReading (fun _ _ _ _ _ _ h₁ => h₁.onState h₁.sound.noteDrop) hc
  | reservePrincipal reading id flowClass cost =>
    refine h.withReading (fun nowMs c₁ hreading hclock hstate hclockMs h₁ => ?_) hc
    obtain ⟨hglobal, hprincipal⟩ := horder nowMs hreading
    exact h₁.reservePrincipal (hclockMs ▸ hclock) (fun flow ht => hflow id flow ht rfl)
      (hstate ▸ hglobal) (hstate ▸ hprincipal)
  | noteConsumedBytes reservation bytes =>
    obtain ⟨r, hr, rfl⟩ := Option.map_eq_some_iff.1 hc
    refine ⟨h.sound, h.readings, fun r' hr' => ?_⟩
    rcases List.mem_or_eq_of_mem_set hr' with hr' | rfl
    · exact h.reservations r' hr'
    · exact h.reservations r (List.mem_of_getElem? hr)
  | reconcileAt reading reservation decodedBytes items =>
    obtain ⟨nowMs, -, hc⟩ := Option.bind_eq_some_iff.1 hc
    have h₁ : ControllerSound config t { c with readings := c.readings.eraseIdx reading } :=
      ⟨h.sound, fun r hr => h.readings r (List.mem_of_mem_eraseIdx hr), h.reservations⟩
    exact h₁.endReservation (fun r hr => h.sound.reconcileAt hr) hc
  | reconcile reservation decodedBytes items =>
    simp only [AdmissionController.step] at hc
    exact h.endReservation (fun r hr => h.sound.reconcileAt hr) hc
  | dropReservation reservation =>
    simp only [AdmissionController.step] at hc
    exact h.endReservation (fun r hr => h.sound.refundUnused hr) hc
  | healthSnapshot reading =>
    refine h.withReading (fun nowMs c₁ hreading hclock hstate hclockMs h₁ => ?_) hc
    obtain ⟨hauth, hglobal, hprincipals⟩ := horder nowMs hreading
    exact h₁.onState (h₁.sound.healthSnapshot (hstate ▸ hauth) (hstate ▸ hglobal)
      (hstate ▸ hprincipals) (hclockMs ▸ hclock))
  | noteQueueDepth depth =>
    obtain rfl := Option.some.inj hc
    exact h.onState (h.sound.alike rfl rfl rfl rfl)
  | noteCurrentCapacityPressure queueCurrent queueCapacity requestCurrent requestCapacity
      connectionCurrent connectionCapacity =>
    obtain rfl := Option.some.inj hc
    exact h.onState (h.sound.alike rfl rfl rfl rfl)
  | acknowledgeEpisodeEvents events =>
    obtain rfl := Option.some.inj hc
    exact h.onState h.sound.acknowledgeEpisodeEvents

theorem new_sound (hconfig : config.validate = true) (nowMs : ℕ) :
    ControllerSound config t (.new config nowMs) := by
  have hinitial : config.initialAuthTokens ≤ config.authBurst
      ∧ config.initialReservedAuthTokens ≤ config.reservedAuthBurst := by
    simp only [AdmissionConfig.validate, Bool.not_eq_true', Bool.or_eq_false_iff,
      decide_eq_false_iff_not] at hconfig
    omega
  refine ⟨⟨?_, ?_, ?_, ?_⟩, by simp [AdmissionController.new], by simp [AdmissionController.new]⟩
  · exact ⟨TokenBucket.make_bounded hinitial.1, satU64_le _⟩
  · exact ⟨TokenBucket.make_bounded hinitial.2, satU64_le _⟩
  · exact ⟨TokenBucket.make_bounded le_rfl, satU64_le _⟩
  · exact fun id flow _ b hb => absurd hb (by simp [AdmissionController.new, AdmissionState.new])

def WithinRate (rate burst clock : ℕ) (b : TokenBucket) : Prop :=
  b.spentMilli ≤ burst * 1000 + rate * (clock - b.createdMs)

instance (rate burst clock : ℕ) (b : TokenBucket) : Decidable (WithinRate rate burst clock b) :=
  inferInstanceAs (Decidable (_ ≤ _))

/-- Over every run in which the buckets are refilled in the order of the readings, no bucket gives out
more than its burst and what the time since it was made is worth; for the bucket of a principal, as
long as its flow class stays the same. -/
theorem admission_within_rate (config : AdmissionConfig) (hconfig : config.validate = true)
    (startMs : ℕ) (events : List AdmissionEvent) (c : AdmissionController)
    (horder : Machine.Along (AdmissionController.step config) InOrder (.new config startMs) events)
    (hrun : Machine.run (AdmissionController.step config) (.new config startMs) events = some c) :
    WithinRate config.authRatePerSecond config.authBurst c.clockMs c.state.auth
    ∧ WithinRate config.reservedAuthRatePerSecond config.reservedAuthBurst c.clockMs
      c.state.reservedAuth
    ∧ WithinRate config.globalRatePerSecond config.globalBurst c.clockMs c.state.globalFlow
    ∧ ∀ id flow, (∀ e ∈ events, KeepsFlow config id flow e) →
      ∀ b, c.state.principals.lookup id = some b →
        WithinRate flow.ratePerSecond flow.burst c.clockMs b := by
  have hsound : ∀ t, (∀ id flow, t = some (id, flow) → ∀ e ∈ events, KeepsFlow config id flow e) →
      ControllerSound config t c := by
    intro t ht
    have halong := horder.and_mem (Q := fun e => ∀ id flow, t = some (id, flow) →
      KeepsFlow config id flow e) fun e he id flow h => ht id flow h e he
    exact Machine.run_invariant_along (fun c e c' he h hc => h.step e he.1 he.2 hc) halong
      (new_sound hconfig startMs) hrun
  have hshared := (hsound none (by simp)).sound
  refine ⟨hshared.auth.1.spent_le hshared.auth.2,
    hshared.reservedAuth.1.spent_le hshared.reservedAuth.2,
    hshared.globalFlow.1.spent_le hshared.globalFlow.2, fun id flow hflow b hb => ?_⟩
  have hprincipal := (hsound (some (id, flow)) (by
    rintro _ _ ⟨rfl⟩
    exact hflow)).sound.principal id flow rfl b hb
  exact hprincipal.1.1.spent_le hprincipal.1.2

section Turnstile

def turnstile : AdmissionConfig :=
  { authRatePerSecond := 1, authBurst := 1, initialAuthTokens := 1 }

def turnstilePeer : IpAddr := .v4 0x0a000001#32

def turnstileEvents : List AdmissionEvent :=
  [.read, .beginAuth 0 turnstilePeer false, .advance 1000, .read, .beginAuth 0 turnstilePeer false]

theorem turnstile_within_rate :
    ∃ c, Machine.run (AdmissionController.step turnstile) (.new turnstile 0) turnstileEvents = some c
      ∧ c.state.auth.spentMilli = 2000
      ∧ WithinRate turnstile.authRatePerSecond turnstile.authBurst c.clockMs c.state.auth := by
  have hspent : (Machine.run (AdmissionController.step turnstile) (.new turnstile 0)
      turnstileEvents).map (fun c => c.state.auth.spentMilli) = some 2000 := by decide +kernel
  obtain ⟨c, hrun, hspent⟩ := Option.map_eq_some_iff.1 hspent
  exact ⟨c, hrun, hspent, (admission_within_rate turnstile (by decide) 0 turnstileEvents c
    (by decide +kernel) hrun).1⟩

/-- One of two callers that have read the clock at the start takes the lock a second later, after a
caller with a newer reading. -/
def overtakenEvents : List AdmissionEvent :=
  [.read, .read, .beginAuth 0 turnstilePeer false, .advance 1000, .read,
    .beginAuth 1 turnstilePeer false, .beginAuth 0 turnstilePeer false, .read,
    .beginAuth 0 turnstilePeer false]

/-- Three tokens in the first second, where the burst and the second are worth two. -/
theorem overtaken_reading_exceeds_rate :
    ∃ c, Machine.run (AdmissionController.step turnstile) (.new turnstile 0) overtakenEvents = some c
      ∧ c.clockMs = 1000 ∧ c.state.auth.createdMs = 0 ∧ c.state.auth.spentMilli = 3000
      ∧ ¬WithinRate turnstile.authRatePerSecond turnstile.authBurst c.clockMs c.state.auth := by
  have hout : (Machine.run (AdmissionController.step turnstile) (.new turnstile 0)
      overtakenEvents).map
        (fun c => (c.clockMs, c.state.auth.createdMs, c.state.auth.spentMilli,
          decide (WithinRate turnstile.authRatePerSecond turnstile.authBurst c.clockMs c.state.auth)))
      = some (1000, 0, 3000, false) := by decide +kernel
  obtain ⟨c, hrun, hc⟩ := Option.map_eq_some_iff.1 hout
  simp only [Prod.mk.injEq, decide_eq_false_iff_not] at hc
  exact ⟨c, hrun, hc⟩

end Turnstile

end Ingest

end EdgeNode
