import EdgeNode.Proofs.Outlet

/-!
# What an activation sets apart

Nothing is published while a node waits for its activation, and the activation draws a boundary: no
reading up to it is ever published, and the cleanup takes those readings and no others (`Parted`).
-/

namespace EdgeNode

namespace Outlet

open Machine

variable {db db' : Db} {s s' : State} {res : ActivationResult}

/-! ## The boundary -/

structure Boundary (db : Db) (res : ActivationResult) : Prop where
  active : db.activation.state = .active
  discard : db.activation.discardThrough = some res.discardThroughReadingSeq
  last : res.discardThroughReadingSeq ≤ db.readings.lastId
  published : ∀ r ∈ db.log.ever, ∀ seq ∈ r.2.readingSeq, res.discardThroughReadingSeq < (seq : ℤ)
  cleanup : db.activation.cleanupThrough ≤ res.discardThroughReadingSeq
  cleaned : ∀ r ∈ db.readings.rows, db.activation.cleanupThrough < (r.1 : ℤ)

structure Parted (db : Db) : Prop where
  discovery : db.activation.state = .discoveryOnly → db.log.lastId = 0
  boundary : ∀ res ∈ db.activation.result, Boundary db res

theorem maxReadingSeq_le (db : Db) : 0 ≤ maxReadingSeq db ∧ maxReadingSeq db ≤ db.readings.lastId := by
  unfold maxReadingSeq
  split
  · omega
  · rename_i r hr
    have := AutoTable.key_le_lastId (db.readings.live.subset (List.mem_of_getLast? hr))
    omega

theorem Boundary.effect (h : Boundary db res) (hx : Effect db db') : Boundary db' res := by
  obtain ⟨hactive, hdiscard, hlast, hpub, hcleanup, hclean⟩ := h
  cases hx with
  | renewed | retargeted => exact ⟨hactive, hdiscard, hlast, hpub, hcleanup, hclean⟩
  | written hw =>
    have := hw.readings
    refine ⟨hactive, hdiscard, hlast.trans (by exact_mod_cast this), fun r hr seq hseq => ?_, hcleanup,
      fun r hr => ?_⟩
    · rcases hw.ever r hr with hr | hnew
      · exact hpub r hr seq hseq
      · exact hlast.trans_lt (by exact_mod_cast hnew seq hseq)
    · rcases hw.stored r hr with hr | hnew
      · exact hclean r hr
      · exact (hcleanup.trans hlast).trans_lt (by exact_mod_cast hnew)
  | installed ht hstate hlog => cases hstate.symm.trans hactive
  | activated hstate hlog hres => cases hstate.symm.trans hactive
  | cleaned hb hupto hlast' hrows =>
    cases hb.symm.trans hdiscard
    refine ⟨hactive, hdiscard, by rw [hlast']; exact hlast, hpub, ?_, fun r hr => ?_⟩
    · exact hupto.elim id fun he => he ▸ hcleanup
    · exact (hrows r hr).2 (hclean r (hrows r hr).1)

theorem Parted.effect (h : Parted db) (hx : Effect db db') : Parted db' := by
  have hold : ∀ {res}, db'.activation.result = some res → db.activation.result = some res →
      Boundary db' res := fun _ hres => (h.boundary _ hres).effect hx
  cases hx with
  | written hw => exact ⟨fun hs => (hw.discovery hs).trans (h.discovery hs), fun _ hr => hold hr hr⟩
  | renewed | retargeted | cleaned => exact ⟨h.discovery, fun _ hr => hold hr hr⟩
  | installed ht hstate hlog => exact ⟨fun _ => hlog, fun _ hr => hold hr hr⟩
  | activated hstate hlog hmax =>
    refine ⟨fun _ => hlog, fun res hres => ?_⟩
    cases hres
    have hle := maxReadingSeq_le db
    have hnil : db.log.ever = [] := List.length_eq_zero_iff.1 (db.log.ever_length.trans hlog)
    exact ⟨rfl, rfl, hmax ▸ hle.2, by simp [hnil], hmax ▸ hle.1,
      fun r hr => Int.natCast_pos.2 (AutoTable.key_pos hr)⟩

/-- A step of a cycle changes the target at most; any other step is an operation. -/
theorem step_effect {e : Event} (h : step s e = some s') :
    Effect s.db s'.db ∨ s'.db = { s.db with targets := s'.db.targets } := by
  obtain ⟨format, b, -, -, rfl⟩ | ⟨p, ack, db', -, hack, rfl⟩ | rfl | rfl | rfl := step_cases h
  · exact .inr rfl
  · rcases advanceCursorAfterAck_ok hack with rfl | rfl <;> exact .inr rfl
  · exact .inr rfl
  · exact .inr rfl
  · exact .inl (commit_effect e)

theorem Parted.step {e : Event} (h : Parted s.db) (hs : step s e = some s') : Parted s'.db := by
  rcases step_effect hs with hx | hx
  · exact h.effect hx
  · rw [hx]
    refine ⟨h.discovery, fun res hres => ?_⟩
    obtain ⟨hactive, hdiscard, hlast, hpub, hcleanup, hclean⟩ := h.boundary res hres
    exact ⟨hactive, hdiscard, hlast, hpub, hcleanup, hclean⟩

theorem parted_run {id epoch : String} {es : List Event}
    (hr : run step (initial id epoch) es = some s) : Parted s.db :=
  run_invariant (I := fun s => Parted s.db) (fun _ _ _ h hs => Parted.step h hs)
    ⟨by simp [initial], by simp [initial]⟩ hr

/-- Whatever happens, a node that waits for its activation has published nothing, and of an active
one no reading up to the boundary of its activation was ever published. A cleanup takes only readings
up to the boundary. -/
theorem activation_parts_readings {id epoch : String} {es : List Event}
    (hr : run step (initial id epoch) es = some s) :
    (s.db.activation.state = .discoveryOnly → s.db.log.ever = []) ∧
      ∀ res, s.db.activation.result = some res →
        (∀ r ∈ s.db.log.ever, ∀ seq, r.2.readingSeq = some seq →
          res.discardThroughReadingSeq < (seq : ℤ)) ∧
        ∀ limit n db', cleanupPreActivationBatch s.db limit = .ok (n, db') →
          ∀ r ∈ s.db.readings.rows, res.discardThroughReadingSeq < (r.1 : ℤ) →
            r ∈ db'.readings.rows := by
  have h := parted_run hr
  refine ⟨fun hstate => ?_, fun res hres => ⟨(h.boundary res hres).published, ?_⟩⟩
  · exact List.length_eq_zero_iff.1 (s.db.log.ever_length.trans (h.discovery hstate))
  · intro limit n db' hok r hmem hgt
    obtain rfl | ⟨boundary, upto, readings', hb, hupto, -, hrows, rfl⟩ := cleanup_ok hok
    · exact hmem
    · cases hb.symm.trans (h.boundary res hres).discard
      have := (h.boundary res hres).cleanup
      exact (hrows r).2 ⟨hmem, fun _ => by omega⟩

def grant : ActivationRequest :=
  ⟨1, "act-00000000000000000000000000000000", "edge-00000000000000000000000000000000", "node", "e1",
    1, 0⟩

/-- A reading comes before the activation. -/
def waiting : List Event :=
  [.install ⟨⟨"edge", true, none, 0⟩, "https://edge", "token", 1⟩, .store sample]

def activating : List Event := waiting ++ [.activate grant 7, .store sample, .cleanup 5]

theorem later_reading_is_published :
    ∃ s res, run step (initial "node" "e1") activating = some s
      ∧ s.db.activation.result = some res ∧ s.db.log.ever.length = 1
      ∧ ∀ r ∈ s.db.log.ever, ∀ seq, r.2.readingSeq = some seq →
        res.discardThroughReadingSeq < (seq : ℤ) := by
  have hend : (run step (initial "node" "e1") activating).map (fun s =>
      (s.db.activation.result.isSome, s.db.log.ever.length)) = some (true, 1) := by decide +kernel
  obtain ⟨s, hr, hs⟩ := Option.map_eq_some_iff.1 hend
  simp only [Prod.mk.injEq] at hs
  obtain ⟨res, hres⟩ := Option.isSome_iff_exists.1 hs.1
  exact ⟨s, res, hr, hres, hs.2, ((activation_parts_readings hr).2 res hres).1⟩

/-! ## An activation asked for again -/

def Granted (q : ActivationRequest) (res : ActivationResult) (db : Db) : Prop :=
  db.activation.state = .active ∧ db.activation.request = some q ∧ db.activation.result = some res

theorem Granted.effect {q : ActivationRequest} (h : Granted q res db) (hx : Effect db db') :
    Granted q res db' ∧ db'.edgeNodeId = db.edgeNodeId := by
  cases hx with
  | installed ht hstate hlog => cases hstate.symm.trans h.1
  | activated hstate hlog hres => cases hstate.symm.trans h.1
  | written | renewed | retargeted | cleaned => exact ⟨h, rfl⟩

theorem granted_run {q : ActivationRequest} {es : List Event} (h : Granted q res s.db)
    (hr : run step s es = some s') : Granted q res s'.db ∧ s'.db.edgeNodeId = s.db.edgeNodeId := by
  refine run_invariant (I := fun s' => Granted q res s'.db ∧ s'.db.edgeNodeId = s.db.edgeNodeId)
    (fun s₁ e s₂ h hs => ?_) ⟨h, rfl⟩ hr
  rcases step_effect hs with hx | hx
  · obtain ⟨hgranted, hid⟩ := h.1.effect hx
    exact ⟨hgranted, hid.trans h.2⟩
  · rw [hx]
    exact h

theorem ok_of_bind {ε α : Type} {x : Except ε Unit} {k : Unit → Except ε α} {a : α}
    (h : x >>= k = .ok a) : x = .ok () ∧ k () = .ok a := by
  rcases x with e | ⟨⟩
  · cases h
  · exact ⟨rfl, h⟩

theorem validate_result {q : ActivationRequest} {discard now : ℤ} (h : q.validate = .ok ())
    (hdiscard : 0 ≤ discard) (hnow : 0 ≤ now) :
    ActivationResult.validate ⟨1, q.activationId, q.edgeId, q.edgeNodeId, q.expectedLedgerEpoch,
      "applied", discard, 1, now⟩ = .ok () := by
  have hepoch : validateIdentity "expected_ledger_epoch" q.expectedLedgerEpoch = .ok () →
      validateIdentity "ledger_epoch" q.expectedLedgerEpoch = .ok () := by
    unfold validateIdentity invalid
    split_ifs <;> simp
  by_cases hversion : q.schemaVersion = 1
  · simp only [ActivationRequest.validate, hversion, ne_eq, not_true, if_false] at h
    obtain ⟨hact, h⟩ := ok_of_bind h
    obtain ⟨hedge, h⟩ := ok_of_bind h
    obtain ⟨hnode, h⟩ := ok_of_bind h
    simp [ActivationResult.validate, hact, hedge, hnode, hepoch (ok_of_bind h).1, not_lt.2 hdiscard,
      not_lt.2 hnow, bind, Except.bind, pure, Except.pure]
  · simp [ActivationRequest.validate, hversion, invalid, bind, Except.bind] at h

/-- An activation that was applied is never applied again, in whatever way the node runs on: the same
request gets the same result as long as the epoch stays, and no other request gets one. -/
theorem activation_applied_once {q q' : ActivationRequest} {now now' : ℤ} {es : List Event}
    (h : applyActivation s.db q now = .ok (res, db'))
    (hr : run step { s with db := db' } es = some s') :
    (∀ res' db'', applyActivation s'.db q' now' = .ok (res', db'') →
        q' = q ∧ res' = res ∧ db'' = s'.db)
      ∧ (s'.db.epoch = s.db.epoch → 0 ≤ now' → applyActivation s'.db q now' = .ok (res, s'.db)) := by
  obtain ⟨hv, hnow, hid, hepoch, hcase⟩ := applyActivation_ok h
  have hgranted : Granted q res db' ∧ res.validate = .ok () ∧ db'.edgeNodeId = s.db.edgeNodeId := by
    rcases hcase with ⟨hstate, hq, hres, hval, rfl⟩ | ⟨-, -, hres, rfl⟩
    · exact ⟨⟨hstate, hq, hres⟩, hval, rfl⟩
    · refine ⟨⟨rfl, rfl, rfl⟩, ?_, rfl⟩
      rw [hres, ← hid, ← hepoch]
      exact validate_result hv (maxReadingSeq_le s.db).1 hnow
  obtain ⟨⟨hstate, hq, hres⟩, hid'⟩ := granted_run hgranted.1 hr
  refine ⟨fun res' db'' h' => ?_, fun he hnow' => ?_⟩
  · obtain ⟨-, -, -, -, ⟨-, hq', hres', -, rfl⟩ | ⟨hstate', -⟩⟩ := applyActivation_ok h'
    · exact ⟨Option.some.inj (hq'.symm.trans hq), Option.some.inj (hres'.symm.trans hres), rfl⟩
    · cases hstate'.symm.trans hstate
  · have hnode : q.edgeNodeId = s'.db.edgeNodeId := (hid.trans hgranted.2.2.symm).trans hid'.symm
    simp [applyActivation, hv, hnow', hnode, hepoch, he, hstate, hq, hres, hgranted.2.1,
      bind, Except.bind, pure, Except.pure]

theorem grant_repeats :
    ∃ s res db' s', run step (initial "node" "e1") waiting = some s
      ∧ applyActivation s.db grant 7 = .ok (res, db')
      ∧ run step { s with db := db' } [.store sample, .cleanup 5] = some s'
      ∧ applyActivation s'.db grant 9 = .ok (res, s'.db) := by
  have hend : (run step (initial "node" "e1") waiting).bind (fun s =>
      (applyActivation s.db grant 7).toOption.bind fun r =>
        (run step { s with db := r.2 } [.store sample, .cleanup 5]).map fun s' =>
          s'.db.epoch == s.db.epoch) = some true := by decide +kernel
  obtain ⟨s, hs, hend⟩ := Option.bind_eq_some_iff.1 hend
  rcases hact : applyActivation s.db grant 7 with e | ⟨res, db'⟩ <;>
    simp only [hact, Except.toOption, Option.bind_some] at hend
  · cases hend
  · obtain ⟨s', hs', he⟩ := Option.map_eq_some_iff.1 hend
    have hsame := (@activation_applied_once _ _ _ _ _ grant 7 9 _ hact hs').2
    exact ⟨s, res, db', s', hs, hact, hs', hsame (by simpa using he) (by decide)⟩

end Outlet

end EdgeNode
