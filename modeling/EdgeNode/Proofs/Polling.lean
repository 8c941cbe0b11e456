import Mathlib.Computability.RegularExpressions
import EdgeNode.Adapters.Polling

/-!
# The events of a polled bus

The pass that applies the outcomes of a cycle falls apart into its targets: the addresses differ, so
the keys do, and no outcome touches a state that is not its own (`cycle_eq`). What a target alone can
do is a small machine (`advance_cases`), and its events are a word of the life of a device, cut off
somewhere.
-/

namespace EdgeNode

namespace Polling

variable {ι ρ : Type} {targets : List TargetRuntime} {t : TargetRuntime} {busPath : String}
  {states : List (TargetState ι)} {s : TargetState ι} {a : DriverAnswers ι ρ} {i : ℕ}

theorem deviceKeyFor_injective {address address' : UInt8} {suffix suffix' : String}
    (h : deviceKeyFor address suffix = deviceKeyFor address' suffix') : address = address' := by
  have hchars := congrArg String.toList h
  simp only [deviceKeyFor, hex, String.toList_append, String.toList_ofList, List.append_assoc,
    List.append_cancel_left_eq] at hchars
  have hdigits := (List.append_inj hchars (by simp only [hexDigits_length])).1
  have hnumber := congrArg hexNumber hdigits
  rw [hexNumber_hexDigits, hexNumber_hexDigits, Option.some_inj] at hnumber
  have hlt := address.toNat_lt
  have hlt' := address'.toNat_lt
  exact UInt8.toNat_inj.1 (by omega)

def DistinctKeys (targets : List TargetRuntime) : Prop := (targets.map TargetRuntime.key).Nodup

theorem validateTargets_nodup {ms : ℕ} :
    ∀ {seen : List UInt8} {configured : List SensorTargetConfig},
      validateTargets ms seen configured = .ok () →
      (configured.map SensorTargetConfig.address).Nodup
        ∧ ∀ address ∈ seen, address ∉ configured.map SensorTargetConfig.address
  | _, [], _ => by simp
  | seen, target :: rest, h => by
    unfold validateTargets at h
    split_ifs at h with hrange hseen
    rcases hvalid : target.driver.validate ms with e | u <;> rw [hvalid] at h
    · cases h
    · obtain ⟨hnodup, hfresh⟩ := validateTargets_nodup h
      rw [List.contains_iff_mem] at hseen
      refine ⟨List.nodup_cons.2 ⟨hfresh _ List.mem_cons_self, hnodup⟩, fun address haddress => ?_⟩
      rw [List.map_cons, List.mem_cons, not_or]
      exact ⟨fun heq => hseen (heq ▸ haddress), hfresh _ (List.mem_cons_of_mem _ haddress)⟩

theorem distinctKeys_of_valid {config : PollingAdapterConfig} (h : validateConfig config = .ok ()) :
    DistinctKeys config.runtimes := by
  unfold validateConfig at h
  split_ifs at h
  have hnodup := (validateTargets_nodup h).1
  unfold DistinctKeys PollingAdapterConfig.runtimes
  rw [List.map_map, List.Nodup, List.pairwise_map]
  rw [List.Nodup, List.pairwise_map] at hnodup
  exact hnodup.imp fun hne heq => hne (deviceKeyFor_injective heq)

/-! ## One target -/

inductive DriverCall where
  | detect (ok : Bool)
  | init (ok : Bool)
  | read (ok : Bool)
  deriving DecidableEq, Repr

def CallResult.isOk {α : Type} : CallResult α → Bool
  | .ok _ => true
  | _ => false

def TargetState.calls (a : DriverAnswers ι ρ) : TargetState ι → List DriverCall
  | .pending _ _ =>
    if a.detect.isOk then [.detect true, .init a.init.isOk] else [.detect false]
  | .detected _ _ => [.init a.init.isOk]
  | .active _ _ => [.read a.read.isOk]

def advance (busPath : String) (t : TargetRuntime) (a : DriverAnswers ι ρ) (s : TargetState ι) :
    TargetState ι × List (PollingEvent ι ρ) :=
  let r := applyOutcome [t] [s] (pollTarget busPath 0 t a s)
  (r.1.headD s, r.2)

def TargetState.isActive : TargetState ι → Bool
  | .active _ _ => true
  | _ => false

def PollingEvent.key : PollingEvent ι ρ → Option String
  | .deviceDiscovered key _ | .sensorData key _ _ _ _ | .deviceLost key _ => some key
  | .adapterError key _ => key

inductive Advanced (t : TargetRuntime) :
    TargetState ι → List DriverCall → TargetState ι → List (PollingEvent ι ρ) → Prop
  | absent {s s' : TargetState ι} {calls : List DriverCall} {events : List (PollingEvent ι ρ)}
      (hidle : s.isActive = false) (hidle' : s'.isActive = false)
      (hcalls : ∃ before call, calls = before ++ [call] ∧ call ≠ .read false)
      (hevents : ∀ e ∈ events, e.key = none) : Advanced t s calls s' events
  | discovered {s : TargetState ι} {calls : List DriverCall} {identity : ι}
      (hidle : s.isActive = false)
      (hcalls : ∃ before call, calls = before ++ [call] ∧ call ≠ .read false) :
      Advanced t s calls (.active t.key 0) [.deviceDiscovered t.key identity]
  | read {key : String} {n : ℕ} {reading : ρ} {observedAt : ℤ} :
      Advanced t (.active key n) [.read true] (.active key 0)
        [.sensorData key reading none none observedAt]
  | failed {key message : String} {n : ℕ} (hfew : n + 1 < maxReadFailures) :
      Advanced t (.active key n) [.read false] (.active key (n + 1))
        [.adapterError (some key) message]
  | lost {key message reason : String} {n : ℕ} (hmany : maxReadFailures ≤ n + 1) :
      Advanced t (.active key n) [.read false] .newPending
        [.adapterError (some key) message, .deviceLost key reason]

theorem advanced_initFailed {calls : List DriverCall} {identity : ι} {message : String}
    {isPanic : Bool} (hidle : s.isActive = false)
    (hcalls : ∃ before call, calls = before ++ [call] ∧ call ≠ .read false) :
    Advanced t s calls
      ((applyOutcome (ρ := ρ) [t] [s] (.initFailed 0 identity message isPanic)).1.headD s)
      (applyOutcome (ρ := ρ) [t] [s] (.initFailed 0 identity message isPanic)).2 := by
  refine .absent hidle ?_ hcalls ?_
  · unfold applyOutcome
    dsimp only [List.set_cons_zero, List.headD_cons]
    split_ifs <;> rfl
  · simp [applyOutcome, PollingEvent.key]

theorem advanced_init {calls : List DriverCall} {identity : ι} {r : CallResult Unit}
    (hidle : s.isActive = false)
    (hcalls : ∃ before call, calls = before ++ [call] ∧ call ≠ .read false) :
    Advanced t s calls
      ((applyOutcome (ρ := ρ) [t] [s] (initTarget busPath 0 t identity r)).1.headD s)
      (applyOutcome (ρ := ρ) [t] [s] (initTarget busPath 0 t identity r)).2 := by
  cases r with
  | ok u => exact .discovered hidle hcalls
  | error message => exact advanced_initFailed hidle hcalls
  | panicked payload => exact advanced_initFailed hidle hcalls

theorem advanced_detectFailed {n : ℕ} {escalated isPanic : Bool} {message : String} :
    Advanced t (.pending n escalated : TargetState ι) [.detect false]
      ((applyOutcome (ρ := ρ) [t] [.pending n escalated]
        (.detectFailed 0 message isPanic)).1.headD (.pending n escalated))
      (applyOutcome (ρ := ρ) [t] [(.pending n escalated : TargetState ι)]
        (.detectFailed 0 message isPanic)).2 := by
  refine .absent rfl ?_ ⟨[], _, rfl, by decide⟩ ?_
  · simp only [applyOutcome, List.getElem?_cons_zero]
    split_ifs <;> rfl
  · simp only [applyOutcome, List.getElem?_cons_zero]
    split_ifs <;> simp [PollingEvent.key]

theorem advanced_readError {key message : String} {n : ℕ} {isPanic : Bool} :
    Advanced t (.active key n : TargetState ι) [.read false]
      ((applyOutcome (ρ := ρ) [t] [.active key n]
        (.readError 0 key message isPanic)).1.headD (.active key n))
      (applyOutcome (ρ := ρ) [t] [(.active key n : TargetState ι)]
        (.readError 0 key message isPanic)).2 := by
  simp only [applyOutcome, List.getElem?_cons_zero]
  split_ifs with hmany
  · exact .lost hmany
  · exact .failed (not_le.1 hmany)

theorem advance_cases (busPath : String) (t : TargetRuntime) (a : DriverAnswers ι ρ)
    (s : TargetState ι) :
    Advanced t s (s.calls a) (advance busPath t a s).1 (advance busPath t a s).2 := by
  unfold advance TargetState.calls
  cases s with
  | pending n escalated =>
    simp only [pollTarget]
    rcases a.detect with identity | message | payload
    · exact advanced_init rfl ⟨[_], _, rfl, nofun⟩
    · exact advanced_detectFailed
    · exact advanced_detectFailed
  | detected identity n => exact advanced_init rfl ⟨[], _, rfl, nofun⟩
  | active key n =>
    simp only [pollTarget]
    rcases a.read with reading | message | payload
    · simp only [applyOutcome, resetReadFailures, if_true]
      exact .read
    · exact advanced_readError
    · exact advanced_readError

/-! ## The bus, target by target -/

def Own (t : TargetRuntime) (s : TargetState ι) : Prop := ∀ key n, s = .active key n → key = t.key

theorem Own.of_idle (h : s.isActive = false) : Own t s := by
  rintro key n rfl
  cases h

theorem Own.advance (h : Own t s) (busPath : String) (a : DriverAnswers ι ρ) :
    Own t (advance busPath t a s).1 := by
  have hcases := advance_cases busPath t a s
  generalize Polling.advance busPath t a s = r at hcases ⊢
  generalize s.calls a = calls at hcases
  obtain ⟨s', events⟩ := r
  cases hcases with
  | absent _ hidle' _ _ => exact .of_idle hidle'
  | discovered _ _ =>
    rintro key n ⟨rfl, rfl⟩
    rfl
  | read =>
    rintro key n ⟨rfl, rfl⟩
    exact h _ _ rfl
  | failed _ =>
    rintro key n ⟨rfl, rfl⟩
    exact h _ _ rfl
  | lost _ => exact .of_idle rfl

theorem resetReadFailures_eq {key : String} {n : ℕ} :
    ∀ {targets : List TargetRuntime} {states : List (TargetState ι)} {i : ℕ},
      List.Forall₂ Own targets states → DistinctKeys targets →
      states[i]? = some (.active key n) → resetReadFailures key states = states.set i (.active key 0)
  | _, _, _, .nil, _, hs => by simp at hs
  | t :: targets, s :: states, 0, .cons hown _, _, hs => by
    obtain rfl := Option.some.inj hs
    simp [resetReadFailures]
  | t :: targets, s :: states, i + 1, .cons hown howns, hkeys, hs => by
    unfold DistinctKeys at hkeys
    rw [List.map_cons, List.nodup_cons] at hkeys
    rw [List.getElem?_cons_succ] at hs
    have hrest := resetReadFailures_eq howns hkeys.2 hs
    cases s with
    | pending _ _ => simp [resetReadFailures, hrest]
    | detected _ _ => simp [resetReadFailures, hrest]
    | active k m =>
      have hother : k ≠ key := by
        rintro rfl
        obtain ⟨hi, hget⟩ := List.getElem?_eq_some_iff.1 hs
        have hlength := howns.length_eq
        have hkey := howns.get (by omega) hi k n hget
        refine hkeys.1 (List.mem_map.2 ⟨_, List.get_mem targets ⟨i, by omega⟩, ?_⟩)
        rw [← hkey, hown k m rfl]
      simp [resetReadFailures, hother, hrest]

theorem applyOutcome_eq (hown : List.Forall₂ Own targets states) (hkeys : DistinctKeys targets)
    (ht : targets[i]? = some t) (hs : states[i]? = some s) :
    applyOutcome targets states (pollTarget busPath i t a s)
      = (states.set i (advance busPath t a s).1, (advance busPath t a s).2) := by
  have hinit : ∀ (identity : ι) (r : CallResult Unit),
      applyOutcome (ρ := ρ) targets states (initTarget busPath i t identity r)
        = (states.set i ((applyOutcome (ρ := ρ) [t] [s] (initTarget busPath 0 t identity r)).1.headD s),
          (applyOutcome (ρ := ρ) [t] [s] (initTarget busPath 0 t identity r)).2) := by
    intro identity r
    cases r <;> simp [initTarget, applyOutcome, hs]
  have hname : targetName targets i = targetName [t] 0 := by simp [targetName, ht]
  unfold advance
  cases s with
  | pending n escalated =>
    simp only [pollTarget]
    rcases a.detect with identity | message | payload
    · exact hinit _ _
    · simp only [applyOutcome, hs, hname, List.getElem?_cons_zero]
      split_ifs <;> rfl
    · simp only [applyOutcome, hs, hname, List.getElem?_cons_zero]
      split_ifs <;> rfl
  | detected identity n => exact hinit _ _
  | active key n =>
    simp only [pollTarget]
    rcases a.read with reading | message | payload
    · simp only [applyOutcome, resetReadFailures_eq hown hkeys hs]
      simp [resetReadFailures]
    · simp only [applyOutcome, hs, List.getElem?_cons_zero]
      split_ifs <;> rfl
    · simp only [applyOutcome, hs, List.getElem?_cons_zero]
      split_ifs <;> rfl

theorem applyOutcomes_eq (answers : ℕ → DriverAnswers ι ρ) (hkeys : DistinctKeys targets) :
    ∀ (rest : List (TargetRuntime × TargetState ι)) (done : List TargetRuntime)
      (new : List (TargetState ι)), targets = done ++ rest.map Prod.fst →
      List.Forall₂ Own done new → (∀ x ∈ rest, Own x.1 x.2) →
      applyOutcomes targets (new ++ rest.map Prod.snd)
          ((rest.zipIdx new.length).map fun x => pollTarget busPath x.2 x.1.1 (answers x.2) x.1.2)
        = (new ++ (rest.zipIdx new.length).map fun x =>
            (advance busPath x.1.1 (answers x.2) x.1.2).1,
          (rest.zipIdx new.length).flatMap fun x => (advance busPath x.1.1 (answers x.2) x.1.2).2)
  | [], done, new, _, _, _ => by simp [applyOutcomes]
  | (t, s) :: rest, done, new, htargets, hdone, hrest => by
    have hlength := hdone.length_eq
    have ht : targets[new.length]? = some t := by simp [htargets, ← hlength]
    have hs : (new ++ s :: rest.map Prod.snd)[new.length]? = some s := by simp
    have hown : List.Forall₂ Own targets (new ++ s :: rest.map Prod.snd) := by
      rw [htargets, ← List.map_cons (f := Prod.snd) (a := (t, s))]
      refine List.rel_append hdone ?_
      rw [List.forall₂_map_left_iff, List.forall₂_map_right_iff]
      exact List.forall₂_same.2 hrest
    have hs' := (hrest _ List.mem_cons_self).advance busPath (answers new.length)
    have htail := applyOutcomes_eq answers hkeys rest (done ++ [t])
      (new ++ [(advance busPath t (answers new.length) s).1]) (by simp [htargets])
      (List.rel_append hdone (.cons hs' .nil)) fun x hx => hrest x (List.mem_cons_of_mem _ hx)
    rw [List.length_append, List.length_singleton] at htail
    simp only [List.zipIdx_cons, List.map_cons, applyOutcomes, applyOutcome_eq hown hkeys ht hs]
    rw [List.set_append_right _ _ (le_refl _), Nat.sub_self, List.set_cons_zero, List.append_cons,
      htail]
    simp

theorem cycle_eq (answers : ℕ → DriverAnswers ι ρ) (hkeys : DistinctKeys targets)
    (hown : List.Forall₂ Own targets states) :
    cycle targets busPath states answers
      = ((targets.zip states).zipIdx.map fun x => (advance busPath x.1.1 (answers x.2) x.1.2).1,
        (targets.zip states).zipIdx.flatMap fun x => (advance busPath x.1.1 (answers x.2) x.1.2).2) := by
  have hlength := hown.length_eq
  have hfst : (targets.zip states).map Prod.fst = targets := List.map_fst_zip hlength.le
  have hsnd : (targets.zip states).map Prod.snd = states := List.map_snd_zip hlength.ge
  have h := @applyOutcomes_eq ι ρ targets busPath answers hkeys (targets.zip states) [] []
    (by rw [hfst]; rfl) .nil fun x hx => (List.forall₂_iff_zip.1 hown).2 hx
  rw [List.nil_append, List.nil_append, hsnd] at h
  exact h

theorem zip_advanced (hlength : targets.length = states.length)
    (g : (TargetRuntime × TargetState ι) × ℕ → TargetState ι) :
    targets.zip ((targets.zip states).zipIdx.map g)
      = (targets.zip states).zipIdx.map fun x => (x.1.1, g x) := by
  have htargets : (targets.zip states).zipIdx.map (fun x => x.1.1) = targets :=
    calc (targets.zip states).zipIdx.map (fun x => x.1.1)
      _ = ((targets.zip states).zipIdx.map Prod.fst).map Prod.fst := by
        rw [List.map_map]
        rfl
      _ = targets := by rw [List.zipIdx_map_fst, List.map_fst_zip hlength.le]
  calc targets.zip ((targets.zip states).zipIdx.map g)
    _ = ((targets.zip states).zipIdx.map fun x => x.1.1).zip ((targets.zip states).zipIdx.map g) := by
      rw [htargets]
    _ = _ := List.zip_map'

theorem cycle_own (answers : ℕ → DriverAnswers ι ρ) (hkeys : DistinctKeys targets)
    (hown : List.Forall₂ Own targets states) :
    List.Forall₂ Own targets (cycle targets busPath states answers).1 := by
  have hlength := hown.length_eq
  rw [cycle_eq answers hkeys hown, List.forall₂_iff_zip]
  dsimp only
  refine ⟨by simp [hlength], fun {t s'} hmem => ?_⟩
  rw [zip_advanced hlength, List.mem_map] at hmem
  obtain ⟨⟨⟨t, s⟩, j⟩, hx, heq⟩ := hmem
  obtain ⟨rfl, rfl⟩ := Prod.mk.inj heq
  exact ((List.forall₂_iff_zip.1 hown).2 (List.fst_mem_of_mem_zipIdx hx)).advance _ _

/-! ## The life of a device -/

inductive EventKind where
  | discovered
  | data
  | error
  | lost
  deriving DecidableEq, Repr

def PollingEvent.kind : PollingEvent ι ρ → EventKind
  | .deviceDiscovered _ _ => .discovered
  | .sensorData _ _ _ _ _ => .data
  | .deviceLost _ _ => .lost
  | .adapterError _ _ => .error

def kindsOf (key : String) (events : List (PollingEvent ι ρ)) : List EventKind :=
  (events.filter fun e => e.key == some key).map PollingEvent.kind

def presence : RegularExpression EventKind := .star (.char .data + .char .error)

def lifecycle : RegularExpression EventKind :=
  .star (.char .discovered * presence * .char .lost)

def failures (w : List EventKind) : ℕ := (w.rtakeWhile (· == .error)).length

/-- A device is lost at the fifth failure in a row, and only then. -/
def LostAtFifth (w : List EventKind) : Prop :=
  ∀ before e after, w = before ++ e :: after → (e = .lost ↔ failures before = 5)

theorem length_rtakeWhile_concat {α : Type} (p : α → Bool) (l : List α) (x : α) :
    ((l ++ [x]).rtakeWhile p).length = if p x then (l.rtakeWhile p).length + 1 else 0 := by
  split_ifs with h
  · rw [List.rtakeWhile_concat_pos _ _ _ h]
    simp
  · rw [List.rtakeWhile_concat_neg _ _ _ h]
    rfl

theorem failures_concat (w : List EventKind) (e : EventKind) :
    failures (w ++ [e]) = if e = .error then failures w + 1 else 0 := by
  simpa [failures] using length_rtakeWhile_concat (· == EventKind.error) w e

theorem LostAtFifth.nil : LostAtFifth [] := by
  intro before e after h
  simp at h

theorem LostAtFifth.concat {w : List EventKind} {e : EventKind} (h : LostAtFifth w)
    (he : e = .lost ↔ failures w = 5) : LostAtFifth (w ++ [e]) := by
  intro before e' after hsplit
  rcases List.eq_nil_or_concat after with rfl | ⟨after, last, rfl⟩
  · obtain ⟨rfl, heq⟩ := List.append_inj' hsplit rfl
    obtain rfl := List.singleton_inj.1 heq
    exact he
  · rw [List.concat_eq_append, ← List.cons_append, ← List.append_assoc] at hsplit
    exact h before e' after (List.append_inj' hsplit rfl).1

theorem LostAtFifth.of_append {w rest : List EventKind} (h : LostAtFifth (w ++ rest)) :
    LostAtFifth w := by
  rintro before e after rfl
  exact h before e (after ++ rest) (by simp)

theorem presence_concat {m : List EventKind} {e : EventKind} (h : m ∈ presence.matches')
    (he : e = .data ∨ e = .error) : m ++ [e] ∈ presence.matches' := by
  simp only [presence, RegularExpression.matches'_star, Language.mem_kstar] at h ⊢
  obtain ⟨words, rfl, hwords⟩ := h
  refine ⟨words ++ [[e]], by simp, fun w hw => ?_⟩
  rcases List.mem_append.1 hw with hw | hw
  · exact hwords w hw
  · rw [List.mem_singleton.1 hw]
    rcases he with rfl | rfl
    · exact .inl rfl
    · exact .inr rfl

theorem lifecycle_nil : [] ∈ lifecycle.matches' := by
  simp only [lifecycle, RegularExpression.matches'_star]
  exact Language.nil_mem_kstar _

theorem lifecycle_concat {u m : List EventKind} (hu : u ∈ lifecycle.matches')
    (hm : m ∈ presence.matches') :
    u ++ .discovered :: m ++ [.lost] ∈ lifecycle.matches' := by
  simp only [lifecycle, RegularExpression.matches'_star, Language.mem_kstar] at hu ⊢
  obtain ⟨words, rfl, hwords⟩ := hu
  refine ⟨words ++ [.discovered :: m ++ [.lost]], by simp, fun w hw => ?_⟩
  rcases List.mem_append.1 hw with hw | hw
  · exact hwords w hw
  · rw [List.mem_singleton.1 hw]
    exact ⟨.discovered :: m, ⟨[.discovered], rfl, m, hm, rfl⟩, [.lost], rfl, rfl⟩

theorem kindsOf_own {key : String} {events : List (PollingEvent ι ρ)}
    (h : ∀ e ∈ events, e.key = some key) : kindsOf key events = events.map PollingEvent.kind := by
  unfold kindsOf
  rw [List.filter_eq_self.2 fun e he => by simp [h e he]]

theorem kindsOf_unkeyed {key : String} {events : List (PollingEvent ι ρ)}
    (h : ∀ e ∈ events, e.key = none) : kindsOf key events = [] := by
  unfold kindsOf
  rw [List.map_eq_nil_iff, List.filter_eq_nil_iff]
  intro e he
  simp [h e he]

def Life (s : TargetState ι) (w : List EventKind) : Prop :=
  match s with
  | .active _ n => n < 5 ∧ failures w = n
      ∧ ∃ u m, w = u ++ .discovered :: m ∧ u ∈ lifecycle.matches' ∧ m ∈ presence.matches'
  | _ => failures w = 0 ∧ w ∈ lifecycle.matches'

theorem life_of_idle {w : List EventKind} (h : s.isActive = false) :
    Life s w ↔ failures w = 0 ∧ w ∈ lifecycle.matches' := by
  cases s with
  | pending _ _ => rfl
  | detected _ _ => rfl
  | active _ _ => cases h

theorem Life.advanced {w : List EventKind} {calls : List DriverCall} {s' : TargetState ι}
    {events : List (PollingEvent ι ρ)} (h : Life s w) (hlost : LostAtFifth w) (hown : Own t s)
    (hadvanced : Advanced t s calls s' events) :
    Life s' (w ++ kindsOf t.key events) ∧ LostAtFifth (w ++ kindsOf t.key events) := by
  cases hadvanced with
  | absent hidle hidle' _ hevents =>
    rw [kindsOf_unkeyed hevents, List.append_nil, life_of_idle hidle']
    exact ⟨(life_of_idle hidle).1 h, hlost⟩
  | discovered hidle _ =>
    obtain ⟨hzero, hword⟩ := (life_of_idle hidle).1 h
    rw [kindsOf_own (by simp [PollingEvent.key])]
    simp only [List.map_cons, List.map_nil, PollingEvent.kind]
    refine ⟨⟨by decide, by simp [failures_concat], w, [], rfl, hword, ?_⟩,
      hlost.concat (by simp [hzero])⟩
    exact Language.nil_mem_kstar _
  | @read key n _ _ =>
    obtain rfl := hown key n rfl
    obtain ⟨hfew, hfailures, u, m, rfl, hu, hm⟩ := h
    rw [kindsOf_own (by simp [PollingEvent.key])]
    simp only [List.map_cons, List.map_nil, PollingEvent.kind]
    refine ⟨⟨by decide, by rw [failures_concat]; rfl, u, m ++ [.data], by simp, hu,
      presence_concat hm (.inl rfl)⟩, hlost.concat ?_⟩
    simp only [reduceCtorEq, false_iff]
    omega
  | @failed key _ n hfew' =>
    obtain rfl := hown key n rfl
    obtain ⟨hfew, hfailures, u, m, rfl, hu, hm⟩ := h
    rw [kindsOf_own (by simp [PollingEvent.key])]
    simp only [List.map_cons, List.map_nil, PollingEvent.kind]
    refine ⟨⟨hfew', by rw [failures_concat, if_pos rfl, hfailures], u, m ++ [.error], by simp, hu,
      presence_concat hm (.inr rfl)⟩, hlost.concat ?_⟩
    simp only [reduceCtorEq, false_iff]
    omega
  | @lost key _ _ n hmany =>
    obtain rfl := hown key n rfl
    obtain ⟨hfew, hfailures, u, m, rfl, hu, hm⟩ := h
    have hfive : n + 1 = 5 := Nat.le_antisymm hfew hmany
    have hfifth : failures (u ++ .discovered :: m ++ [.error]) = 5 := by
      rw [failures_concat, if_pos rfl, hfailures, hfive]
    rw [kindsOf_own (by simp [PollingEvent.key])]
    simp only [List.map_cons, List.map_nil, PollingEvent.kind]
    rw [List.append_cons]
    refine ⟨⟨by rw [failures_concat]; rfl, ?_⟩, (hlost.concat ?_).concat (iff_of_true rfl hfifth)⟩
    · have hword := lifecycle_concat hu (presence_concat hm (.inr rfl))
      simpa using hword
    · simp only [reduceCtorEq, false_iff]
      omega

/-! ## Whole runs -/

theorem kindsOf_advance_ne {key : String} (hown : Own t s) (hkey : key ≠ t.key) (busPath : String)
    (a : DriverAnswers ι ρ) : kindsOf key (advance busPath t a s).2 = [] := by
  have hcases := advance_cases busPath t a s
  generalize advance busPath t a s = r at hcases ⊢
  generalize s.calls a = calls at hcases
  obtain ⟨s', events⟩ := r
  unfold kindsOf
  rw [List.map_eq_nil_iff, List.filter_eq_nil_iff]
  cases hcases with
  | absent _ _ _ hevents =>
    intro e he
    simp [hevents e he]
  | discovered _ _ => simp [PollingEvent.key, hkey.symm]
  | read => simp [PollingEvent.key, hown _ _ rfl, hkey.symm]
  | failed _ => simp [PollingEvent.key, hown _ _ rfl, hkey.symm]
  | lost _ => simp [PollingEvent.key, hown _ _ rfl, hkey.symm]

theorem kindsOf_append (key : String) (events events' : List (PollingEvent ι ρ)) :
    kindsOf key (events ++ events') = kindsOf key events ++ kindsOf key events' := by
  simp [kindsOf]

theorem kindsOf_flatMap {α : Type} {f : α → List (PollingEvent ι ρ)} {k : α → String} :
    ∀ {l : List α}, (l.map k).Nodup → (∀ y ∈ l, ∀ key, key ≠ k y → kindsOf key (f y) = []) →
      (∀ x ∈ l, kindsOf (k x) (l.flatMap f) = kindsOf (k x) (f x))
        ∧ ∀ key ∉ l.map k, kindsOf key (l.flatMap f) = []
  | [], _, _ => ⟨by simp, fun _ _ => rfl⟩
  | y :: l, hnodup, hf => by
    rw [List.map_cons, List.nodup_cons] at hnodup
    obtain ⟨hmem, hother⟩ := kindsOf_flatMap hnodup.2 fun z hz => hf z (List.mem_cons_of_mem _ hz)
    have hy := hf y List.mem_cons_self
    refine ⟨fun x hx => ?_, fun key hkey => ?_⟩
    · rw [List.flatMap_cons, kindsOf_append]
      rcases List.mem_cons.1 hx with rfl | hx
      · rw [hother _ hnodup.1, List.append_nil]
      · have hne : k x ≠ k y := fun heq => hnodup.1 (heq ▸ List.mem_map_of_mem hx)
        rw [hy _ hne, List.nil_append, hmem x hx]
    · rw [List.map_cons, List.mem_cons, not_or] at hkey
      rw [List.flatMap_cons, kindsOf_append, hy key hkey.1, hother key hkey.2, List.nil_append]

theorem kindsOf_cycle (answers : ℕ → DriverAnswers ι ρ) (hkeys : DistinctKeys targets)
    (hown : List.Forall₂ Own targets states) :
    (∀ x ∈ (targets.zip states).zipIdx, kindsOf x.1.1.key (cycle targets busPath states answers).2
        = kindsOf x.1.1.key (advance busPath x.1.1 (answers x.2) x.1.2).2)
      ∧ ∀ key ∉ targets.map TargetRuntime.key,
        kindsOf key (cycle targets busPath states answers).2 = [] := by
  have hlength := hown.length_eq
  have hmap : (targets.zip states).zipIdx.map (fun x => x.1.1.key) = targets.map TargetRuntime.key :=
    calc (targets.zip states).zipIdx.map (fun x => x.1.1.key)
      _ = (((targets.zip states).zipIdx.map Prod.fst).map Prod.fst).map TargetRuntime.key := by
        rw [List.map_map, List.map_map]
        rfl
      _ = targets.map TargetRuntime.key := by rw [List.zipIdx_map_fst, List.map_fst_zip hlength.le]
  have h := @kindsOf_flatMap ι ρ _
    (fun x : (TargetRuntime × TargetState ι) × ℕ => (advance busPath x.1.1 (answers x.2) x.1.2).2)
    (fun x => x.1.1.key) (targets.zip states).zipIdx (hmap ▸ hkeys) fun y hy key hkey =>
      kindsOf_advance_ne ((List.forall₂_iff_zip.1 hown).2 (List.fst_mem_of_mem_zipIdx hy)) hkey _ _
  rw [hmap] at h
  rw [cycle_eq answers hkeys hown]
  exact h

structure BusLife (targets : List TargetRuntime) (states : List (TargetState ι))
    (w : String → List EventKind) : Prop where
  own : List.Forall₂ Own targets states
  life : ∀ x ∈ targets.zip states, Life x.2 (w x.1.key)
  lost : ∀ key, LostAtFifth (w key)
  others : ∀ key ∉ targets.map TargetRuntime.key, w key = []

theorem BusLife.cycle {w : String → List EventKind} (h : BusLife targets states w)
    (hkeys : DistinctKeys targets) (answers : ℕ → DriverAnswers ι ρ) :
    BusLife targets (cycle targets busPath states answers).1
      fun key => w key ++ kindsOf key (cycle targets busPath states answers).2 := by
  obtain ⟨hmine, hnone⟩ := @kindsOf_cycle ι ρ targets busPath states answers hkeys h.own
  have hadvanced : ∀ x ∈ (targets.zip states).zipIdx,
      Life (advance busPath x.1.1 (answers x.2) x.1.2).1
          (w x.1.1.key ++ kindsOf x.1.1.key (Polling.cycle targets busPath states answers).2)
        ∧ LostAtFifth
          (w x.1.1.key ++ kindsOf x.1.1.key (Polling.cycle targets busPath states answers).2) := by
    intro x hx
    have hmem := List.fst_mem_of_mem_zipIdx hx
    rw [hmine x hx]
    exact (h.life _ hmem).advanced (h.lost _) ((List.forall₂_iff_zip.1 h.own).2 hmem)
      (advance_cases ..)
  refine ⟨cycle_own answers hkeys h.own, fun x hx => ?_, fun key => ?_, fun key hkey => ?_⟩
  · rw [cycle_eq answers hkeys h.own, zip_advanced h.own.length_eq, List.mem_map] at hx
    obtain ⟨y, hy, rfl⟩ := hx
    exact (hadvanced y hy).1
  · by_cases hkey : key ∈ targets.map TargetRuntime.key
    · obtain ⟨t, ht, rfl⟩ := List.mem_map.1 hkey
      obtain ⟨j, hj, rfl⟩ := List.getElem_of_mem ht
      have hlength := h.own.length_eq
      have hx : ((targets[j], states[j]), j) ∈ (targets.zip states).zipIdx := by
        rw [List.mk_mem_zipIdx_iff_getElem?]
        simp [hj, hlength ▸ hj]
      exact (hadvanced _ hx).2
    · rw [hnone key hkey, List.append_nil]
      exact h.lost key
  · rw [h.others key hkey, hnone key hkey, List.append_nil]

theorem BusLife.run (hkeys : DistinctKeys targets) :
    ∀ {cycles : List (ℕ → DriverAnswers ι ρ)} {states : List (TargetState ι)}
      {w : String → List EventKind}, BusLife targets states w →
      ∃ states', BusLife (ι := ι) targets states'
        fun key => w key ++ kindsOf key (busRun targets busPath states cycles).flatten
  | [], states, w, h => by
    refine ⟨states, ?_⟩
    simpa [busRun, kindsOf] using h
  | answers :: cycles, states, w, h => by
    obtain ⟨states', h'⟩ := @BusLife.run hkeys cycles _ _ (h.cycle hkeys answers)
    refine ⟨states', ?_⟩
    simpa only [busRun, List.flatten_cons, kindsOf_append, List.append_assoc] using h'

def completed {α : Type} : List (Except String α) → List α
  | .ok a :: rest => a :: completed rest
  | _ => []

theorem mainLoop_eq :
    ∀ (cycles : List (Except String (ℕ → DriverAnswers ι ρ))) (states : List (TargetState ι)),
      ∃ fatal : List (PollingEvent ι ρ), (∀ e ∈ fatal, e.key = none)
        ∧ mainLoop targets busPath states cycles
          = (busRun targets busPath states (completed cycles)).flatten ++ fatal
  | [], _ => ⟨[], by simp, rfl⟩
  | .error e :: _, _ => ⟨[_], by simp [PollingEvent.key], rfl⟩
  | .ok answers :: cycles, states => by
    obtain ⟨fatal, hfatal, heq⟩ := mainLoop_eq cycles (cycle targets busPath states answers).1
    refine ⟨fatal, hfatal, ?_⟩
    simp only [mainLoop, completed, busRun, List.flatten_cons, List.append_assoc, heq]

def PollingAdapterConfig.run (config : PollingAdapterConfig)
    (cycles : List (ℕ → DriverAnswers ι ρ)) : List (List (PollingEvent ι ρ)) :=
  busRun config.runtimes config.busPath (config.runtimes.map fun _ => .newPending) cycles

/-- Beside the cycles the loop only reports errors of the bus, after the startup and at its end. -/
theorem pollingLoop_eq (config : PollingAdapterConfig)
    (cycles : List (Except String (ℕ → DriverAnswers ι ρ))) :
    ∃ summary fatal : List (PollingEvent ι ρ), (∀ e ∈ summary ++ fatal, e.key = none)
      ∧ pollingLoop config cycles = ((config.run (completed cycles)).take 1).flatten ++ summary
        ++ ((config.run (completed cycles)).drop 1).flatten ++ fatal := by
  unfold pollingLoop PollingAdapterConfig.run
  dsimp only
  split_ifs
  · obtain ⟨fatal, hfatal, heq⟩ := @mainLoop_eq ι ρ config.runtimes config.busPath cycles
      (config.runtimes.map fun _ => .newPending)
    refine ⟨[], fatal, hfatal, ?_⟩
    rw [heq, List.append_nil, ← List.flatten_append, List.take_append_drop]
  · rcases cycles with _ | ⟨e | answers, rest⟩
    · exact ⟨[], [], by simp, rfl⟩
    · exact ⟨[], [_], by simp [PollingEvent.key], rfl⟩
    · obtain ⟨fatal, hfatal, heq⟩ := @mainLoop_eq ι ρ config.runtimes config.busPath rest
        (cycle config.runtimes config.busPath (config.runtimes.map fun _ => .newPending) answers).1
      refine ⟨if allFailed (pollCycle config.runtimes (config.runtimes.map fun _ => .newPending)
          config.busPath answers) then [startupFailure config.runtimes config.busPath] else [],
        fatal, fun e he => ?_, ?_⟩
      · rcases List.mem_append.1 he with he | he
        · split_ifs at he
          · rw [List.mem_singleton.1 he]
            rfl
          · cases he
        · exact hfatal e he
      · simp only [completed, busRun, List.take_succ_cons, List.take_zero, List.drop_succ_cons,
          List.drop_zero, List.flatten_cons, List.flatten_nil, List.append_nil]
        rw [← cycle, heq, ← List.append_assoc]

theorem kindsOf_pollingLoop (key : String) (config : PollingAdapterConfig)
    (cycles : List (Except String (ℕ → DriverAnswers ι ρ))) :
    kindsOf key (pollingLoop config cycles) = kindsOf key (config.run (completed cycles)).flatten := by
  obtain ⟨summary, fatal, hunkeyed, heq⟩ := pollingLoop_eq config cycles
  have hsummary : kindsOf key summary = [] :=
    kindsOf_unkeyed fun e he => hunkeyed e (List.mem_append_left _ he)
  have hfatal : kindsOf key fatal = [] :=
    kindsOf_unkeyed fun e he => hunkeyed e (List.mem_append_right _ he)
  rw [heq, kindsOf_append, kindsOf_append, kindsOf_append, hsummary, hfatal, List.append_nil,
    List.append_nil, ← kindsOf_append, ← List.flatten_append, List.take_append_drop]

theorem forall₂_own_newPending (targets : List TargetRuntime) :
    List.Forall₂ Own targets (targets.map fun _ => (.newPending : TargetState ι)) := by
  rw [List.forall₂_map_right_iff, List.forall₂_same]
  exact fun _ _ => .of_idle rfl

theorem busLife_start (targets : List TargetRuntime) :
    BusLife targets (targets.map fun _ => (.newPending : TargetState ι)) fun _ => [] := by
  refine ⟨forall₂_own_newPending targets, fun x hx => ?_, fun _ => .nil, fun _ _ => rfl⟩
  obtain ⟨-, hs⟩ := List.of_mem_zip hx
  obtain ⟨t, -, ht⟩ := List.mem_map.1 hs
  rw [← ht]
  exact ⟨rfl, lifecycle_nil⟩

/-- The events of a key are the life of a device, again and again, cut off at some point. -/
structure Protocol (w : List EventKind) : Prop where
  word : ∃ rest, w ++ rest ∈ lifecycle.matches'
  lost : LostAtFifth w

theorem Protocol.cut {w w' : List EventKind} (h : Protocol w) (hw : w' <+: w) : Protocol w' := by
  obtain ⟨rest, rfl⟩ := hw
  obtain ⟨rest', hword⟩ := h.word
  exact ⟨⟨rest ++ rest', by rwa [← List.append_assoc]⟩, h.lost.of_append⟩

theorem Life.protocol {w : List EventKind} (h : Life s w) (hlost : LostAtFifth w) : Protocol w := by
  refine ⟨?_, hlost⟩
  cases s with
  | pending _ _ => exact ⟨[], by rw [List.append_nil]; exact h.2⟩
  | detected _ _ => exact ⟨[], by rw [List.append_nil]; exact h.2⟩
  | active _ _ =>
    obtain ⟨-, -, u, m, rfl, hu, hm⟩ := h
    exact ⟨[.lost], lifecycle_concat hu hm⟩

theorem BusLife.protocol {w : String → List EventKind} (h : BusLife targets states w) (key : String) :
    Protocol (w key) := by
  by_cases hkey : key ∈ targets.map TargetRuntime.key
  · obtain ⟨t, ht, rfl⟩ := List.mem_map.1 hkey
    obtain ⟨j, hj, rfl⟩ := List.getElem_of_mem ht
    have hj' : j < states.length := h.own.length_eq ▸ hj
    have hmem : (targets[j], states[j]) ∈ targets.zip states :=
      List.mem_of_getElem? (i := j) (by simp [hj, hj'])
    exact (h.life _ hmem).protocol (h.lost _)
  · rw [h.others key hkey]
    exact ⟨⟨[], lifecycle_nil⟩, .nil⟩

theorem Protocol.discovered_first {w before after : List EventKind} (h : Protocol w)
    (hw : w = before ++ .data :: after) : .discovered ∈ before := by
  obtain ⟨rest, hword⟩ := h.word
  rw [hw] at hword
  simp only [lifecycle, RegularExpression.matches'_star, Language.mem_kstar] at hword
  obtain ⟨words, hwords, hlives⟩ := hword
  have hhead : ∀ l ∈ words, ∃ m, l = .discovered :: m := by
    intro l hl
    obtain ⟨-, ⟨d, rfl, m, -, rfl⟩, _, -, rfl⟩ := hlives l hl
    exact ⟨m ++ _, rfl⟩
  rcases words with _ | ⟨l, words⟩
  · simp at hwords
  · obtain ⟨m, rfl⟩ := hhead l List.mem_cons_self
    rcases before with _ | ⟨b, before⟩
    · simp at hwords
    · simp only [List.cons_append, List.flatten_cons, List.cons.injEq] at hwords
      rw [hwords.1]
      exact List.mem_cons_self

/-! ## Failed reads -/

def failedReads (calls : List DriverCall) : ℕ := (calls.rtakeWhile (· == .read false)).length

def callsTo (targets : List TargetRuntime) (busPath : String) (i : ℕ) :
    List (TargetState ι) → List (ℕ → DriverAnswers ι ρ) → List DriverCall
  | _, [] => []
  | states, answers :: rest =>
    (states[i]?).elim [] (fun s => s.calls (answers i))
      ++ callsTo targets busPath i (cycle targets busPath states answers).1 rest

theorem failedReads_concat (calls : List DriverCall) (call : DriverCall) :
    failedReads (calls ++ [call]) = if call = .read false then failedReads calls + 1 else 0 := by
  simpa [failedReads] using length_rtakeWhile_concat (· == DriverCall.read false) calls call

def Counted (s : TargetState ι) (calls : List DriverCall) : Prop :=
  ∀ key n, s = .active key n → n < 5 ∧ failedReads calls = n

theorem Counted.advanced {sofar calls : List DriverCall} {s' : TargetState ι}
    {events : List (PollingEvent ι ρ)} (h : Counted s sofar) (hown : Own t s)
    (hadvanced : Advanced t s calls s' events) :
    Counted s' (sofar ++ calls)
      ∧ (.lost ∈ kindsOf t.key events ↔ failedReads (sofar ++ calls) = 5) := by
  have hreset : ∀ {calls : List DriverCall},
      (∃ before call, calls = before ++ [call] ∧ call ≠ .read false) →
      failedReads (sofar ++ calls) = 0 := by
    rintro _ ⟨before, call, rfl, hcall⟩
    rw [← List.append_assoc, failedReads_concat, if_neg hcall]
  cases hadvanced with
  | absent _ hidle' hcalls hevents =>
    refine ⟨?_, ?_⟩
    · rintro key n rfl
      cases hidle'
    · simp [kindsOf_unkeyed hevents, hreset hcalls]
  | discovered _ hcalls =>
    refine ⟨?_, ?_⟩
    · rintro key n ⟨rfl, rfl⟩
      exact ⟨by decide, hreset hcalls⟩
    · rw [kindsOf_own (by simp [PollingEvent.key])]
      simp [PollingEvent.kind, hreset hcalls]
  | @read key n _ _ =>
    obtain rfl := hown key n rfl
    rw [kindsOf_own (by simp [PollingEvent.key]), failedReads_concat]
    refine ⟨?_, by simp [PollingEvent.kind]⟩
    rintro key n ⟨rfl, rfl⟩
    exact ⟨by decide, by rw [failedReads_concat]; rfl⟩
  | @failed key _ n hfew =>
    obtain rfl := hown key n rfl
    obtain ⟨-, hcount⟩ := h _ _ rfl
    rw [kindsOf_own (by simp [PollingEvent.key]), failedReads_concat, if_pos rfl, hcount]
    refine ⟨?_, ?_⟩
    · rintro key n ⟨rfl, rfl⟩
      exact ⟨hfew, by rw [failedReads_concat, if_pos rfl, hcount]⟩
    · have hnot : n + 1 ≠ 5 := Nat.ne_of_lt hfew
      simp [PollingEvent.kind, hnot]
  | @lost key _ _ n hmany =>
    obtain rfl := hown key n rfl
    obtain ⟨hfew, hcount⟩ := h _ _ rfl
    rw [kindsOf_own (by simp [PollingEvent.key]), failedReads_concat, if_pos rfl, hcount]
    refine ⟨fun _ _ hactive => (nomatch hactive), ?_⟩
    have hfive : n + 1 = 5 := Nat.le_antisymm hfew hmany
    simp [PollingEvent.kind, hfive]

/-- A device is lost in the cycle in which its driver fails to read for the fifth time in a row. -/
theorem lost_iff_failedReads (hkeys : DistinctKeys targets) (ht : targets[i]? = some t) :
    ∀ {cycles : List (ℕ → DriverAnswers ι ρ)} {states : List (TargetState ι)}
      {sofar : List DriverCall} {n : ℕ} {events : List (PollingEvent ι ρ)},
      List.Forall₂ Own targets states → (∀ s, states[i]? = some s → Counted s sofar) →
      (busRun targets busPath states cycles)[n]? = some events →
      (.lost ∈ kindsOf t.key events
        ↔ failedReads (sofar ++ callsTo targets busPath i states (cycles.take (n + 1))) = 5)
  | [], _, _, _, _, _, _, hevents => by simp [busRun] at hevents
  | answers :: cycles, states, sofar, n, events, hown, hcounted, hevents => by
    obtain ⟨hi, hget⟩ := List.getElem?_eq_some_iff.1 ht
    have hi' : i < states.length := hown.length_eq ▸ hi
    have hs : states[i]? = some states[i] := List.getElem?_eq_getElem hi'
    have hzip : (targets.zip states)[i]? = some (t, states[i]) := by
      simp [hi, hi', hget]
    have hx : ((t, states[i]), i) ∈ (targets.zip states).zipIdx :=
      List.mk_mem_zipIdx_iff_getElem?.2 hzip
    have hmine := (List.forall₂_iff_zip.1 hown).2 (List.fst_mem_of_mem_zipIdx hx)
    have hkinds := (@kindsOf_cycle ι ρ targets busPath states answers hkeys hown).1 _ hx
    obtain ⟨hnext, hlost⟩ := (hcounted _ hs).advanced hmine
      (advance_cases busPath t (answers i) states[i])
    cases n with
    | zero =>
      obtain rfl := Option.some.inj hevents
      rw [hkinds, hlost]
      simp [callsTo, hs]
    | succ n =>
      have hnext' : ∀ s, (cycle targets busPath states answers).1[i]? = some s →
          Counted s (sofar ++ states[i].calls (answers i)) := by
        intro s hstate
        rw [cycle_eq answers hkeys hown] at hstate
        simp only [List.getElem?_map, List.getElem?_zipIdx] at hstate
        rw [hzip] at hstate
        simp only [Option.map_some, zero_add, Option.some.injEq] at hstate
        exact hstate ▸ hnext
      have htail := lost_iff_failedReads hkeys ht (cycle_own answers hkeys hown) hnext' hevents
      rw [htail, List.take_succ_cons]
      simp [callsTo, hs]

/-! ## Independence -/

theorem cycle_singleton (answers : ℕ → DriverAnswers ι ρ) (hown : Own t s) :
    cycle [t] busPath [s] answers
      = ([(advance busPath t (answers 0) s).1], (advance busPath t (answers 0) s).2) := by
  have hone : DistinctKeys [t] := List.nodup_singleton _
  rw [cycle_eq answers hone (.cons hown .nil)]
  simp

theorem zipIdx_map_zipIdx {α β : Type} (l : List α) (f : α × ℕ → β) :
    (l.zipIdx.map f).zipIdx = l.zipIdx.map fun x => (f x, x.2) := by
  refine List.ext_getElem? fun j => ?_
  simp only [List.getElem?_zipIdx, List.getElem?_map, Option.map_map]
  cases l[j]? <;> simp

/-- In each cycle the bus reports, target after target, what it would report of the target alone. -/
theorem busRun_eq (hkeys : DistinctKeys targets) :
    ∀ {cycles : List (ℕ → DriverAnswers ι ρ)} {states : List (TargetState ι)} {n : ℕ}
      {events : List (PollingEvent ι ρ)}, List.Forall₂ Own targets states →
      (busRun targets busPath states cycles)[n]? = some events →
      events = (targets.zip states).zipIdx.flatMap fun x =>
        ((busRun [x.1.1] busPath [x.1.2] (cycles.map fun answers _ => answers x.2))[n]?).getD []
  | [], _, _, _, _, hevents => by simp [busRun] at hevents
  | answers :: cycles, states, n, events, hown, hevents => by
    have howns : ∀ x ∈ (targets.zip states).zipIdx, Own x.1.1 x.1.2 :=
      fun x hx => (List.forall₂_iff_zip.1 hown).2 (List.fst_mem_of_mem_zipIdx hx)
    cases n with
    | zero =>
      obtain rfl := Option.some.inj hevents
      rw [cycle_eq answers hkeys hown]
      refine List.flatMap_congr fun x hx => ?_
      simp [busRun, cycle_singleton _ (howns x hx)]
    | succ n =>
      have htail := busRun_eq hkeys (cycle_own answers hkeys hown) hevents
      rw [htail, cycle_eq answers hkeys hown, zip_advanced hown.length_eq, zipIdx_map_zipIdx,
        List.flatMap_map]
      refine List.flatMap_congr fun x hx => ?_
      simp [busRun, cycle_singleton _ (howns x hx)]

/-- The events of an adapter with an accepted configuration, up to wherever they are cut off. A key
comes, reports and is lost, at its fifth failed read in a row. In each cycle the bus reports target
after target what it would report of the target alone, under the answers of its own driver. -/
theorem polling_protocol (config : PollingAdapterConfig) (hvalid : validateConfig config = .ok ())
    (cycles : List (Except String (ℕ → DriverAnswers ι ρ))) (delivered : List (PollingEvent ι ρ))
    (hcut : delivered <+: pollingLoop config cycles) :
    (∀ key, (∃ rest, kindsOf key delivered ++ rest ∈ lifecycle.matches')
      ∧ LostAtFifth (kindsOf key delivered)
      ∧ ∀ before after, kindsOf key delivered = before ++ .data :: after → .discovered ∈ before)
    ∧ (∃ summary fatal : List (PollingEvent ι ρ), (∀ e ∈ summary ++ fatal, e.key = none)
      ∧ pollingLoop config cycles = ((config.run (completed cycles)).take 1).flatten ++ summary
        ++ ((config.run (completed cycles)).drop 1).flatten ++ fatal)
    ∧ ∀ n events, (config.run (completed cycles))[n]? = some events →
      (∀ i t, config.runtimes[i]? = some t →
        (.lost ∈ kindsOf t.key events ↔ failedReads (callsTo config.runtimes config.busPath i
          (config.runtimes.map fun _ => .newPending) ((completed cycles).take (n + 1))) = 5))
      ∧ events = config.runtimes.zipIdx.flatMap fun x =>
        ((busRun [x.1] config.busPath [.newPending]
          ((completed cycles).map fun answers _ => answers x.2))[n]?).getD [] := by
  have hkeys := distinctKeys_of_valid hvalid
  have hown := @forall₂_own_newPending ι config.runtimes
  refine ⟨fun key => ?_, pollingLoop_eq config cycles, fun n events hevents => ⟨fun i t ht => ?_, ?_⟩⟩
  · obtain ⟨states', hlife⟩ := @BusLife.run ι ρ config.runtimes config.busPath hkeys
      (completed cycles) _ _ (busLife_start config.runtimes)
    have hwhole : Protocol (kindsOf key (pollingLoop config cycles)) := by
      rw [kindsOf_pollingLoop]
      exact hlife.protocol key
    have hprotocol : Protocol (kindsOf key delivered) :=
      hwhole.cut ((hcut.filter _).map _)
    exact ⟨hprotocol.word, hprotocol.lost, fun _ _ hsplit => hprotocol.discovered_first hsplit⟩
  · have hcounted : ∀ s, (config.runtimes.map fun _ => (.newPending : TargetState ι))[i]? = some s →
        Counted s [] := by
      intro s hs key n hactive
      rw [List.getElem?_map, ht] at hs
      rw [← Option.some.inj hs] at hactive
      cases hactive
    simpa only [List.nil_append] using lost_iff_failedReads hkeys ht hown hcounted hevents
  · rw [busRun_eq hkeys hown hevents]
    have hzip : config.runtimes.zip (config.runtimes.map fun _ => (.newPending : TargetState ι))
        = config.runtimes.map fun t => (t, .newPending) := by
      refine (List.zip_of_prod ?_ ?_).symm <;> simp [Function.comp_def]
    rw [hzip, List.zipIdx_map, List.flatMap_map]
    rfl

def benchConfig : PollingAdapterConfig where
  busPath := "/dev/i2c-1"
  pollIntervalMs := 1000
  targets := [⟨0x25, ⟨"sdp810", fun _ => .ok ()⟩, none⟩, ⟨0x29, ⟨"vl53l1x", fun _ => .ok ()⟩, some "gate"⟩]

def benchCycles : List (Except String (ℕ → DriverAnswers String ℕ)) :=
  [.ok (fun _ => ⟨.ok "id", .ok (), .ok 0, 0⟩), .ok (fun _ => ⟨.ok "id", .ok (), .ok 7, 1⟩)]
    ++ List.replicate 5 (.ok fun i => ⟨.ok "id", .ok (),
      if i = 0 then .panicked none else .ok 8, 2⟩)

theorem bench_polling_protocol :
    kindsOf "i2c:0x25:sdp810" (pollingLoop benchConfig benchCycles)
        = [.discovered, .data, .error, .error, .error, .error, .error, .lost]
      ∧ LostAtFifth (kindsOf "i2c:0x25:sdp810" (pollingLoop benchConfig benchCycles)) :=
  ⟨by decide +kernel,
    ((polling_protocol benchConfig (by decide +kernel) benchCycles _ List.prefix_rfl).1 _).2.1⟩

end Polling

end EdgeNode
