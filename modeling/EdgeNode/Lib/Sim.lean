import EdgeNode.Lib.Tx

/-!
# Two computations side by side

`Tx.sim` relates two computations that give the same results: whatever statements of the first fail,
there are corresponding faults with which the second ends in the same way, has drawn as many values,
and leaves related contents. Under equality of faults both execute the same statements; under
`Padded` the second may execute further ones, which do not fail.
-/

namespace EdgeNode

namespace Tx

variable {σ τ σ' τ' ε ε' α β : Type}

/-- A statement of both computations can take the same fault from both. -/
def Stepwise (F : List Bool → List Bool → Prop) : Prop :=
  ∀ fs rest, F fs.tail rest →
    ∃ fs', F fs fs' ∧ (fs'.head? = some true ↔ fs.head? = some true) ∧ fs'.tail = rest

theorem stepwise_eq : Stepwise Eq := by
  rintro fs _ rfl
  exact ⟨fs, rfl, Iff.rfl, rfl⟩

/-- The second list is the first with places added that do not fail. -/
inductive Padded : List Bool → List Bool → Prop
  | nil : Padded [] []
  | both (b : Bool) {fs fs' : List Bool} : Padded fs fs' → Padded (b :: fs) (b :: fs')
  | extra {fs fs' : List Bool} : Padded fs fs' → Padded fs (false :: fs')

theorem Padded.refl : ∀ fs : List Bool, Padded fs fs
  | [] => .nil
  | b :: fs => .both b (Padded.refl fs)

theorem stepwise_padded : Stepwise Padded := by
  rintro (_ | ⟨b, fs⟩) rest h
  · exact ⟨false :: rest, .extra h, by simp, rfl⟩
  · exact ⟨b :: rest, .both b h, by simp, rfl⟩

theorem stmt_fault {e : ε} {f : σ → Except ε (α × σ)} {db : σ} {fs : List Bool} {n : ℕ}
    (h : fs.head? = some true) : stmt e f ⟨db, fs, n⟩ = (.error e, ⟨db, fs.tail, n⟩) := by
  obtain ⟨fs, rfl⟩ := List.head?_eq_some_iff.1 h
  rfl

theorem stmt_error {e e' : ε} {f : σ → Except ε (α × σ)} {db : σ} {fs : List Bool} {n : ℕ}
    (h : fs.head? ≠ some true) (hf : f db = .error e') :
    stmt e f ⟨db, fs, n⟩ = (.error e', ⟨db, fs.tail, n⟩) := by
  unfold stmt
  rcases fs with _ | ⟨_ | _, fs⟩
  · simp [hf]
  · simp [hf]
  · simp at h

theorem stmt_ok {e : ε} {f : σ → Except ε (α × σ)} {a : α} {db db' : σ} {fs : List Bool} {n : ℕ}
    (h : fs.head? ≠ some true) (hf : f db = .ok (a, db')) :
    stmt e f ⟨db, fs, n⟩ = (.ok a, ⟨db', fs.tail, n⟩) := by
  unfold stmt
  rcases fs with _ | ⟨_ | _, fs⟩
  · simp [hf]
  · simp [hf]
  · simp at h

/-- `m` and `m'` end in the same way, in contents that `Q` or `E` relates. -/
def sim (F : List Bool → List Bool → Prop) (m : Tx σ ε α) (m' : Tx τ ε α)
    (Q : α → σ → τ → Prop) (E : ε → σ → τ → Prop) (db : σ) (db' : τ) (n : ℕ) : Prop :=
  ∀ faults, ∃ after,
    (match m { db := db, faults := faults, draws := n } with
      | (.ok a, c) => Q a c.db after
      | (.error e, c) => E e c.db after)
    ∧ ∀ rest, F (m { db := db, faults := faults, draws := n }).2.faults rest →
      ∃ faults', F faults faults'
        ∧ m' { db := db', faults := faults', draws := n }
          = ((m { db := db, faults := faults, draws := n }).1,
            { (m { db := db, faults := faults, draws := n }).2 with db := after, faults := rest })

section Rules

variable {F : List Bool → List Bool → Prop} {Q : α → σ → τ → Prop} {E : ε → σ → τ → Prop}
  {db : σ} {db' : τ} {n : ℕ}

theorem sim_pure {a : α} (h : Q a db db') :
    sim F (pure a : Tx σ ε α) (pure a : Tx τ ε α) Q E db db' n :=
  fun _ => ⟨db', h, fun rest hF => ⟨rest, hF, rfl⟩⟩

theorem sim_fail {e : ε} (h : E e db db') :
    sim F (fail e : Tx σ ε α) (fail e : Tx τ ε α) Q E db db' n :=
  fun _ => ⟨db', h, fun rest hF => ⟨rest, hF, rfl⟩⟩

theorem sim_ofExcept {r : Except ε α} (hok : ∀ a, r = .ok a → Q a db db')
    (herr : ∀ e, r = .error e → E e db db') :
    sim F (ofExcept r : Tx σ ε α) (ofExcept r : Tx τ ε α) Q E db db' n := by
  cases r with
  | ok a => exact sim_pure (hok a rfl)
  | error e => exact sim_fail (herr e rfl)

theorem sim_mono {m : Tx σ ε α} {m' : Tx τ ε α} {Q' : α → σ → τ → Prop} {E' : ε → σ → τ → Prop}
    (h : sim F m m' Q' E' db db' n) (hQ : ∀ a x y, Q' a x y → Q a x y)
    (hE : ∀ e x y, E' e x y → E e x y) : sim F m m' Q E db db' n := by
  intro faults
  obtain ⟨after, hpost, hrest⟩ := h faults
  refine ⟨after, ?_, hrest⟩
  rcases hr : m ⟨db, faults, n⟩ with ⟨e | a, c⟩ <;> rw [hr] at hpost
  · exact hE _ _ _ hpost
  · exact hQ _ _ _ hpost

theorem sim_imp {m : Tx σ ε α} {m' : Tx τ ε α} {Q' : α → σ → τ → Prop}
    (h : sim F m m' Q' E db db' n) (hQ : ∀ a x y, Q' a x y → Q a x y) : sim F m m' Q E db db' n :=
  sim_mono h hQ fun _ _ _ => id

/-- What the first computation guarantees of its outcome, beside what relates the two. -/
theorem sim_and_wp {m : Tx σ ε α} {m' : Tx τ ε α} {P : α → σ → Prop} {R : ε → σ → Prop}
    (h : sim F m m' Q E db db' n) (hm : wp m (fun a x _ => P a x) (fun e x _ => R e x) db n) :
    sim F m m' (fun a x y => Q a x y ∧ P a x) (fun e x y => E e x y ∧ R e x) db db' n := by
  intro faults
  obtain ⟨after, hpost, hrest⟩ := h faults
  refine ⟨after, ?_, hrest⟩
  have hfirst := hm faults
  rcases hr : m ⟨db, faults, n⟩ with ⟨e | a, c⟩ <;> rw [hr] at hpost hfirst
  · exact ⟨hpost, hfirst⟩
  · exact ⟨hpost, hfirst⟩

theorem sim_bind {m : Tx σ ε β} {m' : Tx τ ε β} {f : β → Tx σ ε α} {f' : β → Tx τ ε α}
    (h : sim F m m' (fun b x y => ∀ n, sim F (f b) (f' b) Q E x y n) E db db' n) :
    sim F (m >>= f) (m' >>= f') Q E db db' n := by
  intro faults
  obtain ⟨after, hpost, hrest⟩ := h faults
  rcases hr : m ⟨db, faults, n⟩ with ⟨e | b, c⟩ <;> rw [hr] at hpost hrest
  · rw [bind_error hr]
    refine ⟨after, hpost, fun rest hF => ?_⟩
    obtain ⟨faults', hF', hm⟩ := hrest rest hF
    exact ⟨faults', hF', bind_error hm⟩
  · -- The faults of the second computation are chosen from its end.
    rw [bind_ok hr]
    obtain ⟨after', hpost', hrest'⟩ := hpost c.draws c.faults
    refine ⟨after', hpost', fun rest hF => ?_⟩
    obtain ⟨faults₁, hF₁, hf⟩ := hrest' rest hF
    obtain ⟨faults', hF', hm⟩ := hrest faults₁ hF₁
    exact ⟨faults', hF', (bind_ok hm).trans hf⟩

/-- A statement of both: the same refusal, or the same result in related contents. -/
theorem sim_stmt (hF : Stepwise F) {e : ε} {f : σ → Except ε (α × σ)} {f' : τ → Except ε (α × τ)}
    (hfault : E e db db') (hok : ∀ a x, f db = .ok (a, x) → ∃ y, f' db' = .ok (a, y) ∧ Q a x y)
    (herr : ∀ e', f db = .error e' → f' db' = .error e' ∧ E e' db db') :
    sim F (stmt e f) (stmt e f') Q E db db' n := by
  intro faults
  by_cases hhead : faults.head? = some true
  · rw [stmt_fault hhead]
    refine ⟨db', hfault, fun rest hrest => ?_⟩
    obtain ⟨fs', hfs', hhead', rfl⟩ := hF faults rest hrest
    exact ⟨fs', hfs', stmt_fault (hhead'.2 hhead)⟩
  · rcases hf : f db with e' | ⟨a, x⟩
    · obtain ⟨hf', hE⟩ := herr e' hf
      rw [stmt_error hhead hf]
      refine ⟨db', hE, fun rest hrest => ?_⟩
      obtain ⟨fs', hfs', hhead', rfl⟩ := hF faults rest hrest
      exact ⟨fs', hfs', stmt_error (fun h => hhead (hhead'.1 h)) hf'⟩
    · obtain ⟨y, hf', hQ⟩ := hok a x hf
      rw [stmt_ok hhead hf]
      refine ⟨y, hQ, fun rest hrest => ?_⟩
      obtain ⟨fs', hfs', hhead', rfl⟩ := hF faults rest hrest
      exact ⟨fs', hfs', stmt_ok (fun h => hhead (hhead'.1 h)) hf'⟩

theorem sim_query (hF : Stepwise F) {e : ε} {f : σ → α} {f' : τ → α} (hfault : E e db db')
    (heq : f' db' = f db) (h : Q (f db) db db') :
    sim F (query e f) (query e f') Q E db db' n := by
  refine sim_stmt hF hfault (fun a x hx => ?_) (by simp)
  obtain ⟨rfl, rfl⟩ := Prod.mk.inj (Except.ok.inj hx)
  exact ⟨db', by rw [heq], h⟩

theorem sim_draw {Q : ℕ → σ → τ → Prop} (h : Q n db db') :
    sim F (draw : Tx σ ε ℕ) (draw : Tx τ ε ℕ) Q E db db' n :=
  fun _ => ⟨db', h, fun rest hF => ⟨rest, hF, rfl⟩⟩

theorem sim_modify {f : σ → σ} {f' : τ → τ} {Q : Unit → σ → τ → Prop} (h : Q () (f db) (f' db')) :
    sim F (modify f : Tx σ ε Unit) (modify f' : Tx τ ε Unit) Q E db db' n :=
  fun _ => ⟨f' db', h, fun rest hF => ⟨rest, hF, rfl⟩⟩

/-- What is done with the contents may differ as the contents do. -/
theorem sim_contents {f : σ → Tx σ ε α} {f' : τ → Tx τ ε α}
    (h : sim F (f db) (f' db') Q E db db' n) :
    sim F (contents >>= f) (contents >>= f') Q E db db' n := h

theorem sim_attempt {m : Tx σ ε' α} {m' : Tx τ ε' α} {Q : Except ε' α → σ → τ → Prop}
    (h : sim F m m' (fun a => Q (.ok a)) (fun e => Q (.error e)) db db' n) :
    sim F (attempt m : Tx σ ε (Except ε' α)) (attempt m') Q E db db' n := by
  intro faults
  obtain ⟨after, hpost, hrest⟩ := h faults
  refine ⟨after, ?_, fun rest hF => ?_⟩
  · unfold attempt
    rcases hr : m ⟨db, faults, n⟩ with ⟨e | a, c⟩ <;> rw [hr] at hpost <;> exact hpost
  · obtain ⟨faults', hF', hm⟩ := hrest rest hF
    exact ⟨faults', hF', by simp only [attempt, hm]⟩

theorem sim_mapError {m : Tx σ ε' α} {m' : Tx τ ε' α} {g : ε' → ε}
    (h : sim F m m' Q (fun e => E (g e)) db db' n) :
    sim F (mapError g m) (mapError g m') Q E db db' n := by
  intro faults
  obtain ⟨after, hpost, hrest⟩ := h faults
  refine ⟨after, ?_, fun rest hF => ?_⟩
  · unfold mapError
    rcases hr : m ⟨db, faults, n⟩ with ⟨e | a, c⟩ <;> rw [hr] at hpost <;> exact hpost
  · obtain ⟨faults', hF', hm⟩ := hrest rest hF
    exact ⟨faults', hF', by simp only [mapError, hm]⟩

theorem sim_traverse {f : β → Tx σ ε α} {f' : β → Tx τ ε α} {R : σ → τ → Prop}
    (hf : ∀ b x y n, R x y → sim F (f b) (f' b) (fun _ => R) E x y n) :
    ∀ {bs : List β} {db : σ} {db' : τ} {n : ℕ}, R db db' →
      sim F (traverse f bs) (traverse f' bs) (fun _ => R) E db db' n
  | [], _, _, _, h => sim_pure h
  | b :: _, _, _, _, h =>
    sim_bind (sim_imp (hf b _ _ _ h) fun _ _ _ h' _ =>
      sim_bind (sim_imp (sim_traverse hf h') fun _ _ _ h'' _ => sim_pure h''))

theorem sim_forEach {f : β → Tx σ ε Unit} {f' : β → Tx τ ε Unit} {R : σ → τ → Prop}
    (hf : ∀ b x y n, R x y → sim F (f b) (f' b) (fun _ => R) E x y n) :
    ∀ {bs : List β} {db : σ} {db' : τ} {n : ℕ}, R db db' →
      sim F (forEach f bs) (forEach f' bs) (fun _ => R) E db db' n
  | [], _, _, _, h => sim_pure h
  | b :: _, _, _, _, h =>
    sim_bind (sim_imp (hf b _ _ _ h) fun _ _ _ h' _ => sim_forEach hf h')

theorem sim_on {υ υ' : Type} {get : σ → υ} {set : σ → υ → σ} {get' : τ → υ'} {set' : τ → υ' → τ}
    {m : Tx υ ε α} {m' : Tx υ' ε α}
    (h : sim F m m' (fun a x y => Q a (set db x) (set' db' y))
      (fun e x y => E e (set db x) (set' db' y)) (get db) (get' db') n) :
    sim F (on get set m) (on get' set' m') Q E db db' n := by
  intro faults
  obtain ⟨after, hpost, hrest⟩ := h faults
  refine ⟨set' db' after, ?_, fun rest hF => ?_⟩
  · unfold on
    rcases hr : m ⟨get db, faults, n⟩ with ⟨e | a, c⟩ <;> rw [hr] at hpost <;> exact hpost
  · obtain ⟨faults', hF', hm⟩ := hrest rest hF
    exact ⟨faults', hF', by simp only [on, hm]⟩

theorem sim_transaction (hF : Stepwise F) {e : ε} {undo : σ → σ → σ} {undo' : τ → τ → τ}
    {m : Tx σ ε (Ending × α)} {m' : Tx τ ε (Ending × α)} (hbegin : E e db db')
    (h : ∀ n, sim F m m' (fun r x y => match r.1 with
        | .drop => Q r.2 (undo db x) (undo' db' y)
        | .commit => Q r.2 x y ∧ E e (undo db x) (undo' db' y)
        | .rollback => Q r.2 (undo db x) (undo' db' y) ∧ E e (undo db x) (undo' db' y))
      (fun err x y => E err (undo db x) (undo' db' y)) db db' n) :
    sim F (transaction e undo m) (transaction e undo' m') Q E db db' n := by
  refine sim_contents (sim_bind (sim_query hF hbegin rfl fun n => ?_))
  refine sim_bind (sim_attempt (sim_mono (h n) (fun r x y hr n => ?_) fun err x y hr n => ?_))
  · obtain ⟨ending, a⟩ := r
    cases ending with
    | drop => exact sim_bind (sim_modify fun _ => sim_pure hr)
    | commit =>
      exact sim_bind (sim_attempt (sim_query hF (fun _ => sim_bind (sim_modify fun _ => sim_fail hr.2))
        rfl fun _ => sim_pure hr.1))
    | rollback =>
      exact sim_bind (sim_attempt (sim_query hF (fun _ => sim_bind (sim_modify fun _ => sim_fail hr.2))
        rfl fun _ => sim_bind (sim_modify fun _ => sim_pure hr.1)))
  · exact sim_bind (sim_modify fun _ => sim_fail hr)

/-- The second computation may change what the first one has no need of. -/
theorem sim_modify_right {f : τ → τ} {m : Tx σ ε α} {m' : Unit → Tx τ ε α}
    (h : sim F m (m' ()) Q E db (f db') n) : sim F m (modify f >>= m') Q E db db' n := h

/-- The second computation may read what the first one knows. -/
theorem sim_read_right {m : Tx σ ε α} {m' : Tx τ ε β} {f : β → Tx τ ε α} {b : β}
    (hm' : ∀ fs, m' ⟨db', false :: fs, n⟩ = (.ok b, ⟨db', fs, n⟩))
    (h : sim Padded m (f b) Q E db db' n) : sim Padded m (m' >>= f) Q E db db' n := by
  intro faults
  obtain ⟨after, hpost, hrest⟩ := h faults
  refine ⟨after, hpost, fun rest hF => ?_⟩
  obtain ⟨faults', hF', hm⟩ := hrest rest hF
  exact ⟨false :: faults', .extra hF', (bind_ok (hm' faults')).trans hm⟩

end Rules

/-! ## Computations that take their faults one by one -/

/-- `m` beside itself: what it does depends on the faults of its own statements only. -/
def Local (F : List Bool → List Bool → Prop) (m : Tx σ ε α) : Prop :=
  ∀ db n, sim F m m (fun _ x y => x = y) (fun _ x y => x = y) db db n

section Local

variable {F : List Bool → List Bool → Prop} {m : Tx σ ε α}

theorem local_eq (m : Tx σ ε α) : Local Eq m := by
  intro db n faults
  refine ⟨(m ⟨db, faults, n⟩).2.db, ?_, ?_⟩
  · rcases m ⟨db, faults, n⟩ with ⟨e | a, c⟩ <;> rfl
  · rintro rest rfl
    exact ⟨faults, rfl, rfl⟩

theorem local_pure (a : α) : Local F (pure a : Tx σ ε α) := fun _ _ => sim_pure rfl

theorem local_fail (e : ε) : Local F (fail e : Tx σ ε α) := fun _ _ => sim_fail rfl

theorem local_ofExcept (r : Except ε α) : Local F (ofExcept r : Tx σ ε α) :=
  fun _ _ => sim_ofExcept (fun _ _ => rfl) fun _ _ => rfl

theorem local_bind {f : α → Tx σ ε β} (hm : Local F m) (hf : ∀ a, Local F (f a)) :
    Local F (m >>= f) :=
  fun db n => sim_bind (sim_imp (hm db n) fun a x _ hxy n => hxy ▸ hf a x n)

theorem local_stmt (hF : Stepwise F) (e : ε) (f : σ → Except ε (α × σ)) : Local F (stmt e f) :=
  fun _ _ => sim_stmt hF rfl (fun _ x hx => ⟨x, hx, rfl⟩) fun _ he => ⟨he, rfl⟩

theorem local_query (hF : Stepwise F) (e : ε) (f : σ → α) : Local F (query e f) :=
  local_stmt hF e _

theorem local_exec (hF : Stepwise F) (e : ε) (f : σ → σ) : Local F (exec e f) :=
  local_stmt hF e _

theorem local_draw : Local F (draw : Tx σ ε ℕ) := fun _ _ => sim_draw rfl

theorem local_contents : Local F (contents : Tx σ ε σ) :=
  fun _ _ _ => ⟨_, rfl, fun rest hF => ⟨rest, hF, rfl⟩⟩

theorem local_mapError (g : ε → ε') (hm : Local F m) : Local F (mapError g m) :=
  fun db n => sim_mapError (hm db n)

theorem local_attempt (hm : Local F m) : Local F (attempt m : Tx σ ε' (Except ε α)) :=
  fun db n => sim_attempt (hm db n)

theorem local_on {υ : Type} {get : υ → σ} {set : υ → σ → υ} (hm : Local F m) :
    Local F (on get set m) :=
  fun db n => sim_on (sim_mono (hm (get db) n) (fun _ _ _ h => congrArg (set db) h)
    fun _ _ _ h => congrArg (set db) h)

theorem local_traverse {f : β → Tx σ ε α} (hf : ∀ b, Local F (f b)) (bs : List β) :
    Local F (traverse f bs) :=
  fun _ _ => sim_traverse (R := Eq) (fun b x _ n h => h ▸ hf b x n) rfl

theorem local_forEach {f : β → Tx σ ε Unit} (hf : ∀ b, Local F (f b)) (bs : List β) :
    Local F (forEach f bs) :=
  fun _ _ => sim_forEach (R := Eq) (fun b x _ n h => h ▸ hf b x n) rfl

theorem local_repeatUntil {body : β → Tx σ ε (β ⊕ α)} (hbody : ∀ b, Local F (body b))
    (exhausted : ε) : ∀ (fuel : ℕ) (b : β), Local F (repeatUntil body exhausted fuel b)
  | 0, _ => local_fail exhausted
  | fuel + 1, b => local_bind (hbody b) fun r =>
    match r with
    | .inr a => local_pure a
    | .inl b' => local_repeatUntil hbody exhausted fuel b'

theorem Local.on_eq {Q : α → τ → σ' → Prop} {E : ε → τ → σ' → Prop} {db : τ} {db' : σ'} {n : ℕ}
    {get : τ → σ} {set : τ → σ → τ} {get' : σ' → σ} {set' : σ' → σ → σ'} (hm : Local F m)
    (heq : get' db' = get db) (hQ : ∀ a x, Q a (set db x) (set' db' x))
    (hE : ∀ e x, E e (set db x) (set' db' x)) :
    sim F (on get set m) (on get' set' m) Q E db db' n := by
  refine sim_on ?_
  rw [heq]
  exact sim_mono (hm (get db) n) (fun a x _ h => h ▸ hQ a x) fun e x _ h => h ▸ hE e x

end Local

end Tx

end EdgeNode
