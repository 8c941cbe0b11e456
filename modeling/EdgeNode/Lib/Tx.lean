import Mathlib

/-!
# Computations against a database

A computation reads and writes the contents of a connection, any of its statements may fail, and it
may draw values from outside (random identifiers, clock readings). An error keeps what was written
before it: undoing it is the business of whoever owns the transaction.

`Tx.wp` is what a computation guarantees of its outcome whatever statements fail, with one condition
on the result and one on the error. `Tx.sure` says as much of the result, and of an error only when
no statement failed: with an impossible condition on the error the computation has a result unless
one fails.
-/

namespace EdgeNode

/-- An open connection: the contents, which of the coming statements fail, and how many values
have been drawn from outside. -/
structure Conn (σ : Type) where
  db : σ
  faults : List Bool := []
  draws : ℕ := 0

def Tx (σ ε α : Type) : Type := Conn σ → Except ε α × Conn σ

namespace Tx

variable {σ τ ε ε' α β : Type}

instance : Monad (Tx σ ε) where
  pure a := fun c => (.ok a, c)
  bind m f := fun c =>
    match m c with
    | (.ok a, c') => f a c'
    | (.error e, c') => (.error e, c')

theorem bind_ok {m : Tx σ ε β} {f : β → Tx σ ε α} {c c' : Conn σ} {b : β}
    (h : m c = (.ok b, c')) : (m >>= f) c = f b c' := by
  change (match m c with
    | (.ok a, c') => f a c'
    | (.error e, c') => (.error e, c') : Except ε α × Conn σ) = _
  rw [h]

theorem bind_error {m : Tx σ ε β} {f : β → Tx σ ε α} {c c' : Conn σ} {e : ε}
    (h : m c = (.error e, c')) : (m >>= f) c = (.error e, c') := by
  change (match m c with
    | (.ok a, c') => f a c'
    | (.error e, c') => (.error e, c') : Except ε α × Conn σ) = _
  rw [h]

instance : LawfulMonad (Tx σ ε) := LawfulMonad.mk' _
  (fun m => by
    funext c
    rcases hr : m c with ⟨e | a, c'⟩
    · exact bind_error hr
    · exact bind_ok hr)
  (fun _ _ => rfl)
  (fun m f g => by
    funext c
    rcases hr : m c with ⟨e | a, c'⟩
    · rw [bind_error (bind_error hr), bind_error hr]
    · rw [bind_ok hr]
      rcases hf : f a c' with ⟨e | b, c''⟩
      · rw [bind_error ((bind_ok hr).trans hf), bind_error hf]
      · rw [bind_ok ((bind_ok hr).trans hf), bind_ok hf])

def fail (e : ε) : Tx σ ε α := fun c => (.error e, c)

def ofExcept (r : Except ε α) : Tx σ ε α := fun c => (r, c)

/-- One statement. A fault raises `e` and writes nothing; a statement that refuses by itself
(a constraint) writes nothing either. -/
def stmt (e : ε) (f : σ → Except ε (α × σ)) : Tx σ ε α := fun c =>
  match c.faults with
  | true :: fs => (.error e, { c with faults := fs })
  | fs =>
    match f c.db with
    | .ok (a, db) => (.ok a, { c with db := db, faults := fs.tail })
    | .error e' => (.error e', { c with faults := fs.tail })

def query (e : ε) (f : σ → α) : Tx σ ε α := stmt e fun db => .ok (f db, db)

/-- A statement that writes and cannot be refused by a constraint. -/
def exec (e : ε) (f : σ → σ) : Tx σ ε Unit := stmt e fun db => .ok ((), f db)

/-- The index of the next value drawn from outside. -/
def draw : Tx σ ε ℕ := fun c => (.ok c.draws, { c with draws := c.draws + 1 })

/-- Runs `m` and hands over its outcome as a value; what it wrote stays. -/
def attempt (m : Tx σ ε α) : Tx σ ε' (Except ε α) := fun c => ((.ok (m c).1), (m c).2)

def mapError (g : ε → ε') (m : Tx σ ε α) : Tx σ ε' α := fun c => ((m c).1.mapError g, (m c).2)

/-- Runs `f` on every element in order and collects the results; the first error ends it. -/
def traverse (f : β → Tx σ ε α) : List β → Tx σ ε (List α)
  | [] => pure []
  | b :: bs => do
    let a ← f b
    let as ← traverse f bs
    pure (a :: as)

def forEach (f : β → Tx σ ε Unit) : List β → Tx σ ε Unit
  | [] => pure ()
  | b :: bs => do
    f b
    forEach f bs

def contents : Tx σ ε σ := fun c => (.ok c.db, c)

def modify (f : σ → σ) : Tx σ ε Unit := fun c => (.ok (), { c with db := f c.db })

/-- Repeats `body`, which hands a value on or ends with a result. `fuel` bounds the rounds; a loop is
given more than it can take, so that `exhausted` is never raised. -/
def repeatUntil (body : β → Tx σ ε (β ⊕ α)) (exhausted : ε) : ℕ → β → Tx σ ε α
  | 0, _ => fail exhausted
  | fuel + 1, b => do
    match ← body b with
    | .inr a => pure a
    | .inl b' => repeatUntil body exhausted fuel b'

/-- How the owner of a transaction leaves it: by dropping it, by `COMMIT` or by `ROLLBACK`. -/
inductive Ending where
  | drop
  | commit
  | rollback

/-- Runs `m` in a transaction of its own. An error of `m`, a dropped transaction and a `COMMIT` that
fails leave what was there before: `undo before after` is `after` with its tables put back. -/
def transaction (e : ε) (undo : σ → σ → σ) (m : Tx σ ε (Ending × α)) : Tx σ ε α := do
  let before ← contents
  query e fun _ => ()
  match ← attempt m with
  | .error err =>
    modify (undo before)
    fail err
  | .ok (.drop, a) =>
    modify (undo before)
    pure a
  | .ok (.commit, a) =>
    match ← attempt (query e fun _ => ()) with
    | .error err =>
      modify (undo before)
      fail err
    | .ok () => pure a
  | .ok (.rollback, a) =>
    let ended ← attempt (query e fun _ => ())
    modify (undo before)
    match ended with
    | .error err => fail err
    | .ok () => pure a

def on (get : τ → σ) (set : τ → σ → τ) (m : Tx σ ε α) : Tx τ ε α := fun c =>
  match m { db := get c.db, faults := c.faults, draws := c.draws } with
  | (r, c') => (r, { db := set c.db c'.db, faults := c'.faults, draws := c'.draws })

theorem on_query {get : τ → σ} {set : τ → σ → τ} (hset : ∀ db, set db (get db) = db) (e : ε)
    (f : σ → α) : on get set (query e f) = query e fun db => f (get db) := by
  funext c
  rcases c with ⟨db, _ | ⟨_ | _, fs⟩, n⟩ <;> simp [on, query, stmt, hset]

theorem mapError_query (g : ε → ε') (e : ε) (f : σ → α) :
    mapError g (query e f) = query (g e) f := by
  funext c
  rcases c with ⟨db, _ | ⟨_ | _, fs⟩, n⟩ <;> rfl

theorem query_fails {e : ε} {f : σ → α} {c : Conn σ} (h : c.faults.head? = some true) :
    query e f c = (.error e, { c with faults := c.faults.tail }) := by
  obtain ⟨db, faults, n⟩ := c
  obtain ⟨fs, rfl⟩ := List.head?_eq_some_iff.1 h
  rfl

theorem query_succeeds {e : ε} {f : σ → α} {c : Conn σ} (h : c.faults.head? ≠ some true) :
    query e f c = (.ok (f c.db), { c with faults := c.faults.tail }) := by
  rcases c with ⟨db, _ | ⟨_ | _, fs⟩, n⟩
  · rfl
  · rfl
  · simp at h

theorem contents_run (c : Conn σ) : (contents : Tx σ ε σ) c = (.ok c.db, c) := rfl

theorem attempt_run (m : Tx σ ε α) (c : Conn σ) :
    (attempt m : Tx σ ε' (Except ε α)) c = (.ok (m c).1, (m c).2) := rfl

theorem transaction_unbegun {e : ε} {undo : σ → σ → σ} {m : Tx σ ε (Ending × α)} {db : σ}
    {faults : List Bool} {n : ℕ} (h : faults.head? = some true) :
    transaction e undo m ⟨db, faults, n⟩ = (.error e, ⟨db, faults.tail, n⟩) := by
  obtain ⟨fs, rfl⟩ := List.head?_eq_some_iff.1 h
  rfl

/-- The outcome of a transaction whose `BEGIN` succeeds depends on how its body ends only through
the faults left. -/
theorem transaction_result {e : ε} {undo : σ → σ → σ} {m : Tx σ ε (Ending × α)} {db : σ}
    {faults : List Bool} {n : ℕ} (h : faults.head? ≠ some true) :
    (transaction e undo m ⟨db, faults, n⟩).1
      = match m ⟨db, faults.tail, n⟩ with
        | (.error err, _) => .error err
        | (.ok (.drop, a), _) => .ok a
        | (.ok (_, a), c) => if c.faults.head? = some true then .error e else .ok a := by
  unfold transaction
  rw [bind_ok (contents_run _), bind_ok (query_succeeds h), bind_ok (attempt_run _ _)]
  rcases m ⟨db, faults.tail, n⟩ with ⟨err | ⟨_ | _ | _, a⟩, x, _ | ⟨_ | _, fs⟩, k⟩ <;> rfl

/-- What `m` guarantees of its outcome from contents `db` with `n` values drawn, whatever
statements fail: `Q` of a result, `E` of an error, each with the contents and the draws left. -/
def wp (m : Tx σ ε α) (Q : α → σ → ℕ → Prop) (E : ε → σ → ℕ → Prop) (db : σ) (n : ℕ) : Prop :=
  ∀ faults,
    match m { db := db, faults := faults, draws := n } with
    | (.ok a, c) => Q a c.db c.draws
    | (.error e, c) => E e c.db c.draws

section Rules

variable {Q : α → σ → ℕ → Prop} {E : ε → σ → ℕ → Prop} {db : σ} {n : ℕ}

theorem wp_pure {a : α} (h : Q a db n) : wp (pure a : Tx σ ε α) Q E db n := fun _ => h

theorem wp_fail {e : ε} (h : E e db n) : wp (fail e : Tx σ ε α) Q E db n := fun _ => h

theorem wp_ofExcept {r : Except ε α} (hok : ∀ a, r = .ok a → Q a db n)
    (herr : ∀ e, r = .error e → E e db n) : wp (ofExcept r : Tx σ ε α) Q E db n := by
  intro fs
  cases r with
  | ok a => exact hok a rfl
  | error e => exact herr e rfl

theorem wp_bind {m : Tx σ ε β} {f : β → Tx σ ε α}
    (h : wp m (fun b db' n' => wp (f b) Q E db' n') E db n) : wp (m >>= f) Q E db n := by
  intro fs
  have hm := h fs
  rcases hr : m ⟨db, fs, n⟩ with ⟨e | b, c⟩ <;> rw [hr] at hm
  · rw [bind_error hr]
    exact hm
  · rw [bind_ok hr]
    exact hm c.faults

theorem wp_trivial (m : Tx σ ε α) : wp m (fun _ _ _ => True) (fun _ _ _ => True) db n := by
  intro fs
  rcases m ⟨db, fs, n⟩ with ⟨e | a, c⟩ <;> trivial

theorem wp_run (m : Tx σ ε α) :
    wp m (fun a db' n' => ∃ faults rest, m ⟨db, faults, n⟩ = (.ok a, ⟨db', rest, n'⟩))
      (fun e db' n' => ∃ faults rest, m ⟨db, faults, n⟩ = (.error e, ⟨db', rest, n'⟩)) db n := by
  intro fs
  rcases hr : m ⟨db, fs, n⟩ with ⟨e | a, db', rest, n'⟩
  · exact ⟨fs, rest, hr⟩
  · exact ⟨fs, rest, hr⟩

theorem wp_mono {m : Tx σ ε α} {Q' : α → σ → ℕ → Prop} {E' : ε → σ → ℕ → Prop}
    (h : wp m Q' E' db n) (hQ : ∀ a db' n', Q' a db' n' → Q a db' n')
    (hE : ∀ e db' n', E' e db' n' → E e db' n') : wp m Q E db n := by
  intro fs
  have hm := h fs
  rcases hr : m ⟨db, fs, n⟩ with ⟨e | a, c⟩ <;> rw [hr] at hm
  · exact hE _ _ _ hm
  · exact hQ _ _ _ hm

/-- What holds of the contents whatever the outcome. -/
theorem wp.after {m : Tx σ ε α} {P : σ → Prop}
    (h : wp m (fun _ db' _ => P db') (fun _ db' _ => P db') db n) (faults : List Bool) :
    P (m ⟨db, faults, n⟩).2.db := by
  have hm := h faults
  rcases hr : m ⟨db, faults, n⟩ with ⟨e | a, c⟩ <;> rw [hr] at hm <;> exact hm

theorem wp_imp {m : Tx σ ε α} {Q' : α → σ → ℕ → Prop} (h : wp m Q' E db n)
    (hQ : ∀ a db' n', Q' a db' n' → Q a db' n') : wp m Q E db n :=
  wp_mono h hQ fun _ _ _ => id

theorem wp_and {m : Tx σ ε α} {Q' : α → σ → ℕ → Prop} {E' : ε → σ → ℕ → Prop}
    (h : wp m Q E db n) (h' : wp m Q' E' db n) :
    wp m (fun a db n => Q a db n ∧ Q' a db n) (fun e db n => E e db n ∧ E' e db n) db n := by
  intro fs
  have h₁ := h fs
  have h₂ := h' fs
  rcases hr : m ⟨db, fs, n⟩ with ⟨e | a, c⟩ <;> rw [hr] at h₁ h₂ <;> exact ⟨h₁, h₂⟩

/-- A statement either fails by a fault, is refused by a constraint, or writes what it says. -/
theorem wp_stmt {e : ε} {f : σ → Except ε (α × σ)} (hfault : E e db n)
    (hok : ∀ a db', f db = .ok (a, db') → Q a db' n)
    (herr : ∀ e', f db = .error e' → E e' db n) : wp (stmt e f) Q E db n := by
  intro fs
  unfold stmt
  rcases fs with _ | ⟨b, fs⟩
  · rcases hf : f db with e' | ⟨a, db'⟩
    · simpa only [hf] using herr e' hf
    · simpa only [hf] using hok a db' hf
  · cases b with
    | true => exact hfault
    | false =>
      rcases hf : f db with e' | ⟨a, db'⟩
      · simpa only [hf] using herr e' hf
      · simpa only [hf] using hok a db' hf

theorem wp_query {e : ε} {f : σ → α} (hfault : E e db n) (h : Q (f db) db n) :
    wp (query e f) Q E db n :=
  wp_stmt hfault (by rintro a db' ⟨rfl, rfl⟩; exact h) (by simp)

theorem wp_exec {e : ε} {f : σ → σ} {Q : Unit → σ → ℕ → Prop} (hfault : E e db n)
    (h : Q () (f db) n) : wp (exec e f) Q E db n :=
  wp_stmt hfault (by rintro a db' ⟨rfl, rfl⟩; exact h) (by simp)

theorem wp_draw {Q : ℕ → σ → ℕ → Prop} (h : Q n db (n + 1)) :
    wp (draw : Tx σ ε ℕ) Q E db n := fun _ => h

theorem wp_attempt {m : Tx σ ε' α} {Q : Except ε' α → σ → ℕ → Prop}
    (h : wp m (fun a => Q (.ok a)) (fun e => Q (.error e)) db n) :
    wp (attempt m : Tx σ ε (Except ε' α)) Q E db n := by
  intro fs
  have hm := h fs
  unfold attempt
  rcases hr : m ⟨db, fs, n⟩ with ⟨e | a, c⟩ <;> rw [hr] at hm <;> exact hm

theorem wp_mapError {m : Tx σ ε' α} {g : ε' → ε} (h : wp m Q (fun e => E (g e)) db n) :
    wp (mapError g m) Q E db n := by
  intro fs
  have hm := h fs
  unfold mapError
  rcases hr : m ⟨db, fs, n⟩ with ⟨e | a, c⟩ <;> rw [hr] at hm <;> exact hm

/-- A loop whose condition may speak of the results so far and of the elements still to come. -/
theorem wp_traverse_results {f : β → Tx σ ε α} {I : List α → List β → σ → ℕ → Prop}
    (hf : ∀ as b bs db n, I as (b :: bs) db n → wp (f b) (fun a => I (as ++ [a]) bs) E db n) :
    ∀ {bs : List β} (as : List α) {db : σ} {n : ℕ}, I as bs db n →
      wp (traverse f bs) (fun r => I (as ++ r) []) E db n
  | [], as, _, _, h => wp_pure (by rwa [List.append_nil])
  | b :: bs, as, _, _, h => by
    refine wp_bind (wp_imp (hf as b bs _ _ h) fun a db' n' h' => ?_)
    refine wp_bind (wp_imp (wp_traverse_results hf _ h') fun r _ _ h'' => wp_pure ?_)
    rwa [List.append_assoc, List.singleton_append] at h''

theorem wp_traverse {f : β → Tx σ ε α} {I : List β → σ → ℕ → Prop}
    (hf : ∀ b bs db n, I (b :: bs) db n → wp (f b) (fun _ => I bs) E db n)
    {bs : List β} {db : σ} {n : ℕ} (h : I bs db n) :
    wp (traverse f bs) (fun _ => I []) E db n :=
  wp_traverse_results (I := fun _ => I) (fun _ => hf) [] h

theorem wp_forEach {f : β → Tx σ ε Unit} {I : List β → σ → ℕ → Prop}
    (hf : ∀ b bs db n, I (b :: bs) db n → wp (f b) (fun _ => I bs) E db n) :
    ∀ {bs : List β} {db : σ} {n : ℕ}, I bs db n → wp (forEach f bs) (fun _ => I []) E db n
  | [], _, _, h => wp_pure h
  | b :: bs, _, _, h =>
    wp_bind (wp_imp (hf b bs _ _ h) fun _ _ _ h' => wp_forEach hf h')

theorem wp_contents {Q : σ → σ → ℕ → Prop} (h : Q db db n) :
    wp (contents : Tx σ ε σ) Q E db n := fun _ => h

theorem wp_modify {f : σ → σ} {Q : Unit → σ → ℕ → Prop} (h : Q () (f db) n) :
    wp (modify f : Tx σ ε Unit) Q E db n := fun _ => h

theorem wp_on {τ : Type} {get : τ → σ} {set : τ → σ → τ} {m : Tx σ ε α} {db : τ}
    {Q : α → τ → ℕ → Prop} {E : ε → τ → ℕ → Prop}
    (h : wp m (fun a x n => Q a (set db x) n) (fun e x n => E e (set db x) n) (get db) n) :
    wp (on get set m) Q E db n := by
  intro fs
  have hm := h fs
  unfold on
  rcases hr : m ⟨get db, fs, n⟩ with ⟨e | a, c⟩ <;> rw [hr] at hm <;> exact hm

/-- A loop with an invariant and a measure that every round without a result lowers. -/
theorem wp_repeatUntil {body : β → Tx σ ε (β ⊕ α)} {exhausted : ε} {I : β → σ → ℕ → Prop}
    {μ : σ → ℕ}
    (hbody : ∀ b db n, I b db n → wp (body b) (fun r db' n' =>
      r.elim (fun b' => I b' db' n' ∧ μ db' < μ db) fun a => Q a db' n') E db n) :
    ∀ {fuel : ℕ} {b : β} {db : σ} {n : ℕ}, I b db n → μ db < fuel →
      wp (repeatUntil body exhausted fuel b) Q E db n
  | 0, _, _, _, _, hμ => by omega
  | fuel + 1, b, db, n, h, hμ => by
    refine wp_bind (wp_imp (hbody b db n h) fun r db' n' hr => ?_)
    cases r with
    | inr a => exact wp_pure hr
    | inl b' =>
      obtain ⟨hI, hlt⟩ : I b' db' n' ∧ μ db' < μ db := hr
      exact wp_repeatUntil hbody hI (by omega)

/-- What holds of a transaction: the contents are those of the body only after a `COMMIT` that
succeeded. -/
theorem wp_transaction {e : ε} {undo : σ → σ → σ} {m : Tx σ ε (Ending × α)} (hbegin : E e db n)
    (h : wp m (fun r db' n' => match r.1 with
        | .drop => Q r.2 (undo db db') n'
        | .commit => Q r.2 db' n' ∧ E e (undo db db') n'
        | .rollback => Q r.2 (undo db db') n' ∧ E e (undo db db') n')
      (fun err db' n' => E err (undo db db') n') db n) :
    wp (transaction e undo m) Q E db n := by
  refine wp_bind (wp_contents (wp_bind (wp_query hbegin ?_)))
  refine wp_bind (wp_attempt (wp_mono h (fun r db' n' hr => ?_) fun err db' n' hr => ?_))
  · obtain ⟨ending, a⟩ := r
    cases ending with
    | drop => exact wp_bind (wp_modify (wp_pure hr))
    | commit =>
      exact wp_bind (wp_attempt (wp_query (wp_bind (wp_modify (wp_fail hr.2))) (wp_pure hr.1)))
    | rollback =>
      exact wp_bind (wp_attempt (wp_query (wp_bind (wp_modify (wp_fail hr.2)))
        (wp_bind (wp_modify (wp_pure hr.1)))))
  · exact wp_bind (wp_modify (wp_fail hr))

end Rules

/-! ## Errors without a failing statement -/

/-- What `m` guarantees of a result whatever statements fail, and of an error when none does. -/
def sure (m : Tx σ ε α) (Q : α → σ → ℕ → Prop) (E : ε → σ → ℕ → Prop) (db : σ) (n : ℕ) : Prop :=
  ∀ faults, (m { db := db, faults := faults, draws := n }).2.faults <:+ faults ∧
    match m { db := db, faults := faults, draws := n } with
    | (.ok a, c) => Q a c.db c.draws
    | (.error e, c) => true ∈ faults ∨ E e c.db c.draws

section Sure

variable {Q : α → σ → ℕ → Prop} {E : ε → σ → ℕ → Prop} {db : σ} {n : ℕ}

theorem sure.wp {m : Tx σ ε α} (h : sure m Q E db n) : wp m Q (fun _ _ _ => True) db n := by
  intro fs
  have hm := (h fs).2
  rcases hr : m ⟨db, fs, n⟩ with ⟨e | a, c⟩ <;> rw [hr] at hm
  · trivial
  · exact hm

theorem sure.result {m : Tx σ ε α} (h : sure m Q E db n) {faults : List Bool} {a : α} {c : Conn σ}
    (hr : m { db := db, faults := faults, draws := n } = (.ok a, c)) : Q a c.db c.draws := by
  have hm := (h faults).2
  rwa [hr] at hm

theorem sure.error {m : Tx σ ε α} (h : sure m Q E db n) {e : ε} {c : Conn σ}
    (hr : m { db := db, faults := [], draws := n } = (.error e, c)) : E e c.db c.draws := by
  have hm := (h []).2
  rw [hr] at hm
  exact hm.resolve_left List.not_mem_nil

/-- Without a failing statement there is a result, when every error is impossible. -/
theorem sure.ok {m : Tx σ ε α} (h : sure m Q (fun _ _ _ => False) db n) :
    ∃ a db' n', m { db := db, faults := [], draws := n } = (.ok a, ⟨db', [], n'⟩) ∧ Q a db' n' := by
  obtain ⟨hs, hm⟩ := h []
  rcases hr : m ⟨db, [], n⟩ with ⟨e | a, db', faults, n'⟩ <;> rw [hr] at hm hs
  · simp at hm
  · obtain rfl : faults = [] := List.suffix_nil.1 hs
    exact ⟨a, db', n', rfl, hm⟩

theorem sure_mono {m : Tx σ ε α} {Q' : α → σ → ℕ → Prop} {E' : ε → σ → ℕ → Prop}
    (h : sure m Q' E' db n) (hQ : ∀ a db' n', Q' a db' n' → Q a db' n')
    (hE : ∀ e db' n', E' e db' n' → E e db' n') : sure m Q E db n := by
  intro fs
  refine ⟨(h fs).1, ?_⟩
  have hm := (h fs).2
  rcases hr : m ⟨db, fs, n⟩ with ⟨e | a, c⟩ <;> rw [hr] at hm
  · exact hm.imp_right (hE _ _ _)
  · exact hQ _ _ _ hm

theorem sure_imp {m : Tx σ ε α} {Q' : α → σ → ℕ → Prop} (h : sure m Q' E db n)
    (hQ : ∀ a db' n', Q' a db' n' → Q a db' n') : sure m Q E db n :=
  sure_mono h hQ fun _ _ _ => id

theorem sure_pure {a : α} (h : Q a db n) : sure (pure a : Tx σ ε α) Q E db n :=
  fun _ => ⟨List.suffix_rfl, h⟩

theorem sure_fail {e : ε} (h : E e db n) : sure (fail e : Tx σ ε α) Q E db n :=
  fun _ => ⟨List.suffix_rfl, .inr h⟩

theorem sure_ofExcept {r : Except ε α} (hok : ∀ a, r = .ok a → Q a db n)
    (herr : ∀ e, r = .error e → E e db n) : sure (ofExcept r : Tx σ ε α) Q E db n := by
  cases r with
  | ok a => exact fun _ => ⟨List.suffix_rfl, hok a rfl⟩
  | error e => exact fun _ => ⟨List.suffix_rfl, .inr (herr e rfl)⟩

theorem sure_bind {m : Tx σ ε β} {f : β → Tx σ ε α}
    (h : sure m (fun b db' n' => sure (f b) Q E db' n') E db n) : sure (m >>= f) Q E db n := by
  intro fs
  obtain ⟨hs, hm⟩ := h fs
  rcases hr : m ⟨db, fs, n⟩ with ⟨e | b, c⟩ <;> rw [hr] at hm hs
  · rw [bind_error hr]
    exact ⟨hs, hm⟩
  · rw [bind_ok hr]
    obtain ⟨hs', hf⟩ := hm c.faults
    refine ⟨hs'.trans hs, ?_⟩
    rcases hr' : f b c with ⟨e | a, c'⟩ <;> rw [hr'] at hf
    · exact hf.imp_left fun ht => hs.subset ht
    · exact hf

theorem sure_stmt {e : ε} {f : σ → Except ε (α × σ)}
    (hok : ∀ a db', f db = .ok (a, db') → Q a db' n)
    (herr : ∀ e', f db = .error e' → E e' db n) : sure (stmt e f) Q E db n := by
  intro fs
  unfold stmt
  rcases fs with _ | ⟨b, fs⟩
  · rcases hf : f db with e' | ⟨a, db'⟩
    · simpa only [hf] using ⟨List.suffix_rfl, .inr (herr e' hf)⟩
    · simpa only [hf] using ⟨List.suffix_rfl, hok a db' hf⟩
  · have hs : fs <:+ b :: fs := List.suffix_cons b fs
    cases b with
    | true => exact ⟨hs, .inl List.mem_cons_self⟩
    | false =>
      rcases hf : f db with e' | ⟨a, db'⟩
      · simpa only [hf] using ⟨hs, .inr (herr e' hf)⟩
      · simpa only [hf] using ⟨hs, hok a db' hf⟩

theorem sure_query {e : ε} {f : σ → α} (h : Q (f db) db n) : sure (query e f) Q E db n :=
  sure_stmt (by rintro a db' ⟨rfl, rfl⟩; exact h) (by simp)

theorem sure_draw {Q : ℕ → σ → ℕ → Prop} (h : Q n db (n + 1)) :
    sure (draw : Tx σ ε ℕ) Q E db n :=
  fun _ => ⟨List.suffix_rfl, h⟩

theorem sure_exec {e : ε} {f : σ → σ} {Q : Unit → σ → ℕ → Prop} (h : Q () (f db) n) :
    sure (exec e f) Q E db n :=
  sure_stmt (by rintro a db' ⟨rfl, rfl⟩; exact h) (by simp)

theorem sure_contents {Q : σ → σ → ℕ → Prop} (h : Q db db n) :
    sure (contents : Tx σ ε σ) Q E db n := fun _ => ⟨List.suffix_rfl, h⟩

theorem sure_modify {f : σ → σ} {Q : Unit → σ → ℕ → Prop} (h : Q () (f db) n) :
    sure (modify f : Tx σ ε Unit) Q E db n := fun _ => ⟨List.suffix_rfl, h⟩

theorem sure_mapError {m : Tx σ ε' α} {g : ε' → ε} (h : sure m Q (fun e => E (g e)) db n) :
    sure (mapError g m) Q E db n := by
  intro fs
  obtain ⟨hs, hm⟩ := h fs
  refine ⟨hs, ?_⟩
  unfold mapError
  rcases hr : m ⟨db, fs, n⟩ with ⟨e | a, c⟩ <;> rw [hr] at hm <;> exact hm

theorem sure_on {τ : Type} {get : τ → σ} {set : τ → σ → τ} {m : Tx σ ε α} {db : τ}
    {Q : α → τ → ℕ → Prop} {E : ε → τ → ℕ → Prop}
    (h : sure m (fun a x n => Q a (set db x) n) (fun e x n => E e (set db x) n) (get db) n) :
    sure (on get set m) Q E db n := by
  intro fs
  obtain ⟨hs, hm⟩ := h fs
  refine ⟨hs, ?_⟩
  unfold on
  rcases hr : m ⟨get db, fs, n⟩ with ⟨e | a, c⟩ <;> rw [hr] at hm <;> exact hm

theorem sure_traverse_results {f : β → Tx σ ε α} {I : List α → List β → σ → ℕ → Prop}
    (hf : ∀ as b bs db n, I as (b :: bs) db n → sure (f b) (fun a => I (as ++ [a]) bs) E db n) :
    ∀ {bs : List β} (as : List α) {db : σ} {n : ℕ}, I as bs db n →
      sure (traverse f bs) (fun r => I (as ++ r) []) E db n
  | [], as, _, _, h => sure_pure (by rwa [List.append_nil])
  | b :: bs, as, _, _, h => by
    refine sure_bind (sure_imp (hf as b bs _ _ h) fun a db' n' h' => ?_)
    refine sure_bind (sure_imp (sure_traverse_results hf _ h') fun r _ _ h'' => sure_pure ?_)
    rwa [List.append_assoc, List.singleton_append] at h''

theorem sure_forEach {f : β → Tx σ ε Unit} {I : List β → σ → ℕ → Prop}
    (hf : ∀ b bs db n, I (b :: bs) db n → sure (f b) (fun _ => I bs) E db n) :
    ∀ {bs : List β} {db : σ} {n : ℕ}, I bs db n → sure (forEach f bs) (fun _ => I []) E db n
  | [], _, _, h => sure_pure h
  | b :: bs, _, _, h =>
    sure_bind (sure_imp (hf b bs _ _ h) fun _ _ _ h' => sure_forEach hf h')

theorem sure_repeatUntil {body : β → Tx σ ε (β ⊕ α)} {exhausted : ε} {I : β → σ → ℕ → Prop}
    {μ : σ → ℕ}
    (hbody : ∀ b db n, I b db n → sure (body b) (fun r db' n' =>
      r.elim (fun b' => I b' db' n' ∧ μ db' < μ db) fun a => Q a db' n') E db n) :
    ∀ {fuel : ℕ} {b : β} {db : σ} {n : ℕ}, I b db n → μ db < fuel →
      sure (repeatUntil body exhausted fuel b) Q E db n
  | 0, _, _, _, _, hμ => by omega
  | fuel + 1, b, db, n, h, hμ => by
    refine sure_bind (sure_imp (hbody b db n h) fun r db' n' hr => ?_)
    cases r with
    | inr a => exact sure_pure hr
    | inl b' =>
      obtain ⟨hI, hlt⟩ : I b' db' n' ∧ μ db' < μ db := hr
      exact sure_repeatUntil hbody hI (by omega)

end Sure

/-- A loop that has enough rounds has the same outcome with more of them. -/
theorem repeatUntil_fuel {body : β → Tx σ ε (β ⊕ α)} {e e' : ε} {μ : σ → ℕ}
    (h : ∀ b c b' c', body b c = (.ok (.inl b'), c') → μ c'.db < μ c.db) :
    ∀ {fuel fuel' : ℕ} {b : β} {c : Conn σ}, μ c.db < fuel → μ c.db < fuel' →
      repeatUntil body e fuel b c = repeatUntil body e' fuel' b c
  | 0, _, _, _, hf, _ => by omega
  | _, 0, _, _, _, hf' => by omega
  | fuel + 1, fuel' + 1, b, c, hf, hf' => by
    unfold repeatUntil
    rcases hr : body b c with ⟨err | r, c'⟩
    · rw [bind_error hr, bind_error hr]
    · rw [bind_ok hr, bind_ok hr]
      cases r with
      | inr a => rfl
      | inl b' =>
        have hlt := h b c b' c' hr
        exact repeatUntil_fuel h (by omega) (by omega)

end Tx

end EdgeNode
