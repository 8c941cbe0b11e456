import Mathlib

/-!
# Readers of a stream that arrives in chunks

A reader needs more input, takes a piece off the front, or stops. What it finds must not change when
more input arrives behind (`take_append`, `stop_append`). Then it does not matter how a stream is
cut: the outputs up to the stop are those of the whole stream at once (`feed_eq_drain`).
-/

namespace EdgeNode

inductive Piece (σ α β : Type) where
  | more
  | take (out : Option β) (s : σ) (rest : List α)
  | stop (out : β)

structure Reader (σ α β : Type) where
  read : σ → List α → Piece σ α β
  shorter : ∀ {s s' xs rest out}, read s xs = .take out s' rest → rest.length < xs.length
  take_append : ∀ {s s' xs rest out} ys, read s xs = .take out s' rest →
    read s (xs ++ ys) = .take out s' (rest ++ ys)
  stop_append : ∀ {s xs out} ys, read s xs = .stop out → read s (xs ++ ys) = .stop out

namespace Reader

variable {σ α β : Type} (r : Reader σ α β) {s s' : σ} {xs rest : List α} {out : Option β} {b : β}

/-- Takes pieces until more input is needed, or until the stop. The outputs, and the state and input
left if the reader did not stop. -/
def drain (s : σ) (xs : List α) : List β × Option (σ × List α) :=
  match h : r.read s xs with
  | .more => ([], some (s, xs))
  | .take out s' rest =>
    have := r.shorter h
    (out.toList ++ (drain s' rest).1, (drain s' rest).2)
  | .stop b => ([b], none)
termination_by xs.length

/-- Chunks one after another, with what the reader holds drained after each. -/
def feed : σ → List α → List (List α) → List β × Option (σ × List α)
  | s, held, [] => ([], some (s, held))
  | s, held, chunk :: chunks =>
    match r.drain s (held ++ chunk) with
    | (outs, none) => (outs, none)
    | (outs, some (s', rest)) => (outs ++ (feed s' rest chunks).1, (feed s' rest chunks).2)

theorem drain_more (h : r.read s xs = .more) : r.drain s xs = ([], some (s, xs)) := by
  rw [drain]
  split <;> simp_all

theorem drain_take (h : r.read s xs = .take out s' rest) :
    r.drain s xs = (out.toList ++ (r.drain s' rest).1, (r.drain s' rest).2) := by
  rw [drain]
  split <;> simp_all

theorem drain_stop (h : r.read s xs = .stop b) : r.drain s xs = ([b], none) := by
  rw [drain]
  split <;> simp_all

/-- Draining the front first and then what it left with the back. -/
theorem drain_append (s : σ) (xs ys : List α) :
    r.drain s (xs ++ ys) = match r.drain s xs with
      | (outs, none) => (outs, none)
      | (outs, some (s', rest)) =>
        (outs ++ (r.drain s' (rest ++ ys)).1, (r.drain s' (rest ++ ys)).2) := by
  induction hn : xs.length using Nat.strong_induction_on generalizing s xs with
  | _ n ih =>
    cases h : r.read s xs with
    | more => simp [r.drain_more h]
    | stop b => simp [r.drain_stop h, r.drain_stop (r.stop_append ys h)]
    | take out s' rest =>
      have ih := ih rest.length (hn ▸ r.shorter h) s' rest rfl
      rw [r.drain_take h, r.drain_take (r.take_append ys h), ih]
      rcases r.drain s' rest with ⟨outs, _ | ⟨s'', rest'⟩⟩ <;> simp

theorem read_of_drain (h : (r.drain s xs).2 = some (s', rest)) : r.read s' rest = .more := by
  induction hn : xs.length using Nat.strong_induction_on generalizing s xs with
  | _ n ih =>
    cases hr : r.read s xs with
    | more =>
      rw [r.drain_more hr] at h
      cases h
      exact hr
    | stop b => simp [r.drain_stop hr] at h
    | take out t rest' =>
      rw [r.drain_take hr] at h
      exact ih rest'.length (hn ▸ r.shorter hr) h rfl

/-- However a stream is cut into chunks, it is read as the whole stream at once. -/
theorem feed_eq_drain : ∀ {s : σ} {held : List α} (chunks : List (List α)),
    r.read s held = .more → r.feed s held chunks = r.drain s (held ++ chunks.flatten)
  | s, held, [], h => by simp [feed, r.drain_more h]
  | s, held, chunk :: chunks, h => by
    rw [List.flatten_cons, ← List.append_assoc, r.drain_append, feed]
    rcases hd : r.drain s (held ++ chunk) with ⟨outs, _ | ⟨s', rest⟩⟩
    · rfl
    · have hmore : r.read s' rest = .more := r.read_of_drain (congrArg Prod.snd hd)
      simp only [feed_eq_drain chunks hmore]

end Reader

end EdgeNode
