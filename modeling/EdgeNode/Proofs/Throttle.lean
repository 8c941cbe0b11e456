import EdgeNode.Ops.Throttle

/-!
# What the throttle lets pass

Over all sources the passes keep the bound of a sliding window, since the queue keeps every pass of
the last second. The entry of one source is determined by the failures recorded since its last
success: their number and the time of the last of them.
-/

namespace EdgeNode

namespace Api

open Ingest (IpAddr satU64)

/-- What a check does to the throttle: nothing for a blocked source, otherwise it forgets the passes
that are too old and adds its own if there is room. -/
theorem checkAndRecordSource_cases (now : ℕ) (ip : IpAddr) (state : ThrottleState) :
    (∃ source retry, state.sources.lookup ip = some source ∧ now < source.blockedUntil
        ∧ state.checkAndRecordSource now ip = (.error retry, state))
      ∨ (∀ source, state.sources.lookup ip = some source → source.blockedUntil ≤ now)
        ∧ ((∃ retry, state.checkAndRecordSource now ip
              = (.error retry, ⟨state.sources, SlidingWindow.trim nanosPerSecond now state.global⟩))
          ∨ (SlidingWindow.trim nanosPerSecond now state.global).length < passesPerSecond
            ∧ state.checkAndRecordSource now ip
              = (.ok (), ⟨state.sources,
                  SlidingWindow.trim nanosPerSecond now state.global ++ [now]⟩)) := by
  rw [ThrottleState.checkAndRecordSource]
  split
  · rename_i source hblocked
    obtain ⟨hsource, hlt⟩ := Option.filter_eq_some_iff.1 hblocked
    exact .inl ⟨source, _, hsource, of_decide_eq_true hlt, rfl⟩
  · rename_i hfree
    refine .inr ⟨fun source hsource => ?_, ?_⟩
    · rw [hsource, Option.filter_eq_none_iff] at hfree
      simpa using hfree source rfl
    · by_cases hfull :
          passesPerSecond ≤ (SlidingWindow.trim nanosPerSecond now state.global).length
      · exact .inl ⟨_, if_pos hfull⟩
      · exact .inr ⟨Nat.lt_of_not_le hfull, if_neg hfull⟩

def Windowed (latest : ℕ) (s : ThrottleRun) : Prop :=
  SlidingWindow.Kept nanosPerSecond passesPerSecond latest (s.passes.map Prod.fst) s.state.global

theorem Windowed.serve {latest : ℕ} {s : ThrottleRun} (h : Windowed latest s)
    {call : ℕ × ThrottleCall} (hle : latest ≤ call.1) : Windowed call.1 (s.serve call) := by
  have hlater : Windowed call.1 s := SlidingWindow.Kept.later h hle
  obtain ⟨now, ip | ip | ip⟩ := call
  · rcases checkAndRecordSource_cases now ip s.state with
      ⟨source, retry, -, -, hcheck⟩ | ⟨-, ⟨retry, hcheck⟩ | ⟨hroom, hcheck⟩⟩
    · simp only [ThrottleRun.serve, hcheck]
      exact hlater
    · simp only [ThrottleRun.serve, hcheck]
      exact SlidingWindow.Kept.trim hlater
    · simp only [ThrottleRun.serve, hcheck, Windowed, List.map_append, List.map_cons, List.map_nil]
      exact (SlidingWindow.Kept.trim hlater).push hroom
  · exact hlater
  · exact hlater

theorem after_concat (calls : List (ℕ × ThrottleCall)) (call : ℕ × ThrottleCall) :
    ThrottleRun.after (calls ++ [call]) = (ThrottleRun.after calls).serve call :=
  List.foldl_concat _ _ _ _

theorem windowed_after (calls : List (ℕ × ThrottleCall))
    (hclock : (calls.map Prod.fst).Pairwise (· ≤ ·)) :
    ∀ now, (∀ t ∈ calls.map Prod.fst, t ≤ now) → Windowed now (ThrottleRun.after calls) := by
  induction calls using List.reverseRecOn with
  | nil => exact fun now _ => SlidingWindow.Kept.nil
  | append_singleton calls call ih =>
    intro now hnow
    rw [List.map_append, List.pairwise_append] at hclock
    have hbefore : Windowed call.1 (ThrottleRun.after calls) :=
      ih hclock.1 call.1 fun t ht => hclock.2.2 t ht call.1 (by simp)
    rw [after_concat]
    exact SlidingWindow.Kept.later (hbefore.serve le_rfl) (hnow call.1 (by simp))

/-! ## One source -/

def failuresOf (ip : IpAddr) (calls : List (ℕ × ThrottleCall)) : List ℕ :=
  (calls.rtakeWhile fun call => call.2 ≠ .success ip).filterMap fun call =>
    if call.2 = .failure ip then some call.1 else none

theorem failuresOf_success {ip : IpAddr} {calls : List (ℕ × ThrottleCall)} {now : ℕ} :
    failuresOf ip (calls ++ [(now, .success ip)]) = [] := by
  rw [failuresOf, List.rtakeWhile_concat_neg _ _ _ (by simp), List.filterMap_nil]

theorem failuresOf_failure {ip : IpAddr} {calls : List (ℕ × ThrottleCall)} {now : ℕ} :
    failuresOf ip (calls ++ [(now, .failure ip)]) = failuresOf ip calls ++ [now] := by
  rw [failuresOf, List.rtakeWhile_concat_pos _ _ _ (by simp), List.filterMap_append]
  simp [failuresOf]

theorem failuresOf_other {ip : IpAddr} {calls : List (ℕ × ThrottleCall)} {call : ℕ × ThrottleCall}
    (hfailure : call.2 ≠ .failure ip) (hsuccess : call.2 ≠ .success ip) :
    failuresOf ip (calls ++ [call]) = failuresOf ip calls := by
  rw [failuresOf, List.rtakeWhile_concat_pos _ _ _ (by simpa using hsuccess),
    List.filterMap_append]
  simp [failuresOf, hfailure]

def entryOf (failures : List ℕ) : Option SourceState :=
  failures.getLast?.map fun last =>
    ⟨min failures.length (2 ^ 32 - 1),
      last + ThrottleState.backoffSecs (min failures.length (2 ^ 32 - 1)) * nanosPerSecond⟩

theorem entryOf_concat {failures : List ℕ} {now : ℕ} :
    some (⟨min (((entryOf failures).getD ⟨0, now⟩).failures + 1) (2 ^ 32 - 1),
      now + ThrottleState.backoffSecs
        (min (((entryOf failures).getD ⟨0, now⟩).failures + 1) (2 ^ 32 - 1)) * nanosPerSecond⟩)
      = entryOf (failures ++ [now]) := by
  have hcount : min (((entryOf failures).getD ⟨0, now⟩).failures + 1) (2 ^ 32 - 1)
      = min (failures ++ [now]).length (2 ^ 32 - 1) := by
    rw [List.length_append, List.length_singleton]
    rcases hlast : failures.getLast? with _ | last
    · rw [List.getLast?_eq_none_iff.1 hlast]
      rfl
    · simp only [entryOf, hlast, Option.map_some, Option.getD_some]
      omega
  rw [hcount, entryOf, List.getLast?_concat, Option.map_some]

theorem lookup_after (ip : IpAddr) (calls : List (ℕ × ThrottleCall)) :
    (ThrottleRun.after calls).state.sources.lookup ip = entryOf (failuresOf ip calls) := by
  induction calls using List.reverseRecOn with
  | nil => rfl
  | append_singleton calls call ih =>
    rw [after_concat]
    obtain ⟨now, other | other | other⟩ := call
    · rw [failuresOf_other (by simp) (by simp), ← ih]
      rcases checkAndRecordSource_cases now other (ThrottleRun.after calls).state with
        ⟨source, retry, -, -, hcheck⟩ | ⟨-, ⟨retry, hcheck⟩ | ⟨-, hcheck⟩⟩ <;>
        simp only [ThrottleRun.serve, hcheck]
    · show ((ThrottleRun.after calls).state.sources.insert other _).lookup ip = _
      by_cases hip : ip = other
      · subst hip
        rw [AList.lookup_insert, ih, failuresOf_failure]
        exact entryOf_concat
      · rw [AList.lookup_insert_ne hip, ih, failuresOf_other (by simpa using Ne.symm hip) (by simp)]
    · show ((ThrottleRun.after calls).state.sources.erase other).lookup ip = _
      by_cases hip : ip = other
      · subst hip
        rw [AList.lookup_erase, failuresOf_success]
        rfl
      · rw [AList.lookup_erase_ne hip, ih, failuresOf_other (by simp) (by simpa using Ne.symm hip)]

/-- Neither where the count stops nor where the power does is seen: both lie beyond a minute. -/
theorem backoffSecs_eq (failures : ℕ) :
    ThrottleState.backoffSecs (min failures (2 ^ 32 - 1)) = min (2 ^ failures) 60 := by
  have hmin : ∀ n, min (satU64 n) maxBackoffSecs = min n 60 := by
    intro n
    simp only [satU64, maxBackoffSecs]
    omega
  rw [ThrottleState.backoffSecs, hmin]
  have hlong : ∀ n, 6 ≤ n → min (2 ^ n) 60 = 60 := by
    intro n hn
    have : 2 ^ 6 ≤ 2 ^ n := Nat.pow_le_pow_right (by decide) hn
    omega
  rcases Nat.lt_or_ge failures 6 with hlt | hge
  · rw [Nat.min_eq_left (show failures ≤ 2 ^ 32 - 1 by omega)]
  · rw [hlong failures hge, hlong _ (by omega)]

/-- Not more than ten checks pass in any second, and none of a source that has failed since its last
success passes before the wait for that many failures is over. -/
theorem throttle_bounds (calls : List (ℕ × ThrottleCall))
    (hclock : (calls.map Prod.fst).Pairwise (· ≤ ·)) :
    (∀ start, ((ThrottleRun.after calls).passes.filter fun pass =>
        start ≤ pass.1 ∧ pass.1 < start + nanosPerSecond).length ≤ 10)
    ∧ ∀ before now ip rest last, calls = before ++ (now, .check ip) :: rest →
        (failuresOf ip before).getLast? = some last →
        now < last + min (2 ^ (failuresOf ip before).length) 60 * nanosPerSecond →
          ((ThrottleRun.after before).serve (now, .check ip)).passes
            = (ThrottleRun.after before).passes := by
  constructor
  · intro start
    obtain ⟨now, hnow⟩ := (calls.map Prod.fst).toFinset.exists_le
    have hbound := (windowed_after calls hclock now fun t ht =>
      hnow t (List.mem_toFinset.2 ht)).bounded start
    rw [SlidingWindow.within, List.filter_map, List.length_map] at hbound
    simpa [Function.comp_def, passesPerSecond] using hbound
  · intro before now ip rest last hcalls hlast hlt
    have hentry := lookup_after ip before
    rw [entryOf, hlast, Option.map_some, backoffSecs_eq] at hentry
    rcases checkAndRecordSource_cases now ip (ThrottleRun.after before).state with
      ⟨source, retry, -, -, hcheck⟩ | ⟨hfree, -⟩
    · simp only [ThrottleRun.serve, hcheck]
    · exact absurd (hfree _ hentry) (Nat.not_le.2 hlt)

theorem second_failure_waits :
    ([(0, ThrottleCall.failure (.v4 1)), (5, .failure (.v4 1)), (7, .check (.v4 1))].map
      Prod.fst).Pairwise (· ≤ ·)
      ∧ ((ThrottleRun.after [(0, .failure (.v4 1)), (5, .failure (.v4 1))]).serve
        (7, .check (.v4 1))).passes = [] := by
  refine ⟨by decide, ?_⟩
  exact (throttle_bounds [(0, .failure (.v4 1)), (5, .failure (.v4 1)), (7, .check (.v4 1))]
    (by decide)).2 [(0, .failure (.v4 1)), (5, .failure (.v4 1))] 7 (.v4 1) [] 5 rfl (by decide)
    (by decide)

end Api

end EdgeNode
