import ChatFeed.Proofs.Poll.Streak
import ChatFeed.Proofs.Settings.Range

/-!
# Proofs/Settings/Schedule — how failed reads are tried again under settings that load

Settings that load keep the waits of a streak in order, whatever file and variables they come from:
the first wait is the one that was set, waits never become shorter, none exceeds the one that was
set as the longest, and the limit counts failures alone (`Settings.waits_on_schedule`).
-/

namespace ChatFeed

/-- A time of milliseconds in sixty-four bits is a span as it is. -/
theorem Span.nanos_ofMillis {n : Nat} (h : n ≤ Numeral.max64) :
    (ofMillis n).nanos = n * 1_000_000 := by
  have hlimit : Numeral.max64 * 1_000_000 ≤ spanLimit := by decide
  rw [ofMillis, nanos_ofNanos]
  omega

namespace Streak

variable {p : RetryPolicy} {past : List Outcome}

/-- The streak is too long with one failure more, as long as it can be counted. -/
theorem exhausted_next (counted : failuresInRow past + 1 < 2 ^ 32) :
    (after p past).next.exhausted p = true ↔ 0 < p.limit ∧ p.limit < failuresInRow past + 1 := by
  have hrow : failuresInRow past + 1 ≤ Numeral.max32 := Nat.le_of_lt_succ counted
  have hcount : (after p past).next.failed = failuresInRow past + 1 := by
    change min ((after p past).failed + 1) Numeral.max32 = _
    rw [after_failed]
    omega
  rw [exhausted, hcount, Bool.and_eq_true, decide_eq_true_iff, decide_eq_true_iff]

/-- **There is no wait any more beyond the limit**, whatever the feed asks for. -/
theorem suffer_eq_none_iff (counted : failuresInRow past + 1 < 2 ^ 32) (f : Failure) :
    ((after p past).suffer p f).1 = none ↔ 0 < p.limit ∧ p.limit < failuresInRow past + 1 := by
  rw [← exhausted_next counted, suffer_eq]
  cases (after p past).next.exhausted p <;> simp

/-- **A wait is the longer one** of that of the schedule and the one that was asked for. -/
theorem nanos_of_suffer {f : Failure} {d : Span} (h : ((after p past).suffer p f).1 = some d) :
    d.nanos = max (p.wait (failuresInRow past)).nanos ((f.asked?.map Span.nanos).getD 0) := by
  rw [suffer_eq, wait_after] at h
  cases hexhausted : (after p past).next.exhausted p with
  | true => simp [hexhausted] at h
  | false =>
    cases hasked : f.asked? with
    | none =>
      obtain rfl : p.wait (failuresInRow past) = d := by simpa [hexhausted, hasked] using h
      simp
    | some asked =>
      obtain rfl : (p.wait (failuresInRow past)).longer asked = d := by
        simpa [hexhausted, hasked] using h
      rw [Span.nanos_longer]
      rfl

/-- **A policy whose waits grow and whose first wait is allowed keeps waits in order**: there is a
base wait for each number of failures in a row, and a history leads to it. -/
theorem waits_in_order (hgrows : 1 ≤ p.factor) (hallowed : p.initial.nanos ≤ p.ceiling.nanos) :
    ∃ base : Nat → Span, base 1 = p.initial
      ∧ (∀ j k, j ≤ k → (base j).nanos ≤ (base k).nanos)
      ∧ (∀ k, (base k).nanos ≤ p.ceiling.nanos)
      ∧ ∀ past, p.wait (after p past).failed = base (failuresInRow past + 1)
        ∧ ∀ f d, ((after p past).suffer p f).1 = some d → d.nanos
          = max (base (failuresInRow past + 1)).nanos ((f.asked?.map Span.nanos).getD 0) := by
  refine ⟨fun k => p.wait (k - 1), RetryPolicy.wait_zero hallowed, fun j k hjk => ?_, fun k => ?_,
    fun past => ⟨wait_after p past, fun f d hd => nanos_of_suffer hd⟩⟩
  · exact RetryPolicy.wait_mono hgrows (Nat.sub_le_sub_right hjk 1)
  · exact p.wait_le_ceiling _

/-- **Where there is no wait, there is none after more failures.** -/
theorem suffer_eq_none_again {f : Failure} {more : List Failure}
    (counted : failuresInRow past + 1 + more.length + 1 < 2 ^ 32)
    (h : ((after p past).suffer p f).1 = none) (last : Failure) :
    ((after p (past ++ (f :: more).map .failed)).suffer p last).1 = none := by
  have hrow : failuresInRow (past ++ (f :: more).map .failed)
      = failuresInRow past + (more.length + 1) := failuresInRow_append past (f :: more)
  have htoo := (suffer_eq_none_iff (by omega) f).mp h
  exact (suffer_eq_none_iff (by omega) last).mpr (by omega)

end Streak

namespace Settings

variable {f : Folder} {path : String} {e : Environment} {s : Settings}

/-- **Failed reads under settings that load.**  There is a base wait for each number of failures in
a row: the first is the initial wait of the settings, they never become shorter, and none is longer
than the ceiling of the settings.  Take any history, with fewer than `2 ^ 32` failures in a row at
its end, the one that comes next included.

* The wait that is told beforehand is the base wait of the failure that comes next.
* That failure leads to no wait exactly if there is a limit and the row is longer, and then neither
  do the failures after it, until a read is good.
* Otherwise the wait is the base wait, or the one that the feed asks for if that is longer. -/
theorem waits_on_schedule (loaded : load f path e = .ok s) :
    ∃ base : Nat → Span,
      (base 1).nanos = s.feed.initialMillis * 1_000_000
      ∧ (∀ j k, j ≤ k → (base j).nanos ≤ (base k).nanos)
      ∧ (∀ k, (base k).nanos ≤ s.feed.ceilingMillis * 1_000_000)
      ∧ ∀ (past : List Outcome) (failure : Failure) (k : Nat),
        k = failuresInRow past + 1 → k < 2 ^ 32 →
        let p := s.feed.poll.retry
        p.wait (Streak.after p past).failed = base k
        ∧ (((Streak.after p past).suffer p failure).1 = none
          ↔ 0 < s.feed.retries ∧ s.feed.retries < k)
        ∧ (((Streak.after p past).suffer p failure).1 = none →
          ∀ (more : List Failure) (last : Failure), k + more.length + 1 < 2 ^ 32 →
          ((Streak.after p (past ++ (failure :: more).map .failed)).suffer p last).1 = none)
        ∧ ∀ d, ((Streak.after p past).suffer p failure).1 = some d →
          d.nanos = max (base k).nanos ((failure.asked?.map Span.nanos).getD 0) := by
  obtain ⟨hrange, hfault⟩ := sound_of_load loaded
  obtain ⟨hgrows, hceiling⟩ := growing_of_fault?_eq_none hfault
  have hinitial : s.feed.poll.retry.initial.nanos = s.feed.initialMillis * 1_000_000 :=
    Span.nanos_ofMillis hrange.initialMillis
  have hlongest : s.feed.poll.retry.ceiling.nanos = s.feed.ceilingMillis * 1_000_000 :=
    Span.nanos_ofMillis hrange.ceilingMillis
  have hallowed : s.feed.poll.retry.initial.nanos ≤ s.feed.poll.retry.ceiling.nanos := by
    rw [hinitial, hlongest]
    exact Nat.mul_le_mul_right _ hceiling
  obtain ⟨base, hfirst, hmono, hcap, hleads⟩ := Streak.waits_in_order hgrows hallowed
  refine ⟨base, (congrArg Span.nanos hfirst).trans hinitial, hmono,
    fun k => (hcap k).trans_eq hlongest, ?_⟩
  rintro past failure k rfl counted
  obtain ⟨hbase, hlonger⟩ := hleads past
  exact ⟨hbase, Streak.suffer_eq_none_iff counted failure,
    fun hnone more last hcounted => Streak.suffer_eq_none_again hcounted hnone last,
    hlonger failure⟩

/-- Settings from a file with an initial wait of a fifth of a second, where a variable allows two
failures in a row.  The first failure, for which the feed asks for a second, waits for a second; the
third one in a row leads to no wait, and neither does the one after it. -/
theorem waits_on_schedule_when_limited :
    let text := "[bot]\nuser_id = \"7\"\n[datafeed]\nbackoff_initial_ms = 200\nmax_retries = 9\n"
    let f : Folder := { nodes := [(["config.toml"], .file (.text text))] }
    let e : Environment := { entries := [("SYMPHONY_DATAFEED_MAX_RETRIES", "2")] }
    let third : List Outcome := [.good, .failed .plain, .failed (.asking none)]
    ∃ s, load f "config.toml" e = .ok s
      ∧ (∀ d, ((Streak.after s.feed.poll.retry []).suffer s.feed.poll.retry
        (.asking (some (.ofSecs 1)))).1 = some d → d.nanos = 1_000_000_000)
      ∧ ((Streak.after s.feed.poll.retry third).suffer s.feed.poll.retry .plain).1 = none
      ∧ ((Streak.after s.feed.poll.retry (third ++ [.failed .plain])).suffer s.feed.poll.retry
        (.asking (some (.ofSecs 1)))).1 = none := by
  intro text f e third
  have hview : (load f "config.toml" e).toOption.map
      (fun s => (s.feed.initialMillis, s.feed.retries)) = some (200, 2) := by decide +kernel
  obtain ⟨s, hload, hs⟩ := Option.map_eq_some_iff.mp hview
  obtain ⟨hinitial, hretries⟩ := Prod.mk.inj hs
  have loaded : load f "config.toml" e = .ok s := by
    cases hsettings : load f "config.toml" e with
    | error fault => simp [hsettings, Except.toOption] at hload
    | ok s' =>
      obtain rfl : s' = s := by simpa [hsettings, Except.toOption] using hload
      rfl
  obtain ⟨base, hfirst, -, -, hall⟩ := waits_on_schedule loaded
  rw [hinitial] at hfirst
  obtain ⟨-, -, -, hlonger⟩ := hall [] (.asking (some (.ofSecs 1))) 1 rfl (by decide)
  obtain ⟨-, hlimit, hagain, -⟩ := hall third .plain 3 rfl (by decide)
  have hnone := hlimit.mpr (by rw [hretries]; decide)
  refine ⟨s, loaded, fun d hd => ?_, hnone, hagain hnone [] _ (by decide)⟩
  rw [hlonger d hd, hfirst]
  rfl

end Settings

end ChatFeed
