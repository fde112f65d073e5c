import GraphNight.Core.Secrets
import GraphNight.Lib.KeyedList
import GraphNight.Lib.TokenBucket
import Mathlib.Algebra.Order.Field.Rat
import Mathlib.Algebra.Order.Floor.Defs
import Mathlib.Data.Rat.Floor

/-!
# Rate limiter (`graphnight-server/src/rate_limit.rs`)

A token bucket for every API key or client address. `f64` numbers and the clock are exact
here. The capacity of a bucket is the rate: a rate below one request per second never
fills a token.
-/

namespace GraphNight

abbrev Buckets := KeyedList (String × TokenBucket Rat) Prod.fst

/-- Limiter state. -/
structure RateLimitState where
  /-- Tokens added per second (and bucket capacity). -/
  rps : Rat
  rps_pos : 0 < rps
  buckets : Buckets

namespace RateLimitState

/-- Load from `GRAPHNIGHT_RATE_LIMIT_RPS`; `parseF64` is the finite number a text parses as. -/
def fromEnv (parseF64 : String → Option Rat) (env : Environment) : Option RateLimitState := do
  let trimmed := Str.trim (← env "GRAPHNIGHT_RATE_LIMIT_RPS")
  if trimmed = "" ∨ trimmed = "0" then none
  else
    let rps ← parseF64 trimmed
    if h : 0 < rps then some ⟨rps, h, .empty⟩ else none

/-- Seconds until a token is there, at least one; `as u64` saturates. -/
def waitSecs (rps tokens : Rat) : Nat := min (max ⌈(1 - tokens) / rps⌉ 1).toNat (2 ^ 64 - 1)

/-- Try to take one token for `key`: `Ok(())`, or seconds until retry. -/
def tryAcquire (s : RateLimitState) (key : String) (now : Rat) : Except Nat Unit × RateLimitState :=
  let bucket := ((s.buckets.get key).map Prod.snd).getD ⟨s.rps, now⟩
  let elapsed := max (now - bucket.lastRefill) 0
  let tokens := min (bucket.tokens + elapsed * s.rps) s.rps
  if 1 ≤ tokens then (.ok (), { s with buckets := s.buckets.insert (key, ⟨tokens - 1, now⟩) })
  else (.error (waitSecs s.rps tokens), { s with buckets := s.buckets.insert (key, ⟨tokens, now⟩) })

/-- An attempt under a key, at a time. -/
abbrev Attempt := String × Rat

/-- The limiter after attempts made one after the other. -/
def after (s : RateLimitState) (as : List Attempt) : RateLimitState := as.foldl (fun s a => (s.tryAcquire a.1 a.2).2) s

/-- What each attempt of a run is answered. -/
def run (s : RateLimitState) : List Attempt → List (Attempt × Except Nat Unit)
  | [] => []
  | a :: as => (a, (s.tryAcquire a.1 a.2).1) :: run (s.tryAcquire a.1 a.2).2 as

/-- The bucket of a key; one that is not there yet is full at any time. -/
def bucket (s : RateLimitState) (key : String) : TokenBucket Rat := ((s.buckets.get key).map Prod.snd).getD ⟨s.rps, 0⟩

section

variable {s : RateLimitState} {key other : String} {now : Rat}

theorem refill_bucket : (((s.buckets.get key).map Prod.snd).getD (⟨s.rps, now⟩ : TokenBucket Rat)).refill s.rps s.rps now =
    (s.bucket key).refill s.rps s.rps now := by
  unfold bucket
  cases s.buckets.get key with
  | some b => rfl
  | none =>
    simp only [Option.map_none, Option.getD_none]
    rw [TokenBucket.refill_full _ s.rps_pos.le, TokenBucket.refill_full _ s.rps_pos.le]

/-- An attempt takes from the bucket of its key. -/
theorem tryAcquire_eq : s.tryAcquire key now =
    (if ((s.bucket key).take s.rps s.rps now).1 then .ok () else .error (waitSecs s.rps ((s.bucket key).refill s.rps s.rps now).tokens),
      { s with buckets := s.buckets.insert (key, ((s.bucket key).take s.rps s.rps now).2) }) := by
  have hrefill := @refill_bucket s key now
  rcases le_or_gt 1 ((s.bucket key).refill s.rps s.rps now).tokens with hone | hone
  · rw [TokenBucket.take_of_le hone]
    rw [← hrefill] at hone ⊢
    exact if_pos hone
  · rw [TokenBucket.take_of_lt hone]
    rw [← hrefill] at hone ⊢
    exact if_neg (not_le.2 hone)

@[simp] theorem tryAcquire_rps : (s.tryAcquire key now).2.rps = s.rps := by
  rw [tryAcquire_eq]

theorem bucket_tryAcquire : (s.tryAcquire key now).2.bucket other =
    if other = key then ((s.bucket key).take s.rps s.rps now).2 else s.bucket other := by
  rw [tryAcquire_eq]
  by_cases h : other = key
  · subst h
    simp [bucket, KeyedList.get_insert]
  · simp [bucket, KeyedList.get_insert, h, Ne.symm h]

theorem answer_eq : (s.tryAcquire key now).1 =
    if ((s.bucket key).take s.rps s.rps now).1 then .ok () else .error (waitSecs s.rps ((s.bucket key).refill s.rps s.rps now).tokens) := by
  rw [tryAcquire_eq]

theorem tryAcquire_isOk : (s.tryAcquire key now).1.isOk = ((s.bucket key).take s.rps s.rps now).1 := by
  rw [answer_eq]
  cases ((s.bucket key).take s.rps s.rps now).1 <;> rfl

end

/-! ## Runs -/

/-- A limiter that has seen no attempt. -/
def fresh (rate : {rps : Rat // 0 < rps}) : RateLimitState := ⟨rate.val, rate.property, .empty⟩

/-- What is loaded from the environment has seen no attempt. -/
theorem fromEnv_fresh {parseF64 : String → Option Rat} {env : Environment} {s : RateLimitState} (h : fromEnv parseF64 env = some s) :
    s = fresh ⟨s.rps, s.rps_pos⟩ := by
  simp only [fromEnv, Option.bind_eq_bind, Option.bind_eq_some_iff] at h
  obtain ⟨raw, -, h⟩ := h
  split_ifs at h
  obtain ⟨rps, -, h⟩ := Option.bind_eq_some_iff.1 h
  split_ifs at h
  cases h
  rfl

/-- Every bucket is within its bounds. -/
def Valid (s : RateLimitState) : Prop := ∀ key, (s.bucket key).Valid s.rps

/-- The times at which a key was admitted. -/
def admittedTimes (key : String) (outs : List (Attempt × Except Nat Unit)) : List Rat :=
  (outs.filter fun o => o.1.1 == key && o.2.isOk).map (·.1.2)

/-- The times of the attempts under a key. -/
def timesOf (key : String) (as : List Attempt) : List Rat := (as.filter (·.1 == key)).map (·.2)

section

variable {s s' : RateLimitState} {key : String} {as : List Attempt}

theorem valid_fresh (rate : {rps : Rat // 0 < rps}) : (fresh rate).Valid := fun _ => ⟨rate.property.le, le_rfl⟩

theorem Valid.tryAcquire (h : s.Valid) (k : String) (now : Rat) : (s.tryAcquire k now).2.Valid := by
  intro other
  rw [bucket_tryAcquire, tryAcquire_rps]
  split_ifs
  · exact (h k).take s.rps_pos.le now
  · exact h other

theorem after_cons (a : Attempt) : s.after (a :: as) = (s.tryAcquire a.1 a.2).2.after as := rfl

theorem after_rps : (s.after as).rps = s.rps := by
  induction as generalizing s with
  | nil => rfl
  | cons a as ih => rw [after_cons, ih, tryAcquire_rps]

theorem Valid.after (h : s.Valid) : (s.after as).Valid := by
  induction as generalizing s with
  | nil => exact h
  | cons a as ih => exact ih (h.tryAcquire a.1 a.2)

/-- Attempts under other keys leave a bucket as it is. -/
theorem bucket_after (h : ∀ a ∈ as, a.1 ≠ key) : (s.after as).bucket key = s.bucket key := by
  induction as generalizing s with
  | nil => rfl
  | cons a as ih =>
    rw [after_cons, ih fun b hb => h b (List.mem_cons_of_mem _ hb), bucket_tryAcquire, if_neg (Ne.symm (h a List.mem_cons_self))]

/-- The answers under one key depend on its bucket alone. -/
theorem run_congr (hrps : s.rps = s'.rps) (hbucket : s.bucket key = s'.bucket key) (h : ∀ a ∈ as, a.1 = key) : s.run as = s'.run as := by
  induction as generalizing s s' with
  | nil => rfl
  | cons a as ih =>
    obtain rfl := h a List.mem_cons_self
    have hanswer : (s.tryAcquire a.1 a.2).1 = (s'.tryAcquire a.1 a.2).1 := by rw [answer_eq, answer_eq, hrps, hbucket]
    have hrps' : (s.tryAcquire a.1 a.2).2.rps = (s'.tryAcquire a.1 a.2).2.rps := by rw [tryAcquire_rps, tryAcquire_rps, hrps]
    have hbucket' : (s.tryAcquire a.1 a.2).2.bucket a.1 = (s'.tryAcquire a.1 a.2).2.bucket a.1 := by
      rw [bucket_tryAcquire, bucket_tryAcquire, hrps, hbucket]
    rw [run, run, hanswer, ih hrps' hbucket' fun b hb => h b (List.mem_cons_of_mem _ hb)]

/-- Attempts under other keys do not affect a key. -/
theorem run_filter (key : String) : (s.run as).filter (·.1.1 == key) = s.run (as.filter (·.1 == key)) := by
  induction as generalizing s with
  | nil => rfl
  | cons a as ih =>
    by_cases ha : a.1 = key
    · rw [run, List.filter_cons_of_pos (by simpa using ha), List.filter_cons_of_pos (by simpa using ha), run, ih]
    · rw [run, List.filter_cons_of_neg (by simpa using ha), List.filter_cons_of_neg (by simpa using ha), ih]
      refine @run_congr _ _ key _ tryAcquire_rps ?_ fun b hb => by simpa using (List.mem_filter.1 hb).2
      rw [bucket_tryAcquire, if_neg (Ne.symm ha)]

/-- What is admitted under a key is what its bucket admits. -/
theorem admittedTimes_run (key : String) :
    admittedTimes key (s.run as) = (s.bucket key).admitted s.rps s.rps (timesOf key as) := by
  induction as generalizing s with
  | nil => rfl
  | cons a as ih =>
    have hnext := ih (s := (s.tryAcquire a.1 a.2).2)
    rw [tryAcquire_rps, bucket_tryAcquire] at hnext
    by_cases ha : a.1 = key
    · subst ha
      rw [if_pos rfl] at hnext
      have htimes : timesOf a.1 (a :: as) = a.2 :: timesOf a.1 as := by simp [timesOf]
      rw [htimes, TokenBucket.admitted_cons, ← hnext, ← tryAcquire_isOk, run, admittedTimes]
      cases hanswer : (s.tryAcquire a.1 a.2).1.isOk with
      | true =>
        rw [List.filter_cons_of_pos (by simp [hanswer])]
        rfl
      | false =>
        rw [List.filter_cons_of_neg (by simp [hanswer])]
        rfl
    · have htimes : timesOf key (a :: as) = timesOf key as := by simp [timesOf, ha]
      rw [if_neg (Ne.symm ha)] at hnext
      rw [htimes, ← hnext, run]
      simp [admittedTimes, ha]

end

/-! ## The laws of a token bucket -/

/-- In a window of length `length`, a key is admitted no more often than this. -/
def WindowBound (s : RateLimitState) (as : List Attempt) : Prop :=
  ∀ key start length, 0 ≤ length →
    (((admittedTimes key (s.run as)).filter fun t => start ≤ t ∧ t ≤ start + length).length : Rat) ≤ max 1 s.rps + s.rps * length

/-- The answers under a key are those of the attempts under that key alone. -/
def KeysApart (s : RateLimitState) (as : List Attempt) : Prop :=
  ∀ key, (s.run as).filter (·.1.1 == key) = s.run (as.filter (·.1 == key))

/-- Who is told to wait `d` seconds, and waits, is admitted. -/
def DelayHonoured (s : RateLimitState) (as : List Attempt) : Prop :=
  ∀ (before others : List Attempt) (key : String) (t : Rat) (d : Nat), as = before ++ (key, t) :: (others ++ [(key, t + d)]) → (∀ a ∈ others, a.1 ≠ key) →
    ((s.after before).tryAcquire key t).1 = .error d →
    ((s.after (before ++ (key, t) :: others)).tryAcquire key (t + d)).1 = .ok ()

/-- The laws, over every run of attempts at times that do not decrease. -/
def Laws (s : RateLimitState) : Prop :=
  ∀ as : List Attempt, (as.map (·.2)).Pairwise (· ≤ ·) → s.WindowBound as ∧ s.KeysApart as ∧ s.DelayHonoured as

section

variable {s : RateLimitState} {as : List Attempt}

/-- The window bound holds at every rate. -/
theorem windowBound (h : s.Valid) (hsorted : (as.map (·.2)).Pairwise (· ≤ ·)) : s.WindowBound as := by
  intro key start length hlength
  have htimes : (timesOf key as).Pairwise (· ≤ ·) := hsorted.sublist (List.filter_sublist.map _)
  have hwindow := TokenBucket.admitted_window (h key) s.rps_pos.le (le_add_of_nonneg_right hlength : start ≤ start + length) htimes
  rw [admittedTimes_run]
  have hmax := le_max_right 1 s.rps
  rw [add_sub_cancel_left] at hwindow
  linarith

theorem one_le_waitSecs (rps tokens : Rat) : 1 ≤ waitSecs rps tokens := by
  unfold waitSecs
  omega

/-- At a rate of one request per second or more, the delay is long enough. -/
theorem delayHonoured (h : s.Valid) (hrate : 1 ≤ s.rps) : s.DelayHonoured as := by
  rintro before others key t d - hothers hrefused
  have hvalid : (s.after before).Valid := h.after
  have hrps : (s.after before).rps = s.rps := after_rps
  have hafter : s.after (before ++ (key, t) :: others) = ((s.after before).tryAcquire key t).2.after others := List.foldl_append
  generalize s.after before = s' at *
  have hno : (s'.bucket key).take s'.rps s'.rps t = (false, (s'.bucket key).refill s'.rps s'.rps t) := by
    refine TokenBucket.take_of_lt (not_le.1 fun hone => ?_)
    rw [answer_eq, TokenBucket.take_of_le hone] at hrefused
    cases hrefused
  have hrefill := (hvalid key).refill s'.rps_pos.le t
  have hbucket : (s.after (before ++ (key, t) :: others)).bucket key = (s'.bucket key).refill s'.rps s'.rps t := by
    rw [hafter, bucket_after hothers, bucket_tryAcquire, if_pos rfl, hno]
  have hd : (1 : Rat) ≤ d := by
    rw [answer_eq, hno] at hrefused
    have hwait := one_le_waitSecs s'.rps ((s'.bucket key).refill s'.rps s'.rps t).tokens
    rw [Except.error.inj hrefused] at hwait
    exact_mod_cast hwait
  have hgain : 1 * 1 ≤ (d : Rat) * s'.rps := mul_le_mul hd (hrps ▸ hrate) zero_le_one (zero_le_one.trans hd)
  have hlack : 1 - ((s'.bucket key).refill s'.rps s'.rps t).tokens ≤ d * s'.rps := by linarith [hrefill.nonneg]
  have htake := TokenBucket.take_of_wait (hrps ▸ hrate) (zero_le_one.trans hd) hlack
  rw [TokenBucket.refill_lastRefill] at htake
  rw [answer_eq, hbucket, after_rps, ← hrps, if_pos htake]

end

/-- The limiter is a token bucket exactly at rates of one request per second or more:
below, the bucket never holds a token and the delay it names is never enough. -/
theorem token_bucket_iff (rate : {rps : Rat // 0 < rps}) : (fresh rate).Laws ↔ 1 ≤ rate.val := by
  constructor
  · intro hlaws
    by_contra hlow
    have hcapacity : (fresh rate).rps < 1 := not_le.1 hlow
    have hrefused : ∀ s : RateLimitState, s.rps = (fresh rate).rps → ∀ t, ∃ d, (s.tryAcquire "" t).1 = .error d := by
      intro s hrps t
      rw [answer_eq, TokenBucket.take_of_capacity (hrps ▸ hcapacity)]
      exact ⟨_, rfl⟩
    obtain ⟨d, hd⟩ := hrefused (fresh rate) rfl 0
    have hsorted : (([("", 0), ("", 0 + (d : Rat))] : List Attempt).map (·.2)).Pairwise (· ≤ ·) := by simp
    have hlater := (hlaws _ hsorted).2.2 [] [] "" 0 d rfl (by simp) hd
    obtain ⟨d', hd'⟩ := hrefused ((fresh rate).after [("", 0)]) after_rps (0 + d)
    rw [List.nil_append, hd'] at hlater
    cases hlater
  · intro hrate as hsorted
    exact ⟨windowBound (valid_fresh rate) hsorted, run_filter, delayHonoured (valid_fresh rate) hrate⟩

/-- One request in two seconds: the first one is refused, told to wait, and refused again. -/
theorem slow_rate_starves : ¬(fresh ⟨1 / 2, by norm_num⟩).Laws ∧ (fresh ⟨1 / 2, by norm_num⟩).run [("ip", 0), ("ip", 1)] =
    [(("ip", 0), .error 1), (("ip", 1), .error 1)] := by
  refine ⟨fun hlaws => ?_, by decide +kernel⟩
  have hlater := (hlaws [("ip", 0), ("ip", 0 + (1 : Nat))] (by simp)).2.2 [] [] "ip" 0 1 rfl (by simp) (by decide +kernel)
  exact absurd hlater (by decide +kernel)

end RateLimitState

end GraphNight
