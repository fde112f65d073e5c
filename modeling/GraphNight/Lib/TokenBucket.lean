import Mathlib.Algebra.Order.Field.Basic
import Mathlib.Tactic.Linarith
import Mathlib.Tactic.Ring

/-!
# Token buckets

A bucket gains tokens at a rate, up to a capacity, and an attempt that finds a whole token
takes it. Time and tokens are in an ordered field. Over any window at most what the bucket
can hold and what it gains in the window is admitted.
-/

structure TokenBucket (K : Type) where
  tokens : K
  lastRefill : K
deriving DecidableEq, Repr

namespace TokenBucket

variable {K : Type} [Field K] [LinearOrder K] (rate capacity : K)

/-- A clock that runs backwards adds nothing. -/
def refill (b : TokenBucket K) (now : K) : TokenBucket K :=
  ⟨min (b.tokens + max (now - b.lastRefill) 0 * rate) capacity, now⟩

/-- Whether an attempt is admitted, and what it leaves. -/
def take (b : TokenBucket K) (now : K) : Bool × TokenBucket K :=
  let b := b.refill rate capacity now
  if 1 ≤ b.tokens then (true, { b with tokens := b.tokens - 1 }) else (false, b)

/-- The attempts that are admitted, of attempts at the given times. -/
def admitted (b : TokenBucket K) : List K → List K
  | [] => []
  | t :: ts =>
    let r := b.take rate capacity t
    if r.1 then t :: admitted r.2 ts else admitted r.2 ts

/-- A bucket holds no debt and no more than its capacity. -/
structure Valid (b : TokenBucket K) : Prop where
  nonneg : 0 ≤ b.tokens
  le_capacity : b.tokens ≤ capacity

variable {rate capacity} {b : TokenBucket K} {now : K}

@[simp] theorem refill_lastRefill : (b.refill rate capacity now).lastRefill = now := rfl

theorem take_of_le (h : 1 ≤ (b.refill rate capacity now).tokens) :
    b.take rate capacity now = (true, ⟨(b.refill rate capacity now).tokens - 1, now⟩) := if_pos h

theorem take_of_lt (h : (b.refill rate capacity now).tokens < 1) :
    b.take rate capacity now = (false, b.refill rate capacity now) := if_neg (not_le.2 h)

@[simp] theorem take_lastRefill : (b.take rate capacity now).2.lastRefill = now := by
  rcases le_or_gt 1 (b.refill rate capacity now).tokens with hone | hone
  · rw [take_of_le hone]
  · rw [take_of_lt hone, refill_lastRefill]

/-- What an attempt takes and leaves is there after the refill. -/
theorem take_tokens (b : TokenBucket K) (now : K) : (b.take rate capacity now).2.tokens + (if (b.take rate capacity now).1 then 1 else 0) =
    (b.refill rate capacity now).tokens := by
  rcases le_or_gt 1 (b.refill rate capacity now).tokens with hone | hone
  · rw [take_of_le hone]
    simp
  · rw [take_of_lt hone]
    simp

theorem admitted_cons (b : TokenBucket K) (t : K) (ts : List K) : b.admitted rate capacity (t :: ts) =
    (if (b.take rate capacity t).1 then [t] else []) ++ (b.take rate capacity t).2.admitted rate capacity ts := by
  rw [admitted]
  cases (b.take rate capacity t).1 <;> rfl

theorem mem_of_admitted {b : TokenBucket K} {ts : List K} {t : K} (h : t ∈ b.admitted rate capacity ts) : t ∈ ts := by
  induction ts generalizing b with
  | nil => exact h
  | cons s ts ih =>
    rw [admitted_cons, List.mem_append] at h
    rcases h with hs | hrest
    · split_ifs at hs
      · exact List.mem_singleton.1 hs ▸ List.mem_cons_self
      · cases hs
    · exact List.mem_cons_of_mem _ (ih hrest)

theorem le_of_mem_admitted {t s : K} {ts : List K} (hsorted : (t :: ts).Pairwise (· ≤ ·)) (h : s ∈ b.admitted rate capacity (t :: ts)) :
    t ≤ s := by
  rcases List.mem_cons.1 (mem_of_admitted h) with rfl | hmem
  · exact le_rfl
  · exact (List.pairwise_cons.1 hsorted).1 s hmem

/-- A bucket that cannot hold a token admits nothing. -/
theorem take_of_capacity (hcapacity : capacity < 1) : (b.take rate capacity now).1 = false := by
  rw [take_of_lt ((min_le_right _ _).trans_lt hcapacity)]

/-- A second refill at the same time adds nothing. -/
theorem refill_refill : (b.refill rate capacity now).refill rate capacity now = b.refill rate capacity now := by
  simp [TokenBucket.refill]

theorem admitted_refill {ts : List K} {t : K} :
    (b.refill rate capacity t).admitted rate capacity (t :: ts) = b.admitted rate capacity (t :: ts) := by
  rw [admitted_cons, admitted_cons, take, refill_refill, ← take]

variable [IsStrictOrderedRing K]

theorem Valid.refill (h : b.Valid capacity) (hrate : 0 ≤ rate) (now : K) : (b.refill rate capacity now).Valid capacity where
  nonneg := by
    have hgain : 0 ≤ max (now - b.lastRefill) 0 * rate := mul_nonneg (le_max_right _ _) hrate
    exact le_min (add_nonneg h.nonneg hgain) (h.nonneg.trans h.le_capacity)
  le_capacity := min_le_right _ _

theorem refill_tokens_le (h : b.lastRefill ≤ now) :
    (b.refill rate capacity now).tokens ≤ b.tokens + (now - b.lastRefill) * rate := by
  refine (min_le_left _ _).trans_eq ?_
  rw [max_eq_left (sub_nonneg.2 h)]

/-- A full bucket is full at any time. -/
theorem refill_full (t : K) (hrate : 0 ≤ rate) : (⟨capacity, t⟩ : TokenBucket K).refill rate capacity now = ⟨capacity, now⟩ := by
  have hgain : 0 ≤ max (now - t) 0 * rate := mul_nonneg (le_max_right _ _) hrate
  rw [TokenBucket.refill, min_eq_right (le_add_of_nonneg_right hgain)]

theorem Valid.take (h : b.Valid capacity) (hrate : 0 ≤ rate) (now : K) : (b.take rate capacity now).2.Valid capacity := by
  have hrefill := h.refill hrate now
  rcases le_or_gt 1 (b.refill rate capacity now).tokens with hone | hone
  · rw [take_of_le hone]
    exact ⟨sub_nonneg.2 hone, (sub_le_self _ zero_le_one).trans hrefill.le_capacity⟩
  · rw [take_of_lt hone]
    exact hrefill

/-- Up to a time, no more is admitted than the bucket holds and gains. -/
theorem admitted_until {b : TokenBucket K} (hvalid : b.Valid capacity) (hrate : 0 ≤ rate) {stop : K} (hstop : b.lastRefill ≤ stop)
    {ts : List K} (hsorted : (b.lastRefill :: ts).Pairwise (· ≤ ·)) :
    (((b.admitted rate capacity ts).filter (· ≤ stop)).length : K) ≤ b.tokens + (stop - b.lastRefill) * rate := by
  induction ts generalizing b with
  | nil =>
    have hgain : 0 ≤ (stop - b.lastRefill) * rate := mul_nonneg (sub_nonneg.2 hstop) hrate
    simpa [admitted] using add_nonneg hvalid.nonneg hgain
  | cons t ts ih =>
    obtain ⟨hfirst, hrest⟩ := List.pairwise_cons.1 hsorted
    have ht : b.lastRefill ≤ t := hfirst t List.mem_cons_self
    rcases le_or_gt t stop with hle | hgt
    · have hnext := ih (hvalid.take hrate t) (by rwa [take_lastRefill]) (by rwa [take_lastRefill])
      have htokens : _ = (b.refill rate capacity t).tokens := take_tokens b t
      have hrefill : (b.refill rate capacity t).tokens ≤ b.tokens + (t - b.lastRefill) * rate := refill_tokens_le ht
      rw [take_lastRefill] at hnext
      rw [admitted_cons, List.filter_append, List.length_append, Nat.cast_add]
      have hhead : ((((if (b.take rate capacity t).1 then [t] else []).filter (· ≤ stop)).length : ℕ) : K) =
          if (b.take rate capacity t).1 then 1 else 0 := by
        split_ifs <;> simp [hle]
      rw [hhead]
      linarith
    · have hnone : (b.admitted rate capacity (t :: ts)).filter (· ≤ stop) = [] := by
        refine List.filter_eq_nil_iff.2 fun s hs => ?_
        simpa using hgt.trans_le (le_of_mem_admitted hrest hs)
      have hgain : 0 ≤ (stop - b.lastRefill) * rate := mul_nonneg (sub_nonneg.2 hstop) hrate
      rw [hnone]
      simpa using add_nonneg hvalid.nonneg hgain

/-- In any window of sorted attempts, no more is admitted than a full bucket holds and
what it gains in the window. -/
theorem admitted_window {b : TokenBucket K} (hvalid : b.Valid capacity) (hrate : 0 ≤ rate) {start stop : K} (hwindow : start ≤ stop)
    {ts : List K} (hsorted : ts.Pairwise (· ≤ ·)) :
    (((b.admitted rate capacity ts).filter fun t => start ≤ t ∧ t ≤ stop).length : K) ≤ capacity + (stop - start) * rate := by
  induction ts generalizing b with
  | nil =>
    have hgain : 0 ≤ (stop - start) * rate := mul_nonneg (sub_nonneg.2 hwindow) hrate
    simpa [admitted] using add_nonneg (hvalid.nonneg.trans hvalid.le_capacity) hgain
  | cons t ts ih =>
    have hnext := ih (hvalid.take hrate t) (List.pairwise_cons.1 hsorted).2
    rcases lt_or_ge t start with hbefore | hafter
    · have hskip : (if (b.take rate capacity t).1 then [t] else []).filter (fun t => start ≤ t ∧ t ≤ stop) = [] := by
        split_ifs <;> simp [hbefore]
      rwa [admitted_cons, List.filter_append, hskip, List.nil_append]
    · rcases le_or_gt t stop with hle | hgt
      -- from the first attempt of the window on, the bucket is at most full
      · have hfull := hvalid.refill hrate t
        have hbehind : (t :: t :: ts).Pairwise (· ≤ ·) :=
          List.pairwise_cons.2 ⟨fun s hs => (List.mem_cons.1 hs).elim (fun h => h ▸ le_rfl) ((List.pairwise_cons.1 hsorted).1 s), hsorted⟩
        have huntil := admitted_until hfull hrate hle hbehind
        have hsub : (((b.admitted rate capacity (t :: ts)).filter fun t => start ≤ t ∧ t ≤ stop).length : K) ≤
            ((b.admitted rate capacity (t :: ts)).filter (· ≤ stop)).length := by
          rw [Nat.cast_le, ← List.countP_eq_length_filter, ← List.countP_eq_length_filter]
          refine List.countP_mono_left fun s _ hs => ?_
          exact decide_eq_true (of_decide_eq_true hs).2
        have hgain : (stop - t) * rate ≤ (stop - start) * rate := mul_le_mul_of_nonneg_right (by linarith) hrate
        rw [admitted_refill, refill_lastRefill] at huntil
        linarith [hfull.le_capacity]
      · have hnone : ((b.admitted rate capacity (t :: ts)).filter fun t => start ≤ t ∧ t ≤ stop) = [] := by
          refine List.filter_eq_nil_iff.2 fun s hs => ?_
          have hts := le_of_mem_admitted hsorted hs
          simp only [decide_eq_true_eq, not_and, not_le]
          exact fun _ => hgt.trans_le hts
        have hgain : 0 ≤ (stop - start) * rate := mul_nonneg (sub_nonneg.2 hwindow) hrate
        rw [hnone]
        simpa using add_nonneg (hvalid.nonneg.trans hvalid.le_capacity) hgain

/-- Once refilled with what it lacks, a bucket that can hold a token has one. -/
theorem take_of_wait {b : TokenBucket K} {d : K} (hcapacity : 1 ≤ capacity) (hd : 0 ≤ d) (hwait : 1 - b.tokens ≤ d * rate) :
    (b.take rate capacity (b.lastRefill + d)).1 = true := by
  have htokens : 1 ≤ (b.refill rate capacity (b.lastRefill + d)).tokens := by
    refine le_min ?_ hcapacity
    rw [add_sub_cancel_left, max_eq_left hd]
    linarith
  rw [take_of_le htokens]

end TokenBucket
