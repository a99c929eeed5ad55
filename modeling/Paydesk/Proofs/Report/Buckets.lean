/-
**Money by date.**

The figures of a report put every entry into the bucket of its date and sum up each bucket and all
entries together. While no sum on the way leaves its bounds, nothing is lost: the buckets together
are the total, whatever the sequence of the entries, and a bucket of a longer period is made of the
buckets of the shorter periods inside it.

* `IsBucketed`: **what buckets and a summary say of some entries**;
* `IsBucketed.sum_filter`: buckets chosen by date are made of the entries chosen so;
* `IsBucketed.inCents_eq`: buckets and summary are determined by the dated amounts;
* `RevenueFigures.exists_ofEntries`: there are such figures;
* `Period.isPartOf`, `PointDate.upTo`: periods inside periods, and the dates that they lie in;
* `figures_conserve`: **nothing is lost between entries, buckets, totals and periods**.
-/

import Paydesk.Proofs.Report.Exact
import Paydesk.Proofs.Time.Calendar

namespace Paydesk

open Amount (minorSum)

/-! ### Buckets of entries -/

/-- Buckets and a summary of entries, by the dates of a period. -/
structure IsBucketed (period : Period) (entries : List Entry) (buckets : List Bucket)
    (summary : Option Summary) : Prop where
  ascend : buckets.Pairwise fun first second => compare first.date second.date = .lt
  /-- There is a bucket for each date of an entry, and no other. -/
  dates (date : PointDate) : (∃ bucket ∈ buckets, bucket.date = date) ↔
    ∃ entry ∈ entries, PointDate.ofInstant period entry.time = date
  totals : ∀ bucket ∈ buckets, bucket.total.minor
    = minorSum (amountsOn (entries.map (Entry.dated period)) bucket.date)
  absent : summary = none ↔ entries = []
  describes : ∀ shown ∈ summary, shown.Describes (entries.map (·.amount))

/-- What a bucket shows, with its money in cents. -/
def Bucket.inCents (bucket : Bucket) : PointDate × Int := (bucket.date, bucket.total.minor)

/-- There is an amount on the dates of entries. -/
theorem amountsOn_dated_ne_nil {period : Period} {entries : List Entry} {date : PointDate} :
    amountsOn (entries.map (Entry.dated period)) date ≠ [] ↔
      ∃ entry ∈ entries, PointDate.ofInstant period entry.time = date := by
  unfold amountsOn
  rw [Ne, List.map_eq_nil_iff, List.filter_eq_nil_iff]
  simp [Entry.dated]

/-- Exact sums by date make exact buckets. -/
theorem isBucketed_bucketsOf {period : Period} {entries : List Entry}
    {sums : Dict PointDate Amount} {summary : Option Summary}
    (exact_sums : ∀ date,
      IsExactSum (sums.get? date) (amountsOn (entries.map (Entry.dated period)) date))
    (absent : summary = none ↔ entries.map (·.amount) = [])
    (describes : (summary.getD .none).Describes (entries.map (·.amount))) :
    IsBucketed period entries (bucketsOf sums) summary := by
  refine ⟨List.pairwise_map.mp (ascend_bucketsOf sums), fun date => ?_, fun bucket member => ?_,
    absent.trans List.map_eq_nil_iff, fun shown found => ?_⟩
  · rw [← amountsOn_dated_ne_nil, ← (exact_sums date).isSome_iff, Option.isSome_iff_exists]
    constructor
    · rintro ⟨bucket, member, rfl⟩
      exact ⟨_, mem_bucketsOf.mp member⟩
    · rintro ⟨total, known⟩
      exact ⟨⟨date, total⟩, mem_bucketsOf.mpr known, rfl⟩
  · have known := (exact_sums bucket.date).minor_eq
    rw [mem_bucketsOf.mp member, Option.getD_some] at known
    exact known
  · rw [Option.mem_def.mp found, Option.getD_some] at describes
    exact describes

namespace IsBucketed

variable {period longer : Period} {entries others : List Entry}
  {buckets otherBuckets wider : List Bucket} {summary otherSummary widerSummary : Option Summary}

/-- No date has two buckets. -/
theorem nodup_dates (bucketed : IsBucketed period entries buckets summary) :
    (buckets.map (·.date)).Nodup := by
  rw [List.Nodup, List.pairwise_map]
  refine bucketed.ascend.imp fun {first second} before same => ?_
  have equal : compare second.date second.date = .eq := Std.ReflCmp.compare_self
  rw [same, equal] at before
  exact absurd before (by decide)

/-- **Buckets chosen by their dates** are made of the entries with such dates. -/
theorem sum_filter (bucketed : IsBucketed period entries buckets summary) (p : PointDate → Prop)
    [DecidablePred p] :
    ((buckets.filter fun bucket => p bucket.date).map (·.total.minor)).sum
      = minorSum (((entries.map (Entry.dated period)).filter fun entry => p entry.1).map (·.2)) := by
  have totals : (buckets.filter fun bucket => p bucket.date).map (·.total.minor)
      = ((buckets.filter fun bucket => p bucket.date).map (·.date)).map fun date =>
          minorSum (amountsOn (entries.map (Entry.dated period)) date) := by
    rw [List.map_map]
    exact List.map_congr_left fun bucket member =>
      bucketed.totals bucket (List.mem_filter.mp member).1
  have distinct : ((buckets.filter fun bucket => p bucket.date).map (·.date)).Nodup :=
    bucketed.nodup_dates.sublist (List.filter_sublist.map _)
  rw [totals, sum_amountsOn _ distinct]
  congr 2
  apply List.filter_congr
  intro dated member
  obtain ⟨entry, inside, rfl⟩ := List.mem_map.mp member
  obtain ⟨bucket, stored, same⟩ := (bucketed.dates _).mpr ⟨entry, inside, rfl⟩
  rw [decide_eq_decide, List.mem_map]
  constructor
  · rintro ⟨found, chosen, equal⟩
    rw [← equal]
    exact of_decide_eq_true (List.mem_filter.mp chosen).2
  · intro holds
    refine ⟨bucket, List.mem_filter.mpr ⟨stored, decide_eq_true ?_⟩, same⟩
    rw [same]
    exact holds

/-- **The buckets together** are the total. -/
theorem sum_totals (bucketed : IsBucketed period entries buckets summary) :
    (buckets.map (·.total.minor)).sum = minorSum (entries.map (·.amount)) := by
  have all := bucketed.sum_filter fun _ => True
  rw [List.filter_eq_self.mpr fun _ _ => decide_eq_true trivial,
    List.filter_eq_self.mpr fun _ _ => decide_eq_true trivial, Entry.map_dated] at all
  exact all

theorem mem_inCents (bucketed : IsBucketed period entries buckets summary) {date : PointDate}
    {minor : Int} : (date, minor) ∈ buckets.map Bucket.inCents ↔
      amountsOn (entries.map (Entry.dated period)) date ≠ []
        ∧ minor = minorSum (amountsOn (entries.map (Entry.dated period)) date) := by
  rw [amountsOn_dated_ne_nil, ← bucketed.dates date, List.mem_map]
  constructor
  · rintro ⟨bucket, member, equal⟩
    cases equal
    exact ⟨⟨bucket, member, rfl⟩, bucketed.totals bucket member⟩
  · rintro ⟨⟨bucket, member, rfl⟩, rfl⟩
    exact ⟨bucket, member, Prod.ext rfl (bucketed.totals bucket member)⟩

theorem ascend_inCents (bucketed : IsBucketed period entries buckets summary) :
    KeysAscend (buckets.map Bucket.inCents) :=
  List.pairwise_map.mpr bucketed.ascend

/-- **The same dated amounts have the same buckets and summary**, in whatever sequence. -/
theorem inCents_eq (bucketed : IsBucketed period entries buckets summary)
    (bucketed_others : IsBucketed period others otherBuckets otherSummary)
    (same : (entries.map (Entry.dated period)).Perm (others.map (Entry.dated period))) :
    buckets.map Bucket.inCents = otherBuckets.map Bucket.inCents
      ∧ summary.map Summary.inCents = otherSummary.map Summary.inCents := by
  have amounts := same.map Prod.snd
  rw [Entry.map_dated, Entry.map_dated] at amounts
  have nothing : summary = none ↔ otherSummary = none := by
    rw [bucketed.absent, bucketed_others.absent, ← List.length_eq_zero_iff,
      ← List.length_eq_zero_iff, ← List.length_map (Entry.dated period), same.length_eq,
      List.length_map]
  constructor
  · apply Dict.eq_of_mem_iff bucketed.ascend_inCents bucketed_others.ascend_inCents
    rintro ⟨date, minor⟩
    have on_date : (amountsOn (entries.map (Entry.dated period)) date).Perm
        (amountsOn (others.map (Entry.dated period)) date) :=
      (same.filter _).map _
    rw [bucketed.mem_inCents, bucketed_others.mem_inCents, Amount.minorSum_perm on_date, Ne, Ne,
      ← List.length_eq_zero_iff, on_date.length_eq, List.length_eq_zero_iff]
  · cases found : summary with
    | none => rw [nothing.mp found]
    | some shown =>
      cases found_other : otherSummary with
      | none => exact absurd (nothing.mpr found_other) (by rw [found]; exact Option.some_ne_none _)
      | some other =>
        exact congrArg some ((bucketed.describes shown found).inCents_eq
          (bucketed_others.describes other found_other) amounts)

end IsBucketed

/-! ### Figures of both sides -/

namespace RevenueFigures

/-- Figures show buckets and summaries of revenue and of refunds. -/
structure Shows (figures : RevenueFigures) (period : Period) (revenue refunds : List Entry) :
    Prop where
  revenue : IsBucketed period revenue figures.revenueBuckets figures.revenue
  refunds : IsBucketed period refunds figures.refundBuckets figures.refund

/-- What figures show, with their money in cents. -/
def inCents (figures : RevenueFigures) :
    (List (PointDate × Int) × Option Summary.InCents)
      × (List (PointDate × Int) × Option Summary.InCents) :=
  ((figures.revenueBuckets.map Bucket.inCents, figures.revenue.map Summary.inCents),
    (figures.refundBuckets.map Bucket.inCents, figures.refund.map Summary.inCents))

variable {period : Period} {revenue refunds others otherRefunds : List Entry}

/-- One side of the figures, while its sums fit and its total stays small. -/
theorem exists_side {entries : List Entry} (fits : DatesFit (entries.map (Entry.dated period)))
    (small : (minorSum (entries.map (·.amount))).natAbs < 2 ^ 63) :
    ∃ sums summary, entries.foldlM (addEntry period) ∅ = .ok sums
      ∧ Summary.ofAmounts? (entries.map (·.amount)) = .ok summary
      ∧ IsBucketed period entries (bucketsOf sums) summary := by
  obtain ⟨sums, folded, exact_sums⟩ := exactSums_foldlM fits.each
  have fits_all := fits.all
  rw [Entry.map_dated] at fits_all
  obtain ⟨summary, summed, absent, describes⟩ := Summary.ofAmounts?_spec fits_all small
  exact ⟨sums, summary, folded, summed, isBucketed_bucketsOf exact_sums absent describes⟩

/-- **There are figures while the sums fit and the totals stay small.** -/
theorem exists_ofEntries (fits : DatesFit (revenue.map (Entry.dated period)))
    (fits_refunds : DatesFit (refunds.map (Entry.dated period)))
    (small : (minorSum (revenue.map (·.amount))).natAbs < 2 ^ 63)
    (small_refunds : (minorSum (refunds.map (·.amount))).natAbs < 2 ^ 63) :
    ∃ figures, ofEntries period revenue refunds = .ok figures
      ∧ figures.Shows period revenue refunds := by
  obtain ⟨sums, summary, folded, summed, bucketed⟩ := exists_side fits small
  obtain ⟨refundSums, refundSummary, folded_refunds, summed_refunds, bucketed_refunds⟩ :=
    exists_side fits_refunds small_refunds
  exact ⟨_, ofEntries_eq folded folded_refunds summed summed_refunds, bucketed, bucketed_refunds⟩

/-- Figures of the same entries are the same, in whatever sequence these come. -/
theorem Shows.inCents_eq {figures again : RevenueFigures}
    (shows_entries : figures.Shows period revenue refunds)
    (shows_others : again.Shows period others otherRefunds)
    (same : revenue.Perm others) (same_refunds : refunds.Perm otherRefunds) :
    figures.inCents = again.inCents := by
  obtain ⟨buckets, summary⟩ := shows_entries.revenue.inCents_eq shows_others.revenue (same.map _)
  obtain ⟨refundBuckets, refundSummary⟩ :=
    shows_entries.refunds.inCents_eq shows_others.refunds (same_refunds.map _)
  unfold inCents
  rw [buckets, summary, refundBuckets, refundSummary]

end RevenueFigures

/-! ### Periods inside periods -/

/-- Whether every unit of a period lies in one of a longer period. Weeks reach from one month or
year into the next. -/
def Period.isPartOf : Period → Period → Bool
  | .hour, .day | .hour, .week | .hour, .month | .hour, .year => true
  | .day, .week | .day, .month | .day, .year => true
  | .month, .year => true
  | _, _ => false

/-- The date of a longer period that a date lies in. -/
def PointDate.upTo (longer : Period) (date : PointDate) : PointDate :=
  match longer with
  | .year => { year := date.year }
  | .month => { year := date.year, month := date.month }
  | .week =>
    let (year, week) := weekOf (Date.toDays ⟨date.year, date.month.getD 1, date.day.getD 1⟩)
    { year, week := some week }
  | .day => { year := date.year, month := date.month, day := date.day }
  | .hour => date

/-- An instant lies on the longer date that its date lies in. -/
theorem PointDate.upTo_ofInstant {period longer : Period} (part : period.isPartOf longer)
    (instant : Instant) :
    (ofInstant period instant).upTo longer = ofInstant longer instant := by
  have week : weekOf (Date.toDays ⟨instant.date.year, instant.date.month, instant.date.day⟩)
      = weekOf instant.day := congrArg weekOf (Date.toDays_ofDays instant.day)
  cases period with
  | year => cases part
  | week => cases part
  | month =>
    cases longer with
    | year => rfl
    | month | week | day | hour => cases part
  | day =>
    cases longer with
    | year | month => rfl
    | week =>
      simp only [ofInstant, upTo, Option.getD_some]
      rw [week]
    | day | hour => cases part
  | hour =>
    cases longer with
    | year | month | day => rfl
    | week =>
      simp only [ofInstant, upTo, Option.getD_some]
      rw [week]
    | hour => cases part

/-- **A bucket of a longer period is made of the buckets inside it.** -/
theorem IsBucketed.sum_inside {period longer : Period} {entries : List Entry}
    {buckets wider : List Bucket} {summary widerSummary : Option Summary}
    (bucketed : IsBucketed period entries buckets summary)
    (bucketed_wider : IsBucketed longer entries wider widerSummary)
    (part : period.isPartOf longer) {bucket : Bucket} (member : bucket ∈ wider) :
    bucket.total.minor = ((buckets.filter fun inside => inside.date.upTo longer = bucket.date).map
      (·.total.minor)).sum := by
  rw [bucketed_wider.totals bucket member,
    bucketed.sum_filter fun date => date.upTo longer = bucket.date]
  unfold amountsOn
  rw [List.filter_map, List.filter_map, List.map_map, List.map_map]
  have chosen : (fun entry : PointDate × Amount => decide (entry.1 = bucket.date))
        ∘ Entry.dated longer
      = (fun entry : PointDate × Amount => decide (entry.1.upTo longer = bucket.date))
        ∘ Entry.dated period := by
    funext entry
    show decide (PointDate.ofInstant longer entry.time = bucket.date)
      = decide ((PointDate.ofInstant period entry.time).upTo longer = bucket.date)
    rw [PointDate.upTo_ofInstant part]
  rw [chosen]
  rfl

/-! ### Nothing is lost -/

/-- **Nothing is lost between entries, buckets, totals and periods.** For every period and all
entries of revenue and refunds whose partial sums stay below `2 ^ 63` cents, in all and on each
date:

* there are figures; on both sides their buckets ascend by date, one for each date of an entry, with
  the exact sum of its entries, and the summary has the count, the total and the rounded average,
  and is absent if and only if there are no entries;
* no date has two buckets, and the buckets together are the total;
* entries in another sequence have the same figures, as long as their sums fit a decimal on the way;
  so they do if they are fewer than `2 ^ 32` (`DatesStaySmall.fits_of_perm`);
* every bucket of a longer period is the sum of the buckets inside it. -/
theorem figures_conserve {period : Period} {revenue refunds : List Entry}
    (small : DatesStaySmall (revenue.map (Entry.dated period)))
    (small_refunds : DatesStaySmall (refunds.map (Entry.dated period))) :
    ∃ figures, RevenueFigures.ofEntries period revenue refunds = .ok figures
      ∧ figures.Shows period revenue refunds
      ∧ (figures.revenueBuckets.map (·.date)).Nodup
      ∧ (figures.refundBuckets.map (·.date)).Nodup
      ∧ (∀ shown ∈ figures.revenue,
          (figures.revenueBuckets.map (·.total.minor)).sum = shown.total.minor)
      ∧ (∀ shown ∈ figures.refund,
          (figures.refundBuckets.map (·.total.minor)).sum = shown.total.minor)
      ∧ (∀ others otherRefunds : List Entry, revenue.Perm others → refunds.Perm otherRefunds →
          DatesFit (others.map (Entry.dated period)) →
          DatesFit (otherRefunds.map (Entry.dated period)) →
          ∃ again, RevenueFigures.ofEntries period others otherRefunds = .ok again
            ∧ again.inCents = figures.inCents)
      ∧ ∀ longer, period.isPartOf longer → DatesFit (revenue.map (Entry.dated longer)) →
          DatesFit (refunds.map (Entry.dated longer)) →
          ∃ wider, RevenueFigures.ofEntries longer revenue refunds = .ok wider
            ∧ (∀ bucket ∈ wider.revenueBuckets, bucket.total.minor =
                ((figures.revenueBuckets.filter fun inside =>
                  inside.date.upTo longer = bucket.date).map (·.total.minor)).sum)
            ∧ ∀ bucket ∈ wider.refundBuckets, bucket.total.minor =
                ((figures.refundBuckets.filter fun inside =>
                  inside.date.upTo longer = bucket.date).map (·.total.minor)).sum := by
  have small_total := small.all.lt
  have small_total_refunds := small_refunds.all.lt
  rw [Entry.map_dated] at small_total small_total_refunds
  obtain ⟨figures, made, shows_figures⟩ := RevenueFigures.exists_ofEntries small.fits
    small_refunds.fits small_total small_total_refunds
  refine ⟨figures, made, shows_figures, shows_figures.revenue.nodup_dates,
    shows_figures.refunds.nodup_dates, fun shown found => ?_, fun shown found => ?_, ?_, ?_⟩
  · rw [shows_figures.revenue.sum_totals, (shows_figures.revenue.describes shown found).total_eq]
  · rw [shows_figures.refunds.sum_totals, (shows_figures.refunds.describes shown found).total_eq]
  · intro others otherRefunds same same_refunds fits fits_refunds
    rw [Amount.minorSum_perm (same.map _)] at small_total
    rw [Amount.minorSum_perm (same_refunds.map _)] at small_total_refunds
    obtain ⟨again, made_again, shows_again⟩ :=
      RevenueFigures.exists_ofEntries fits fits_refunds small_total small_total_refunds
    exact ⟨again, made_again, (shows_figures.inCents_eq shows_again same same_refunds).symm⟩
  · intro longer part fits fits_refunds
    obtain ⟨wider, made_wider, shows_wider⟩ :=
      RevenueFigures.exists_ofEntries fits fits_refunds small_total small_total_refunds
    refine ⟨wider, made_wider, ?_, ?_⟩
    · intro bucket member
      exact shows_figures.revenue.sum_inside shows_wider.revenue part member
    · intro bucket member
      exact shows_figures.refunds.sum_inside shows_wider.refunds part member

/-- Money of two days of January and one of February 1970. -/
def winter : List Entry :=
  [⟨.ofSeconds 100000, .ofMinor 505⟩, ⟨.ofSeconds 7200, .ofInt 9⟩, ⟨.ofSeconds 3000000, .ofMinor 250⟩]

/-- The days of winter, in either sequence, and its two months. -/
theorem figures_conserve_winter :
    ∃ figures again wider, RevenueFigures.ofEntries .day winter [] = .ok figures
      ∧ RevenueFigures.ofEntries .day winter.reverse [] = .ok again
      ∧ RevenueFigures.ofEntries .month winter [] = .ok wider
      ∧ (figures.revenueBuckets.map (·.total.minor)).sum = 1655 ∧ figures.refund = none
      ∧ again.inCents = figures.inCents
      ∧ ∀ bucket ∈ wider.revenueBuckets, bucket.total.minor =
          ((figures.revenueBuckets.filter fun inside =>
            inside.date.upTo .month = bucket.date).map (·.total.minor)).sum := by
  have small (period : Period) : DatesStaySmall (winter.map (Entry.dated period)) := by
    apply DatesStaySmall.of_sizes
    rw [List.map_map]
    exact (by decide +kernel : (winter.map fun entry => entry.amount.minor.natAbs).sum < 2 ^ 63)
  have none_small (period : Period) : DatesStaySmall (([] : List Entry).map (Entry.dated period)) :=
    DatesStaySmall.of_sizes (by simp)
  obtain ⟨figures, made, shows_figures, -, -, -, -, permuted, longer⟩ :=
    figures_conserve (small .day) (none_small .day)
  obtain ⟨again, made_again, same⟩ := permuted winter.reverse [] (List.reverse_perm _).symm
    (List.Perm.refl _) ((small .day).fits_of_perm ((List.reverse_perm _).symm.map _) (by decide))
    (none_small .day).fits
  obtain ⟨wider, made_wider, inside, -⟩ :=
    longer .month rfl (small .month).fits (none_small .month).fits
  refine ⟨figures, again, wider, made, made_again, made_wider, ?_,
    shows_figures.refunds.absent.mpr rfl, same, inside⟩
  rw [shows_figures.revenue.sum_totals]
  decide +kernel

end Paydesk
