/-
**Exact figures by date.**

While no partial sum leaves its bounds, sums of money are exact in cents: the sum of each date, the
totals, and the averages up to their own rounding. Net revenue lists the dates that have revenue,
each once and in ascending order, with the refunds of the same date taken off.

* `Summary.Describes`, `Summary.ofAmounts?_spec`: count, total and average of amounts;
* `IsExactSum`, `exactSums_foldlM`: the sums of all dates;
* `NetRevenue.IsNetOf`, `RevenueFigures.exists_net`: **net revenue of dated amounts**;
* `NetRevenue.IsNetOf.sum_points`: **the points together**, refunds of other dates left out;
* `NetRevenue.IsNetOf.inCents_eq`: it is determined, whatever the sequence of the amounts.
-/

import Mathlib.Data.List.Forall2
import Paydesk.Proofs.Decimal.Average
import Paydesk.Proofs.Report.Totals

namespace Paydesk

open Amount (minorSum StaySmall)

/-! ### Summaries -/

/-- A summary has the count of some amounts, their total and their average, in cents. -/
structure Summary.Describes (summary : Summary) (amounts : List Amount) : Prop where
  count_eq : summary.count = amounts.length
  total_eq : summary.total.minor = minorSum amounts
  average_eq : summary.average.minor = roundHalfAway (minorSum amounts) amounts.length

namespace Summary

/-- A count, a total and an average, in cents. -/
abbrev InCents : Type := Nat × Int × Int

/-- What a summary shows, with its money in cents. -/
def inCents (summary : Summary) : InCents :=
  (summary.count, summary.total.minor, summary.average.minor)

/-- Summaries of the same amounts show the same. -/
theorem Describes.inCents_eq {first second : Summary} {amounts others : List Amount}
    (one : first.Describes amounts) (other : second.Describes others) (same : amounts.Perm others) :
    first.inCents = second.inCents := by
  unfold inCents
  rw [one.count_eq, one.total_eq, one.average_eq, other.count_eq, other.total_eq, other.average_eq,
    same.length_eq, Amount.minorSum_perm same]

theorem none_describes : none.Describes [] := ⟨rfl, by decide, by decide⟩

/-- A summary of nothing shows nothing. -/
theorem Describes.inCents_eq_zero {summary : Summary} (nothing : summary.Describes []) :
    summary.inCents = (0, 0, 0) :=
  (nothing.inCents_eq none_describes (.refl [])).trans (by decide)

/-- The summary of amounts that have a total. -/
theorem ofAmounts?_eq {amounts : List Amount} {total : Amount}
    (summed : Amount.sum amounts = .ok total) :
    ofAmounts? amounts = .ok (if amounts = [] then .none
      else some ⟨amounts.length, total, averageOf total amounts.length⟩) := by
  unfold ofAmounts? ofAmounts
  rw [summed]
  cases amounts <;> rfl

/-- **A summary is exact while the partial sums fit and the total stays small.** -/
theorem ofAmounts?_spec {amounts : List Amount} (fits : Amount.SumsFit amounts)
    (small : (minorSum amounts).natAbs < 2 ^ 63) :
    ∃ summary, ofAmounts? amounts = .ok summary ∧ (summary = .none ↔ amounts = [])
      ∧ (summary.getD .none).Describes amounts := by
  obtain ⟨total, summed, exact_total⟩ := Amount.sum_minor_of_fits fits
  refine ⟨_, ofAmounts?_eq summed, ?_⟩
  split
  · rename_i empty
    rw [empty]
    exact ⟨iff_of_true rfl rfl, none_describes⟩
  · rename_i some_amount
    have positive : 0 < amounts.length := List.length_pos_iff.mpr some_amount
    refine ⟨iff_of_false (Option.some_ne_none _) some_amount, rfl, exact_total, ?_⟩
    rw [← exact_total]
    exact averageOf_minor positive (exact_total ▸ small)

end Summary

/-! ### Sums by date -/

/-- There is a sum of amounts if there are any, and it is exact. -/
structure IsExactSum (sum : Option Amount) (amounts : List Amount) : Prop where
  isSome_iff : sum.isSome ↔ amounts ≠ []
  minor_eq : (sum.getD .unset).minor = minorSum amounts

/-- The partial sums of dated amounts stay small, in all and on each date. -/
structure DatesStaySmall (dated : List (PointDate × Amount)) : Prop where
  all : StaySmall (dated.map (·.2))
  each (date : PointDate) : StaySmall (amountsOn dated date)

/-- The partial sums of dated amounts fit a decimal, in all and on each date. -/
structure DatesFit (dated : List (PointDate × Amount)) : Prop where
  all : Amount.SumsFit (dated.map (·.2))
  each (date : PointDate) : Amount.SumsFit (amountsOn dated date)

namespace DatesStaySmall

variable {dated others : List (PointDate × Amount)}

/-- Partial sums stay small where all amounts together do. -/
theorem of_sizes (sizes : (dated.map (·.2.minor.natAbs)).sum < 2 ^ 63) : DatesStaySmall dated := by
  have part {amounts : List Amount} (sublist : amounts.Sublist (dated.map (·.2))) :
      StaySmall amounts := by
    apply Amount.staySmall_of_sublist sublist
    rw [List.map_map]
    exact sizes
  exact ⟨part (List.Sublist.refl _), fun date => part (List.filter_sublist.map _)⟩

theorem fits (small : DatesStaySmall dated) : DatesFit dated :=
  ⟨small.all.fits, fun date => (small.each date).fits⟩

/-- Amounts that stay small and are not too many fit in any sequence. -/
theorem fits_of_perm (small : DatesStaySmall dated) (same : dated.Perm others)
    (few : dated.length < 2 ^ 32) : DatesFit others := by
  have part {amounts : List Amount} (sublist : amounts.Sublist (others.map (·.2))) :
      Amount.SumsFit amounts := by
    apply Amount.sumsFit_of_few
    · intro amount member
      exact small.all.minor_lt ((same.map (·.2)).mem_iff.mpr (sublist.subset member))
    · calc amounts.length ≤ (others.map (·.2)).length := sublist.length_le
        _ = dated.length := by rw [List.length_map, same.length_eq]
        _ < 2 ^ 32 := few
  exact ⟨part (List.Sublist.refl _), fun date => part (List.filter_sublist.map _)⟩

end DatesStaySmall

section Dates

variable {period : Period}

/-- The sums of all dates are exact while the partial sums of each fit. -/
theorem exactSums_foldlM {entries : List Entry}
    (fits : ∀ date, Amount.SumsFit (amountsOn (entries.map (Entry.dated period)) date)) :
    ∃ sums, entries.foldlM (addEntry period) ∅ = .ok sums
      ∧ ∀ date, IsExactSum (sums.get? date) (amountsOn (entries.map (Entry.dated period)) date) := by
  have none_yet (date : PointDate) :
      IsExactSum ((∅ : Dict PointDate Amount).get? date) (amountsOn [] date) :=
    ⟨by simp [amountsOn], (by decide : Amount.unset.minor = minorSum [])⟩
  refine foldlM_addEntry none_yet fun date sum amounts amount taken known => ?_
  have bound := fits date _ ((List.mem_inits _ _).mpr taken)
  have total_eq : minorSum (amounts ++ [amount]) = (sum.getD .unset).minor + amount.minor := by
    rw [Amount.minorSum_append, known.minor_eq, Amount.minorSum_cons, Amount.minorSum_nil, add_zero]
  rw [total_eq] at bound
  obtain ⟨after, added, exact_after⟩ := Amount.add_minor bound
  exact ⟨after, added, by simp, exact_after.trans total_eq.symm⟩

end Dates

/-- The buckets of sums by date. -/
def bucketsOf (sums : Dict PointDate Amount) : List Bucket :=
  sums.entries.map fun entry => ⟨entry.1, entry.2⟩

theorem mem_bucketsOf {sums : Dict PointDate Amount} {bucket : Bucket} :
    bucket ∈ bucketsOf sums ↔ sums.get? bucket.date = some bucket.total := by
  rw [← Dict.mem_entries_iff]
  unfold bucketsOf
  constructor
  · intro member
    obtain ⟨entry, inside, rfl⟩ := List.mem_map.mp member
    exact inside
  · intro inside
    exact List.mem_map.mpr ⟨_, inside, rfl⟩

/-- The dates of the buckets ascend. -/
theorem ascend_bucketsOf (sums : Dict PointDate Amount) :
    ((bucketsOf sums).map (·.date)).Pairwise fun first second => compare first second = .lt := by
  unfold bucketsOf
  rw [List.map_map, List.pairwise_map]
  exact sums.ascend

/-- The refunds of a date are found by it. -/
theorem refundOn?_bucketsOf (sums : Dict PointDate Amount) (date : PointDate) :
    refundOn? (bucketsOf sums) date = sums.get? date := by
  unfold refundOn?
  cases found : (bucketsOf sums).reverse.find? fun bucket => bucket.date == date with
  | none =>
    rw [List.find?_eq_none] at found
    cases known : sums.get? date with
    | none => rfl
    | some total =>
      have member : (⟨date, total⟩ : Bucket) ∈ (bucketsOf sums).reverse :=
        List.mem_reverse.mpr (mem_bucketsOf.mpr known)
      exact absurd (beq_self_eq_true date) (found _ member)
  | some bucket =>
    have accepted := List.find?_some found
    have same : bucket.date = date := beq_iff_eq.mp accepted
    have member := List.mem_reverse.mp (List.mem_of_find?_eq_some found)
    rw [Option.map_some, ← same, mem_bucketsOf.mp member]

/-! ### Net revenue -/

namespace NetRevenue

/-- Net revenue of dated amounts: a point for each date with revenue, in ascending order, with the
refunds of the date taken off, and both summaries. -/
structure IsNetOf (net : NetRevenue) (revenue refunds : List (PointDate × Amount)) : Prop where
  ascend : net.points.Pairwise fun first second => compare first.date second.date = .lt
  dates (date : PointDate) : (∃ point ∈ net.points, point.date = date) ↔ amountsOn revenue date ≠ []
  amounts : ∀ point ∈ net.points, point.amount.minor
    = minorSum (amountsOn revenue point.date) - minorSum (amountsOn refunds point.date)
  revenue : net.revenue.Describes (revenue.map (·.2))
  refund : net.refund.Describes (refunds.map (·.2))

/-- What a report on net revenue shows, with its money in cents. -/
def inCents (net : NetRevenue) : List (PointDate × Int) × Summary.InCents × Summary.InCents :=
  (net.points.map fun point => (point.date, point.amount.minor), net.revenue.inCents,
    net.refund.inCents)

end NetRevenue

/-- Steps that all succeed make a list of their results. -/
theorem mapM_exists {α β ε : Type} {result : α → Except ε β} {good : α → β → Prop} {items : List α}
    (each : ∀ item ∈ items, ∃ value, result item = .ok value ∧ good item value) :
    ∃ values, items.mapM result = .ok values ∧ List.Forall₂ good items values := by
  induction items with
  | nil => exact ⟨[], rfl, .nil⟩
  | cons item rest hypothesis =>
    rw [List.forall_mem_cons] at each
    obtain ⟨value, first, good_value⟩ := each.1
    obtain ⟨values, others, good_values⟩ := hypothesis each.2
    refine ⟨value :: values, ?_, .cons good_value good_values⟩
    rw [List.mapM_cons, first, others]
    rfl

/-- The refunds of a date are taken off its revenue. -/
theorem netPoint_spec {revenue refunds : List Amount} {sums : Dict PointDate Amount}
    {bucket : Bucket} (known : bucket.total.minor = minorSum revenue)
    (taken : IsExactSum (sums.get? bucket.date) refunds)
    (small : StaySmall revenue) (small_refunds : StaySmall refunds) :
    ∃ point, netPoint (bucketsOf sums) bucket = .ok point
      ∧ point.date = bucket.date ∧ point.amount.minor = minorSum revenue - minorSum refunds := by
  have minor_eq := taken.minor_eq
  unfold netPoint
  rw [refundOn?_bucketsOf]
  cases found : sums.get? bucket.date with
  | none =>
    have nothing : minorSum refunds = 0 := by
      rw [← minor_eq, found]
      decide
    exact ⟨_, rfl, rfl, by rw [nothing, sub_zero, known]⟩
  | some refund =>
    rw [found, Option.getD_some] at minor_eq
    have limit : 2 ^ 63 + 2 ^ 63 < Decimal.limit := by decide
    have bound := small.lt
    have bound_refunds := small_refunds.lt
    have fits : (bucket.total.minor - refund.minor).natAbs < Decimal.limit := by
      rw [known, minor_eq]
      omega
    obtain ⟨rest, subtracted, exact_rest⟩ := Amount.sub_minor fits
    refine ⟨⟨bucket.date, rest⟩, ?_, rfl, by rw [exact_rest, known, minor_eq]⟩
    simp only [subtracted]
    rfl

/-- The points of net revenue, made of exact sums by date. -/
theorem netPoints_spec {revenue refunds : List (PointDate × Amount)}
    {sums refundSums : Dict PointDate Amount}
    (exact_sums : ∀ date, IsExactSum (sums.get? date) (amountsOn revenue date))
    (exact_refunds : ∀ date, IsExactSum (refundSums.get? date) (amountsOn refunds date))
    (small : DatesStaySmall revenue) (small_refunds : DatesStaySmall refunds) :
    ∃ points, (bucketsOf sums).mapM (netPoint (bucketsOf refundSums)) = .ok points
      ∧ points.map (·.date) = (bucketsOf sums).map (·.date)
      ∧ ∀ point ∈ points, point.amount.minor
        = minorSum (amountsOn revenue point.date) - minorSum (amountsOn refunds point.date) := by
  have nets : ∀ bucket ∈ bucketsOf sums, ∃ point,
      netPoint (bucketsOf refundSums) bucket = .ok point
        ∧ point.date = bucket.date ∧ point.amount.minor
          = minorSum (amountsOn revenue bucket.date) - minorSum (amountsOn refunds bucket.date) := by
    intro bucket member
    have known := (exact_sums bucket.date).minor_eq
    rw [mem_bucketsOf.mp member, Option.getD_some] at known
    exact netPoint_spec known (exact_refunds bucket.date) (small.each _) (small_refunds.each _)
  obtain ⟨points, netted, matched⟩ := mapM_exists nets
  refine ⟨points, netted, ?_, ?_⟩
  · have dates : List.Forall₂ (· = ·) ((bucketsOf sums).map (·.date)) (points.map (·.date)) :=
      List.forall₂_map_left_iff.mpr (List.forall₂_map_right_iff.mpr
        (matched.imp fun _ _ same => same.1.symm))
    exact (List.forall₂_eq_eq_eq ▸ dates).symm
  · intro point member
    obtain ⟨place, inside, rfl⟩ := List.getElem_of_mem member
    obtain ⟨same, amount_eq⟩ := matched.get (matched.length_eq ▸ inside) inside
    rw [List.get_eq_getElem] at same amount_eq
    rw [same, amount_eq]

theorem Entry.map_dated (period : Period) (entries : List Entry) :
    (entries.map (Entry.dated period)).map (·.2) = entries.map (·.amount) := by
  rw [List.map_map]
  rfl

/-- Figures are put together from the sums of both sides. -/
theorem RevenueFigures.ofEntries_eq {period : Period} {revenue refunds : List Entry}
    {sums refundSums : Dict PointDate Amount} {summary refundSummary : Option Summary}
    (folded : revenue.foldlM (addEntry period) ∅ = .ok sums)
    (folded_refunds : refunds.foldlM (addEntry period) ∅ = .ok refundSums)
    (summed : Summary.ofAmounts? (revenue.map (·.amount)) = .ok summary)
    (summed_refunds : Summary.ofAmounts? (refunds.map (·.amount)) = .ok refundSummary) :
    ofEntries period revenue refunds
      = .ok ⟨bucketsOf sums, bucketsOf refundSums, summary, refundSummary⟩ := by
  unfold ofEntries buckets
  rw [summed, summed_refunds, folded, folded_refunds]
  rfl

/-- **Net revenue of dated amounts is exact while their partial sums stay small.** -/
theorem RevenueFigures.exists_net {period : Period} {revenue refunds : List Entry}
    (small : DatesStaySmall (revenue.map (Entry.dated period)))
    (small_refunds : DatesStaySmall (refunds.map (Entry.dated period))) :
    ∃ figures net, ofEntries period revenue refunds = .ok figures ∧ figures.net = .ok net
      ∧ net.IsNetOf (revenue.map (Entry.dated period)) (refunds.map (Entry.dated period)) := by
  obtain ⟨summary, summed, -, describes⟩ := Summary.ofAmounts?_spec small.all.fits small.all.lt
  obtain ⟨refundSummary, summed_refunds, -, describes_refunds⟩ :=
    Summary.ofAmounts?_spec small_refunds.all.fits small_refunds.all.lt
  rw [Entry.map_dated] at summed summed_refunds
  obtain ⟨sums, folded, exact_sums⟩ := exactSums_foldlM small.fits.each
  obtain ⟨refundSums, folded_refunds, exact_refunds⟩ := exactSums_foldlM small_refunds.fits.each
  obtain ⟨points, netted, dates, exact_points⟩ :=
    netPoints_spec exact_sums exact_refunds small small_refunds
  have figures_eq := ofEntries_eq folded folded_refunds summed summed_refunds
  refine ⟨_, ⟨points, summary.getD .none, refundSummary.getD .none⟩, figures_eq, ?_, ?_⟩
  · unfold net
    simp only [netted]
    rfl
  · refine ⟨?_, fun date => ?_, exact_points, describes, describes_refunds⟩
    · have ascend := ascend_bucketsOf sums
      rw [← dates, List.pairwise_map] at ascend
      exact ascend
    · rw [← (exact_sums date).isSome_iff, ← List.mem_map, dates, List.mem_map,
        Option.isSome_iff_exists]
      constructor
      · rintro ⟨bucket, member, rfl⟩
        exact ⟨_, mem_bucketsOf.mp member⟩
      · rintro ⟨total, known⟩
        exact ⟨⟨date, total⟩, mem_bucketsOf.mpr known, rfl⟩

/-! ### What the points show together -/

theorem minorSum_map_snd (dated : List (PointDate × Amount)) :
    minorSum (dated.map (·.2)) = (dated.map (·.2.minor)).sum := by
  unfold minorSum
  rw [List.map_map]
  rfl

/-- Amounts that are split by a property of their dates make up all of them. -/
theorem minorSum_filter_add (dated : List (PointDate × Amount)) (p : PointDate → Prop)
    [DecidablePred p] :
    minorSum ((dated.filter fun entry => p entry.1).map (·.2))
      + minorSum ((dated.filter fun entry => ¬p entry.1).map (·.2)) = minorSum (dated.map (·.2)) := by
  rw [minorSum_map_snd, minorSum_map_snd, minorSum_map_snd]
  exact List.sum_map_filter_add_sum_map_filter_not (fun entry : PointDate × Amount => p entry.1)
    (·.2.minor) dated

/-- The sums of distinct dates make up the amounts of these dates. -/
theorem sum_amountsOn (dated : List (PointDate × Amount)) {dates : List PointDate}
    (distinct : dates.Nodup) :
    (dates.map fun date => minorSum (amountsOn dated date)).sum
      = minorSum ((dated.filter fun entry => entry.1 ∈ dates).map (·.2)) := by
  induction dates with
  | nil => simp
  | cons date rest hypothesis =>
    rw [List.nodup_cons] at distinct
    have split := minorSum_filter_add (dated.filter fun entry => entry.1 ∈ date :: rest) (· = date)
    have on_date : (dated.filter fun entry => entry.1 ∈ date :: rest).filter (fun entry => entry.1 = date)
        = dated.filter fun entry => entry.1 = date := by
      rw [List.filter_filter]
      refine List.filter_congr fun entry _ => ?_
      by_cases same : entry.1 = date <;> simp [same]
    have others : (dated.filter fun entry => entry.1 ∈ date :: rest).filter (fun entry => ¬entry.1 = date)
        = dated.filter fun entry => entry.1 ∈ rest := by
      rw [List.filter_filter]
      refine List.filter_congr fun entry _ => ?_
      by_cases same : entry.1 = date <;> simp [same, distinct.1]
    rw [on_date, others] at split
    rw [List.map_cons, List.sum_cons, hypothesis distinct.2, ← split]
    rfl

namespace NetRevenue.IsNetOf

variable {net : NetRevenue} {revenue refunds : List (PointDate × Amount)}

/-- No date has two points. -/
theorem nodup_dates (isNet : net.IsNetOf revenue refunds) : (net.points.map (·.date)).Nodup := by
  rw [List.Nodup, List.pairwise_map]
  refine isNet.ascend.imp fun {first second} before same => ?_
  have equal : compare second.date second.date = .eq := Std.ReflCmp.compare_self
  rw [same, equal] at before
  exact absurd before (by decide)

/-- **The points together** are the revenue without the refunds, but for the refunds of dates that
have no revenue. -/
theorem sum_points (isNet : net.IsNetOf revenue refunds) :
    (net.points.map (·.amount.minor)).sum
      = net.revenue.total.minor - net.refund.total.minor
        + minorSum ((refunds.filter fun entry => amountsOn revenue entry.1 = []).map (·.2)) := by
  have mem_dates (date : PointDate) :
      date ∈ net.points.map (·.date) ↔ amountsOn revenue date ≠ [] := by
    rw [List.mem_map]
    exact isNet.dates date
  have all_dated : (revenue.filter fun entry => entry.1 ∈ net.points.map (·.date)) = revenue := by
    refine List.filter_eq_self.mpr fun entry member => decide_eq_true ((mem_dates _).mpr ?_)
    exact List.ne_nil_of_mem
      (List.mem_map_of_mem (List.mem_filter.mpr ⟨member, decide_eq_true rfl⟩))
  have elsewhere : (refunds.filter fun entry => ¬entry.1 ∈ net.points.map (·.date))
      = refunds.filter fun entry => amountsOn revenue entry.1 = [] :=
    List.filter_congr fun entry _ => decide_eq_decide.mpr (by rw [mem_dates, not_not])
  have split := minorSum_filter_add refunds (· ∈ net.points.map (·.date))
  have together : (net.points.map (·.amount.minor)).sum
      + ((net.points.map (·.date)).map fun date => minorSum (amountsOn refunds date)).sum
      = ((net.points.map (·.date)).map fun date => minorSum (amountsOn revenue date)).sum := by
    rw [List.map_map, List.map_map, List.map_congr_left isNet.amounts, ← List.sum_map_add]
    simp only [sub_add_cancel, Function.comp_def]
  rw [sum_amountsOn _ isNet.nodup_dates, sum_amountsOn _ isNet.nodup_dates, all_dated] at together
  rw [elsewhere] at split
  rw [isNet.revenue.total_eq, isNet.refund.total_eq]
  omega

/-- The points by date, in cents. -/
def byDate (isNet : net.IsNetOf revenue refunds) : Dict PointDate Int where
  entries := net.points.map fun point => (point.date, point.amount.minor)
  ascend := by
    unfold KeysAscend
    rw [List.pairwise_map]
    exact isNet.ascend

theorem get?_byDate (isNet : net.IsNetOf revenue refunds) {date : PointDate} {minor : Int} :
    isNet.byDate.get? date = some minor ↔ amountsOn revenue date ≠ []
      ∧ minor = minorSum (amountsOn revenue date) - minorSum (amountsOn refunds date) := by
  unfold byDate
  rw [← Dict.mem_entries_iff, ← isNet.dates date, List.mem_map]
  constructor
  · rintro ⟨point, member, equal⟩
    cases equal
    exact ⟨⟨point, member, rfl⟩, isNet.amounts point member⟩
  · rintro ⟨⟨point, member, rfl⟩, rfl⟩
    exact ⟨point, member, by rw [isNet.amounts point member]⟩

/-- **Net revenue of the same dated amounts is the same**, in whatever sequence they come. -/
theorem inCents_eq {again : NetRevenue} {others otherRefunds : List (PointDate × Amount)}
    (isNet : net.IsNetOf revenue refunds) (isNet_again : again.IsNetOf others otherRefunds)
    (same : revenue.Perm others) (same_refunds : refunds.Perm otherRefunds) :
    net.inCents = again.inCents := by
  have on_date {dated others : List (PointDate × Amount)} (same : dated.Perm others)
      (date : PointDate) : (amountsOn dated date).Perm (amountsOn others date) :=
    (same.filter _).map _
  have equal : isNet.byDate = isNet_again.byDate := by
    refine Dict.eq_of_get? fun date => Option.ext fun minor => ?_
    rw [isNet.get?_byDate, isNet_again.get?_byDate, Amount.minorSum_perm (on_date same date),
      Amount.minorSum_perm (on_date same_refunds date), Ne, ← List.length_eq_zero_iff,
      (on_date same date).length_eq, List.length_eq_zero_iff]
  have points : net.points.map (fun point => (point.date, point.amount.minor))
      = again.points.map fun point => (point.date, point.amount.minor) :=
    congrArg Dict.entries equal
  unfold inCents
  rw [points, isNet.revenue.inCents_eq isNet_again.revenue (same.map _),
    isNet.refund.inCents_eq isNet_again.refund (same_refunds.map _)]

end NetRevenue.IsNetOf

end Paydesk
