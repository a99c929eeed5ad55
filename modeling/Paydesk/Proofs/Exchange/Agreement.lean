/-
**The table of rates and the history of rates.**

Either book takes the same rates and refuses the same. Of a pair the table has the rate that was set
last; the history has all of them and answers with the one of the latest time, in milliseconds, and
among several with the one set last. So the two go apart as soon as a rate of a pair is set after a
later one, and only then.

* `ExchangeRate.setAll`, `quotesFor`: a book after rates were set one after another, and the rates
  of a pair that it took;
* `RateTable.find?_setAll`, `RateHistory.filter_setAll`: **what either book has of a pair**, by
  induction on the rates;
* `RateHistory.latest?_congr`, `quotesFor_mergeSort`: the latest row depends on the rows of every
  single time, and a stable sort by time keeps these;
* `ExchangeRate.Alike`, `alike_findRate`, `convertWith_alike`: fetches that are alike lead to
  conversions that are;
* `conversions_agree`: **the history converts as the table** that is given the rates in the order of
  their times.
-/

import Mathlib.Data.List.Induction
import Paydesk.Exchange.RateHistory
import Paydesk.Exchange.RateTable
import Paydesk.Proofs.Decimal.Text
import Paydesk.Proofs.Text.Ascii

namespace Paydesk

namespace ExchangeRate

/-! ### Rates that are set -/

/-- A book of rates after some were set one after another; a rate that is refused changes nothing.
-/
def setAll {σ : Type} (set : σ → ExchangeRate → Except RateError σ) (book : σ)
    (rates : List ExchangeRate) : σ :=
  rates.foldl (fun book rate => (set book rate).toOption.getD book) book

theorem setAll_concat {σ : Type} (set : σ → ExchangeRate → Except RateError σ) (book : σ)
    (rates : List ExchangeRate) (rate : ExchangeRate) :
    setAll set book (rates ++ [rate])
      = (set (setAll set book rates) rate).toOption.getD (setAll set book rates) :=
  List.foldl_concat _ _ _ _

/-- Whether a book takes a rate, as one of a pair of codes. -/
def isQuoteFor (base quote : String) (rate : ExchangeRate) : Bool :=
  rate.rate.isPositive && RateTable.isFor base quote rate

/-- The rates of a pair of codes that a book takes, in the order they were set. -/
def quotesFor (base quote : String) (rates : List ExchangeRate) : List ExchangeRate :=
  rates.filter (isQuoteFor base quote)

theorem quotesFor_concat (base quote : String) (rates : List ExchangeRate) (rate : ExchangeRate) :
    quotesFor base quote (rates ++ [rate])
      = if isQuoteFor base quote rate then quotesFor base quote rates ++ [rate]
        else quotesFor base quote rates := by
  unfold quotesFor
  by_cases taken : isQuoteFor base quote rate <;> simp [taken]

end ExchangeRate

open ExchangeRate

/-! ### The table -/

namespace RateTable

theorem isFor_iff {base quote : String} {rate : ExchangeRate} :
    isFor base quote rate ↔ Text.upperCase rate.base = Text.upperCase base
      ∧ Text.upperCase rate.quote = Text.upperCase quote := by
  unfold isFor
  rw [Bool.and_eq_true, Text.sameLetters_iff, Text.sameLetters_iff]

/-- The table has of every pair the rate that was set last: what makes room for a rate is of its own
pair. -/
theorem find?_setAll (base quote : String) (rates : List ExchangeRate) :
    (setAll set empty rates).rates.find? (isFor base quote)
      = (quotesFor base quote rates).getLast? := by
  induction rates using List.reverseRecOn with
  | nil => rfl
  | append_singleton rates rate hypothesis =>
    rw [setAll_concat, quotesFor_concat]
    generalize setAll set empty rates = table at hypothesis ⊢
    unfold set isQuoteFor
    cases usable : rate.rate.isPositive with
    | false => simpa [Except.toOption] using hypothesis
    | true =>
      simp only [if_true, Except.toOption, Option.getD_some, Bool.true_and]
      by_cases here : isFor base quote rate
      · simp [here]
      · have kept (other : ExchangeRate) : decide ((!isFor rate.base rate.quote other) = true
            ∧ isFor base quote other = true) = isFor base quote other := by
          rw [Bool.eq_iff_iff, decide_eq_true_iff, Bool.not_eq_true']
          refine ⟨And.right, fun found => ⟨Bool.eq_false_iff.mpr fun same => here ?_, found⟩⟩
          rw [isFor_iff] at same found ⊢
          exact ⟨same.1.symm.trans found.1, same.2.symm.trans found.2⟩
        rw [List.find?_cons_of_neg here, List.find?_filter, funext kept, if_neg here, hypothesis]

end RateTable

/-! ### The history -/

theorem RateRow.isFor_ofRate (base quote : String) (rate : ExchangeRate) :
    isFor base quote (ofRate rate) = RateTable.isFor base quote rate := by
  rw [Bool.eq_iff_iff, RateTable.isFor_iff]
  unfold isFor
  rw [Bool.and_eq_true, beq_iff_eq, beq_iff_eq]
  rfl

/-- A rate above zero is read out of the row that it was written into. -/
theorem RateRow.toRate_ofRate {rate : ExchangeRate} (usable : rate.rate.isPositive) :
    ∃ kept, (ofRate rate).toRate = .ok kept ∧ kept.rate = rate.rate := by
  have unsigned : rate.rate.withoutZeroSign = rate.rate := by
    have positive : rate.rate.negative = false := by
      simpa using (Bool.and_eq_true_iff.mp usable).1
    unfold Decimal.withoutZeroSign Decimal.ofParts
    rw [positive, Bool.false_and]
    rw [← positive]
  have read : Decimal.readNumeral (ofRate rate).rate.toList = .ok rate.rate := by
    rw [← unsigned]
    exact rate.rate.readNumeral_write
  unfold toRate
  rw [read]
  exact ⟨_, rfl, rfl⟩

namespace RateHistory

theorem rows_setAll (rates : List ExchangeRate) :
    (setAll set empty rates).rows
      = ((rates.filter (·.rate.isPositive)).map RateRow.ofRate).reverse := by
  induction rates using List.reverseRecOn with
  | nil => rfl
  | append_singleton rates rate hypothesis =>
    rw [setAll_concat]
    generalize setAll set empty rates = history at hypothesis ⊢
    unfold set
    cases usable : rate.rate.isPositive with
    | false => simp [usable, Except.toOption, hypothesis]
    | true => simp [usable, Except.toOption, hypothesis]

/-- The history has of every pair all rates that were taken, the one set last in front. -/
theorem filter_setAll (base quote : String) (rates : List ExchangeRate) :
    (setAll set empty rates).rows.filter (RateRow.isFor base quote)
      = ((quotesFor base quote rates).map RateRow.ofRate).reverse := by
  have pairs : RateRow.isFor base quote ∘ RateRow.ofRate = RateTable.isFor base quote :=
    funext fun rate => RateRow.isFor_ofRate base quote rate
  rw [rows_setAll, List.filter_reverse, List.filter_map, pairs, List.filter_filter]
  refine congrArg (fun quotes => (quotes.map RateRow.ofRate).reverse) (List.filter_congr ?_)
  exact fun rate _ => Bool.and_comm _ _

/-! ### The latest row -/

variable {rows others : List RateRow} {row : RateRow}

theorem latest?_eq_none_iff : latest? rows = none ↔ rows = [] := by
  cases rows with
  | nil => simp [latest?]
  | cons row rest =>
    unfold latest?
    split
    · split <;> simp
    · simp

/-- The latest row has the latest time, and is the first of all that have it. -/
theorem latest?_spec (found : latest? rows = some row) :
    (∀ other ∈ rows, other.updatedAtMillis ≤ row.updatedAtMillis)
      ∧ (rows.filter (·.updatedAtMillis = row.updatedAtMillis)).head? = some row := by
  induction rows generalizing row with
  | nil => cases found
  | cons first rest hypothesis =>
    unfold latest? at found
    cases later : latest? rest with
    | none =>
      rw [later] at found
      obtain rfl := Option.some.inj found
      rw [latest?_eq_none_iff.mp later]
      simp
    | some other =>
      obtain ⟨most, head⟩ := hypothesis later
      rw [later] at found
      simp only at found
      split at found
      · rename_i older
        obtain rfl := Option.some.inj found
        refine ⟨List.forall_mem_cons.mpr ⟨Int.le_of_lt older, most⟩, ?_⟩
        rw [List.filter_cons_of_neg (by simpa using Int.ne_of_lt older), head]
      · rename_i newer
        obtain rfl := Option.some.inj found
        refine ⟨List.forall_mem_cons.mpr ⟨Int.le_refl _, fun row member => ?_⟩, ?_⟩
        · exact Int.le_trans (most row member) (Int.not_lt.mp newer)
        · rw [List.filter_cons_of_pos (by simp), List.head?_cons]

/-- A row in front that none is later than is the latest. -/
theorem latest?_cons (latest : ∀ other ∈ rows, other.updatedAtMillis ≤ row.updatedAtMillis) :
    latest? (row :: rows) = some row := by
  unfold latest?
  cases later : latest? rows with
  | none => rfl
  | some other =>
    have head := (latest?_spec later).2
    have member : other ∈ rows := (List.mem_filter.mp (List.mem_of_head? head)).1
    simp only [if_neg (Int.not_lt.mpr (latest other member))]

/-- **The latest row** depends on the rows of every single time. -/
theorem latest?_congr (same : ∀ millis, rows.filter (·.updatedAtMillis = millis)
    = others.filter (·.updatedAtMillis = millis)) : latest? rows = latest? others := by
  have shared (row : RateRow) : row ∈ rows ↔ row ∈ others := by
    have filtered := congrArg (row ∈ ·) (same row.updatedAtMillis)
    simpa using filtered
  cases found : latest? rows with
  | none =>
    have empty : others = [] := by
      rw [List.eq_nil_iff_forall_not_mem]
      intro row member
      rw [← shared, latest?_eq_none_iff.mp found] at member
      nomatch member
    rw [empty]
    rfl
  | some row =>
    cases also : latest? others with
    | none =>
      have member := List.mem_of_head? (latest?_spec found).2
      rw [same, latest?_eq_none_iff.mp also] at member
      nomatch member
    | some other =>
      obtain ⟨most, head⟩ := latest?_spec found
      obtain ⟨mostOther, headOther⟩ := latest?_spec also
      have inside := (List.mem_filter.mp (List.mem_of_head? head)).1
      have insideOther := (List.mem_filter.mp (List.mem_of_head? headOther)).1
      have tie : row.updatedAtMillis = other.updatedAtMillis :=
        Int.le_antisymm (mostOther row ((shared row).mp inside))
          (most other ((shared other).mpr insideOther))
      rw [tie, same, headOther] at head
      exact head.symm

end RateHistory

/-! ### The order of time -/

namespace ExchangeRate

/-- Whether a rate is no later than another, in milliseconds. -/
def noLater (first second : ExchangeRate) : Bool :=
  first.updatedAt.toMillis ≤ second.updatedAt.toMillis

/-- No rate of a pair is set after a later one; what no book takes does not count. -/
def SetInOrder (rates : List ExchangeRate) : Prop :=
  rates.Pairwise fun earlier later => earlier.rate.isPositive → later.rate.isPositive →
    RateTable.isFor earlier.base earlier.quote later → noLater earlier later

instance (rates : List ExchangeRate) : Decidable (SetInOrder rates) :=
  inferInstanceAs (Decidable (rates.Pairwise fun earlier later => earlier.rate.isPositive →
    later.rate.isPositive → RateTable.isFor earlier.base earlier.quote later →
      noLater earlier later))

variable {rates : List ExchangeRate}

/-- The rates of a pair follow one another in time where all rates are set in order. -/
theorem SetInOrder.quotesFor (ordered : SetInOrder rates) (base quote : String) :
    (quotesFor base quote rates).Pairwise fun earlier later => noLater earlier later := by
  refine List.Pairwise.imp_of_mem ?_ (ordered.filter (isQuoteFor base quote))
  intro earlier later inside insideLater inOrder
  have taken := Bool.and_eq_true_iff.mp (List.mem_filter.mp inside).2
  have takenLater := Bool.and_eq_true_iff.mp (List.mem_filter.mp insideLater).2
  refine inOrder taken.1 takenLater.1 (RateTable.isFor_iff.mpr ?_)
  have pair := RateTable.isFor_iff.mp taken.2
  have pairLater := RateTable.isFor_iff.mp takenLater.2
  exact ⟨pairLater.1.trans pair.1.symm, pairLater.2.trans pair.2.symm⟩

theorem noLater_trans (first second third : ExchangeRate) (lower : noLater first second)
    (upper : noLater second third) : noLater first third := by
  unfold noLater at lower upper ⊢
  rw [decide_eq_true_iff] at lower upper ⊢
  exact Int.le_trans lower upper

theorem noLater_total (first second : ExchangeRate) :
    (noLater first second || noLater second first) = true := by
  unfold noLater
  rw [Bool.or_eq_true, decide_eq_true_iff, decide_eq_true_iff]
  exact Int.le_total _ _

theorem setInOrder_mergeSort (rates : List ExchangeRate) : SetInOrder (rates.mergeSort noLater) :=
  (List.pairwise_mergeSort noLater_trans noLater_total rates).imp
    fun {_ _} inOrder _ _ _ => inOrder

/-- A stable sort by time keeps the rates of every single time as they are. -/
theorem filter_mergeSort (rates : List ExchangeRate) (millis : Int) :
    (rates.mergeSort noLater).filter (·.updatedAt.toMillis = millis)
      = rates.filter (·.updatedAt.toMillis = millis) := by
  have tied : (rates.filter (·.updatedAt.toMillis = millis)).Pairwise
      fun first second => noLater first second = true := by
    refine List.Pairwise.imp_of_mem (R := fun _ _ => True) ?_
      (List.pairwise_of_forall fun _ _ => trivial)
    intro first second inside insideSecond _
    have time := of_decide_eq_true (List.mem_filter.mp inside).2
    have timeSecond := of_decide_eq_true (List.mem_filter.mp insideSecond).2
    exact decide_eq_true (Int.le_of_eq (time.trans timeSecond.symm))
  have kept := (List.sublist_mergeSort noLater_trans noLater_total tied
    List.filter_sublist).filter (·.updatedAt.toMillis = millis)
  rw [List.filter_filter] at kept
  simp only [Bool.and_self] at kept
  exact (kept.eq_of_length ((List.mergeSort_perm rates noLater).symm.filter _).length_eq).symm

/-- The rates of a pair and a single time are the same before and after the sort. -/
theorem quotesFor_mergeSort (base quote : String) (rates : List ExchangeRate) (millis : Int) :
    (quotesFor base quote (rates.mergeSort noLater)).filter (·.updatedAt.toMillis = millis)
      = (quotesFor base quote rates).filter (·.updatedAt.toMillis = millis) := by
  unfold quotesFor
  rw [List.filter_filter, List.filter_filter, List.filter_congr fun rate _ => Bool.and_comm _ _,
    ← List.filter_filter, filter_mergeSort, List.filter_filter]
  exact List.filter_congr fun rate _ => Bool.and_comm _ _

/-! ### Conversions -/

/-- Two fetches found rates of one number, or failed for one kind of reason. -/
inductive Alike : Except RateError ExchangeRate → Except RateError ExchangeRate → Prop where
  | found {rate other : ExchangeRate} (same : rate.rate = other.rate) : Alike (.ok rate) (.ok other)
  | failed {error other : RateError} (same : error.name = other.name) :
      Alike (.error error) (.error other)

theorem alike_inverse {rate other : ExchangeRate} (same : rate.rate = other.rate) :
    Alike rate.inverse other.inverse := by
  unfold inverse
  rw [same]
  split
  · split
    · exact .failed rfl
    · exact .found rfl
  · exact .failed rfl

theorem convert_alike {rate other : ExchangeRate} (same : rate.rate = other.rate)
    (amount : Amount) :
    (rate.convert amount).mapError RateError.name
      = (other.convert amount).mapError RateError.name := by
  unfold convert
  rw [same]
  split
  · rfl
  · cases amount.scale? other.rate <;> rfl

section Fetches

variable {first second : String → String → Except RateError ExchangeRate}

theorem alike_findRate (alike : ∀ base quote, Alike (first base quote) (second base quote))
    (base quote : String) : Alike (findRate first base quote) (findRate second base quote) := by
  unfold findRate
  have direct := alike base quote
  generalize first base quote = one at direct
  generalize second base quote = two at direct
  cases direct with
  | found same => exact .found same
  | @failed error other same =>
    cases error <;> cases other <;> simp only [RateError.name, String.reduceEq] at same
    case missing.missing =>
      have opposite := alike quote base
      generalize first quote base = one at opposite
      generalize second quote base = two at opposite
      cases opposite with
      | found same => exact alike_inverse same
      | failed same => exact .failed same
    all_goals exact .failed rfl

/-- **Fetches that are alike** lead to conversions that are. -/
theorem convertWith_alike (alike : ∀ base quote, Alike (first base quote) (second base quote))
    (base quote : String) (amount : Amount) :
    (convertWith first base quote amount).mapError RateError.name
      = (convertWith second base quote amount).mapError RateError.name := by
  unfold convertWith
  split
  · rfl
  · have rates := alike_findRate alike base quote
    generalize findRate first base quote = one at rates
    generalize findRate second base quote = two at rates
    cases rates with
    | found same => exact convert_alike same amount
    | failed same => exact congrArg Except.error same

end Fetches

end ExchangeRate

/-! ### Both books -/

/-- Where the rates are set in order, both books answer with the rate of a pair that was set last.
-/
theorem alike_fetch {rates : List ExchangeRate} (ordered : SetInOrder rates) (base quote : String) :
    Alike ((setAll RateHistory.set .empty rates).fetch base quote)
      ((setAll RateTable.set .empty rates).fetch base quote) := by
  have inOrder := ordered.quotesFor base quote
  have taken : ∀ rate ∈ quotesFor base quote rates, rate.rate.isPositive := fun rate member =>
    (Bool.and_eq_true_iff.mp (List.mem_filter.mp member).2).1
  unfold RateHistory.fetch RateTable.fetch
  rw [RateHistory.filter_setAll, RateTable.find?_setAll]
  generalize quotesFor base quote rates = quotes at inOrder taken
  rcases List.eq_nil_or_concat quotes with rfl | ⟨earlier, last, rfl⟩
  · exact .failed rfl
  · rw [List.concat_eq_append] at inOrder taken ⊢
    obtain ⟨kept, found, same⟩ := RateRow.toRate_ofRate (taken last (by simp))
    have latest : RateHistory.latest? ((earlier ++ [last]).map RateRow.ofRate).reverse
        = some (RateRow.ofRate last) := by
      rw [List.map_append, List.map_singleton, List.reverse_concat]
      refine RateHistory.latest?_cons fun row member => ?_
      obtain ⟨rate, inside, rfl⟩ := List.mem_map.mp (List.mem_reverse.mp member)
      have earlier_last : noLater rate last :=
        (List.pairwise_append.mp inOrder).2.2 rate inside last (List.mem_singleton_self last)
      exact of_decide_eq_true earlier_last
    rw [latest, List.getLast?_concat]
    simp only [found]
    exact .found same

/-- The history does not see in what order rates of different times were set. -/
theorem fetch_mergeSort (rates : List ExchangeRate) :
    (setAll RateHistory.set .empty (rates.mergeSort noLater)).fetch
      = (setAll RateHistory.set .empty rates).fetch := by
  funext base quote
  have latest : RateHistory.latest? ((quotesFor base quote (rates.mergeSort noLater)).map
      RateRow.ofRate).reverse
      = RateHistory.latest? ((quotesFor base quote rates).map RateRow.ofRate).reverse := by
    refine RateHistory.latest?_congr fun millis => ?_
    rw [List.filter_reverse, List.filter_reverse, List.filter_map, List.filter_map]
    exact congrArg (fun quotes => (quotes.map RateRow.ofRate).reverse)
      (quotesFor_mergeSort base quote rates millis)
  unfold RateHistory.fetch
  rw [RateHistory.filter_setAll, RateHistory.filter_setAll, latest]

/-- **The history converts as the table does** that is given the rates in the order of their times,
those of one millisecond in the order they were set: with the same amounts, or errors of the same
kind. So both books agree on every conversion where no rate of a pair is set after a later one. -/
theorem conversions_agree (rates : List ExchangeRate) :
    let history := setAll RateHistory.set .empty rates
    let table := setAll RateTable.set .empty
    (∀ base quote amount, (history.convert base quote amount).mapError RateError.name
      = ((table (rates.mergeSort noLater)).convert base quote amount).mapError RateError.name)
    ∧ (SetInOrder rates →
      ∀ base quote amount, (history.convert base quote amount).mapError RateError.name
        = ((table rates).convert base quote amount).mapError RateError.name) := by
  intro history table
  refine ⟨fun base quote amount => ?_, fun ordered => convertWith_alike (alike_fetch ordered)⟩
  have sorted := convertWith_alike (alike_fetch (setInOrder_mergeSort rates)) base quote amount
  rw [fetch_mergeSort] at sorted
  exact sorted

/-- A whole number of units for one. -/
def wholeRate (base quote : String) (rate : Nat) (seconds : Int)
    (small : rate < Decimal.limit := by decide) (inside : Instant.inRange seconds := by decide) :
    ExchangeRate :=
  ⟨base, quote, ⟨false, rate, 0, small, Nat.zero_le _⟩, .ofSeconds seconds inside⟩

/-- Three rates of two pairs, of which one is set again later. -/
def risingRates : List ExchangeRate :=
  [wholeRate "USD" "RUB" 60 1000, wholeRate "EUR" "RUB" 80 500, wholeRate "usd" "rub" 65 2000]

theorem conversions_agree_rising : SetInOrder risingRates
    ∧ ((setAll RateTable.set .empty risingRates).convert "RUB" "Usd" (.ofInt 130)).mapError
      RateError.name = .ok (.ofInt 2) := by
  have ordered : SetInOrder risingRates := by decide
  refine ⟨ordered, ((conversions_agree risingRates).2 ordered "RUB" "Usd" (.ofInt 130)).symm.trans ?_⟩
  decide +kernel

/-- **A rate that is set after a later one** counts for the table and not for the history. -/
theorem not_conversions_agree_backdated :
    let rates := [wholeRate "USD" "RUB" 65 2, wholeRate "USD" "RUB" 60 1]
    (setAll RateTable.set .empty rates).convert "USD" "RUB" (.ofInt 1) = .ok (.ofInt 60)
      ∧ (setAll RateHistory.set .empty rates).convert "USD" "RUB" (.ofInt 1) = .ok (.ofInt 65) := by
  decide +kernel

end Paydesk
