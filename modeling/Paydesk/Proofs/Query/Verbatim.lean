/-
**Texts that are found letter for letter.**

Conditions look for a text in small letters in attributes in small letters. An attribute in which
the text stands letter for letter is found if the small form of the text does not depend on what
stands around it, which only a capital sigma at one of its ends can bring about.

* `Text.StandsInOne`: a text stands in one of some texts, letter for letter;
* `holds_contains_of_infix`, `Text.StandsInOne.occurs`: a steady text is found where it stands;
* `Envelope.condition_account_iff`: an account that is found leaves the rest of the query to decide;
* `verbatim_found`: **the texts that conditions, quick filters and accounts find wherever they
  stand**;
* `closingSigma_missed`: **a word without its last letter** that no filter finds.
-/

import Paydesk.Proofs.Query.Modes
import Paydesk.Proofs.Text.Sigma

namespace Paydesk

namespace Text

variable {pattern : String} {texts : List (Option String)}

/-- A pattern stands in one of some texts letter for letter, of which any may be absent. -/
def StandsInOne (pattern : String) (texts : List (Option String)) : Prop :=
  ∃ text, some text ∈ texts ∧ pattern.toList <:+: text.toList

theorem StandsInOne.occurs (steady : IsSteady pattern) (stands : StandsInOne pattern texts) :
    OccursInOne pattern texts := by
  obtain ⟨text, member, inside⟩ := stands
  exact ⟨text, member, fold_infix_fold steady inside⟩

end Text

namespace Condition

variable {pattern text : String} {order : Order} {field : OrderField}

theorem holds_contains_of_infix (steady : Text.IsSteady pattern)
    (valued : text ∈ (field.valueOf order).text?) (inside : pattern.toList <:+: text.toList) :
    (contains field pattern).holds order :=
  holds_contains_iff.mpr ⟨text, valued, Text.fold_infix_fold steady inside⟩

/-- A text of any letters is the account of some order. -/
theorem holds_contains_projectAccount_iff :
    (contains .projectAccount pattern).holds { order with projectAccount := text } ↔
      Text.Occurs pattern text := by
  rw [holds_contains_iff]
  exact ⟨fun ⟨_, valued, occurs⟩ => by cases valued; exact occurs, fun occurs => ⟨_, rfl, occurs⟩⟩

end Condition

namespace Envelope

variable {envelope : Envelope} {order : Order} {accessible : List String} {account : String}

theorem first?_without_eq_none {key found : String} (absent : envelope.first? found = none) :
    (envelope.without key).first? found = none := by
  by_cases same : found = key
  · rw [same, first?, get?_without_self]
    rfl
  · rw [first?_without_of_ne same, absent]

theorem extends_without (key : String) : Extends envelope (envelope.without key) := by
  intro found values got
  by_cases same : found = key
  · rw [same, get?_without_self] at got
    cases got
  · rwa [get?_without_of_ne same] at got

/-- The account aside, a query asks for what its other keys ask for. -/
theorem Asks.of_without_account (asks : (envelope.without "account").Asks order)
    (found : envelope.first? "account" = some account)
    (occurs : Text.OccursInOne account order.accountTexts) : envelope.Asks order := by
  have values {key : String} (apart : key ≠ "account") :
      envelope.get? key = (envelope.without "account").get? key := (get?_without_of_ne apart).symm
  have first {key : String} (apart : key ≠ "account") :
      envelope.first? key = (envelope.without "account").first? key :=
    (first?_without_of_ne apart).symm
  have bound {key : String} (apart : key ≠ "account") :
      envelope.bound? key = (envelope.without "account").bound? key := by
    rw [bound?, bound?, first apart]
  have within {leastKey mostKey : String} {time : Option Instant} (least : leastKey ≠ "account")
      (most : mostKey ≠ "account")
      (inside : (envelope.without "account").Within leastKey mostKey time) :
      envelope.Within leastKey mostKey time := by
    refine ⟨?_, ?_⟩
    · rw [bound least]
      exact inside.least
    · rw [bound most]
      exact inside.most
  refine ⟨?_, ?_, ?_, ?_, ?_, ?_, ?_⟩
  · rw [first (by decide : "id" ≠ "account")]
    exact asks.id
  · rw [values (by decide : "payment_methods" ≠ "account")]
    exact asks.method
  · rw [values (by decide : "countries" ≠ "account")]
    exact asks.country
  · rw [values (by decide : "statuses" ≠ "account")]
    exact asks.status
  · intro other same
    cases found.symm.trans same
    exact occurs
  · exact within (by decide) (by decide) asks.closed
  · exact within (by decide) (by decide) asks.created

/-- **An account that is found** leaves it to the rest of the query whether an order is. -/
theorem condition_account_iff (none_quick : envelope.first? "quick_filter" = none)
    (found : envelope.first? "account" = some account)
    (occurs : Text.OccursInOne account order.accountTexts) :
    (envelope.condition accessible).holds order ↔
      ((envelope.without "account").condition accessible).holds order := by
  rw [holds_condition_iff, holds_condition_iff, Means, Means, none_quick,
    first?_without_eq_none none_quick]
  refine and_congr_right fun _ => ⟨fun asks => ?_, fun asks => ?_⟩
  · exact asks.of_extends (extends_without "account")
  · exact asks.of_without_account found occurs

end Envelope

/-- **Texts that are found letter for letter.** For every text:

* the condition that looks for it in an attribute holds of every order whose attribute the text
  stands in if and only if the text is steady, as every text without a capital sigma is;
* a quick filter with a steady text finds all orders of accessible projects with the text in one of
  the attributes that it looks at;
* a query with a steady account finds all orders with the account in one of its attributes that the
  query without the account finds. -/
theorem verbatim_found (pattern : String) :
    (Text.IsSteady pattern ↔ ∀ order field, ∀ text ∈ (OrderField.valueOf order field).text?,
      pattern.toList <:+: text.toList → (Condition.contains field pattern).holds order)
    ∧ ('Σ' ∉ pattern.toList → Text.IsSteady pattern)
    ∧ (Text.IsSteady pattern → ∀ (envelope : Envelope) (accessible : List String) (order : Order),
      (envelope.first? "quick_filter" = some pattern → order.project.id ∈ accessible →
        Text.StandsInOne pattern order.quickTexts → (envelope.condition accessible).holds order)
      ∧ (envelope.first? "quick_filter" = none → envelope.first? "account" = some pattern →
        Text.StandsInOne pattern order.accountTexts →
          ((envelope.condition accessible).holds order ↔
            ((envelope.without "account").condition accessible).holds order))) := by
  refine ⟨⟨fun steady order field text valued inside => ?_, fun finds => ?_⟩,
    Text.hasOpenSigma_of_not_mem [], fun steady envelope accessible order => ⟨?_, ?_⟩⟩
  · exact Condition.holds_contains_of_infix steady valued inside
  · by_contra unsteady
    obtain ⟨text, inside, missed⟩ := Text.exists_missed unsteady
    have found := finds { tenEuros with projectAccount := text } .projectAccount text rfl inside
    exact missed (Condition.holds_contains_projectAccount_iff.mp found)
  · intro quick member stands
    refine Envelope.holds_condition_iff.mpr ⟨member, ?_⟩
    rw [Envelope.Means, quick]
    exact stands.occurs steady
  · intro none_quick account stands
    exact Envelope.condition_account_iff none_quick account (stands.occurs steady)

/-- The part of a word around its first sigma is found, by a quick filter and as an account. -/
theorem verbatim_found_middle :
    let order : Order := { tenEuros with projectAccount := "ΚΑΣΑΣ" }
    let quick : Envelope := Dict.empty.insert "quick_filter" ["ΑΣΑ"]
    let plain : Envelope := Dict.empty.insert "account" ["ΑΣΑ"]
    (Condition.contains .projectAccount "ΑΣΑ").holds order
      ∧ (quick.condition ["shop"]).holds order ∧ (plain.condition ["shop"]).holds order := by
  intro order quick plain
  have steady : Text.IsSteady "ΑΣΑ" := by decide +kernel
  have inside : "ΑΣΑ".toList <:+: "ΚΑΣΑΣ".toList := by decide
  obtain ⟨finds, -, filters⟩ := verbatim_found "ΑΣΑ"
  obtain ⟨quick_finds, -⟩ := filters steady quick ["shop"] order
  obtain ⟨-, account_finds⟩ := filters steady plain ["shop"] order
  refine ⟨finds.mp steady order .projectAccount _ rfl inside, ?_, ?_⟩
  · exact quick_finds (by decide) (by decide) ⟨_, by decide, inside⟩
  · refine (account_finds (by decide) (by decide) ⟨_, by decide, inside⟩).mpr ?_
    decide +kernel

/-- **A word without its last letter.** Its sigma ends a word and that of the whole word does not,
so that no filter finds the word. -/
theorem closingSigma_missed :
    let order : Order := { tenEuros with projectAccount := "ΑΣΑ" }
    let quick : Envelope := Dict.empty.insert "quick_filter" ["ΑΣ"]
    let plain : Envelope := Dict.empty.insert "account" ["ΑΣ"]
    "ΑΣ".toList <:+: order.projectAccount.toList
      ∧ ¬ (Condition.contains .projectAccount "ΑΣ").holds order
      ∧ ¬ (quick.condition ["shop"]).holds order ∧ ¬ (plain.condition ["shop"]).holds order := by
  decide +kernel

end Paydesk
