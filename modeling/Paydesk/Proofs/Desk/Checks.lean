/-
**Flows that check rules in order.**

A flow checks some rules when it stops at the first of them that is broken, with what breaking it
leads to, and goes on with what it found when none is broken. Checks in sequence check the rules of
both, in this order, so what a long check does is put together from what its steps do.

* `World.Gives`: what a flow comes to that leaves the world as it is;
* `FirstBroken`, `Checks`: the first broken rule, and a flow that stops there;
* `Checks.bind`: **two checks in sequence**;
* `Checks.decides`: **a check passes exactly when no rule is broken**, and else it stops for the
  first that is.
-/

import Paydesk.Desk.World
import Paydesk.Flow.Intake

namespace Paydesk

variable {σ : Type} [OrderStore σ] {α β : Type}

/-! ### Flows that leave the world as it is -/

namespace World

section Sequence

variable {now : Instant} {freshId : String} {flow : Flow α} {next : α → Flow β}
  {world after : World σ}

theorem run_bind_ok {value : α} (ran : (World.run now freshId flow).run world = (.ok value, after)) :
    (World.run now freshId (flow >>= next)).run world
      = (World.run now freshId (next value)).run after := by
  induction flow generalizing world with
  | done => cases ran; rfl
  | stop => cases ran
  | call question rest hypothesis => exact hypothesis _ ran

theorem run_bind_error {stop : Stop}
    (ran : (World.run now freshId flow).run world = (.error stop, after)) :
    (World.run now freshId (flow >>= next)).run world = (.error stop, after) := by
  induction flow generalizing world with
  | done => cases ran
  | stop => cases ran; rfl
  | call question rest hypothesis => exact hypothesis _ ran

end Sequence

/-- A flow comes to a result and leaves the world as it is, whatever the time and the next id. -/
def Gives (world : World σ) (flow : Flow α) (result : Except Stop α) : Prop :=
  ∀ now freshId, (World.run now freshId flow).run world = (result, world)

variable {world : World σ}

theorem gives_done (value : α) : world.Gives (.done value) (.ok value) := fun _ _ => rfl

theorem gives_refuse (refusal : Refusal) :
    world.Gives (.refuse refusal : Flow α) (.error (.refused refusal)) := fun _ _ => rfl

theorem Gives.bind {flow : Flow α} {next : α → Flow β} {value : α} {result : Except Stop β}
    (first : world.Gives flow (.ok value)) (second : world.Gives (next value) result) :
    world.Gives (flow >>= next) result := fun now freshId =>
  (run_bind_ok (first now freshId)).trans (second now freshId)

theorem Gives.bind_error {flow : Flow α} {next : α → Flow β} {stop : Stop}
    (first : world.Gives flow (.error stop)) : world.Gives (flow >>= next) (.error stop) :=
  fun now freshId => run_bind_error (first now freshId)

theorem gives_project (id : String) :
    world.Gives (.project id) (.ok (world.desk.catalog.project? id)) := fun _ _ => rfl

theorem gives_method (id : String) :
    world.Gives (.method id) (.ok (world.desk.catalog.method? id)) := fun _ _ => rfl

theorem gives_currency (code : String) :
    world.Gives (.currency code) (.ok (world.desk.catalog.currency? code)) := fun _ _ => rfl

theorem gives_convert (base quote : String) (amount : Amount) :
    world.Gives (.convert base quote amount)
      ((world.desk.rates.convert base quote amount).mapError (.failed ∘ .conversion)) := by
  intro now freshId
  change (World.run now freshId (Flow.orFail .conversion _)).run world = _
  cases world.desk.rates.convert base quote amount <;> rfl

theorem gives_fetchByClientId (projectId clientId : String) :
    world.Gives (.fetchByClientId projectId clientId)
      ((OrderStore.fetchByClientId world.store projectId clientId).mapError .ofStore) := by
  intro now freshId
  change (World.run now freshId (Flow.orStop .ofStore _)).run world = _
  cases OrderStore.fetchByClientId world.store projectId clientId <;> rfl

theorem gives_locate (address : Address) :
    world.Gives (.ask (.locate address)) (.ok (world.desk.places.locate address)) :=
  fun _ _ => rfl

theorem gives_orRefused {ε : Type} (refusal : ε → Refusal) (result : Except ε α) :
    world.Gives (.orRefused (result.mapError refusal)) (result.mapError (.refused ∘ refusal)) := by
  intro now freshId
  cases result <;> rfl

end World

/-! ### Rules -/

/-- Two members of a list at given places are the same, or one comes before the other. -/
theorem split_cases {before rest earlier after : List α} {first second : α}
    (same : before ++ first :: rest = earlier ++ second :: after) :
    (before = earlier ∧ first = second ∧ rest = after) ∨ (first ∈ earlier ∧ second ∈ rest) ∨
      (second ∈ before ∧ first ∈ after) := by
  rcases List.append_eq_append_iff.mp same with ⟨more, rfl, tail⟩ | ⟨more, rfl, tail⟩
  · cases more with
    | nil => exact .inl ⟨(List.append_nil _).symm, List.cons.inj tail⟩
    | cons head more =>
      obtain ⟨rfl, rfl⟩ := List.cons.inj tail
      exact .inr (.inl ⟨by simp, by simp⟩)
  · cases more with
    | nil => exact .inl ⟨List.append_nil _, (List.cons.inj tail).imp Eq.symm Eq.symm⟩
    | cons head more =>
      obtain ⟨rfl, rfl⟩ := List.cons.inj tail
      exact .inr (.inr ⟨by simp, by simp⟩)

variable {ρ : Type} {breaks : ρ → Stop → Prop}

/-- No rule of a list is broken. -/
def Unbroken (breaks : ρ → Stop → Prop) (rules : List ρ) : Prop :=
  ∀ rule ∈ rules, ∀ stop, ¬breaks rule stop

/-- The first broken rule of a list leads to a stop. -/
def FirstBroken (breaks : ρ → Stop → Prop) (rules : List ρ) (stop : Stop) : Prop :=
  ∃ before rule after, rules = before ++ rule :: after ∧ breaks rule stop ∧ Unbroken breaks before

/-- A flow checks rules: it passes with something that it found, and none of them is broken; or it
stops for the first of them that is, which leads to nothing else. -/
inductive Checks (world : World σ) (breaks : ρ → Stop → Prop) (rules : List ρ) (flow : Flow α)
    (found : α → Prop) : Prop
  | passes {value : α} (gives : world.Gives flow (.ok value)) (isFound : found value)
    (unbroken : Unbroken breaks rules)
  | stops {stop : Stop} {before after : List ρ} {rule : ρ} (gives : world.Gives flow (.error stop))
    (split : rules = before ++ rule :: after) (leads : ∀ other, breaks rule other ↔ other = stop)
    (unbroken : Unbroken breaks before)

namespace Checks

open World

variable {world : World σ} {rules more : List ρ} {flow : Flow α} {next : α → Flow β}
  {found : α → Prop} {later : β → Prop}

/-- A flow that breaks no rule. -/
theorem free {value : α} (gives : world.Gives flow (.ok value)) (isFound : found value) :
    Checks world breaks [] flow found :=
  .passes gives isFound (by simp [Unbroken])

/-- A flow that stops for its first rule. -/
theorem broken {rule : ρ} {stop : Stop} (gives : world.Gives flow (.error stop))
    (leads : ∀ other, breaks rule other ↔ other = stop) :
    Checks world breaks (rule :: rules) flow found :=
  .stops gives (List.nil_append (rule :: rules)).symm leads (by simp [Unbroken])

/-- **Two checks in sequence** check the rules of the first and then those of the second. -/
theorem bind (first : Checks world breaks rules flow found)
    (second : ∀ value, found value → Checks world breaks more (next value) later) :
    Checks world breaks (rules ++ more) (flow >>= next) later := by
  cases first with
  | stops gives split leads unbroken =>
    exact .stops gives.bind_error (by rw [split, List.append_assoc]; rfl) leads unbroken
  | passes gives isFound unbroken =>
    cases second _ isFound with
    | passes gives_next isLater unbroken_next =>
      exact .passes (gives.bind gives_next) isLater
        (List.forall_mem_append.mpr ⟨unbroken, unbroken_next⟩)
    | stops gives_next split leads unbroken_next =>
      exact .stops (gives.bind gives_next) (by rw [split, List.append_assoc]) leads
        (List.forall_mem_append.mpr ⟨unbroken, unbroken_next⟩)

/-- A flow that checks nothing before another that does. -/
theorem look {value : α} (gives : world.Gives flow (.ok value))
    (second : Checks world breaks rules (next value) later) :
    Checks world breaks rules (flow >>= next) later :=
  bind (free gives rfl) fun _ same => same ▸ second

/-- A rule and those after it. -/
theorem step {rule : ρ} (first : Checks world breaks [rule] flow found)
    (second : ∀ value, found value → Checks world breaks rules (next value) later) :
    Checks world breaks (rule :: rules) (flow >>= next) later :=
  bind first second

/-- What is found may be said in other words. -/
theorem mono {wider : α → Prop} (checks : Checks world breaks rules flow found)
    (within : ∀ value, found value → wider value) : Checks world breaks rules flow wider := by
  cases checks with
  | passes gives isFound unbroken => exact .passes gives (within _ isFound) unbroken
  | stops gives split leads unbroken => exact .stops gives split leads unbroken

/-- A rule that is not broken may be checked as well. -/
theorem cons_unbroken {rule : ρ} (holds : ∀ stop, ¬breaks rule stop)
    (checks : Checks world breaks rules flow found) :
    Checks world breaks (rule :: rules) flow found := by
  cases checks with
  | passes gives isFound unbroken =>
    exact .passes gives isFound (List.forall_mem_cons.mpr ⟨holds, unbroken⟩)
  | stops gives split leads unbroken =>
    exact .stops gives (by rw [split]; rfl) leads (List.forall_mem_cons.mpr ⟨holds, unbroken⟩)

/-! ### Single rules -/

section Single

variable {rule : ρ} {refusal : Refusal}

/-- A rule that is broken where something fails. -/
theorem attempt {ε : Type} {result : Except ε α} {wrap : ε → Stop}
    (gives : world.Gives flow (result.mapError wrap))
    (broken_iff : ∀ stop, breaks rule stop ↔ ∃ error, result = .error error ∧ stop = wrap error) :
    Checks world breaks [rule] flow fun value => result = .ok value := by
  cases result with
  | ok value => exact .passes gives rfl (by simp [Unbroken, broken_iff])
  | error error => exact .broken gives fun stop => by simp [broken_iff]

/-- A rule that is broken where something is missing. -/
theorem orRefuse {value? : Option α}
    (broken_iff : ∀ stop, breaks rule stop ↔ value? = none ∧ stop = .refused refusal) :
    Checks world breaks [rule] (.orRefuse refusal value?) fun value => value? = some value := by
  cases value? with
  | some value => exact .passes (gives_done value) rfl (by simp [Unbroken, broken_iff])
  | none => exact .broken (gives_refuse refusal) fun stop => by simp [broken_iff]

/-- A rule that is broken where something does not hold. -/
theorem require {holds : Bool}
    (broken_iff : ∀ stop, breaks rule stop ↔ holds = false ∧ stop = .refused refusal) :
    Checks world breaks [rule] (.require holds refusal) fun _ => holds := by
  cases holds with
  | true => exact .passes (gives_done ()) rfl (by simp [Unbroken, broken_iff])
  | false => exact .broken (gives_refuse refusal) fun stop => by simp [broken_iff]

end Single

/-! ### What a check says -/

/-- **A check passes exactly when no rule is broken**, and else it stops for the first that is: of
two that were first the earlier would be both broken and unbroken. -/
theorem decides (checks : Checks world breaks rules flow found) :
    ∃ result, world.Gives flow result ∧ ((∃ value, result = .ok value) ↔ Unbroken breaks rules) ∧
      ∀ stop, result = .error stop ↔ FirstBroken breaks rules stop := by
  cases checks with
  | @passes value gives _ unbroken =>
    refine ⟨.ok value, gives, ⟨fun _ => unbroken, fun _ => ⟨value, rfl⟩⟩, ?_⟩
    intro stop
    constructor
    · intro stopped
      cases stopped
    · rintro ⟨before, rule, after, rfl, broken, -⟩
      have member : rule ∈ before ++ rule :: after :=
        List.mem_append_right before List.mem_cons_self
      exact absurd broken (unbroken rule member stop)
  | @stops first before after rule gives split leads unbroken =>
    have at_rule : breaks rule first := (leads first).mpr rfl
    refine ⟨.error first, gives, ?_, ?_⟩
    · constructor
      · rintro ⟨value, passed⟩
        cases passed
      · intro none
        have member : rule ∈ rules := split ▸ List.mem_append_right before List.mem_cons_self
        exact absurd at_rule (none rule member first)
    · intro stop
      constructor
      · intro same
        obtain rfl := Except.error.inj same
        exact ⟨before, rule, after, split, at_rule, unbroken⟩
      · rintro ⟨earlier, other, rest, other_split, broken, unbroken_earlier⟩
        rcases split_cases (split.symm.trans other_split) with
          ⟨-, rfl, -⟩ | ⟨inside, -⟩ | ⟨inside, -⟩
        · rw [(leads stop).mp broken]
        · exact absurd at_rule (unbroken_earlier rule inside first)
        · exact absurd broken (unbroken other inside stop)

end Checks

end Paydesk
