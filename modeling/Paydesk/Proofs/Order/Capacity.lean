/-
**How many parameters there are.**

Parameters that are set one after another, to values or to what documents say, are never more than
64: once there are so many a new one is refused, while one that is there takes a new value. Nothing
holds parameters that are read from a document to that bound: they are as many as it has names.

* `ParamChange`, `Params.changed`: parameters after one change after another;
* `ParamChange.IsRefused`, `ParamChange.apply_eq_error_iff`: what is refused;
* `Params.set_of_contains`: what is set again;
* `Params.extends_after`, `Params.extends_changed`: **one change, and one after another**;
* `OrderRequest.size_passthrough_le`: the parameters of a request;
* `Params.changed_bounded`: **how many parameters there are**, after any changes and in documents;
* `Params.changed_bounded_crowded`: 65 parameters in the document of an order.
-/

import Paydesk.Proofs.Order.Passthrough
import Paydesk.Proofs.Store.Refinement

namespace Paydesk

/-! ### Changes -/

/-- The parameter that a document value is, none if it is null. -/
def Param.ofJson (key : String) : Json → Except ParamError (Option Param)
  | .null => .ok none
  | .bool value => .ok (some (.flag value))
  | .text value => .ok (some (.text value))
  | .int value =>
    match Text.toInt64? value with
    | some short => .ok (some (.whole short))
    | none =>
      match Decimal.ofInt? value with
      | some decimal => .ok (some (.number decimal))
      | none => .error (.outOfRange key)
  | .float value =>
    match Decimal.read value.writeShort with
    | .ok decimal => .ok (some (.number decimal))
    | .error _ => .error (.outOfRange key)
  | .list _ | .object _ => .error (.notPrimitive key)

/-- What callers set among the parameters. -/
inductive ParamChange where
  | set (key : String) (value : Param)
  | setJson (key : String) (json : Json)

namespace ParamChange

/-- What comes of a change. -/
def apply (params : Params) : ParamChange → Except ParamError Params
  | set key value => params.set key value
  | setJson key json => params.setJson key json

/-- The parameter that a change sets. -/
def key : ParamChange → String
  | set key _ | setJson key _ => key

/-- What a change sets it to, if it sets it to anything. -/
def value : ParamChange → Except ParamError (Option Param)
  | set _ value => .ok (some value)
  | setJson key json => Param.ofJson key json

variable {params : Params} {change : ParamChange}

/-- A document value sets the parameter that it is, and null sets nothing. -/
theorem apply_eq (params : Params) (change : ParamChange) :
    change.apply params = change.value >>= fun
      | none => .ok params
      | some value => params.set change.key value := by
  cases change with
  | set => rfl
  | setJson key json =>
    unfold apply Params.setJson value Param.ofJson
    cases json with
    | int value =>
      simp only
      cases Text.toInt64? value with
      | some => rfl
      | none => cases Decimal.ofInt? value <;> rfl
    | float value =>
      simp only
      cases Decimal.read value.writeShort <;> rfl
    | _ => rfl

end ParamChange

namespace Params

variable {params more : Params} {key : String} {value : Param}

/-- Parameters after a change; one that is refused leaves them as they were. -/
def after (params : Params) (change : ParamChange) : Params :=
  (change.apply params).toOption.getD params

/-- Parameters after one change after another. -/
def changed (params : Params) (changes : List ParamChange) : Params := changes.foldl after params

/-- There is no room for a parameter that is new. -/
def IsFull (params : Params) (key : String) : Prop :=
  params.contains key = false ∧ capacity ≤ params.size

/-- **A parameter that is there can be set again**, and no other one changes. -/
theorem set_of_contains (known : params.contains key) (value : Param) :
    ∃ after, params.set key value = .ok after ∧ after.size = params.size
      ∧ ∀ other, after.get? other = if other = key then some value else params.get? other := by
  refine ⟨_, set_of_room (Or.inl known) value, Dict.size_insert_of_contains known value, ?_⟩
  intro other
  split_ifs with same
  · rw [same, Dict.get?_insert_self]
  · exact Dict.get?_insert_of_ne params same value

/-- A new parameter is refused where there is no room. -/
theorem set_eq_error_iff {error : ParamError} :
    params.set key value = .error error ↔ error = .tooMany ∧ params.IsFull key := by
  unfold set IsFull
  cases params.contains key <;> by_cases full : capacity ≤ params.size <;> simp [full, eq_comm]

end Params

/-- A change sets a value that is no parameter, or a new parameter where there is no room. -/
def ParamChange.IsRefused (change : ParamChange) (params : Params) (error : ParamError) : Prop :=
  change.value = .error error
    ∨ (∃ value, change.value = .ok (some value)) ∧ error = .tooMany ∧ params.IsFull change.key

/-- **What is refused.** -/
theorem ParamChange.apply_eq_error_iff {params : Params} {change : ParamChange} {error : ParamError} :
    change.apply params = .error error ↔ change.IsRefused params error := by
  unfold IsRefused
  rw [apply_eq]
  cases change.value with
  | error cause => simp [bind, Except.bind]
  | ok written =>
    cases written with
    | none => simp [bind, Except.bind]
    | some value => simp [bind, Except.bind, Params.set_eq_error_iff]

namespace Params

/-! ### Their number -/

/-- There are at least as many parameters as there were, and no more than there is room for unless
there were more. -/
def Extends (params more : Params) : Prop :=
  params.size ≤ more.size ∧ more.size ≤ max params.size capacity

variable {params more : Params} {key : String} {value : Param}

theorem Extends.refl (params : Params) : params.Extends params := ⟨le_rfl, le_max_left _ _⟩

theorem Extends.trans {last : Params} (first : params.Extends more) (second : more.Extends last) :
    params.Extends last := by
  unfold Extends at *
  omega

theorem extends_set (taken : params.set key value = .ok more) : params.Extends more := by
  by_cases known : params.contains key
  · obtain ⟨after, found, same, -⟩ := set_of_contains known value
    cases found.symm.trans taken
    exact ⟨same.ge, same.le.trans (le_max_left _ _)⟩
  · have fresh : key ∉ params.keys := fun member => known (Dict.contains_iff_mem_keys.mpr member)
    have space : params.size < capacity := by
      refine Nat.not_le.mp fun full => ?_
      cases taken.symm.trans (set_eq_error_iff.mpr ⟨rfl, Bool.eq_false_iff.mpr known, full⟩)
    have set : params.set key value = .ok (params.insert key value) :=
      set_of_room (Or.inr space) value
    cases set.symm.trans taken
    unfold Extends
    rw [Dict.size_insert_of_fresh fresh]
    omega

/-- **One change** keeps parameters within their bound. -/
theorem extends_apply {change : ParamChange} (taken : change.apply params = .ok more) :
    params.Extends more := by
  rw [ParamChange.apply_eq] at taken
  cases found : change.value with
  | error =>
    rw [found] at taken
    nomatch taken
  | ok written =>
    rw [found] at taken
    cases written with
    | none =>
      cases taken
      exact .refl params
    | some value => exact extends_set taken

theorem extends_after (params : Params) (change : ParamChange) :
    params.Extends (params.after change) := by
  unfold after
  cases result : change.apply params with
  | error => exact .refl params
  | ok more => exact extends_apply result

/-- **Changes one after another** do. -/
theorem extends_changed (params : Params) (changes : List ParamChange) :
    params.Extends (params.changed changes) := by
  unfold changed
  induction changes generalizing params with
  | nil => exact .refl params
  | cons change changes hypothesis =>
    exact (params.extends_after change).trans (hypothesis (params.after change))

/-- So do document values that are all taken. -/
theorem extends_foldlM {entries : List (String × Json)}
    (taken : entries.foldlM (fun (params : Params) entry => params.setJson entry.1 entry.2) params
      = .ok more) : params.Extends more := by
  induction entries generalizing params with
  | nil =>
    cases taken
    exact .refl _
  | cons entry entries hypothesis =>
    rw [List.foldlM_cons] at taken
    cases first : params.setJson entry.1 entry.2 with
    | error =>
      rw [first] at taken
      nomatch taken
    | ok next =>
      rw [first] at taken
      have one : (ParamChange.setJson entry.1 entry.2).apply params = .ok next := first
      exact (extends_apply one).trans (hypothesis taken)

/-! ### All of it -/

/-- **How many parameters there are.** Whatever is set among parameters, also to document values,
and whatever of it is refused:

* there are as many as there were or more, and not more than 64 unless there were;
* one more change is refused exactly if its value is no parameter, or if it names a new one where 64
  are there, and then everything stays as it was;
* a parameter that is there takes any value, and no other one changes.

Parameters that are read of a document are as many as the object has names, and where an order's
document is read its parameters are as many as they were: only changes are held to the bound. -/
theorem changed_bounded (params : Params) (changes : List ParamChange) (change : ParamChange) :
    let now := params.changed changes
    (params.size ≤ now.size ∧ now.size ≤ max params.size capacity)
      ∧ (∀ error, (change.apply now = .error error ↔ change.IsRefused now error)
        ∧ (change.IsRefused now error → params.changed (changes ++ [change]) = now))
      ∧ (∀ value, change.value = .ok (some value) → now.contains change.key →
        ∃ after, change.apply now = .ok after ∧ after.size = now.size
          ∧ ∀ other, after.get? other = if other = change.key then some value else now.get? other)
      ∧ (∀ json, read? json = some params →
        ∃ fields, json = .object fields ∧ params.size = (fields.map (·.1)).dedup.length)
      ∧ ∀ order : Order, order.projectParams = params → order.IsReadable →
        ∃ back, Json.read? order.write.write >>= Order.read? = some back
          ∧ back.projectParams.size = params.size
          ∧ back.transaction.additional.size = order.transaction.additional.size := by
  intro now
  refine ⟨params.extends_changed changes, fun error => ⟨ParamChange.apply_eq_error_iff, ?_⟩, ?_,
    fun json read => Json.size_of_readTextDict? read, ?_⟩
  · intro refused
    unfold changed
    rw [List.foldl_append, List.foldl_cons, List.foldl_nil]
    change now.after change = now
    rw [after, ParamChange.apply_eq_error_iff.mpr refused]
    rfl
  · intro value written known
    rw [ParamChange.apply_eq, written]
    exact set_of_contains known value
  · rintro order rfl readable
    exact ⟨_, Order.read?_text_of_isReadable readable, List.length_map _, List.length_map _⟩

/-- So many flags under different names; what follows uses the lemmas on them and never lists them.
-/
@[irreducible] def crowd (count : Nat) : Params :=
  Dict.ofList ((List.range count).map fun length =>
    (String.ofList (List.replicate length 'k'), .flag true))

theorem crowd_perm (count : Nat) : (crowd count).entries.Perm ((List.range count).map fun length =>
    (String.ofList (List.replicate length 'k'), .flag true)) := by
  unfold crowd
  refine Dict.ofList_perm ?_
  rw [List.map_map]
  refine List.nodup_range.map fun first second same => ?_
  have lengths := congrArg String.length same
  simpa using lengths

theorem size_crowd (count : Nat) : (crowd count).size = count := by
  rw [Dict.size, (crowd_perm count).length_eq, List.length_map, List.length_range]

theorem mem_crowd {count : Nat} {entry : String × Param} : entry ∈ (crowd count).entries
    ↔ ∃ length < count, (String.ofList (List.replicate length 'k'), .flag true) = entry := by
  rw [(crowd_perm count).mem_iff, List.mem_map]
  simp only [List.mem_range]

/-- Flags are read as they are. -/
theorem read?_crowd (count : Nat) : read? (crowd count).write = some (crowd count) := by
  have flags : (crowd count).IsExact := by
    rintro entry member
    obtain ⟨length, -, rfl⟩ := mem_crowd.mp member
    trivial
  have same : (crowd count).mapValues (Param.mapNumber fun number => number) = crowd count := by
    refine (Dict.mapValues_congr fun entry member => ?_).trans (Dict.mapValues_id _)
    obtain ⟨length, -, rfl⟩ := mem_crowd.mp member
    rfl
  rw [read?_write flags, same]

/-- **65 parameters.** They are read of a document, and of the document of an order; one of them can
be set again, and then they are 65 still. -/
theorem changed_bounded_crowded :
    let order : Order := { tenEuros with projectParams := crowd 65 }
    (∃ fields, read? (.object fields) = some (crowd 65) ∧ (fields.map (·.1)).dedup.length = 65)
      ∧ (∃ back, Json.read? order.write.write >>= Order.read? = some back
        ∧ back.projectParams.size = 65)
      ∧ ∃ after, (crowd 65).set "k" (.flag false) = .ok after ∧ after.size = 65
        ∧ after.get? "k" = some (.flag false) := by
  intro order
  have known : (crowd 65).contains "k" := by
    rw [Dict.contains_iff_mem_keys]
    exact List.mem_map.mpr ⟨("k", .flag true), mem_crowd.mpr ⟨1, by decide, rfl⟩, rfl⟩
  have readable : order.IsReadable := by
    refine ⟨fun entry member => ?_, by decide⟩
    obtain ⟨length, -, rfl⟩ := mem_crowd.mp member
    trivial
  obtain ⟨-, -, again, names, orders⟩ := changed_bounded (crowd 65) [] (.set "k" (.flag false))
  obtain ⟨fields, shape, distinct⟩ := names _ (read?_crowd 65)
  obtain ⟨back, read, many, -⟩ := orders order rfl readable
  obtain ⟨after, taken, same, values⟩ := again _ rfl known
  rw [size_crowd] at distinct many
  refine ⟨⟨fields, shape ▸ read?_crowd 65, distinct.symm⟩, ⟨back, read, many⟩, after, taken,
    same.trans (size_crowd 65), ?_⟩
  rw [values "k"]
  exact if_pos rfl

end Params

/-- **The parameters of a request** are no more than there is room for. -/
theorem OrderRequest.size_passthrough_le {request : OrderRequest} {params : Params}
    (taken : request.passthrough = .ok params) : params.size ≤ Params.capacity :=
  (Params.extends_foldlM taken).2.trans (by decide)

end Paydesk
