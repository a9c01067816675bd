import Faceted.Backend.Response
import Faceted.Proofs.Reading

/-!
# Answers to refused queries

The answer to a refused query is a record with an error, which says why the query was refused,
and perhaps the status once more. It may be written as an object or as an array, and the error as
an object or as a string. Each answer gives one reason, and it is read exactly from the texts
that are listed here: a part of an answer that has another form, or a field of it that is
repeated, spoils all of it.

## Main definitions

* `Refusal.Gives` — the reason that an error gives
* `Refusal.Refuses` — the answers to refused queries, each with its reason
* `Refusal.States` — a text states a reason

## Main results

* `Written.record?_object_eq_some_iff`, `Written.record?_array_eq_some_iff` — the fields of a record
* `Refusal.refuses_iff` — exactly these answers are read
* `Refusal.states_iff` — a text states the reason that is read from it
-/

namespace Faceted

open Source

/-! ### Which answers refuse a query -/

namespace Refusal

/-- What is written where the status of a refusal is expected: null, or a number of 16 bits. -/
def IsStatus : Json.Node → Prop
  | .null => True
  | .number number => ∃ status : Nat, status < 65536 ∧ number = some (.integer status)
  | _ => False

/-- Each of the names is written at most once among the members. -/
def AtMostOnce (names : List String) (members : List (Option String × Json.Node)) : Prop :=
  ∀ name ∈ names, (members.map Prod.fst).count (some name) ≤ 1

/-- The error of a refusal gives a reason: it is an object with a `type`, and a `reason` that may be
missing or null, or it is the reason itself. -/
inductive Gives : Json.Node → String → Prop where
  | detailed {members : List (Option String × Json.Node)} {fields : Entries Json}
      {kind reason : String} (honce : AtMostOnce ["type", "reason"] members)
      (hfields : (Json.Node.object members).value? 126 = some (.object fields))
      (hkind : Entries.get? fields "type" = some (.text kind))
      (hreason : Entries.get? fields "reason" = some (.text reason)) :
      Gives (.object members) (kind ++ ": " ++ reason)
  | kindOnly {members : List (Option String × Json.Node)} {fields : Entries Json} {kind : String}
      (honce : AtMostOnce ["type", "reason"] members)
      (hfields : (Json.Node.object members).value? 126 = some (.object fields))
      (hkind : Entries.get? fields "type" = some (.text kind))
      (hreason : Entries.get? fields "reason" = none ∨ Entries.get? fields "reason" = some .null) :
      Gives (.object members) kind
  | message (text : String) : Gives (.text (some text)) text

/-- The answers to refused queries, each with its reason: an object with an `error` and perhaps a
`status`, both written at most once, or an array of the two. -/
inductive Refuses : Json.Node → String → Prop where
  | object {named : Entries Json.Node} {error : Json.Node} {reason : String}
      (honce : ∀ name ∈ ["error", "status"], (Entries.keys named).count name ≤ 1)
      (herror : Entries.get? named "error" = some error)
      (hstatus : ∀ status ∈ Entries.get? named "status", IsStatus status)
      (hreason : Gives error reason) :
      Refuses (.object (named.map fun member => (some member.1, member.2))) reason
  | array {error : Json.Node} {statuses : List Json.Node} {reason : String}
      (hlength : statuses.length ≤ 1) (hstatus : ∀ status ∈ statuses, IsStatus status)
      (hreason : Gives error reason) :
      Refuses (.array (error :: statuses)) reason

/-- A text states the reason for which a query is refused. -/
def States (text reason : String) : Prop :=
  ∃ node, Json.Node.ofText? text = some node ∧ Refuses node reason

end Refusal

/-! ### Fields of a record -/

/-- An object whose names all have a value, each member with the levels that are left below it. -/
theorem Written.members?_eq_some_iff {levels : Nat} {members : List (Option String × Json.Node)}
    {pairs : List (String × Written)} :
    (Written.mk (levels + 1) (.object members)).members? = some pairs ↔
      ∃ named : Entries Json.Node, members = named.map (fun member => (some member.1, member.2)) ∧
        pairs = named.map fun member => (member.1, ⟨levels, member.2⟩) := by
  have hread (member : Option String × Json.Node) (pair : String × Written) :
      member.1.map (·, Written.mk levels member.2) = some pair ↔
        pair.2.levels = levels ∧ member = (some pair.1, pair.2.node) := by
    obtain ⟨name?, node⟩ := member
    obtain ⟨name, written⟩ := pair
    cases name? with
    | none => simp
    | some other =>
      simp only [Option.map_some, Option.some_inj, Prod.mk.injEq]
      constructor
      · rintro ⟨rfl, rfl⟩
        exact ⟨rfl, rfl, rfl⟩
      · rintro ⟨rfl, rfl, rfl⟩
        exact ⟨rfl, rfl⟩
  rw [members?, mapM_eq_some_iff_of_proper (fun pair => pair.2.levels = levels) hread]
  constructor
  · rintro ⟨hlevels, rfl⟩
    refine ⟨pairs.map fun pair => (pair.1, pair.2.node), by rw [List.map_map]; rfl, ?_⟩
    rw [List.map_map]
    refine ((List.map_congr_left fun pair hpair => ?_).trans (List.map_id pairs)).symm
    rw [Function.comp_apply, ← hlevels pair hpair]
    rfl
  · rintro ⟨named, rfl, rfl⟩
    rw [List.forall_mem_map, List.map_map]
    exact ⟨fun _ _ => rfl, rfl⟩

theorem Written.record?_object_eq_some_iff {names : List String} {levels : Nat}
    {members : List (Option String × Json.Node)} {field : String → Option Written} :
    record? names (Written.mk (levels + 1) (.object members)) = some field ↔
      ∃ named : Entries Json.Node, members = named.map (fun member => (some member.1, member.2)) ∧
        (∀ name ∈ names, (Entries.keys named).count name ≤ 1) ∧
        field = fun name => (Entries.get? named name).map (Written.mk levels) := by
  have hrecord : record? names (Written.mk (levels + 1) (.object members)) =
      (Written.mk (levels + 1) (.object members)).members?.bind fun members =>
        if names.any fun name => 1 < members.countP fun member => member.1 == name then none
        else some fun name => Entries.get? members name := rfl
  have hcount (named : Entries Json.Node) (name : String) :
      (named.map fun member => (member.1, Written.mk levels member.2)).countP
          (fun member => member.1 == name) = (Entries.keys named).count name := by
    rw [List.countP_map, Entries.keys, List.count, List.countP_map]
    rfl
  rw [hrecord, Option.bind_eq_some_iff]
  simp only [Written.members?_eq_some_iff, Option.ite_none_left_eq_some, List.any_eq_true,
    decide_eq_true_eq, not_exists, not_and, Nat.not_lt, Option.some_inj]
  constructor
  · rintro ⟨_, ⟨named, rfl, rfl⟩, honce, rfl⟩
    simp only [hcount] at honce
    exact ⟨named, rfl, honce, funext fun name => Entries.get?_map_value named _ name⟩
  · rintro ⟨named, rfl, honce, rfl⟩
    refine ⟨_, ⟨named, rfl, rfl⟩, ?_, funext fun name => Entries.get?_map_value named _ name⟩
    simpa only [hcount] using honce

theorem Written.record?_array_eq_some_iff {names : List String} {levels : Nat}
    {items : List Json.Node} {field : String → Option Written} :
    record? names (Written.mk (levels + 1) (.array items)) = some field ↔
      items.length ≤ names.length ∧ field = fieldsOfList names (items.map (Written.mk levels)) := by
  have hrecord : record? names (Written.mk (levels + 1) (.array items)) =
      fieldsOfList? names (items.map (Written.mk levels)) := rfl
  rw [hrecord, fieldsOfList?, List.length_map, Option.ite_none_left_eq_some, Nat.not_lt,
    Option.some_inj, eq_comm (a := field)]

/-! ### Errors -/

theorem Number.natBelow?_eq_some_iff {number : Number} {bound n : Nat} :
    number.natBelow? bound = some n ↔ n < bound ∧ number = .integer n := by
  cases number with
  | integer value =>
    simp only [Number.natBelow?, Option.ite_none_right_eq_some, Option.some.injEq,
      Number.integer.injEq]
    omega
  | double value finite => simp [Number.natBelow?]

theorem Source.required_text?_eq_some_iff {field : Option Json} {text : String} :
    required field text? = some text ↔ field = some (.text text) := by
  rw [required, Option.bind_eq_some_iff]
  constructor
  · rintro ⟨value, hfield, hvalue⟩
    rwa [← Json.text?_eq_some_iff.1 hvalue]
  · rintro rfl
    exact ⟨_, rfl, rfl⟩

theorem Source.optional_text?_eq_some_iff {field : Option Json} {text? : Option String} :
    Source.optional field Source.text? = some text? ↔
      (∃ text, field = some (.text text) ∧ text? = some text) ∨
        (field = none ∨ field = some .null) ∧ text? = none := by
  cases field with
  | none => simp [Source.optional, eq_comm]
  | some value =>
    cases value with
    | null => simp [Source.optional, isNull, eq_comm]
    | text text => simp [Source.optional, isNull, Source.text?, Json.text?, eq_comm]
    | bool | number | array | object => simp [Source.optional, isNull, Source.text?, Json.text?]

theorem RefusalReason.ofJson?_object_eq_some_iff {fields : Entries Json} {parsed : RefusalReason} :
    ofJson? (.object fields) = some parsed ↔
      ∃ kind, Entries.get? fields "type" = some (.text kind) ∧
        ((∃ reason, Entries.get? fields "reason" = some (.text reason) ∧
            parsed = .detailed kind (some reason)) ∨
          (Entries.get? fields "reason" = none ∨ Entries.get? fields "reason" = some .null) ∧
            parsed = .detailed kind none) := by
  simp only [ofJson?, Option.bind_eq_bind, Option.bind_eq_some_iff, Option.pure_def,
    Option.some_inj, Source.required_text?_eq_some_iff,
    Source.optional_text?_eq_some_iff]
  refine exists_congr fun kind => and_congr_right fun _ => ?_
  constructor
  · rintro ⟨_, ⟨reason, hreason, rfl⟩ | ⟨hreason, rfl⟩, rfl⟩
    · exact Or.inl ⟨reason, hreason, rfl⟩
    · exact Or.inr ⟨hreason, rfl⟩
  · rintro (⟨reason, hreason, rfl⟩ | ⟨hreason, rfl⟩)
    · exact ⟨_, Or.inl ⟨reason, hreason, rfl⟩, rfl⟩
    · exact ⟨_, Or.inr ⟨hreason, rfl⟩, rfl⟩

theorem RefusalReason.ofWritten?_object_eq_some_iff
    {members : List (Option String × Json.Node)} {parsed : RefusalReason} :
    ofWritten? ⟨126, .object members⟩ = some parsed ↔
      Refusal.AtMostOnce ["type", "reason"] members ∧
        ∃ value, (Json.Node.object members).value? 126 = some value ∧
          ofJson? value = some parsed := by
  have hjson : json? (Written.mk 126 (.object members)) = (Json.Node.object members).value? 126 :=
    rfl
  have hcount (name : String) :
      (Json.Node.object members).occurrences name = (members.map Prod.fst).count (some name) := by
    rw [List.count, List.countP_map]
    rfl
  rw [ofWritten?, hjson, ← Option.bind_eq_some_iff, Option.ite_none_left_eq_some]
  simp only [hcount, Refusal.AtMostOnce, List.forall_mem_cons, List.not_mem_nil, false_imp_iff,
    implies_true, and_true, Bool.or_eq_true, decide_eq_true_eq, not_or, Nat.not_lt]

theorem Json.Node.exists_object_of_value? {levels : Nat}
    {members : List (Option String × Json.Node)} {value : Json}
    (h : (Json.Node.object members).value? levels = some value) :
    ∃ fields, value = .object fields := by
  cases levels with
  | zero => exact nomatch h
  | succ inner =>
    obtain ⟨pairs, -, rfl⟩ := Option.map_eq_some_iff.1 h
    exact ⟨_, rfl⟩

namespace Refusal

/-- What is written there, if anything, can be read. -/
theorem forall_isStatus_iff {field? : Option Written} :
    (∀ status ∈ field?, IsStatus status.node) ↔
      ∃ status, Source.optional field? (natural? (1 <<< 16)) = some status := by
  rcases field? with _ | ⟨levels, node⟩
  · exact iff_of_true nofun ⟨none, rfl⟩
  simp only [Option.mem_def, Option.some_inj, forall_eq']
  cases node with
  | null => exact iff_of_true trivial ⟨none, rfl⟩
  | number number =>
    have hread : Source.optional (some (Written.mk levels (.number number))) (natural? (1 <<< 16)) =
        (number.bind (Number.natBelow? 65536)).map some := rfl
    simp only [IsStatus, hread, Option.map_eq_some_iff, Option.bind_eq_some_iff,
      Number.natBelow?_eq_some_iff]
    constructor
    · rintro ⟨status, hlt, rfl⟩
      exact ⟨some status, status, ⟨_, rfl, hlt, rfl⟩, rfl⟩
    · rintro ⟨_, status, ⟨_, rfl, hlt, rfl⟩, -⟩
      exact ⟨status, hlt, rfl⟩
  | bool | text | array | object => exact iff_of_false id fun ⟨_, h⟩ => nomatch h

/-- The reason that an error gives is the one that it is read as. -/
theorem gives_iff (error : Json.Node) (reason : String) :
    Gives error reason ↔
      ∃ parsed, RefusalReason.ofWritten? ⟨126, error⟩ = some parsed ∧ parsed.text = reason := by
  cases error with
  | object members =>
    simp only [RefusalReason.ofWritten?_object_eq_some_iff]
    constructor
    · intro h
      cases h with
      | detailed honce hfields hkind hreason =>
        exact ⟨_, ⟨honce, _, hfields, RefusalReason.ofJson?_object_eq_some_iff.2
          ⟨_, hkind, Or.inl ⟨_, hreason, rfl⟩⟩⟩, rfl⟩
      | kindOnly honce hfields hkind hreason =>
        exact ⟨_, ⟨honce, _, hfields, RefusalReason.ofJson?_object_eq_some_iff.2
          ⟨_, hkind, Or.inr ⟨hreason, rfl⟩⟩⟩, rfl⟩
    · rintro ⟨parsed, ⟨honce, value, hvalue, hparsed⟩, rfl⟩
      obtain ⟨fields, rfl⟩ := Json.Node.exists_object_of_value? hvalue
      obtain ⟨kind, hkind, ⟨reason, hreason, rfl⟩ | ⟨hreason, rfl⟩⟩ :=
        RefusalReason.ofJson?_object_eq_some_iff.1 hparsed
      · exact .detailed honce hvalue hkind hreason
      · exact .kindOnly honce hvalue hkind hreason
  | text text =>
    cases text with
    | none => exact iff_of_false nofun fun ⟨_, h, _⟩ => nomatch h
    | some text =>
      refine ⟨fun h => ?_, ?_⟩
      · cases h
        exact ⟨.message _, rfl, rfl⟩
      · rintro ⟨_, h, rfl⟩
        obtain rfl := Option.some.inj h
        exact .message text
  -- Anything else gives no reason, and is not read even if it has a value.
  | null | bool => exact iff_of_false nofun fun ⟨_, h, _⟩ => nomatch h
  | number number => cases number <;> exact iff_of_false nofun fun ⟨_, h, _⟩ => nomatch h
  | array items =>
    have hread : RefusalReason.ofWritten? ⟨126, .array items⟩ =
        ((Json.Node.items? 125 items).map Json.array).bind RefusalReason.ofJson? := rfl
    rw [hread]
    cases Json.Node.items? 125 items <;> exact iff_of_false nofun fun ⟨_, h, _⟩ => nomatch h

/-! ### Whole answers -/

theorem read?_eq_some_iff {written : Written} {refusal : Refusal} :
    read? written = some refusal ↔
      ∃ field error, record? ["error", "status"] written = some field ∧ field "error" = some error ∧
        RefusalReason.ofWritten? error = some refusal.error ∧
        Source.optional (field "status") (natural? (1 <<< 16)) = some refusal.status := by
  obtain ⟨reason, status⟩ := refusal
  simp only [read?, required, Option.bind_eq_bind, Option.bind_eq_some_iff, Option.pure_def,
    Option.some_inj, Refusal.mk.injEq]
  constructor
  · rintro ⟨field, hfield, reason, ⟨error, herror, hreason⟩, status, hstatus, rfl, rfl⟩
    exact ⟨field, error, hfield, herror, hreason, hstatus⟩
  · rintro ⟨field, error, hfield, herror, hreason, hstatus⟩
    exact ⟨field, hfield, reason, ⟨error, herror, hreason⟩, status, hstatus, rfl, rfl⟩

/-- The reason is read off the fields of the record. -/
theorem exists_read?_iff {written : Written} {reason : String} :
    (∃ refusal, read? written = some refusal ∧ refusal.error.text = reason) ↔
      ∃ field error, record? ["error", "status"] written = some field ∧ field "error" = some error ∧
        (∃ parsed, RefusalReason.ofWritten? error = some parsed ∧ parsed.text = reason) ∧
        ∀ status ∈ field "status", IsStatus status.node := by
  simp only [read?_eq_some_iff, forall_isStatus_iff]
  constructor
  · rintro ⟨refusal, ⟨field, error, hfield, herror, hparsed, hstatus⟩, hreason⟩
    exact ⟨field, error, hfield, herror, ⟨_, hparsed, hreason⟩, _, hstatus⟩
  · rintro ⟨field, error, hfield, herror, ⟨parsed, hparsed, hreason⟩, status, hstatus⟩
    exact ⟨⟨parsed, status⟩, ⟨field, error, hfield, herror, hparsed, hstatus⟩, hreason⟩

/-- The answers that are read are those that give a reason, and it is the one
that they are read with. -/
theorem refuses_iff (node : Json.Node) (reason : String) :
    Refuses node reason ↔
      ∃ refusal, read? ⟨Json.greatestDepth, node⟩ = some refusal ∧ refusal.error.text = reason := by
  rw [exists_read?_iff, Json.greatestDepth]
  cases node with
  | object members =>
    simp only [Written.record?_object_eq_some_iff]
    constructor
    · intro h
      cases h with
      | @object named error _ honce herror hstatus hreason =>
        refine ⟨_, ⟨126, error⟩, ⟨named, rfl, honce, rfl⟩, ?_,
          (gives_iff error reason).1 hreason, ?_⟩
        · rw [herror, Option.map_some]
        · intro status hmem
          obtain ⟨node, hnode, rfl⟩ := Option.map_eq_some_iff.1 hmem
          exact hstatus node hnode
    · rintro ⟨_, error, ⟨named, rfl, honce, rfl⟩, herror, hreason, hstatus⟩
      obtain ⟨node, hnode, rfl⟩ := Option.map_eq_some_iff.1 herror
      refine .object honce hnode (fun status hmem => ?_) ((gives_iff node reason).2 hreason)
      exact hstatus ⟨126, status⟩ (Option.map_eq_some_iff.2 ⟨status, hmem, rfl⟩)
  | array items =>
    simp only [Written.record?_array_eq_some_iff]
    constructor
    · intro h
      cases h with
      | @array error statuses _ hlength hstatus hreason =>
        refine ⟨_, ⟨126, error⟩, ⟨Nat.succ_le_succ hlength, rfl⟩, rfl,
          (gives_iff error reason).1 hreason, ?_⟩
        rcases statuses with _ | ⟨status, _ | _⟩
        · exact nofun
        · rintro _ hmem
          obtain rfl := Option.some.inj hmem
          exact hstatus status (List.mem_singleton_self _)
        · simp at hlength
    · rintro ⟨_, error, ⟨hlength, rfl⟩, herror, hreason, hstatus⟩
      rcases items with _ | ⟨first, statuses⟩
      · exact nomatch herror
      · obtain rfl := Option.some.inj herror
        refine .array (Nat.le_of_succ_le_succ hlength) (fun status hmem => ?_)
          ((gives_iff first reason).2 hreason)
        rcases statuses with _ | ⟨other, _ | _⟩
        · exact nomatch hmem
        · obtain rfl := List.mem_singleton.1 hmem
          exact hstatus ⟨126, status⟩ rfl
        · simp at hlength
  | null | bool | number | text =>
    refine iff_of_false nofun ?_
    rintro ⟨field, error, hfield, -⟩
    exact nomatch hfield

/-- A text states the reason that is read from it, if it is read as an answer at all. -/
theorem states_iff {text reason : String} :
    States text reason ↔
      ∃ refusal, (Written.ofText? text).bind read? = some refusal ∧
        refusal.error.text = reason := by
  have hwritten : Written.ofText? text =
      (Json.Node.ofText? text).map (Written.mk Json.greatestDepth) := rfl
  simp only [States, refuses_iff, hwritten, Option.bind_map, Option.bind_eq_some_iff,
    Function.comp_apply]
  constructor
  · rintro ⟨node, hnode, refusal, hread, hreason⟩
    exact ⟨refusal, ⟨node, hnode, hread⟩, hreason⟩
  · rintro ⟨refusal, ⟨node, hnode, hread⟩, hreason⟩
    exact ⟨node, hnode, refusal, hread, hreason⟩

end Refusal

end Faceted
