import Faceted.Proofs.Json.Path
import Faceted.Query.Basic

/-!
# Fragments one after the other

Two fragments may be laid over a document one after the other, or be put together first and laid
over it as one. The two ways differ only where the first fragment has something between two
values that would be merged: an array that is replaced by a number, for example, is gone when
the second fragment brings items for it, whereas the number never gets to the document when the
two fragments are put together first. If nothing of this kind happens the results are the same,
down to the order of names.

## Main definitions

* `Json.Compatible` — the middle one of three values does not come between two that are alike
* `Json.overlay?` — what may be absent, laid over what may be absent

## Main results

* `induction_on_members` — induction along the members of a value
* `overlayValue_overlayValue` — three values laid over one another
* `overlay_assoc_of_compatible` — three objects, and fragments that a query brings together
-/

namespace Faceted.Json

open Entries

/-! ### Induction along members -/

theorem sizeOf_lt_of_get? {members : Entries Json} {name : String} {value : Json}
    (h : get? members name = some value) : sizeOf value < sizeOf members := by
  induction members with
  | nil => exact absurd h (Option.some_ne_none value).symm
  | cons entry rest ih =>
    obtain ⟨key, first⟩ := entry
    rw [List.cons.sizeOf_spec, Prod.mk.sizeOf_spec]
    by_cases hkey : key = name
    · rw [get?, if_pos hkey, Option.some_inj] at h
      subst h
      omega
    · have hrest := ih (get?_cons_of_ne first rest hkey ▸ h)
      omega

theorem sizeOf_lt_of_member? {value inner : Json} {name : String}
    (h : value.member? name = some inner) : sizeOf inner < sizeOf value := by
  cases value with
  | object members =>
    have hmembers : sizeOf inner < sizeOf members := sizeOf_lt_of_get? h
    rw [object.sizeOf_spec]
    omega
  | _ => exact absurd h (Option.some_ne_none inner).symm

/-- What holds of a value as soon as it holds of all its members holds of every value. -/
@[elab_as_elim]
theorem induction_on_members {motive : Json → Prop} (value : Json)
    (step : ∀ value : Json, (∀ name inner, value.member? name = some inner → motive inner) →
      motive value) : motive value :=
  step value fun _ inner _ => induction_on_members inner step
termination_by sizeOf value
decreasing_by exact sizeOf_lt_of_member? ‹_›

/-! ### One value after the other -/

/-- Wherever the outer two of three values have something alike, what the middle one has there, if
anything, is like it too. -/
def Compatible (first second third : Json) : Prop :=
  ∀ path a b c, first.at? path = some a → second.at? path = some b → third.at? path = some c →
    a.Like c → b.Like c

theorem Compatible.member {first second third : Json} (h : Compatible first second third)
    {name : String} {a b c : Json} (ha : first.member? name = some a)
    (hb : second.member? name = some b) (hc : third.member? name = some c) : Compatible a b c := by
  intro path x y z hx hy hz
  have below {value inner found : Json} (hinner : value.member? name = some inner)
      (hfound : inner.at? path = some found) : value.at? (name :: path) = some found := by
    rw [at?, hinner, Option.bind_some, hfound]
  exact h (name :: path) x y z (below ha hx) (below hb hy) (below hc hz)

/-- Objects are compatible if what they have under each name is. -/
theorem compatible_object {first second third : Entries Json}
    (h : ∀ name a b c, get? first name = some a → get? second name = some b →
      get? third name = some c → Compatible a b c) :
    Compatible (.object first) (.object second) (.object third) := by
  intro path x y z hx hy hz hlike
  cases path with
  | nil =>
    obtain rfl : object second = y := Option.some.inj hy
    obtain rfl : object third = z := Option.some.inj hz
    exact ⟨.object, rfl, rfl⟩
  | cons name path =>
    rw [at?_cons] at hx hy hz
    obtain ⟨a, ha, hx⟩ := Option.bind_eq_some_iff.1 hx
    obtain ⟨b, hb, hy⟩ := Option.bind_eq_some_iff.1 hy
    obtain ⟨c, hc, hz⟩ := Option.bind_eq_some_iff.1 hz
    exact h name a b c ha hb hc path x y z hx hy hz hlike

/-- What is at a place after something, if there is something, was laid over it. -/
def overlay? (old new : Option Json) : Option Json :=
  (new.map (overlayValue old)).or old

theorem get?_overlay_eq_overlay? (base : Entries Json) {fragment : Entries Json}
    (h : (keys fragment).Nodup) (name : String) :
    get? (overlay base fragment) name = overlay? (get? base name) (get? fragment name) :=
  get?_overlay base h name

theorem overlay?_assoc {first second third : Option Json}
    (h : ∀ a b c, first = some a → second = some b → third = some c →
      overlayValue (some (overlayValue (some a) b)) c =
        overlayValue (some a) (overlayValue (some b) c)) :
    overlay? (overlay? first second) third = overlay? first (overlay? second third) := by
  cases third with
  | none => rfl
  | some c =>
    cases second with
    | none => simp [overlay?, overlayValue_none]
    | some b =>
      cases first with
      | none => simp [overlay?, overlayValue_none]
      | some a => exact congrArg some (h a b c rfl rfl rfl)

/-- The names of three objects laid over one another come in one order, whichever two are taken
together. -/
theorem keys_overlay_overlay (first : Entries Json) {second third : Entries Json}
    (hsecond : (keys second).Nodup) (hthird : (keys third).Nodup) :
    keys (overlay (overlay first second) third) = keys (overlay first (overlay second third)) := by
  rw [keys_overlay_of_nodup _ hthird, keys_overlay_of_nodup _ hsecond,
    keys_overlay_of_nodup _ (nodup_keys_overlay third hsecond), keys_overlay_of_nodup _ hthird,
    List.filter_append, List.filter_filter, List.append_assoc]
  refine congrArg _ (congrArg _ (List.filter_congr fun name _ => ?_))
  by_cases hmem : name ∈ keys first <;> simp [hmem]

/-- Values that are laid over one another may be put together from the front or from the back, as
long as the one in the middle does not come between two that are alike. -/
theorem overlayValue_overlayValue {first second third : Json} (hfirst : first.Distinct)
    (hsecond : second.Distinct) (hthird : third.Distinct) (h : Compatible first second third) :
    overlayValue (some (overlayValue (some first) second)) third =
      overlayValue (some first) (overlayValue (some second) third) := by
  induction third using induction_on_members generalizing first second with
  | step third ih =>
    by_cases hmiddle : second.Like third
    · by_cases hfront : first.Like second
      · -- All three are of one kind.
        obtain ⟨kind, hkindThird, hkindFirst⟩ := (hfront.trans hmiddle).symm
        obtain ⟨_, hkindSecond, hkind⟩ := hmiddle
        obtain rfl := Option.some.inj (hkindThird.symm.trans hkind)
        cases kind with
        | array =>
          obtain ⟨items, rfl⟩ := container?_eq_some_array_iff.1 hkindFirst
          obtain ⟨more, rfl⟩ := container?_eq_some_array_iff.1 hkindSecond
          obtain ⟨most, rfl⟩ := container?_eq_some_array_iff.1 hkindThird
          simp only [overlayValue, List.append_assoc]
        | object =>
          obtain ⟨base, rfl⟩ := container?_eq_some_object_iff.1 hkindFirst
          obtain ⟨fragment, rfl⟩ := container?_eq_some_object_iff.1 hkindSecond
          obtain ⟨last, rfl⟩ := container?_eq_some_object_iff.1 hkindThird
          simp only [overlayValue]
          have hbase := hfirst.nodup_keys
          have hfragment := hsecond.nodup_keys
          have hlast := hthird.nodup_keys
          -- The names come in the same order, and under each of them the same holds by induction.
          refine congrArg object (ext_of_nodup
            (nodup_keys_overlay last (nodup_keys_overlay fragment hbase))
            (keys_overlay_overlay base hfragment hlast) fun name => ?_)
          rw [get?_overlay_eq_overlay? _ hlast, get?_overlay_eq_overlay? _ hfragment,
            get?_overlay_eq_overlay? _ (nodup_keys_overlay last hfragment),
            get?_overlay_eq_overlay? _ hlast]
          apply overlay?_assoc
          intro a b c ha hb hc
          exact ih name c hc (hfirst.of_get? ha) (hsecond.of_get? hb) (hthird.of_get? hc)
            (h.member ha hb hc)
      · -- The first is replaced by the second, and by what the third makes of it.
        have hback : ¬ first.Like (overlayValue (some second) third) := fun hlike =>
          hfront ((hmiddle.trans (overlayValue_like_iff.1 hlike.symm)).symm)
        rw [overlayValue_of_not_like hfront, overlayValue_of_not_like hback]
    · -- The third replaces the second, and what the second made of the first, and also the first.
      have hfront : ¬ (overlayValue (some first) second).Like third := fun hlike =>
        hmiddle (overlayValue_like_iff.1 hlike)
      have houter : ¬ first.Like third := fun hlike =>
        hmiddle (h [] first second third rfl rfl rfl hlike)
      rw [overlayValue_of_not_like hfront, overlayValue_of_not_like hmiddle,
        overlayValue_of_not_like houter]

/-- Laying two fragments over a document one after the other is the same as laying the two together
over it, unless the first comes between two values that are alike. So a query may bring its
fragments together, and have them laid over its document as one. -/
theorem overlay_assoc_of_compatible {first second third : Entries Json}
    (hfirst : (object first).Distinct) (hsecond : (object second).Distinct)
    (hthird : (object third).Distinct)
    (h : Compatible (.object first) (.object second) (.object third)) :
    overlay (overlay first second) third = overlay first (overlay second third) ∧
      ∀ query : Query, query.sections = first → query.extensions = second →
        overlay query.document third =
          Query.document { query with extensions := overlay second third } := by
  have hassoc : overlay (overlay first second) third = overlay first (overlay second third) := by
    have hvalues := overlayValue_overlayValue hfirst hsecond hthird h
    simp only [overlayValue, object.injEq] at hvalues
    exact hvalues
  refine ⟨hassoc, ?_⟩
  rintro query rfl rfl
  exact hassoc

/-- A query for a color with a boost and an order, over which another fragment brings a further
condition and continues the order. -/
theorem overlay_assoc_of_compatible_color :
    let query : Query :=
      { required := [⟨.term, "color", .text "red"⟩]
        extensions := [("query", .object [("bool", .object [("boost", .nat 2)])]),
          ("sort", .array [.text "price"])] }
    let last : Entries Json :=
      [("sort", .array [.text "name"]),
        ("query", .object [("bool", .object [("must", .array [.null])])])]
    (object query.sections).Distinct ∧ (object query.extensions).Distinct ∧ (object last).Distinct ∧
      Compatible (.object query.sections) (.object query.extensions) (.object last) ∧
      overlay query.document last =
        Query.document { query with extensions := overlay query.extensions last } := by
  intro query last
  have hsections : (object query.sections).Distinct := by
    simp [query, Query.sections, Query.conditionJson?, Query.mustJson, Query.filterJson,
      Query.listed, Clause.toJson, Distinct, DistinctMembers, DistinctItems, keys]
  have hextensions : (object query.extensions).Distinct := by
    simp [query, Distinct, DistinctMembers, DistinctItems, keys, Json.nat]
  have hlast : (object last).Distinct := by
    simp [last, Distinct, DistinctMembers, DistinctItems, keys]
  have hcompatible :
      Compatible (.object query.sections) (.object query.extensions) (.object last) := by
    -- All three have the object `query` only, and in it the object `bool`, in
    -- which they share no name.
    apply compatible_object
    intro name a b c ha hb hc
    obtain rfl : "query" = name := by
      by_contra hname
      exact absurd ha (by simp [query, Query.sections, Query.conditionJson?, Query.mustJson,
        get?, hname])
    obtain rfl := Option.some.inj ha
    obtain rfl := Option.some.inj hb
    obtain rfl := Option.some.inj hc
    apply compatible_object
    intro name a b c ha hb hc
    obtain rfl : "bool" = name := by
      by_contra hname
      exact absurd hb (by simp [get?, hname])
    obtain rfl := Option.some.inj ha
    obtain rfl := Option.some.inj hb
    obtain rfl := Option.some.inj hc
    apply compatible_object
    intro name a b c ha hb hc
    obtain rfl : "boost" = name := by
      by_contra hname
      exact absurd hb (by simp [get?, hname])
    exact absurd hc (by simp [get?])
  exact ⟨hsections, hextensions, hlast, hcompatible,
    (overlay_assoc_of_compatible hsections hextensions hlast hcompatible).2 query rfl rfl⟩

/-- Between two lists a number makes the difference that the condition excludes. -/
example :
    overlay (overlay [("sort", .array [.text "price"])] [("sort", .nat 1)]) [("sort", .array [])] =
        [("sort", .array [])] ∧
      overlay [("sort", .array [.text "price"])]
          (overlay [("sort", .nat 1)] [("sort", .array [])]) =
        [("sort", .array [.text "price"])] := by
  constructor <;> rfl

end Faceted.Json
