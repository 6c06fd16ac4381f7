/-
Identifiers, and the entries that are valid.

An identifier names a group and a benchmark if they are its last two parts between dots, and neither is empty; whatever
stands before them makes no difference (`Identifies`, `split?_eq_some_iff`). A measured value is a number or null, and
what becomes of it depends on what zeros mean (`Measures`). An entry is valid exactly if it has both, and then its record
is told by them (`validate_eq_ok`). Otherwise it is refused for the first of its parts that is bad (`FirstBad`,
`validate_eq_error`).
-/
import Benchwork.Benchmark.Entry
import Benchwork.Proofs.Text.Words

namespace Benchwork.Benchmark

open Benchwork.Text

/-! ## Identifiers -/

/-- the last two parts between the dots of the identifier, neither of them empty -/
structure Identifies (identifier group name : String) : Prop where
  group_ne : group ≠ ""
  name_ne : name ≠ ""
  dot_not_mem_group : '.' ∉ group.toList
  dot_not_mem_name : '.' ∉ name.toList
  form : identifier = group ++ "." ++ name ∨ ∃ before, identifier = before ++ "." ++ group ++ "." ++ name

/-- what stands before the last two parts makes no difference -/
theorem Identifies.with_before {group name : String} (h : Identifies (group ++ "." ++ name) group name)
    (before : String) : Identifies (before ++ "." ++ group ++ "." ++ name) group name :=
  { h with form := .inr ⟨before, rfl⟩ }

namespace Entry

theorem split?_eq_some {identifier group name : String} : split? identifier = some (group, name) ↔
    group ≠ "" ∧ name ≠ "" ∧ ∃ before, identifier.toList.splitOn '.' = before ++ [group.toList, name.toList] := by
  constructor
  · intro h
    unfold split? at h
    split at h
    · rename_i n g rest hrev
      split_ifs at h with hne
      obtain ⟨rfl, rfl⟩ := Prod.mk.inj (Option.some.inj h)
      refine ⟨by simpa using hne.2, by simpa using hne.1, rest.reverse, ?_⟩
      rw [← List.reverse_reverse (identifier.toList.splitOn '.'), hrev]
      simp
    · cases h
  · rintro ⟨hgroup, hname, before, hpieces⟩
    simp [split?, hpieces, hgroup, hname]

theorem split?_eq_some_iff {identifier group name : String} :
    split? identifier = some (group, name) ↔ Identifies identifier group name := by
  have hform : (identifier.toList = group.toList ++ '.' :: name.toList ∨
      ∃ before, identifier.toList = before ++ '.' :: (group.toList ++ '.' :: name.toList)) ↔
      (identifier = group ++ "." ++ name ∨ ∃ before, identifier = before ++ "." ++ group ++ "." ++ name) := by
    simp only [← String.toList_inj, String.toList_append, String.reduceToList, List.append_assoc, List.cons_append,
      List.nil_append]
    refine or_congr_right ⟨?_, ?_⟩
    · rintro ⟨before, h⟩
      exact ⟨String.ofList before, by rw [h, String.toList_ofList]⟩
    · rintro ⟨before, h⟩
      exact ⟨before.toList, h⟩
  rw [split?_eq_some, exists_splitOn_eq_pair, hform]
  constructor
  · rintro ⟨hgroup, hname, hdot, hdot', h⟩
    exact ⟨hgroup, hname, hdot, hdot', h⟩
  · intro h
    exact ⟨h.group_ne, h.name_ne, h.dot_not_mem_group, h.dot_not_mem_name, h.form⟩

theorem split?_eq_none {identifier : String} :
    split? identifier = none ↔ ∀ group name, ¬ Identifies identifier group name := by
  simp only [← split?_eq_some_iff, Option.eq_none_iff_forall_ne_some, Prod.forall]

/-! ## Scores -/

def IsScore (x : Json) : Prop := x = .null ∨ ∃ n, x = .number n

/-- what a measured value comes to: null is a missing score, and so is a zero unless zeros are kept -/
inductive Measures (zero : ZeroPolicy) : Json → Option Float → Prop
  | null : Measures zero .null none
  | zero {n : JsonNumber} (hpolicy : zero = .missing) (hzero : (n.toFloat == 0.0) = true) : Measures zero (.number n) none
  | number {n : JsonNumber} (hkept : ¬ (zero = .missing ∧ (n.toFloat == 0.0) = true)) :
      Measures zero (.number n) (some n.toFloat)

theorem Measures.readScore_eq {zero : ZeroPolicy} {x : Json} {score : Option Float} (h : Measures zero x score) :
    readScore zero x = .ok score := by
  cases h with
  | null => rfl
  | zero hpolicy hzero => rw [readScore, if_pos ⟨hpolicy, hzero⟩]
  | number hkept => rw [readScore, if_neg hkept]

theorem IsScore.measures {x : Json} (h : IsScore x) (zero : ZeroPolicy) : ∃ score, Measures zero x score := by
  rcases h with rfl | ⟨n, rfl⟩
  · exact ⟨none, .null⟩
  · by_cases hzero : zero = .missing ∧ (n.toFloat == 0.0) = true
    · exact ⟨none, .zero hzero.1 hzero.2⟩
    · exact ⟨_, .number hzero⟩

theorem Measures.isScore {zero : ZeroPolicy} {x : Json} {score : Option Float} (h : Measures zero x score) :
    IsScore x := by
  cases h with
  | null => exact .inl rfl
  | zero => exact .inr ⟨_, rfl⟩
  | number => exact .inr ⟨_, rfl⟩

theorem readScore_of_not {x : Json} (h : ¬ IsScore x) (zero : ZeroPolicy) : readScore zero x = .error (.badScore x) := by
  cases x with
  | null => exact absurd (.inl rfl) h
  | number n => exact absurd (.inr ⟨n, rfl⟩) h
  | bool => rfl
  | string => rfl
  | array => rfl
  | object => rfl

/-! ## Validation -/

inductive Valid (zero : ZeroPolicy) (e : Entry) : Record → Prop
  | mk {identifier group name : String} {metric : List (String × Json)} {x : Json} {score : Option Float}
      (hidentifier : e.identifier = some identifier) (hnames : Identifies identifier group name)
      (hmetric : e.metric = some metric) (hx : metric.lookup "score" = some x) (hscore : Measures zero x score) :
      Valid zero e ⟨group, name, score⟩

/-- there is an identifier, and it names a group and a benchmark -/
def IsNamed (e : Entry) : Prop :=
  ∃ identifier group name, e.identifier = some identifier ∧ Identifies identifier group name

/-- what is wrong with an entry: the first of its parts that is bad -/
inductive FirstBad (e : Entry) : EntryFault → Prop
  | noIdentifier (hidentifier : e.identifier = none) : FirstBad e .noIdentifier
  | noGroup {identifier : String} (hidentifier : e.identifier = some identifier)
      (hnames : ∀ group name, ¬ Identifies identifier group name) : FirstBad e (.noGroup identifier)
  | noMetric (hnamed : e.IsNamed) (hmetric : e.metric = none) : FirstBad e .noMetric
  | noScore {metric : List (String × Json)} (hnamed : e.IsNamed) (hmetric : e.metric = some metric)
      (hx : metric.lookup "score" = none) : FirstBad e .noScore
  | badScore {metric : List (String × Json)} {x : Json} (hnamed : e.IsNamed) (hmetric : e.metric = some metric)
      (hx : metric.lookup "score" = some x) (hbad : ¬ IsScore x) : FirstBad e (.badScore x)

section Validation

variable {zero : ZeroPolicy} {e : Entry}

theorem Valid.validate_eq {r : Record} (h : Valid zero e r) : validate zero e = .ok r := by
  obtain ⟨hidentifier, hnames, hmetric, hx, hscore⟩ := h
  simp [validate, hidentifier, split?_eq_some_iff.2 hnames, hmetric, hx, hscore.readScore_eq, Except.map]

theorem FirstBad.validate_eq {fault : EntryFault} (h : FirstBad e fault) (zero : ZeroPolicy) :
    validate zero e = .error fault := by
  cases h with
  | noIdentifier hidentifier => simp [validate, hidentifier]
  | noGroup hidentifier hnames => simp [validate, hidentifier, split?_eq_none.2 hnames]
  | noMetric hnamed hmetric =>
    obtain ⟨identifier, group, name, hidentifier, hnames⟩ := hnamed
    simp [validate, hidentifier, split?_eq_some_iff.2 hnames, hmetric]
  | noScore hnamed hmetric hx =>
    obtain ⟨identifier, group, name, hidentifier, hnames⟩ := hnamed
    simp [validate, hidentifier, split?_eq_some_iff.2 hnames, hmetric, hx]
  | badScore hnamed hmetric hx hbad =>
    obtain ⟨identifier, group, name, hidentifier, hnames⟩ := hnamed
    simp [validate, hidentifier, split?_eq_some_iff.2 hnames, hmetric, hx, readScore_of_not hbad, Except.map]

/-- an entry is valid or has a part that is the first bad one -/
theorem exists_valid_or_firstBad (zero : ZeroPolicy) (e : Entry) : (∃ r, Valid zero e r) ∨ ∃ fault, FirstBad e fault := by
  cases hidentifier : e.identifier with
  | none => exact .inr ⟨_, .noIdentifier hidentifier⟩
  | some identifier =>
    by_cases hnames : ∃ group name, Identifies identifier group name
    · obtain ⟨group, name, hnames⟩ := hnames
      have hnamed : e.IsNamed := ⟨identifier, group, name, hidentifier, hnames⟩
      cases hmetric : e.metric with
      | none => exact .inr ⟨_, .noMetric hnamed hmetric⟩
      | some metric =>
        cases hx : metric.lookup "score" with
        | none => exact .inr ⟨_, .noScore hnamed hmetric hx⟩
        | some x =>
          by_cases hscore : IsScore x
          · obtain ⟨score, hmeasures⟩ := hscore.measures zero
            exact .inl ⟨_, .mk hidentifier hnames hmetric hx hmeasures⟩
          · exact .inr ⟨_, .badScore hnamed hmetric hx hscore⟩
    · exact .inr ⟨_, .noGroup hidentifier fun group name h => hnames ⟨group, name, h⟩⟩

theorem validate_eq_ok {r : Record} : validate zero e = .ok r ↔ Valid zero e r := by
  refine ⟨fun h => ?_, Valid.validate_eq⟩
  rcases exists_valid_or_firstBad zero e with ⟨r', hvalid⟩ | ⟨fault, hbad⟩
  · obtain rfl : r' = r := Except.ok.inj (hvalid.validate_eq.symm.trans h)
    exact hvalid
  · cases (hbad.validate_eq zero).symm.trans h

theorem validate_eq_error {fault : EntryFault} : validate zero e = .error fault ↔ FirstBad e fault := by
  refine ⟨fun h => ?_, fun h => h.validate_eq zero⟩
  rcases exists_valid_or_firstBad zero e with ⟨r, hvalid⟩ | ⟨fault', hbad⟩
  · cases hvalid.validate_eq.symm.trans h
  · obtain rfl : fault' = fault := Except.error.inj ((hbad.validate_eq zero).symm.trans h)
    exact hbad

/-- an entry is valid exactly if each of its parts is good -/
theorem exists_valid_iff : (∃ r, Valid zero e r) ↔
    e.IsNamed ∧ ∃ metric x, e.metric = some metric ∧ metric.lookup "score" = some x ∧ IsScore x := by
  constructor
  · rintro ⟨_, hidentifier, hnames, hmetric, hx, hscore⟩
    exact ⟨⟨_, _, _, hidentifier, hnames⟩, _, _, hmetric, hx, hscore.isScore⟩
  · rintro ⟨⟨identifier, group, name, hidentifier, hnames⟩, metric, x, hmetric, hx, hx'⟩
    obtain ⟨score, hscore⟩ := hx'.measures zero
    exact ⟨_, .mk hidentifier hnames hmetric hx hscore⟩

end Validation

/-- **Entries are checked by a grammar.** An entry is valid exactly if its identifier is `group.name`, with anything
and a dot before it or not, and it has a metric with a score that is null or a number. Its record is then told by
these, whatever stands before the group. If the entry is not valid, the first of its parts that is bad is reported. -/
theorem validate_follows_grammar (zero : ZeroPolicy) (e : Entry) :
    ((∃ r, validate zero e = .ok r) ↔ e.IsNamed ∧
      ∃ metric x, e.metric = some metric ∧ metric.lookup "score" = some x ∧ IsScore x) ∧
    (∀ r, validate zero e = .ok r ↔ Valid zero e r) ∧ (∀ fault, validate zero e = .error fault ↔ FirstBad e fault) ∧
    ∀ before group name, Identifies (group ++ "." ++ name) group name →
      validate zero { e with identifier := some (before ++ "." ++ group ++ "." ++ name) } =
        validate zero { e with identifier := some (group ++ "." ++ name) } := by
  refine ⟨?_, fun r => validate_eq_ok, fun fault => validate_eq_error, fun before group name hnames => ?_⟩
  · simp only [validate_eq_ok]
    exact exists_valid_iff
  · simp only [validate, split?_eq_some_iff.2 hnames, split?_eq_some_iff.2 (hnames.with_before before)]

/-- empty parts before the group do not matter, but the group itself must not be empty, and this is said before anything
about the metric that is missing too -/
theorem validate_follows_grammar_dotted :
    Identifies ("TestPush" ++ "." ++ "sum") "TestPush" "sum" ∧
      validate .keep { identifier := some "..TestPush.sum", metric := some [("score", .null)] } =
        .ok ⟨"TestPush", "sum", none⟩ ∧
      validate .keep { identifier := some "TestPush..sum" } = .error (.noGroup "TestPush..sum") ∧
      validate .keep { identifier := some "TestPush.sum" } = .error .noMetric := by
  have hnames : Identifies ("TestPush" ++ "." ++ "sum") "TestPush" "sum" :=
    ⟨by decide, by decide, by decide, by decide, .inl rfl⟩
  have hempty : ∀ group name, ¬ Identifies "TestPush..sum" group name := split?_eq_none.1 (by decide +kernel)
  refine ⟨hnames, ?_, ?_, ?_⟩
  · have hbefore := (validate_follows_grammar .keep { metric := some [("score", .null)] }).2.2.2 "." _ _ hnames
    exact hbefore.trans (((validate_follows_grammar .keep _).2.1 _).2 (.mk rfl hnames rfl rfl .null))
  · exact ((validate_follows_grammar .keep _).2.2.1 _).2 (.noGroup rfl hempty)
  · exact ((validate_follows_grammar .keep _).2.2.1 _).2 (.noMetric ⟨_, _, _, rfl, hnames⟩ rfl)

end Entry

end Benchwork.Benchmark
