/-
What the filter and the zero policy do to a load.

Both act on single records before anything is gathered, and gathering respects them: records that are left out are
entries that are left out (`gather_eq_restrict`), and scores that are changed in the records are changed in the entries
(`gather_map_changePart`). Neither has a say in whether the files can be read. So loading with a filter is loading
everything and keeping what the filter keeps (`load_filter_restricts`), and the two zero policies load the same
benchmarks with the same scores, but for the zeros (`load_zero_policies_agree`).
-/
import Benchwork.Proofs.Benchmark.Loading
import Benchwork.Proofs.Number.Finite

namespace Benchwork.Benchmark

/-! ## The filter -/

theorem Filter.keeps_all (g n : String) : ({} : Filter).keeps g n = true := by
  simp [keeps]

theorem Load.gather_eq_restrict (filter : Filter) (parts : List (List Record × Option Vm)) :
    gather filter parts = (gather {} parts).restrict filter.keeps := by
  refine (wellFormed_gather filter parts).ext (Results.wellFormed_restrict _ _) ?_ fun g n => ?_
  · rw [vm_gather]
    exact (vm_gather {} parts).symm
  · rw [Results.get?_restrict, get?_gather, get?_gather, if_pos (Filter.keeps_all g n)]

theorem Load.eq_noData_of_nonEmpty {s : Results} {e : PlotError} (h : nonEmpty s = .error e) : e = .noData := by
  unfold nonEmpty at h
  split_ifs at h
  exact (Except.error.inj h).symm

theorem Results.isEmpty_restrict {s : Results} (h : s.isEmpty = true) (keep : String → String → Bool) :
    (s.restrict keep).isEmpty = true := by
  have hgroups : s.groups = [] := by simpa [isEmpty] using h
  simp [isEmpty, restrict, hgroups]

/-- **Loading with a filter is loading everything and keeping what the filter keeps.** The filter hides no failure of
the files. -/
theorem Results.load_filter_restricts (fs : FileStore) (files : List Path) (filter : Filter) (zero : ZeroPolicy) :
    (∀ e, (Results.load fs files filter zero = .error e ∧ e ≠ .noData) ↔
      (Results.load fs files {} zero = .error e ∧ e ≠ .noData)) ∧
    Results.load fs files filter zero =
      match Results.load fs files {} zero with
      | .error e => .error e
      | .ok s => if (s.restrict filter.keeps).isEmpty then .error .noData else .ok (s.restrict filter.keeps) := by
  simp only [Load.load_eq]
  cases files.mapM (Load.records fs zero) with
  | error e => exact ⟨fun e' => Iff.rfl, rfl⟩
  | ok parts =>
    -- once the files are read, nothing but an empty set can fail
    refine ⟨fun e => ⟨fun h => absurd (Load.eq_noData_of_nonEmpty h.1) h.2,
      fun h => absurd (Load.eq_noData_of_nonEmpty h.1) h.2⟩, ?_⟩
    change Load.nonEmpty (Load.gather filter parts) = match Load.nonEmpty (Load.gather {} parts) with
      | .error e => .error e
      | .ok s => if (s.restrict filter.keeps).isEmpty then .error .noData else .ok (s.restrict filter.keeps)
    rw [Load.gather_eq_restrict filter parts]
    unfold Load.nonEmpty
    by_cases hempty : (Load.gather {} parts).isEmpty = true
    · rw [if_pos hempty, if_pos (isEmpty_restrict hempty filter.keeps)]
    · rw [if_neg hempty]

/-! ## The zero policy -/

/-- a zero, of either sign, taken as a missing measurement -/
def withoutZero (score : Option Float) : Option Float :=
  if score = some 0.0 ∨ score = some (-0.0) then none else score

def Record.withScore (f : Option Float → Option Float) (r : Record) : Record := { r with score := f r.score }

theorem Entry.readScore_missing (x : Json) : readScore .missing x = (readScore .keep x).map withoutZero := by
  cases x with
  | number n =>
    have hzero := Number.beq_zero_iff n.toFloat
    by_cases h : (n.toFloat == 0.0) = true
    · simp [readScore, Except.map, withoutZero, h, hzero.1 h]
    · simp [readScore, Except.map, withoutZero, h, mt hzero.2 h]
  | null => simp [readScore, Except.map, withoutZero]
  | bool b => rfl
  | string s => rfl
  | array items => rfl
  | object fields => rfl

theorem Entry.validate_missing (e : Entry) :
    e.validate .missing = (e.validate .keep).map (Record.withScore withoutZero) := by
  unfold validate
  cases e.identifier with
  | none => rfl
  | some identifier =>
    cases hparts : split? identifier with
    | none => simp only [hparts]; rfl
    | some parts =>
      cases e.metric with
      | none => simp only [hparts]; rfl
      | some metric =>
        cases hscore : metric.lookup "score" with
        | none => simp only [hparts, hscore]; rfl
        | some x =>
          simp only [hparts, hscore, readScore_missing]
          cases readScore .keep x with
          | error fault => rfl
          | ok score => rfl

theorem eachFrom_map {α β γ : Type} (path : Path) {f : α → Except EntryFault β} {f' : α → Except EntryFault γ}
    {h : β → γ} (hf : ∀ x, f' x = (f x).map h) (index : Nat) (xs : List α) :
    eachFrom path f' index xs = (eachFrom path f index xs).map (List.map h) := by
  induction xs generalizing index with
  | nil => rfl
  | cons x xs ih =>
    rw [eachFrom, eachFrom, hf, ih]
    cases f x with
    | error fault => rfl
    | ok y =>
      cases eachFrom path f (index + 1) xs with
      | error e => rfl
      | ok ys => rfl

namespace Load

/-- the records of a file with their scores changed by `f` -/
def changePart (f : Option Float → Option Float) (part : List Record × Option Vm) : List Record × Option Vm :=
  (part.1.map (Record.withScore f), part.2)

theorem records_missing (fs : FileStore) (path : Path) :
    records fs .missing path = (records fs .keep path).map (changePart withoutZero) := by
  unfold records
  cases entries fs path with
  | error e => rfl
  | ok es =>
    have heach := eachFrom_map path Entry.validate_missing 0 es
    cases hrs : eachFrom path (Entry.validate .keep) 0 es with
    | error e => simp [heach, hrs, bind, Except.bind, Except.map]
    | ok rs => simp [heach, hrs, bind, Except.bind, Except.map, pure, Except.pure, changePart, Record.withScore]

theorem gather_map_changePart (f : Option Float → Option Float) (filter : Filter)
    (parts : List (List Record × Option Vm)) :
    gather filter (parts.map (changePart f)) = (gather filter parts).mapScores f := by
  refine (wellFormed_gather filter _).ext ((wellFormed_gather filter parts).mapScores f) ?_ fun g n => ?_
  · have hvm := vm_gather filter parts
    rw [vm_gather, List.getLast?_map, Option.bind_map]
    exact hvm.symm
  · have hscore : ∀ r : Record, (r.withScore f).scoreFor g n = (r.scoreFor g n).map f := by
      intro r
      unfold Record.scoreFor
      rw [apply_ite (Option.map f)]
      rfl
    have hscores : ((parts.map (changePart f)).flatMap (·.1)).filterMap (Record.scoreFor g n) =
        ((parts.flatMap (·.1)).filterMap (Record.scoreFor g n)).map f := by
      simp [List.flatMap_map, List.filterMap_flatMap, List.map_flatMap, changePart, List.filterMap_map,
        List.map_filterMap, hscore]
    rw [Results.get?_mapScores, get?_gather, get?_gather, hscores, List.getLast?_map, apply_ite (Option.map f)]
    rfl

theorem load_missing (fs : FileStore) (files : List Path) (filter : Filter) :
    Results.load fs files filter .missing = (Results.load fs files filter .keep).map (Results.mapScores withoutZero) := by
  rw [load_eq, load_eq, mapM_eq_map (records_missing fs) files]
  cases files.mapM (records fs .keep) with
  | error e => rfl
  | ok parts =>
    change nonEmpty (gather filter (parts.map (changePart withoutZero))) = (nonEmpty (gather filter parts)).map _
    rw [gather_map_changePart]
    unfold nonEmpty
    have hempty : ((gather filter parts).mapScores withoutZero).isEmpty = (gather filter parts).isEmpty := by
      simp [Results.isEmpty, Results.mapScores]
    rw [hempty, apply_ite (Except.map _)]
    rfl

end Load

def Results.keys (s : Results) : List (String × List String) := s.groups.map fun g => (g.1, Ordered.keys g.2)

theorem Results.keys_mapScores (f : Option Float → Option Float) (s : Results) : (s.mapScores f).keys = s.keys := by
  simp [keys, mapScores, changeEach, Ordered.keys, Function.comp_def]

/-- **The zero policy changes nothing but zeros.** -/
theorem Results.load_zero_policies_agree (fs : FileStore) (files : List Path) (filter : Filter) :
    (∃ e, Results.load fs files filter .missing = .error e ∧ Results.load fs files filter .keep = .error e) ∨
    ∃ m k, Results.load fs files filter .missing = .ok m ∧ Results.load fs files filter .keep = .ok k ∧
      m.vm = k.vm ∧ m.keys = k.keys ∧
      ∀ g n, m.get? g n = (k.get? g n).map fun x => if x = none ∨ x = some 0.0 ∨ x = some (-0.0) then none else x := by
  rw [Load.load_missing]
  cases hkeep : Results.load fs files filter .keep with
  | error e => exact .inl ⟨e, rfl, rfl⟩
  | ok k =>
    refine .inr ⟨k.mapScores withoutZero, k, rfl, rfl, rfl, keys_mapScores withoutZero k, fun g n => ?_⟩
    rw [get?_mapScores]
    congr 1
    funext x
    cases x with
    | none => simp [withoutZero]
    | some y => simp [withoutZero]

end Benchwork.Benchmark
