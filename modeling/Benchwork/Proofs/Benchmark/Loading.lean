/-
What is loaded.

Reading a file does not depend on what was loaded before, so a load reads all files first and then gathers what is in
them (`load_eq`). What is gathered has for every benchmark the last score of the records that the filter keeps
(`get?_gather`), and the virtual machine of the last file. `load_last_wins` says so about the entries of the files: a
benchmark is in the result set exactly when a valid entry gives a score for it under today's group name and the filter
keeps it, the score is the one of the last such entry, in whatever file it is, and nothing else is in the set.
-/
import Benchwork.Benchmark.Load
import Benchwork.Proofs.Benchmark.Results

namespace Benchwork.Benchmark

open Benchwork.Text

/-! ## Entries and records -/

namespace Entry

/-- the record of a valid entry with today's name of its group -/
def record? (zero : ZeroPolicy) (e : Entry) : Option Record :=
  (e.validate zero).toOption.map fun r => { r with group := Group.normalize r.group }

/-- the entry is valid, it gives this score for the name in the group, and the filter keeps them -/
def Gives (filter : Filter) (zero : ZeroPolicy) (e : Entry) (group name : String) (score : Option Float) : Prop :=
  ∃ r, e.validate zero = .ok r ∧ Group.normalize r.group = group ∧ r.name = name ∧ r.score = score ∧
    filter.keeps group name = true

theorem gives_iff {filter : Filter} {zero : ZeroPolicy} {e : Entry} {g n : String} {x : Option Float} :
    e.Gives filter zero g n x ↔
      filter.keeps g n = true ∧ (e.record? zero).bind (Record.scoreFor g n) = some x := by
  unfold Gives record?
  cases e.validate zero with
  | error fault => simp [Except.toOption]
  | ok r =>
    simp [Except.toOption, Record.scoreFor]
    tauto

theorem vm?_eq_some {e : Entry} {vm : Vm} :
    e.vm? = some vm ↔ e.vmName = some vm.name ∧ e.vmVersion = some vm.version := by
  cases vm
  simp [vm?, Option.bind_eq_some_iff]

end Entry

section Items

variable {α β : Type} {path : Path} {f : α → Except EntryFault β} {start : Nat} {xs : List α} {ys : List β}

theorem eachFrom_eq_ok_iff :
    eachFrom path f start xs = .ok ys ↔ List.Forall₂ (fun x y => f x = .ok y) xs ys := by
  constructor
  · intro h
    induction xs generalizing start ys with
    | nil => rw [← Except.ok.inj h]; exact .nil
    | cons x xs ih =>
      rw [eachFrom] at h
      cases hx : f x with
      | error fault => rw [hx] at h; cases h
      | ok y =>
        cases hrest : eachFrom path f (start + 1) xs with
        | error e => rw [hx, hrest] at h; cases h
        | ok rest =>
          rw [hx, hrest] at h
          rw [← Except.ok.inj h]
          exact .cons hx (ih hrest)
  · intro h
    induction h generalizing start with
    | nil => rfl
    | cons hx _ ih =>
      rw [eachFrom, hx, ih]
      rfl

/-- the values of items that all have one -/
theorem eachFrom_eq_ok (h : eachFrom path f start xs = .ok ys) : ys = xs.filterMap fun x => (f x).toOption := by
  have hall := eachFrom_eq_ok_iff.1 h
  clear h
  induction hall with
  | nil => rfl
  | cons hx _ ih => simpa [hx, Except.toOption] using ih

end Items

namespace Load

/-! ## Reading first, gathering after -/

/-- adds the records of a file that the filter keeps, and takes over its virtual machine -/
def addPart (filter : Filter) (s : Results) (part : List Record × Option Vm) : Results :=
  (part.1.filter fun r => filter.keeps r.group r.name).foldl Results.insert { s with vm := part.2 }

/-- what the files have together -/
def gather (filter : Filter) (parts : List (List Record × Option Vm)) : Results := parts.foldl (addPart filter) .empty

def partOf (zero : ZeroPolicy) (es : List Entry) : List Record × Option Vm :=
  (es.filterMap (Entry.record? zero), es.head?.bind Entry.vm?)

theorem addFile_eq (fs : FileStore) (filter : Filter) (zero : ZeroPolicy) (s : Results) (path : Path) :
    addFile fs filter zero s path = (records fs zero path).map (addPart filter s) := by
  unfold addFile
  cases records fs zero path with
  | error e => rfl
  | ok part => rfl

theorem foldlM_addFile (fs : FileStore) (filter : Filter) (zero : ZeroPolicy) (files : List Path) (s : Results) :
    files.foldlM (addFile fs filter zero) s =
      (files.mapM (records fs zero)).map fun parts => parts.foldl (addPart filter) s := by
  induction files generalizing s with
  | nil => rfl
  | cons path files ih =>
    rw [List.foldlM_cons, List.mapM_cons, addFile_eq]
    cases records fs zero path with
    | error e => rfl
    | ok part =>
      have hstep : (Except.map (addPart filter s) (.ok part) >>= fun t => files.foldlM (addFile fs filter zero) t) =
          files.foldlM (addFile fs filter zero) (addPart filter s part) := rfl
      rw [hstep, ih]
      cases files.mapM (records fs zero) with
      | error e => rfl
      | ok parts => rfl

/-- a result set, or the failure that there is nothing in it -/
def nonEmpty (s : Results) : Except PlotError Results := if s.isEmpty then .error .noData else .ok s

theorem load_eq (fs : FileStore) (files : List Path) (filter : Filter) (zero : ZeroPolicy) :
    Results.load fs files filter zero = files.mapM (records fs zero) >>= fun parts => nonEmpty (gather filter parts) := by
  unfold Results.load
  rw [foldlM_addFile]
  cases files.mapM (records fs zero) with
  | error e => rfl
  | ok parts => rfl

theorem records_eq_ok {fs : FileStore} {zero : ZeroPolicy} {path : Path} {part : List Record × Option Vm}
    (h : records fs zero path = .ok part) : ∃ es, entries fs path = .ok es ∧ part = partOf zero es := by
  unfold records at h
  cases hes : entries fs path with
  | error e => rw [hes] at h; cases h
  | ok es =>
    rw [hes] at h
    cases hrs : eachFrom path (Entry.validate zero) 0 es with
    | error e => simp [hrs, bind, Except.bind] at h
    | ok rs =>
      simp only [hrs, bind, Except.bind, pure, Except.pure, Except.ok.injEq] at h
      refine ⟨es, rfl, ?_⟩
      rw [← h, eachFrom_eq_ok hrs, List.map_filterMap]
      rfl

theorem mapM_records_eq_ok {fs : FileStore} {zero : ZeroPolicy} {files : List Path}
    {parts : List (List Record × Option Vm)} (h : files.mapM (records fs zero) = .ok parts) :
    ∃ ess, files.mapM (entries fs) = .ok ess ∧ parts = ess.map (partOf zero) := by
  have hparts := mapM_eq_ok h
  clear h
  induction hparts with
  | nil => exact ⟨[], rfl, rfl⟩
  | cons hpart _ ih =>
    obtain ⟨es, hes, rfl⟩ := records_eq_ok hpart
    obtain ⟨ess, hess, rfl⟩ := ih
    refine ⟨es :: ess, ?_, rfl⟩
    rw [List.mapM_cons, hes, hess]
    rfl

/-! ## What is gathered -/

/-- a record counts for a benchmark only if the filter keeps that benchmark -/
theorem filterMap_scoreFor_filter (filter : Filter) (rs : List Record) (g n : String) :
    (rs.filter fun r => filter.keeps r.group r.name).filterMap (Record.scoreFor g n) =
      if filter.keeps g n then rs.filterMap (Record.scoreFor g n) else [] := by
  rw [List.filterMap_filter]
  have hscore : ∀ r : Record, (if filter.keeps r.group r.name then r.scoreFor g n else none) =
      if filter.keeps g n then r.scoreFor g n else none := by
    intro r
    by_cases hkey : r.group = g ∧ r.name = n
    · rw [hkey.1, hkey.2]
    · simp [Record.scoreFor, hkey]
  simp only [hscore]
  split_ifs with hkeeps
  · rfl
  · exact List.filterMap_eq_nil_iff.2 fun _ _ => rfl

theorem get?_addPart (filter : Filter) (s : Results) (part : List Record × Option Vm) (g n : String) :
    (addPart filter s part).get? g n =
      (if filter.keeps g n then part.1.filterMap (Record.scoreFor g n) else []).getLast?.or (s.get? g n) := by
  rw [addPart, Results.get?_foldl_insert, filterMap_scoreFor_filter]
  rfl

theorem get?_foldl_addPart (filter : Filter) (parts : List (List Record × Option Vm)) (s : Results) (g n : String) :
    (parts.foldl (addPart filter) s).get? g n =
      (if filter.keeps g n then (parts.flatMap (·.1)).filterMap (Record.scoreFor g n) else []).getLast?.or
        (s.get? g n) := by
  induction parts generalizing s with
  | nil => simp
  | cons part parts ih =>
    -- the scores of the later files come after those of this one, and so does the last score if they have one
    rw [List.foldl_cons, ih, get?_addPart, ← Option.or_assoc, ← List.getLast?_append]
    split_ifs with hkeeps
    · rw [List.flatMap_cons, List.filterMap_append]
    · rfl

/-- the last score that the filter keeps -/
theorem get?_gather (filter : Filter) (parts : List (List Record × Option Vm)) (g n : String) :
    (gather filter parts).get? g n =
      if filter.keeps g n then ((parts.flatMap (·.1)).filterMap (Record.scoreFor g n)).getLast? else none := by
  rw [gather, get?_foldl_addPart, Results.get?_empty, Option.or_none, apply_ite List.getLast?]
  rfl

theorem vm_gather (filter : Filter) (parts : List (List Record × Option Vm)) :
    (gather filter parts).vm = parts.getLast?.bind (·.2) := by
  rcases List.eq_nil_or_concat parts with rfl | ⟨before, part, rfl⟩
  · rfl
  · simp [gather, addPart, Results.vm_foldl_insert]

theorem wellFormed_addPart {s : Results} (h : s.WellFormed) (filter : Filter) (part : List Record × Option Vm) :
    (addPart filter s part).WellFormed :=
  (h.withVm part.2).foldl_insert _

theorem wellFormed_foldl_addPart {s : Results} (h : s.WellFormed) (filter : Filter)
    (parts : List (List Record × Option Vm)) : (parts.foldl (addPart filter) s).WellFormed := by
  induction parts generalizing s with
  | nil => exact h
  | cons part parts ih => exact ih (wellFormed_addPart h filter part)

theorem wellFormed_gather (filter : Filter) (parts : List (List Record × Option Vm)) :
    (gather filter parts).WellFormed :=
  wellFormed_foldl_addPart Results.wellFormed_empty filter parts

end Load

/-! ## The last entry wins -/

/-- the set has for each benchmark the last score that an entry of the files gives for it, and nothing else; its virtual
machine is the one of the first entry of the last file -/
structure Results.LastWins (filter : Filter) (zero : ZeroPolicy) (files : List (List Entry)) (s : Results) : Prop where
  present : ∀ g n, s.get? g n ≠ none ↔ ∃ e ∈ files.flatten, ∃ x, e.Gives filter zero g n x
  last : ∀ g n x, s.get? g n = some x ↔ ∃ before e after, files.flatten = before ++ e :: after ∧
    e.Gives filter zero g n x ∧ ∀ e' ∈ after, ∀ y, ¬ e'.Gives filter zero g n y
  groups : ∀ g, g ∈ Ordered.keys s.groups ↔ ∃ n, s.get? g n ≠ none
  vm : ∀ vm, s.vm = some vm ↔ ∃ e rest, files.getLast? = some (e :: rest) ∧
    e.vmName = some vm.name ∧ e.vmVersion = some vm.version

theorem getLast?_filterMap_eq_some {α β : Type} {f : α → Option β} {l : List α} {y : β} :
    (l.filterMap f).getLast? = some y ↔
      ∃ before x after, l = before ++ x :: after ∧ f x = some y ∧ ∀ x' ∈ after, f x' = none := by
  rw [List.getLast?_filterMap, List.findSome?_eq_some_iff]
  constructor
  · rintro ⟨after, x, before, hl, hx, hafter⟩
    refine ⟨before.reverse, x, after.reverse, ?_, hx, fun x' hx' => hafter x' (List.mem_reverse.1 hx')⟩
    rw [← List.reverse_reverse l, hl]
    simp
  · rintro ⟨before, x, after, rfl, hx, hafter⟩
    exact ⟨after.reverse, x, before.reverse, by simp, hx, fun x' hx' => hafter x' (List.mem_reverse.1 hx')⟩

/-- the scores of the entries of all files, gathered -/
theorem Load.get?_gather_entries (filter : Filter) (zero : ZeroPolicy) (ess : List (List Entry)) (g n : String) :
    (gather filter (ess.map (partOf zero))).get? g n =
      if filter.keeps g n then
        (ess.flatten.filterMap fun e => (e.record? zero).bind (Record.scoreFor g n)).getLast?
      else none := by
  rw [get?_gather, List.flatMap_map, ← List.filterMap_filterMap, List.filterMap_flatten]
  rfl

theorem Load.lastWins_gather (filter : Filter) (zero : ZeroPolicy) (ess : List (List Entry)) :
    (gather filter (ess.map (partOf zero))).LastWins filter zero ess where
  present g n := by
    rw [get?_gather_entries]
    by_cases hkeeps : filter.keeps g n = true
    · simp only [hkeeps, if_true, ne_eq, List.getLast?_eq_none_iff, List.filterMap_eq_nil_iff, not_forall, exists_prop,
        Entry.gives_iff, true_and, ← Option.ne_none_iff_exists']
    · simp [hkeeps, Entry.gives_iff]
  last g n x := by
    rw [get?_gather_entries]
    by_cases hkeeps : filter.keeps g n = true
    · simp only [hkeeps, if_true, getLast?_filterMap_eq_some, Entry.gives_iff, true_and, Option.eq_none_iff_forall_ne_some,
        ne_eq]
    · simp [hkeeps, Entry.gives_iff]
  groups g := (wellFormed_gather filter _).mem_keys
  vm vm := by
    rw [vm_gather, List.getLast?_map]
    cases ess.getLast? with
    | none => simp
    | some es =>
      cases es with
      | nil => simp [partOf]
      | cons e rest => simp [partOf, Entry.vm?_eq_some]

theorem Load.load_eq_ok {fs : FileStore} {files : List Path} {filter : Filter} {zero : ZeroPolicy} {s : Results}
    (h : Results.load fs files filter zero = .ok s) :
    ∃ ess, files.mapM (entries fs) = .ok ess ∧ s = gather filter (ess.map (partOf zero)) := by
  rw [load_eq] at h
  cases hparts : files.mapM (records fs zero) with
  | error e => rw [hparts] at h; cases h
  | ok parts =>
    obtain ⟨ess, hess, rfl⟩ := mapM_records_eq_ok hparts
    rw [hparts] at h
    have hset : nonEmpty (gather filter (ess.map (partOf zero))) = .ok s := h
    unfold nonEmpty at hset
    split_ifs at hset
    exact ⟨ess, hess, (Except.ok.inj hset).symm⟩

/-- **The last entry wins.** When a load succeeds, all files were read, and no group is without scores. For each
benchmark that the filter keeps the set has the last score that an entry of the files gives for it, and it has nothing
else; its virtual machine is the one of the first entry of the last file. -/
theorem Results.load_last_wins {fs : FileStore} {files : List Path} {filter : Filter} {zero : ZeroPolicy} {s : Results}
    (h : Results.load fs files filter zero = .ok s) :
    ∃ ess, files.mapM (Load.entries fs) = .ok ess ∧ s.WellFormed ∧ s.LastWins filter zero ess := by
  obtain ⟨ess, hess, rfl⟩ := Load.load_eq_ok h
  exact ⟨ess, hess, Load.wellFormed_gather filter _, Load.lastWins_gather filter zero ess⟩

/-- a file with an old group name and a number, and a file with today's name and no number -/
def renamedFiles : FileStore where
  root := .dir
    [(Utf8.encode "a", .file (Utf8.encode "[[\"TestJava8.sum\",\x7b\"score\":5\x7d,null,null]]") false),
     (Utf8.encode "b", .file (Utf8.encode "[[\"TestStream.sum\",\x7b\"score\":null\x7d,\"V\",\"1\"]]") false)]
  cwd := []

/-- the later missing score replaces the earlier number -/
theorem Results.load_last_wins_renamed :
    ∃ s, Results.load renamedFiles [.ofString "a", .ofString "b"] {} .missing = .ok s ∧
      s.get? "TestStream" "sum" = some none ∧
      ∃ ess, [.ofString "a", .ofString "b"].mapM (Load.entries renamedFiles) = .ok ess ∧ s.WellFormed ∧
        s.LastWins {} .missing ess := by
  have hget : (Results.load renamedFiles [.ofString "a", .ofString "b"] {} .missing).toOption.bind
      (·.get? "TestStream" "sum") = some none := by
    decide +kernel
  obtain ⟨s, hs, hsum⟩ := Option.bind_eq_some_iff.1 hget
  cases hload : Results.load renamedFiles [.ofString "a", .ofString "b"] {} .missing with
  | error e => rw [hload] at hs; cases hs
  | ok t =>
    rw [hload] at hs
    obtain rfl := Option.some.inj hs
    exact ⟨t, rfl, hsum, Results.load_last_wins hload⟩

end Benchwork.Benchmark
