/-
Defects of result files.

A file has a defect if it is missing, or cannot be read as a text, or is no JSON list, or has an item that is no entry, or
an entry that is not valid: of these the first that applies. `Defect` says which failure that is, for an item or an
entry the one with the least index; it is the failure of reading the file's records (`records_eq_error`). The filter has
no part in it, and neither have other files. So a load fails as the first file of the list with a defect, and that there
is no data is said only of files without one (`load_reports_first_defect`).
-/
import Benchwork.Proofs.Benchmark.Options

namespace Benchwork.Benchmark

open Benchwork.Text

/-! ## Items -/

/-- the first item that fails is reported with its index -/
theorem eachFrom_eq_error {α β : Type} {path : Path} {f : α → Except EntryFault β} {start : Nat} {xs : List α}
    {e : PlotError} : eachFrom path f start xs = .error e ↔
      ∃ i fault, FailsFirst f xs i fault ∧ e = .malformedEntry path (start + i) fault := by
  induction xs generalizing start with
  | nil => simp [eachFrom, not_failsFirst_nil]
  | cons x xs ih =>
    rw [eachFrom]
    cases hx : f x with
    | error fault => simp [failsFirst_cons_of_error hx, eq_comm]
    | ok y =>
      have hrest : eachFrom path f (start + 1) xs = .error e ↔
          (eachFrom path f (start + 1) xs).map (y :: ·) = .error e := by
        cases eachFrom path f (start + 1) xs with
        | error e' => exact Iff.rfl
        | ok ys => exact ⟨fun h => (by cases h), fun h => (by cases h)⟩
      rw [← hrest, ih]
      constructor
      · rintro ⟨i, fault, hi, rfl⟩
        exact ⟨i + 1, fault, (failsFirst_cons_of_ok hx).2 ⟨i, rfl, hi⟩, by rw [Nat.add_assoc, Nat.add_comm 1 i]⟩
      · rintro ⟨_, fault, hfails, rfl⟩
        obtain ⟨i, rfl, hi⟩ := (failsFirst_cons_of_ok hx).1 hfails
        exact ⟨i, fault, hi, by rw [Nat.add_assoc, Nat.add_comm 1 i]⟩

namespace Load

/-! ## Files -/

/-- what is wrong with a file: the first of these that applies -/
inductive Defect (fs : FileStore) (zero : ZeroPolicy) (path : Path) : PlotError → Prop
  | missing (hexists : fs.pathExists path = false) : Defect fs zero path (.missingFile path)
  | unreadable {cause : Fault} (hexists : fs.pathExists path = true) (htext : fs.readText path = .error cause) :
      Defect fs zero path (.file path cause)
  | noList {text : String} {cause : JsonError} (hexists : fs.pathExists path = true)
      (htext : fs.readText path = .ok text) (hlist : Json.readList text = .error cause) :
      Defect fs zero path (.json path cause)
  | noEntry {text : String} {items : List Json} {index : Nat} {fault : EntryFault}
      (hexists : fs.pathExists path = true) (htext : fs.readText path = .ok text) (hlist : Json.readList text = .ok items)
      (hfails : FailsFirst Entry.decode items index fault) :
      Defect fs zero path (.malformedEntry path index fault)
  | invalid {text : String} {items : List Json} {es : List Entry} {index : Nat} {fault : EntryFault}
      (hexists : fs.pathExists path = true) (htext : fs.readText path = .ok text) (hlist : Json.readList text = .ok items)
      (hentries : List.Forall₂ (fun x e => Entry.decode x = .ok e) items es)
      (hfails : FailsFirst (Entry.validate zero) es index fault) :
      Defect fs zero path (.malformedEntry path index fault)

def Sound (fs : FileStore) (zero : ZeroPolicy) (path : Path) : Prop := ∀ e, ¬ Defect fs zero path e

def SameFile (fs fs' : FileStore) (path : Path) : Prop :=
  fs'.pathExists path = fs.pathExists path ∧ fs'.readText path = fs.readText path

variable {fs : FileStore} {zero : ZeroPolicy} {path : Path} {e : PlotError}

theorem Defect.records_eq (h : Defect fs zero path e) : records fs zero path = .error e := by
  cases h with
  | missing hexists => simp [records, entries, hexists, bind, Except.bind]
  | unreadable hexists htext => simp [records, entries, hexists, htext, bind, Except.bind]
  | noList hexists htext hlist => simp [records, entries, hexists, htext, hlist, bind, Except.bind]
  | @noEntry _ items index fault hexists htext hlist hfails =>
    have hes : eachFrom path Entry.decode 0 items = .error (.malformedEntry path index fault) :=
      eachFrom_eq_error.2 ⟨index, fault, hfails, by rw [Nat.zero_add]⟩
    simp [records, entries, hexists, htext, hlist, hes, bind, Except.bind]
  | @invalid _ items es index fault hexists htext hlist hentries hfails =>
    have hes : eachFrom path Entry.decode 0 items = .ok es := eachFrom_eq_ok_iff.2 hentries
    have hrs : eachFrom path (Entry.validate zero) 0 es = .error (.malformedEntry path index fault) :=
      eachFrom_eq_error.2 ⟨index, fault, hfails, by rw [Nat.zero_add]⟩
    simp [records, entries, hexists, htext, hlist, hes, hrs, bind, Except.bind]

theorem exists_defect_or_records (fs : FileStore) (zero : ZeroPolicy) (path : Path) :
    (∃ e, Defect fs zero path e) ∨ ∃ part, records fs zero path = .ok part := by
  cases hexists : fs.pathExists path with
  | false => exact .inl ⟨_, .missing hexists⟩
  | true =>
    cases htext : fs.readText path with
    | error cause => exact .inl ⟨_, .unreadable hexists htext⟩
    | ok text =>
      cases hlist : Json.readList text with
      | error cause => exact .inl ⟨_, .noList hexists htext hlist⟩
      | ok items =>
        cases hes : eachFrom path Entry.decode 0 items with
        | error e =>
          obtain ⟨index, fault, hfails, -⟩ := eachFrom_eq_error.1 hes
          exact .inl ⟨_, .noEntry hexists htext hlist hfails⟩
        | ok es =>
          cases hrs : eachFrom path (Entry.validate zero) 0 es with
          | error e =>
            obtain ⟨index, fault, hfails, -⟩ := eachFrom_eq_error.1 hrs
            exact .inl ⟨_, .invalid hexists htext hlist (eachFrom_eq_ok_iff.1 hes) hfails⟩
          | ok rs =>
            exact .inr ⟨_, by simp [records, entries, hexists, htext, hlist, hes, hrs, bind, Except.bind]; rfl⟩

theorem records_eq_error : records fs zero path = .error e ↔ Defect fs zero path e := by
  refine ⟨fun h => ?_, Defect.records_eq⟩
  rcases exists_defect_or_records fs zero path with ⟨e', hdefect⟩ | ⟨part, hpart⟩
  · obtain rfl : e' = e := Except.error.inj (hdefect.records_eq.symm.trans h)
    exact hdefect
  · cases hpart.symm.trans h

theorem sound_iff : Sound fs zero path ↔ ∃ part, records fs zero path = .ok part := by
  constructor
  · intro h
    exact (exists_defect_or_records fs zero path).resolve_left fun ⟨e, hdefect⟩ => h e hdefect
  · rintro ⟨part, hpart⟩ e hdefect
    cases hpart.symm.trans hdefect.records_eq

theorem SameFile.records_eq {fs' : FileStore} (h : SameFile fs fs' path) :
    records fs' zero path = records fs zero path := by
  simp only [records, entries, h.1, h.2]

theorem Defect.ne_noData (h : Defect fs zero path e) : e ≠ .noData := by
  rintro rfl
  cases h

/-! ## Loads -/

theorem failsFirst_records {files : List Path} : (∃ i, FailsFirst (records fs zero) files i e) ↔
    ∃ before path after, files = before ++ path :: after ∧ (∀ p ∈ before, Sound fs zero p) ∧ Defect fs zero path e := by
  simp only [FailsFirst, sound_iff, records_eq_error]
  constructor
  · rintro ⟨_, before, path, after, hfiles, rfl, hbefore, hdefect⟩
    exact ⟨before, path, after, hfiles, hbefore, hdefect⟩
  · rintro ⟨before, path, after, hfiles, hbefore, hdefect⟩
    exact ⟨_, before, path, after, hfiles, rfl, hbefore, hdefect⟩

end Load

open Load

section Loads

variable {fs : FileStore} {files : List Path} {filter : Filter} {zero : ZeroPolicy} {e : PlotError}

/-- a load fails as the first file with a defect, if it is not for want of data -/
theorem Results.load_eq_error (he : e ≠ .noData) : Results.load fs files filter zero = .error e ↔
    ∃ before path after, files = before ++ path :: after ∧ (∀ p ∈ before, Sound fs zero p) ∧ Defect fs zero path e := by
  rw [← failsFirst_records, ← mapM_eq_error_iff, load_eq]
  cases files.mapM (records fs zero) with
  | error e' =>
    exact ⟨fun h => congrArg Except.error (Except.error.inj h), fun h => congrArg Except.error (Except.error.inj h)⟩
  | ok parts => exact ⟨fun h => absurd (eq_noData_of_nonEmpty h) he, fun h => by cases h⟩

theorem Results.sound_of_noData (h : Results.load fs files filter zero = .error .noData) :
    ∀ p ∈ files, Sound fs zero p := by
  rw [load_eq] at h
  cases hparts : files.mapM (records fs zero) with
  | error e' =>
    rw [hparts] at h
    obtain rfl : e' = .noData := Except.error.inj h
    obtain ⟨_, _, _, -, -, hdefect⟩ := failsFirst_records.1 (mapM_eq_error_iff.1 hparts)
    exact absurd rfl hdefect.ne_noData
  | ok parts =>
    intro p hp
    obtain ⟨i, hi, rfl⟩ := List.mem_iff_getElem.1 hp
    have hall := mapM_eq_ok hparts
    exact sound_iff.2 ⟨_, hall.get hi (hall.length_eq ▸ hi)⟩

end Loads

/-- **The first defect is reported.** The failure of a load is that of the first file with a defect, whatever files
come after it and whatever the filter keeps; that there is no data is said only if no file has a defect. -/
theorem Results.load_reports_first_defect (fs : FileStore) (files : List Path) (filter : Filter) (zero : ZeroPolicy) :
    (∀ e, e ≠ .noData → (Results.load fs files filter zero = .error e ↔ ∃ before path after,
      files = before ++ path :: after ∧ (∀ p ∈ before, Sound fs zero p) ∧ Defect fs zero path e)) ∧
    (Results.load fs files filter zero = .error .noData → ∀ p ∈ files, Sound fs zero p) ∧
    ∀ before path after e, files = before ++ path :: after → (∀ p ∈ before, Sound fs zero p) → Defect fs zero path e →
      ∀ fs' after' filter', (∀ p ∈ before ++ [path], SameFile fs fs' p) →
        Results.load fs' (before ++ path :: after') filter' zero = .error e := by
  refine ⟨fun e he => load_eq_error he, sound_of_noData, ?_⟩
  intro before path after e _ hbefore hdefect fs' after' filter' hsame
  have hrecords : ∀ p ∈ before ++ [path], records fs' zero p = records fs zero p := fun p hp => (hsame p hp).records_eq
  refine (load_eq_error hdefect.ne_noData).2 ⟨before, path, after', rfl, fun p hp => ?_, ?_⟩
  · rw [sound_iff, hrecords p (List.mem_append_left _ hp), ← sound_iff]
    exact hbefore p hp
  · rw [← records_eq_error, hrecords path (by simp)]
    exact hdefect.records_eq

/-- a file that can be read, and a file with an entry that is not valid before an item that is no entry -/
def faultyFiles : FileStore where
  root := .dir
    [(Utf8.encode "a", .file (Utf8.encode "[[\"TestPush.sum\",\x7b\"score\":5\x7d,null,null]]") false),
     (Utf8.encode "b", .file (Utf8.encode "[[\"sum\",null,null,null],true]") false)]
  cwd := []

/-- the item that is no entry is reported, though it comes after the entry, and not the missing file after it; of the
file without a defect alone the filter leaves nothing -/
theorem Results.load_reports_first_defect_faulty :
    ∃ e, e.message = "Malformed benchmark entry #1 in \"b\": invalid type: boolean `true`, expected struct RawBenchmark" ∧
      Sound faultyFiles .missing (.ofString "a") ∧ Defect faultyFiles .missing (.ofString "b") e ∧ e ≠ .noData ∧
      Results.load faultyFiles [.ofString "a", .ofString "b", .ofString "c"] { names := ["none"] } .missing =
        .error e ∧
      Results.load faultyFiles [.ofString "a", .ofString "b"] {} .missing = .error e ∧
      Results.load faultyFiles [.ofString "a"] { names := ["none"] } .missing = .error .noData := by
  have hsound : Sound faultyFiles .missing (.ofString "a") := by
    have hok : (records faultyFiles .missing (.ofString "a")).isOk = true := by decide +kernel
    cases hrecords : records faultyFiles .missing (.ofString "a") with
    | error e => rw [hrecords] at hok; cases hok
    | ok part => exact sound_iff.2 ⟨part, hrecords⟩
  have hnoData : Results.load faultyFiles [.ofString "a"] { names := ["none"] } .missing = .error .noData := by
    have hok : (Results.load faultyFiles [.ofString "a"] { names := ["none"] } .missing).isOk = false := by
      decide +kernel
    cases hload : Results.load faultyFiles [.ofString "a"] { names := ["none"] } .missing with
    | ok s => rw [hload] at hok; cases hok
    | error e =>
      by_contra hne
      have hdata : e ≠ .noData := fun he => hne (congrArg Except.error he)
      obtain ⟨before, path, after, hfiles, -, hdefect⟩ :=
        ((Results.load_reports_first_defect faultyFiles _ _ .missing).1 e hdata).1 hload
      have hpath : path ∈ [Path.ofString "a"] := by simp [hfiles]
      exact hsound e (List.mem_singleton.1 hpath ▸ hdefect)
  have hmessage : ((records faultyFiles .missing (.ofString "b")).mapError PlotError.message).map (fun _ => ()) =
      .error "Malformed benchmark entry #1 in \"b\": invalid type: boolean `true`, expected struct RawBenchmark" := by
    decide +kernel
  cases hrecords : records faultyFiles .missing (.ofString "b") with
  | ok part => rw [hrecords] at hmessage; cases hmessage
  | error e =>
    rw [hrecords] at hmessage
    have hdefect : Defect faultyFiles .missing (.ofString "b") e := records_eq_error.1 hrecords
    have hbefore : ∀ p ∈ [Path.ofString "a"], Sound faultyFiles .missing p := by simpa using hsound
    refine ⟨e, Except.error.inj hmessage, hsound, hdefect, hdefect.ne_noData, ?_, ?_, hnoData⟩
    · exact ((Results.load_reports_first_defect faultyFiles _ _ .missing).1 e hdefect.ne_noData).2
        ⟨[.ofString "a"], .ofString "b", [.ofString "c"], rfl, hbefore, hdefect⟩
    · exact (Results.load_reports_first_defect faultyFiles [.ofString "a", .ofString "b", .ofString "c"] {} .missing).2.2
        [.ofString "a"] (.ofString "b") [.ofString "c"] e rfl hbefore hdefect faultyFiles [] {} fun p _ => ⟨rfl, rfl⟩

end Benchwork.Benchmark
