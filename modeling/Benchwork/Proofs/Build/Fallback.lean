/-
Falling back from one runtime to the next.

A runner may answer every attempt in the light of all that came before it, so the answers are written down along the way:
`attempts` is the record of a command that is tried under each of a list of runtimes, whatever the answers are. An answer
is conclusive unless the command ran and failed by its exit code. A fallback makes the attempts up to the first conclusive
one (`exec_tryRuntimes_conclusive`), or all of them if none is (`exec_tryRuntimes_exhausted`).

`underRuntimes_stops_at_first_conclusive` puts this together. Each attempt is the command as it was given with
`JAVA_HOME` set to the home of its runtime (`Command.Under`), so no attempt sees the setting of an earlier one.
-/
import Benchwork.Proofs.Build.Session

namespace Benchwork.Build

/-! ## Attempts -/

/-- the command `a` is `c` under a runtime: `JAVA_HOME` is set once, to its home, and all else is as it was -/
structure Command.Under (c : Command) (r : JavaRuntime) (a : Command) : Prop where
  program : a.program = c.program
  args : a.args = c.args
  cwd : a.cwd = c.cwd
  home : a.env.filter (·.1 = "JAVA_HOME") = [("JAVA_HOME", r.home)]
  others : a.env.filter (·.1 ≠ "JAVA_HOME") = c.env.filter (·.1 ≠ "JAVA_HOME")

theorem Command.under_withEnv (c : Command) (r : JavaRuntime) : c.Under r (c.withEnv "JAVA_HOME" r.home) where
  program := rfl
  args := rfl
  cwd := rfl
  home := by simp [withEnv, List.filter_filter]
  others := by simp [withEnv, List.filter_filter]

/-- the command did not run and fail by its exit code, so no other runtime is tried -/
def Issued.conclusive (i : Issued) : Bool :=
  match i.answer with
  | .ok () => true
  | .error e => !e.isCommandFailed

theorem Issued.exists_of_not_conclusive {i : Issued} (h : i.conclusive = false) :
    ∃ e, i.answer = .error e ∧ e.isCommandFailed = true := by
  unfold conclusive at h
  cases ha : i.answer with
  | ok u => rw [ha] at h; cases h
  | error e => exact ⟨e, rfl, by simpa [ha] using h⟩

namespace Session

variable {σ : Type}

/-- a command under one runtime after another, each attempt with the answer to it, whatever the answers before are -/
def attempts (runner : Runner σ) (c : Command) : World σ → List JavaRuntime → List Issued
  | _, [] => []
  | w, r :: rest =>
    ⟨c.withEnv "JAVA_HOME" r.home, w.answer runner (c.withEnv "JAVA_HOME" r.home)⟩ ::
      attempts runner c (w.after runner (c.withEnv "JAVA_HOME" r.home)) rest

def afterAttempts (runner : Runner σ) (c : Command) (w : World σ) (rts : List JavaRuntime) : World σ :=
  rts.foldl (fun w r => w.after runner (c.withEnv "JAVA_HOME" r.home)) w

variable {runner : Runner σ} {c : Command}

@[simp]
theorem length_attempts (w : World σ) (rts : List JavaRuntime) : (attempts runner c w rts).length = rts.length := by
  induction rts generalizing w with
  | nil => rfl
  | cons r rest ih => simp [attempts, ih]

theorem attempts_append (w : World σ) (rts rts' : List JavaRuntime) :
    attempts runner c w (rts ++ rts') =
      attempts runner c w rts ++ attempts runner c (afterAttempts runner c w rts) rts' := by
  induction rts generalizing w with
  | nil => rfl
  | cons r rest ih => simp [attempts, afterAttempts, ih]

theorem attempts_take (w : World σ) (rts : List JavaRuntime) (n : Nat) :
    attempts runner c w (rts.take n) = (attempts runner c w rts).take n := by
  induction n generalizing w rts with
  | zero => rfl
  | succ n ih =>
    cases rts with
    | nil => rfl
    | cons r rest => simp [attempts, ih]

theorem attempts_under (w : World σ) (rts : List JavaRuntime) :
    List.Forall₂ (fun r i => c.Under r i.command) rts (attempts runner c w rts) := by
  induction rts generalizing w with
  | nil => exact .nil
  | cons r rest ih => exact .cons (c.under_withEnv r) (ih _)

theorem issued_afterAttempts (w : World σ) (rts : List JavaRuntime) :
    (afterAttempts runner c w rts).issued = w.issued ++ attempts runner c w rts := by
  induction rts generalizing w with
  | nil => exact (List.append_nil w.issued).symm
  | cons r rest ih =>
    have hrest := ih (w.after runner (c.withEnv "JAVA_HOME" r.home))
    rw [World.issued_after, List.append_assoc] at hrest
    exact hrest

/-! ## Where a fallback ends -/

/-- an attempt that fails by its exit code leaves the rest to the other runtimes -/
theorem exec_tryRuntimes_failed {w : World σ} {r : JavaRuntime} {e : BuildError} (last : BuildError)
    (rest : List JavaRuntime) (ha : w.answer runner (c.withEnv "JAVA_HOME" r.home) = .error e)
    (he : e.isCommandFailed = true) :
    (tryRuntimes runner c last (r :: rest)).exec w =
      (tryRuntimes runner c e rest).exec (w.after runner (c.withEnv "JAVA_HOME" r.home)) := by
  rw [exec_tryRuntimes_cons, ha]
  exact if_pos he

/-- a conclusive answer is the end, and runtimes after it make no difference -/
theorem exec_tryRuntimes_conclusive {w : World σ} {before : List JavaRuntime} {r : JavaRuntime} {i : Issued}
    (last : BuildError) (after : List JavaRuntime) (hbefore : ∀ j ∈ attempts runner c w before, j.conclusive = false)
    (hi : attempts runner c (afterAttempts runner c w before) [r] = [i]) (hend : i.conclusive = true) :
    (tryRuntimes runner c last (before ++ r :: after)).exec w =
      (i.answer.map fun _ => r, afterAttempts runner c w (before ++ [r])) := by
  induction before generalizing w last with
  | nil =>
    obtain rfl := List.singleton_injective hi
    rw [List.nil_append, exec_tryRuntimes_cons]
    unfold Issued.conclusive at hend
    cases ha : w.answer runner (c.withEnv "JAVA_HOME" r.home) with
    | ok u => simp [afterAttempts, Except.map, ha]
    | error e =>
      have he : e.isCommandFailed = false := by simpa [ha, afterAttempts] using hend
      simp [afterAttempts, Except.map, ha, he]
  | cons r' before ih =>
    obtain ⟨e, ha, he⟩ := Issued.exists_of_not_conclusive (hbefore _ List.mem_cons_self)
    rw [List.cons_append, exec_tryRuntimes_failed last (before ++ r :: after) ha he]
    exact ih e (fun j hj => hbefore j (List.mem_cons_of_mem _ hj)) hi

/-- with no conclusive answer all attempts are made, and the last failure is reported -/
theorem exec_tryRuntimes_exhausted {w : World σ} {rts : List JavaRuntime} (last : BuildError)
    (h : ∀ j ∈ attempts runner c w rts, j.conclusive = false) :
    ∃ e, (tryRuntimes runner c last rts).exec w = (.error e, afterAttempts runner c w rts) ∧
      ((attempts runner c w rts).getLast?.map (·.answer)).getD (.error last) = .error e := by
  -- `last` is carried from attempt to attempt, so it is the failure before those that are left
  induction rts generalizing w last with
  | nil => exact ⟨last, rfl, rfl⟩
  | cons r rest ih =>
    obtain ⟨e, ha, he⟩ := Issued.exists_of_not_conclusive (h _ List.mem_cons_self)
    obtain ⟨e', hexec, hlast⟩ := ih e fun j hj => h j (List.mem_cons_of_mem _ hj)
    refine ⟨e', ?_, ?_⟩
    · rw [exec_tryRuntimes_failed last rest ha he]
      exact hexec
    · rw [← hlast, attempts, List.getLast?_cons]
      cases (attempts runner c (w.after runner (c.withEnv "JAVA_HOME" r.home)) rest).getLast? with
      | none => exact ha
      | some i => rfl

/-! ## The first conclusive attempt -/

/-- the number of the first attempt with a conclusive answer, or how many there are if none has one -/
def firstConclusive (runner : Runner σ) (c : Command) (w : World σ) (rts : List JavaRuntime) : Nat :=
  (attempts runner c w rts).findIdx (·.conclusive)

theorem not_conclusive_before (runner : Runner σ) (c : Command) (w : World σ) (rts : List JavaRuntime) :
    ∀ j ∈ attempts runner c w (rts.take (firstConclusive runner c w rts)), j.conclusive = false := by
  intro j hj
  rw [attempts_take] at hj
  obtain ⟨n, hn, rfl⟩ := List.mem_take_iff_getElem.1 hj
  exact List.not_of_lt_findIdx (Nat.lt_of_lt_of_le hn (Nat.min_le_left _ _))

/-- the first conclusive attempt, and the runtimes before and after it -/
theorem exists_conclusive {w : World σ} {rts : List JavaRuntime} {k : Nat} (hk : firstConclusive runner c w rts = k)
    (h : k < rts.length) :
    ∃ r i, rts[k]? = some r ∧ (attempts runner c w rts)[k]? = some i ∧ i.conclusive = true ∧
      rts = rts.take k ++ r :: rts.drop (k + 1) ∧
      attempts runner c (afterAttempts runner c w (rts.take k)) [r] = [i] := by
  have hlen : k < (attempts runner c w rts).length := by rwa [length_attempts]
  refine ⟨rts[k], (attempts runner c w rts)[k], List.getElem?_eq_getElem h, List.getElem?_eq_getElem hlen, ?_, ?_, ?_⟩
  · subst hk
    exact List.findIdx_getElem
  · rw [← List.drop_eq_getElem_cons h, List.take_append_drop]
  · -- the attempts up to and with `k` are those before it and one more
    have hone : (attempts runner c w rts).take (k + 1) =
        attempts runner c w (rts.take k) ++
          attempts runner c (afterAttempts runner c w (rts.take k)) [rts[k]] := by
      rw [← attempts_take, List.take_add_one, List.getElem?_eq_getElem h]
      exact attempts_append w (rts.take k) [rts[k]]
    rw [List.take_add_one, attempts_take, List.getElem?_eq_getElem hlen] at hone
    exact (List.append_cancel_left hone).symm

def triedRuntimes (runner : Runner σ) (c : Command) (w : World σ) (rts : List JavaRuntime) : List JavaRuntime :=
  rts.take (min (firstConclusive runner c w rts) (rts.length - 1) + 1)

theorem triedRuntimes_eq_nil {w : World σ} {rts : List JavaRuntime} : triedRuntimes runner c w rts = [] ↔ rts = [] := by
  rw [triedRuntimes, List.take_eq_nil_iff]
  simp

/-- the attempts that are made, and the result when one of them is conclusive -/
theorem exec_underRuntimes_of_lt {w : World σ} {rts : List JavaRuntime} (h : firstConclusive runner c w rts < rts.length) :
    ∃ r i, rts[firstConclusive runner c w rts]? = some r ∧
      (attempts runner c w (triedRuntimes runner c w rts))[firstConclusive runner c w rts]? = some i ∧
      (underRuntimes runner rts c).exec w =
        (i.answer.map fun _ => r, afterAttempts runner c w (triedRuntimes runner c w rts)) := by
  obtain ⟨r, i, hr, hi, hend, hsplit, hone⟩ := exists_conclusive rfl h
  have htried : triedRuntimes runner c w rts = rts.take (firstConclusive runner c w rts + 1) := by
    rw [triedRuntimes, Nat.min_eq_left (by omega)]
  refine ⟨r, i, hr, ?_, ?_⟩
  · rw [htried, attempts_take, List.getElem?_take_of_lt (Nat.lt_succ_self _), hi]
  · have hexec := exec_tryRuntimes_conclusive .noRuntimes (rts.drop (firstConclusive runner c w rts + 1))
      (not_conclusive_before runner c w rts) hone hend
    rw [← hsplit] at hexec
    rw [underRuntimes, hexec, htried, List.take_add_one, hr]
    rfl

/-- the attempts that are made, and the result when none of them is conclusive -/
theorem exec_underRuntimes_of_ge {w : World σ} {rts : List JavaRuntime} (h : rts.length ≤ firstConclusive runner c w rts) :
    ∃ e, (underRuntimes runner rts c).exec w = (.error e, afterAttempts runner c w (triedRuntimes runner c w rts)) ∧
      ((attempts runner c w (triedRuntimes runner c w rts)).getLast?.map (·.answer)).getD (.error .noRuntimes) =
        .error e ∧
      ∀ i ∈ attempts runner c w (triedRuntimes runner c w rts), i.conclusive = false := by
  have htried : triedRuntimes runner c w rts = rts := List.take_of_length_le (by omega)
  have hall := not_conclusive_before runner c w rts
  rw [List.take_of_length_le h] at hall
  obtain ⟨e, hexec, hlast⟩ := exec_tryRuntimes_exhausted .noRuntimes hall
  rw [htried]
  exact ⟨e, hexec, hlast, hall⟩

/-- **A fallback stops at the first conclusive attempt** and ends as that one does. Without one it makes all attempts
and reports the last failure, and with no runtime at all it makes none. -/
theorem underRuntimes_stops_at_first_conclusive (runner : Runner σ) (c : Command) (rts : List JavaRuntime)
    (w : World σ) :
    let k := firstConclusive runner c w rts
    let tried := rts.take (min k (rts.length - 1) + 1)
    let log := attempts runner c w tried
    let out := (underRuntimes runner rts c).exec w
    (out.2 = afterAttempts runner c w tried ∧ out.2.issued = w.issued ++ log ∧
      List.Forall₂ (fun r i => c.Under r i.command) tried log) ∧
    (∀ r, rts[k]? = some r → log[k]?.map (·.answer) = some (.ok ()) → out.1 = .ok r) ∧
    (∀ e, log[k]?.map (·.answer) = some (.error e) → out.1 = .error e) ∧
    (k = rts.length → rts ≠ [] → ∃ e, e.isCommandFailed = true ∧ log.getLast?.map (·.answer) = some (.error e) ∧
      out.1 = .error e) ∧
    (out.1 = .error .noRuntimes ∧ out.2.issued = w.issued ↔ rts = []) := by
  intro k tried log out
  have hworld : out.2 = afterAttempts runner c w tried := by
    rcases Nat.lt_or_ge k rts.length with hlt | hge
    · obtain ⟨r, i, -, -, hexec⟩ := exec_underRuntimes_of_lt hlt
      exact congrArg Prod.snd hexec
    · obtain ⟨e, hexec, -⟩ := exec_underRuntimes_of_ge hge
      exact congrArg Prod.snd hexec
  have hissued : out.2.issued = w.issued ++ log := by rw [hworld, issued_afterAttempts]
  have hend : ∀ a, log[k]?.map (·.answer) = some a → ∃ r, rts[k]? = some r ∧ out.1 = a.map fun _ => r := by
    intro a ha
    obtain ⟨i, hi, rfl⟩ := Option.map_eq_some_iff.1 ha
    have hlt : k < rts.length := by
      have hlog := (List.getElem?_eq_some_iff.1 hi).1
      rw [length_attempts, List.length_take] at hlog
      omega
    obtain ⟨r, i', hr, hi', hexec⟩ := exec_underRuntimes_of_lt hlt
    obtain rfl : i' = i := Option.some.inj (hi'.symm.trans hi)
    exact ⟨r, hr, congrArg Prod.fst hexec⟩
  refine ⟨⟨hworld, hissued, attempts_under w tried⟩, fun r hr hok => ?_, fun e he => ?_, fun hk hne => ?_, ?_⟩
  · obtain ⟨r', hr', hout⟩ := hend _ hok
    obtain rfl : r' = r := Option.some.inj (hr'.symm.trans hr)
    exact hout
  · obtain ⟨r, -, hout⟩ := hend _ he
    exact hout
  · obtain ⟨e, hexec, hlast, hall⟩ := exec_underRuntimes_of_ge (Nat.le_of_eq hk.symm)
    have hlog : log ≠ [] := by
      rw [← List.length_pos_iff, length_attempts, List.length_pos_iff]
      exact mt triedRuntimes_eq_nil.1 hne
    obtain ⟨e', he', hfailed⟩ := Issued.exists_of_not_conclusive (hall _ (List.getLast_mem hlog))
    have hanswer : log.getLast?.map (·.answer) = some (.error e') := by
      rw [List.getLast?_eq_some_getLast hlog, Option.map_some, he']
    obtain rfl : e' = e := by
      have hsame : (log.getLast?.map (·.answer)).getD (.error .noRuntimes) = .error e := hlast
      rw [hanswer] at hsame
      exact Except.error.inj hsame
    exact ⟨e', hfailed, hanswer, congrArg Prod.fst hexec⟩
  · refine ⟨fun ⟨_, h⟩ => ?_, fun h => ?_⟩
    · have hlog : log = [] := List.self_eq_append_right.1 (h.symm.trans hissued)
      rw [← List.length_eq_zero_iff, length_attempts, List.length_eq_zero_iff] at hlog
      exact triedRuntimes_eq_nil.1 hlog
    · subst h
      exact ⟨rfl, rfl⟩

end Session

end Benchwork.Build
