/-
Options that are written in full.

An option with its value in the same argument, and one that takes no value, are complete as soon as they are read. The
reader is then between two options as before, so `Reads` composes: what a list of such arguments does is what its parts
do one after another (`Reads.append`), and an option that may be given again collects its values in order
(`Reads.each`). After `--` every argument goes to the other place, whatever it looks like (`read_literal`).
-/
import Mathlib.Tactic
import Benchwork.CommandLine.Usage

namespace Benchwork.CommandLine

def withValue (name value : String) : String := "--" ++ name ++ "=" ++ value

/-- an option that takes no value -/
def alone (name : String) : String := "--" ++ name

theorem toList_withValue (name value : String) :
    (withValue name value).toList = '-' :: '-' :: (name.toList ++ '=' :: value.toList) := by
  simp [withValue]

theorem toList_alone (name : String) : (alone name).toList = '-' :: '-' :: name.toList := by
  simp [alone]

namespace Grammar

variable {κ α : Type} [DecidableEq κ] {g : Grammar κ α} {f : Flag κ} {name : String} {a b c : α} {seen keys : List κ}

/-! ## One option -/

/-- the option is known by the name, and the name ends where an equality sign starts the value -/
structure Known (g : Grammar κ α) (name : String) (f : Flag κ) : Prop where
  found : g.flags.find? (·.long = some name) = some f
  named : name.toList ≠ []
  bare : '=' ∉ name.toList

def idle (result : α) (seen : List κ) : Reading κ α := { result, seen }

/-- the option may be given after those that were seen -/
def Fresh (f : Flag κ) (seen : List κ) : Prop := f.repeats = true ∨ f.key ∉ seen

theorem takeWhile_name (h : '=' ∉ name.toList) (rest : List Char) :
    (name.toList ++ rest).takeWhile (· ≠ '=') = name.toList ++ rest.takeWhile (· ≠ '=') :=
  List.takeWhile_append_of_pos fun _ hc => decide_eq_true fun e => h (e ▸ hc)

theorem dropWhile_name (h : '=' ∉ name.toList) (rest : List Char) :
    (name.toList ++ rest).dropWhile (· ≠ '=') = rest.dropWhile (· ≠ '=') :=
  List.dropWhile_append_of_pos fun _ hc => decide_eq_true fun e => h (e ▸ hc)

theorem step_long {r : Reading κ α} (hr : r.literal = false) {arg : String} {body : List Char} (hbody : body ≠ [])
    (h : arg.toList = '-' :: '-' :: body) : g.step r arg = g.longOption r body := by
  obtain ⟨d, ds, rfl⟩ := List.exists_cons_of_ne_nil hbody
  rw [step, if_neg (by simp [hr]), h]
  rfl

theorem step_withValue (h : g.Known name f) (harity : f.arity ≠ .none) (value : String) :
    g.step (idle a seen) (withValue name value) = g.complete (idle a seen) f [value] := by
  rw [step_long rfl (by simp) (toList_withValue name value), longOption, takeWhile_name h.bare, dropWhile_name h.bare]
  simp only [ne_eq, not_true_eq_false, decide_false, Bool.false_eq_true, not_false_eq_true, List.takeWhile_cons_of_neg,
    List.dropWhile_cons_of_neg, List.append_nil, String.ofList_toList, h.found]
  unfold start
  cases hf : f.arity with
  | none => exact absurd hf harity
  | one => rfl
  | many => rfl

theorem step_alone (h : g.Known name f) (harity : f.arity = .none) :
    g.step (idle a seen) (alone name) = g.complete (idle a seen) f [] := by
  have htake := takeWhile_name h.bare []
  have hdrop := dropWhile_name h.bare []
  rw [List.append_nil] at htake hdrop
  rw [step_long rfl h.named (toList_alone name), longOption, htake, hdrop]
  simp only [List.takeWhile_nil, List.dropWhile_nil, List.append_nil, String.ofList_toList, h.found]
  unfold start
  rw [harity]
  rfl

theorem complete_eq_ok {r : Reading κ α} {values : List String} (hvalues : f.arity = .none ∨ values ≠ [])
    (hfresh : Fresh f r.seen) (htake : g.take f.key values r.result = .ok b) :
    g.complete r f values = .ok { r with result := b, seen := f.key :: r.seen } := by
  have hgiven : ¬(f.arity ≠ .none ∧ values = []) := fun ⟨hne, hnil⟩ => hvalues.elim hne fun hcons => hcons hnil
  have hnew : ¬(!f.repeats ∧ f.key ∈ r.seen) := fun ⟨honce, hseen⟩ =>
    hfresh.elim (fun hrepeats => by simp [hrepeats] at honce) fun hnot => hnot hseen
  rw [complete, if_neg hgiven, if_neg hnew, htake]
  rfl

/-! ## Many options -/

/-- the arguments take the reader from between two options to between two, completing the options of `keys` -/
def Reads (g : Grammar κ α) (a : α) (seen : List κ) (words : List String) (b : α) (keys : List κ) : Prop :=
  words.foldlM g.step (idle a seen) = .ok (idle b (keys ++ seen))

theorem Reads.nil (a : α) (seen : List κ) : g.Reads a seen [] a [] := rfl

theorem Reads.append {words more : List String} {keys' : List κ} (h : g.Reads a seen words b keys)
    (h' : g.Reads b (keys ++ seen) more c keys') : g.Reads a seen (words ++ more) c (keys' ++ keys) := by
  unfold Reads at *
  rw [List.foldlM_append, h, List.append_assoc]
  exact h'

theorem Reads.withValue (h : g.Known name f) (harity : f.arity ≠ .none) (hfresh : Fresh f seen) {value : String}
    (htake : g.take f.key [value] a = .ok b) : g.Reads a seen [withValue name value] b [f.key] := by
  rw [Reads, List.foldlM_cons, step_withValue h harity,
    complete_eq_ok (.inr (List.cons_ne_nil value [])) hfresh htake]
  rfl

theorem Reads.alone (h : g.Known name f) (harity : f.arity = .none) (hfresh : Fresh f seen)
    (htake : g.take f.key [] a = .ok b) : g.Reads a seen [alone name] b [f.key] := by
  rw [Reads, List.foldlM_cons, step_alone h harity, complete_eq_ok (.inl harity) hfresh htake]
  rfl

/-- an option given once for each value collects the values in order -/
theorem Reads.each (h : g.Known name f) (harity : f.arity ≠ .none) (hrepeats : f.repeats = true)
    (put : List String → α) (hput : ∀ vs v, g.take f.key [v] (put vs) = .ok (put (vs ++ [v])))
    (done values : List String) :
    g.Reads (put done) seen (values.map (CommandLine.withValue name)) (put (done ++ values))
      (List.replicate values.length f.key) := by
  induction values generalizing done seen with
  | nil =>
    rw [List.append_nil]
    exact .nil _ _
  | cons v values ih =>
    have hfirst : g.Reads (put done) seen [CommandLine.withValue name v] (put (done ++ [v])) [f.key] :=
      .withValue h harity (.inl hrepeats) (hput done v)
    rw [List.length_cons, List.replicate_succ', List.append_cons done v values]
    exact hfirst.append (ih (done ++ [v]))

/-! ## After the last option -/

/-- `--` was read, and the arguments `values` for the other place after it -/
def collecting (result : α) (seen : List κ) (place : Flag κ) (values : List String) : Reading κ α :=
  { result, seen, pending := some (place, values), literal := true }

theorem step_literal {r : Reading κ α} (h : r.literal = true) (arg : String) : g.step r arg = g.plain r arg :=
  if_pos h

theorem step_dashes : g.step (idle a seen) "--" = .ok { idle a seen with literal := true } := rfl

theorem step_first {place : Flag κ} (hother : g.other = some place) (arg : String) :
    g.step { idle a seen with literal := true } arg = .ok (collecting a seen place [arg]) := by
  rw [step_literal rfl, plain, hother]
  rfl

theorem step_collecting {place : Flag κ} (hother : g.other = some place) (values : List String) (arg : String) :
    g.step (collecting a seen place values) arg = .ok (collecting a seen place (values ++ [arg])) := by
  rw [step_literal rfl, plain, hother]
  exact if_pos rfl

theorem foldlM_collecting {place : Flag κ} (hother : g.other = some place) (values args : List String) :
    args.foldlM g.step (collecting a seen place values) = .ok (collecting a seen place (values ++ args)) := by
  induction args generalizing values with
  | nil =>
    rw [List.append_nil]
    rfl
  | cons arg args ih =>
    have hrest := ih (values ++ [arg])
    rw [List.append_assoc] at hrest
    rw [List.foldlM_cons, step_collecting hother]
    exact hrest

/-- options, then `--` and at least one more argument: those after `--` go to the other place, as they are -/
theorem read_literal {place : Flag κ} {words args : List String} (hother : g.other = some place)
    (h : g.Reads a [] words b keys) (hargs : args ≠ []) (hfresh : Fresh place keys)
    (htake : g.take place.key args b = .ok c) : g.read a (words ++ "--" :: args) = .ok c := by
  obtain ⟨arg, args, rfl⟩ := List.exists_cons_of_ne_nil hargs
  have hall : (words ++ "--" :: arg :: args).foldlM g.step { result := a } =
      .ok (collecting b keys place (arg :: args)) := by
    have hwords : words.foldlM g.step { result := a } = .ok (idle b keys) := by
      rw [← List.append_nil keys]
      exact h
    rw [List.foldlM_append, hwords]
    change ("--" :: arg :: args).foldlM g.step (idle b keys) = _
    rw [List.foldlM_cons, step_dashes]
    change (arg :: args).foldlM g.step _ = _
    rw [List.foldlM_cons, step_first hother]
    exact foldlM_collecting hother [arg] args
  have hsettle : g.settle (collecting b keys place (arg :: args)) =
      .ok { idle c (place.key :: keys) with literal := true } :=
    complete_eq_ok (.inr hargs) hfresh htake
  rw [read, hall]
  change (g.settle (collecting b keys place (arg :: args)) >>= _) = _
  rw [hsettle]
  rfl

end Grammar

end Benchwork.CommandLine
