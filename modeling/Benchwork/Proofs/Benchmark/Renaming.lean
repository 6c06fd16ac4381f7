/-
Old names of groups.

The words of old result files are replaced one after the other. None of them is left then, since the words put in cannot
be part of one (`isCurrent_normalize`), and a name without them stays as it is (`normalize_of_isCurrent`); so a second
renaming changes nothing.

`renameItem` renames the group in an item of a result file. It changes neither whether the item is an entry and the entry
valid nor its record under today's group name (`decode_renameItem`, `validate_renamed`). So a file and the same file with
its groups renamed load to the same results (`load_of_renamed`).
-/
import Benchwork.Proofs.Benchmark.Identifiers
import Benchwork.Proofs.Benchmark.Options
import Benchwork.Proofs.Text.Replacing

namespace Benchwork.Benchmark

open Benchwork.Text

/-! ## Names -/

namespace Group

/-- a name without a word of old result files in it -/
def IsCurrent (group : String) : Prop := ¬ "Java8".toList <:+: group.toList ∧ ¬ "Inline".toList <:+: group.toList

instance (group : String) : Decidable (IsCurrent group) := inferInstanceAs (Decidable (¬ _ ∧ ¬ _))

theorem toList_normalize (group : String) : (normalize group).toList =
    replaceAll "Inline".toList "Opt".toList (replaceAll "Java8".toList "Stream".toList group.toList) := by
  rw [normalize, toList_replace, toList_replace]

theorem java8_foreign_stream : Foreign "Java8".toList "Stream".toList :=
  ⟨by decide, fun c hc => by obtain rfl := Option.some.inj hc; decide, 'S', rfl, by decide⟩

theorem java8_foreign_opt : Foreign "Java8".toList "Opt".toList :=
  ⟨by decide, fun c hc => by obtain rfl := Option.some.inj hc; decide, 'O', rfl, by decide⟩

theorem inline_foreign_opt : Foreign "Inline".toList "Opt".toList :=
  ⟨by decide, fun c hc => by obtain rfl := Option.some.inj hc; decide, 'O', rfl, by decide⟩

theorem isCurrent_normalize (group : String) : IsCurrent (normalize group) := by
  rw [IsCurrent, toList_normalize]
  constructor
  · -- the first replacement leaves none, and the second one makes none
    intro hold
    exact java8_foreign_stream.absent_replaceAll _ (java8_foreign_opt.occurs_of_replaceAll (by decide) hold)
  · exact inline_foreign_opt.absent_replaceAll _

theorem normalize_of_isCurrent {group : String} (h : IsCurrent group) : normalize group = group := by
  rw [← String.toList_inj, toList_normalize, replaceAll_of_absent h.1, replaceAll_of_absent h.2]

@[simp]
theorem normalize_normalize (group : String) : normalize (normalize group) = normalize group :=
  normalize_of_isCurrent (isCurrent_normalize group)

theorem dot_not_mem_normalize {group : String} (h : '.' ∉ group.toList) : '.' ∉ (normalize group).toList := by
  intro hmem
  rw [toList_normalize] at hmem
  rcases mem_replaceAll hmem with hopt | hmem
  · exact absurd hopt (by decide)
  · rcases mem_replaceAll hmem with hstream | hmem
    · exact absurd hstream (by decide)
    · exact h hmem

theorem normalize_ne_empty {group : String} (h : group ≠ "") : normalize group ≠ "" := by
  rw [Ne, ← String.toList_eq_nil_iff, toList_normalize]
  exact replaceAll_ne_nil (by decide) (replaceAll_ne_nil (by decide) (by simpa using h))

end Group

/-! ## Identifiers and entries -/

namespace Entry

/-- the identifier with today's name of its group, if it has one -/
def renameIdentifier (identifier : String) : String :=
  match split? identifier with
  | none => identifier
  | some (group, name) =>
    String.ofList (['.'].intercalate
      ((identifier.toList.splitOn '.').dropLast.dropLast ++ [(Group.normalize group).toList, name.toList]))

theorem renameIdentifier_of_none {identifier : String} (h : split? identifier = none) :
    renameIdentifier identifier = identifier := by
  rw [renameIdentifier, h]

theorem split?_renameIdentifier (identifier : String) :
    split? (renameIdentifier identifier) = (split? identifier).map fun p => (Group.normalize p.1, p.2) := by
  cases hsplit : split? identifier with
  | none => rw [renameIdentifier_of_none hsplit, hsplit]; rfl
  | some p =>
    rw [renameIdentifier, hsplit]
    obtain ⟨hgroup, hname, before, hpieces⟩ := split?_eq_some.1 hsplit
    have hdots : ∀ piece ∈ before ++ [p.1.toList, p.2.toList], '.' ∉ piece :=
      fun piece hpiece => not_mem_of_mem_splitOn (hpieces ▸ hpiece)
    refine split?_eq_some.2 ⟨Group.normalize_ne_empty hgroup, hname, before, ?_⟩
    have hbefore : (identifier.toList.splitOn '.').dropLast.dropLast = before := by simp [hpieces]
    have hrenamed : ∀ piece ∈ before ++ [(Group.normalize p.1).toList, p.2.toList], '.' ∉ piece := by
      simp only [List.forall_mem_append, List.forall_mem_cons] at hdots ⊢
      exact ⟨hdots.1, Group.dot_not_mem_normalize hdots.2.1, hdots.2.2⟩
    rw [String.toList_ofList, hbefore, List.splitOn_intercalate '.' hrenamed (by simp)]

def renamed (e : Entry) : Entry := { e with identifier := e.identifier.map renameIdentifier }

/-- a text that is an identifier, with today's name of its group -/
def renameText : Json → Json
  | .string identifier => .string (renameIdentifier identifier)
  | x => x

/-- an item of a result file with today's name of its group -/
def renameItem : Json → Json
  | .object fields => .object (fields.map fun field =>
      (field.1, if field.1 = "benchmark" then renameText field.2 else field.2))
  | .array (identifier :: rest) => .array (renameText identifier :: rest)
  | x => x

theorem text?_renameText (x : Json) : text? (renameText x) = (text? x).map (Option.map renameIdentifier) := by
  cases x with
  | string identifier => rfl
  | null => rfl
  | bool b => rfl
  | number n => rfl
  | array items => rfl
  | object fields => rfl

theorem addField_renamed (e : Entry) (name : String) (x : Json) :
    e.renamed.addField name (if name = "benchmark" then renameText x else x) = (e.addField name x).map renamed := by
  by_cases hname : name = "benchmark"
  · subst hname
    rw [if_pos rfl]
    simp only [addField, text?_renameText]
    cases text? x with
    | error fault => rfl
    | ok identifier => rfl
  · rw [if_neg hname]
    unfold addField
    split
    · exact absurd rfl hname
    · cases fields? x with
      | error fault => rfl
      | ok metric => rfl
    · cases text? x with
      | error fault => rfl
      | ok vmName => rfl
    · cases text? x with
      | error fault => rfl
      | ok vmVersion => rfl
    · rfl

theorem foldlM_addField_renamed (fields : List (String × Json)) (e : Entry) :
    (fields.map fun field => (field.1, if field.1 = "benchmark" then renameText field.2 else field.2)).foldlM
      (fun (e : Entry) field => e.addField field.1 field.2) e.renamed =
    (fields.foldlM (fun (e : Entry) field => e.addField field.1 field.2) e).map renamed := by
  induction fields generalizing e with
  | nil => rfl
  | cons field fields ih =>
    rw [List.map_cons, List.foldlM_cons, List.foldlM_cons, addField_renamed]
    cases e.addField field.1 field.2 with
    | error fault => rfl
    | ok e' => exact ih e'

theorem ofItems_renameText (identifier : Json) (rest : List Json) :
    ofItems (renameText identifier :: rest) = (ofItems (identifier :: rest)).map renamed := by
  rcases rest with _ | ⟨metric, _ | ⟨vmName, _ | ⟨vmVersion, rest⟩⟩⟩
  · simp only [ofItems, text?_renameText]
    cases text? identifier with
    | error fault => rfl
    | ok _ => rfl
  · simp only [ofItems, text?_renameText]
    cases text? identifier with
    | error fault => rfl
    | ok _ =>
      cases fields? metric with
      | error fault => rfl
      | ok _ => rfl
  · simp only [ofItems, text?_renameText]
    cases text? identifier with
    | error fault => rfl
    | ok _ =>
      cases fields? metric with
      | error fault => rfl
      | ok _ =>
        cases text? vmName with
        | error fault => rfl
        | ok _ => rfl
  · simp only [ofItems, text?_renameText]
    cases text? identifier with
    | error fault => rfl
    | ok _ =>
      cases fields? metric with
      | error fault => rfl
      | ok _ =>
        cases text? vmName with
        | error fault => rfl
        | ok _ =>
          cases text? vmVersion with
          | error fault => rfl
          | ok _ =>
            cases rest with
            | nil => rfl
            | cons item rest => rfl

theorem decode_renameItem (x : Json) : decode (renameItem x) = (decode x).map renamed := by
  cases x with
  | object fields => exact foldlM_addField_renamed fields {}
  | array items =>
    cases items with
    | nil => rfl
    | cons identifier rest => exact ofItems_renameText identifier rest
  | string s => rfl
  | null => rfl
  | bool b => rfl
  | number n => rfl

theorem validate_renamed (zero : ZeroPolicy) (e : Entry) : e.renamed.validate zero =
    (e.validate zero).map fun r => { r with group := Group.normalize r.group } := by
  unfold validate renamed
  cases e.identifier with
  | none => rfl
  | some identifier =>
    simp only [Option.map_some, split?_renameIdentifier]
    cases hparts : split? identifier with
    | none => rw [renameIdentifier_of_none hparts]; rfl
    | some parts =>
      simp only [Option.map_some]
      cases e.metric with
      | none => rfl
      | some metric =>
        cases hscore : metric.lookup "score" with
        | none => simp only [hscore]; rfl
        | some x =>
          simp only [hscore]
          cases readScore zero x with
          | error fault => rfl
          | ok score => rfl

end Entry

/-! ## Files -/

theorem toOption_map {α β ε : Type} (x : Except ε α) (g : α → β) : (x.map g).toOption = x.toOption.map g := by
  cases x with
  | error e => rfl
  | ok a => rfl

theorem toOption_bind {α β ε : Type} (x : Except ε α) (g : α → Except ε β) :
    (x >>= g).toOption = x.toOption.bind fun a => (g a).toOption := by
  cases x with
  | error e => rfl
  | ok a => rfl

theorem toOption_eq_some {α ε : Type} {x : Except ε α} {a : α} : x.toOption = some a ↔ x = .ok a := by
  cases x with
  | error e => simp [Except.toOption]
  | ok b => simp [Except.toOption]

/-- if the items are changed by `k` and what each comes to by `h`, then so is what all of them come to -/
theorem toOption_eachFrom_map {α α' β β' : Type} {f : α → Except EntryFault β} {f' : α' → Except EntryFault β'}
    {k : α → α'} {h : β → β'} (hf : ∀ x, f' (k x) = (f x).map h) (path path' : Path) (start : Nat) (xs : List α) :
    (eachFrom path' f' start (xs.map k)).toOption = (eachFrom path f start xs).toOption.map (List.map h) := by
  induction xs generalizing start with
  | nil => rfl
  | cons x xs ih =>
    rw [List.map_cons, eachFrom, eachFrom, hf]
    cases f x with
    | error fault => rfl
    | ok y =>
      change ((eachFrom path' f' (start + 1) (xs.map k)).map (h y :: ·)).toOption =
        ((eachFrom path f (start + 1) xs).map (y :: ·)).toOption.map (List.map h)
      rw [toOption_map, toOption_map, ih, Option.map_map, Option.map_map]
      rfl

theorem pathExists_of_readText {fs : FileStore} {path : Path} {text : String} (h : fs.readText path = .ok text) :
    fs.pathExists path = true := by
  unfold FileStore.readText FileStore.read at h
  unfold FileStore.pathExists
  cases hnode : fs.node .target path with
  | error e => rw [hnode] at h; cases h
  | ok node => rfl

namespace Load

/-- the new file has the items of the old one, with today's names of their groups -/
def IsRenamed (fs fs' : FileStore) (old new : Path) : Prop :=
  ∃ text text' items, fs.readText old = .ok text ∧ Json.readList text = .ok items ∧
    fs'.readText new = .ok text' ∧ Json.readList text' = .ok (items.map Entry.renameItem)

theorem entries_of_readList {fs : FileStore} {path : Path} {text : String} {items : List Json}
    (htext : fs.readText path = .ok text) (hitems : Json.readList text = .ok items) :
    entries fs path = eachFrom path Entry.decode 0 items := by
  simp [entries, pathExists_of_readText htext, htext, hitems]

section Renamed

variable {fs fs' : FileStore} {old new : Path}

theorem IsRenamed.toOption_entries (h : IsRenamed fs fs' old new) :
    (entries fs' new).toOption = (entries fs old).toOption.map (List.map Entry.renamed) := by
  obtain ⟨text, text', items, htext, hitems, htext', hitems'⟩ := h
  rw [entries_of_readList htext hitems, entries_of_readList htext' hitems',
    toOption_eachFrom_map Entry.decode_renameItem old new]

theorem toOption_records (fs : FileStore) (zero : ZeroPolicy) (path : Path) :
    (records fs zero path).toOption = (entries fs path).toOption.bind fun es =>
      (eachFrom path (Entry.validate zero) 0 es).toOption.map fun rs =>
        (rs.map fun r => { r with group := Group.normalize r.group }, es.head?.bind Entry.vm?) := by
  rw [records, toOption_bind]
  congr 1
  funext es
  rw [toOption_bind]
  cases (eachFrom path (Entry.validate zero) 0 es).toOption with
  | none => rfl
  | some rs => rfl

theorem IsRenamed.toOption_records (h : IsRenamed fs fs' old new) (zero : ZeroPolicy) :
    (records fs' zero new).toOption = (records fs zero old).toOption := by
  rw [Load.toOption_records, Load.toOption_records, h.toOption_entries, Option.bind_map]
  congr 1
  funext es
  have hvm : (es.map Entry.renamed).head?.bind Entry.vm? = es.head?.bind Entry.vm? := by
    cases es with
    | nil => rfl
    | cons e es => rfl
  -- the group of a record is renamed twice, which is renamed once
  rw [Function.comp_apply, toOption_eachFrom_map (Entry.validate_renamed zero) old new, Option.map_map, hvm]
  simp [Function.comp_def]

theorem toOption_mapM_records {olds news : List Path} (h : List.Forall₂ (IsRenamed fs fs') olds news)
    (zero : ZeroPolicy) :
    (news.mapM (records fs' zero)).toOption = (olds.mapM (records fs zero)).toOption := by
  induction h with
  | nil => rfl
  | cons hfile _ ih =>
    rw [List.mapM_cons, List.mapM_cons, toOption_bind, toOption_bind, hfile.toOption_records zero]
    congr 1
    funext part
    rw [toOption_bind, toOption_bind, ih]

theorem load_of_renamed {olds news : List Path} (h : List.Forall₂ (IsRenamed fs fs') olds news) (filter : Filter)
    (zero : ZeroPolicy) :
    (Results.load fs' news filter zero).toOption = (Results.load fs olds filter zero).toOption := by
  rw [load_eq, load_eq, toOption_bind, toOption_bind, toOption_mapM_records h]

end Renamed

end Load

/-! ## Up to date -/

/-- **Old files load like new ones.** No old word is left in the name of a group, however often it is renamed, and a
name without old words stays as it is; so old files and the same files with their groups renamed load to the same
results. -/
theorem Group.normalize_brings_up_to_date :
    (∀ g, IsCurrent (normalize g) ∧ normalize (normalize g) = normalize g ∧ (IsCurrent g → normalize g = g)) ∧
    ∀ fs fs' olds news, List.Forall₂ (Load.IsRenamed fs fs') olds news → ∀ filter zero s,
      Results.load fs olds filter zero = .ok s ↔ Results.load fs' news filter zero = .ok s := by
  refine ⟨fun g => ⟨isCurrent_normalize g, normalize_normalize g, normalize_of_isCurrent⟩, ?_⟩
  intro fs fs' olds news h filter zero s
  rw [← toOption_eq_some, ← toOption_eq_some, Load.load_of_renamed h]

def oldText : String := "[[\"Java8Inline.sum\",\x7b\"score\":5\x7d,\"V\",\"1\"]]"

def newText : String := "[[\"StreamOpt.sum\",\x7b\"score\":5\x7d,\"V\",\"1\"]]"

def oldAndNewFiles : FileStore where
  root := .dir
    [(Utf8.encode "new", .file (Utf8.encode newText) false),
     (Utf8.encode "old", .file (Utf8.encode oldText) false)]
  cwd := []

def sumItem (identifier : String) : Json :=
  .array [.string identifier, .object [("score", .number (.natural 5))], .string "V", .string "1"]

theorem isRenamed_oldAndNewFiles :
    Load.IsRenamed oldAndNewFiles oldAndNewFiles (.ofString "old") (.ofString "new") := by
  have hold : Json.readList oldText = .ok [sumItem "Java8Inline.sum"] := by decide +kernel
  have hnew : Json.readList newText = .ok [sumItem "StreamOpt.sum"] := by decide +kernel
  have hname : Entry.renameIdentifier "Java8Inline.sum" = "StreamOpt.sum" := by decide +kernel
  have hrenamed : [sumItem "Java8Inline.sum"].map Entry.renameItem = [sumItem "StreamOpt.sum"] := by
    simp [sumItem, Entry.renameItem, Entry.renameText, hname]
  have hreadOld : oldAndNewFiles.readText (.ofString "old") = .ok oldText := by decide +kernel
  have hreadNew : oldAndNewFiles.readText (.ofString "new") = .ok newText := by decide +kernel
  exact ⟨oldText, newText, [sumItem "Java8Inline.sum"], hreadOld, hold, hreadNew, hrenamed.symm ▸ hnew⟩

/-- both words in one name; the filter asks for today's name, and both files have a result for it -/
theorem Group.normalize_brings_up_to_date_both :
    Load.IsRenamed oldAndNewFiles oldAndNewFiles (.ofString "old") (.ofString "new") ∧
      (IsCurrent "TestPush" ∧ normalize "TestPush" = "TestPush") ∧
      ∃ s, Results.load oldAndNewFiles [.ofString "old"] { groups := ["StreamOpt"] } .missing = .ok s ∧
        Results.load oldAndNewFiles [.ofString "new"] { groups := ["StreamOpt"] } .missing = .ok s := by
  have hcurrent : IsCurrent "TestPush" := by decide +kernel
  refine ⟨isRenamed_oldAndNewFiles, ⟨hcurrent, (normalize_brings_up_to_date.1 "TestPush").2.2 hcurrent⟩, ?_⟩
  have hok : (Results.load oldAndNewFiles [.ofString "old"] { groups := ["StreamOpt"] } .missing).isOk = true := by
    decide +kernel
  cases hload : Results.load oldAndNewFiles [.ofString "old"] { groups := ["StreamOpt"] } .missing with
  | error e => rw [hload] at hok; cases hok
  | ok s =>
    exact ⟨s, rfl, (normalize_brings_up_to_date.2 _ _ _ _ (.cons isRenamed_oldAndNewFiles .nil) _ _ s).1 hload⟩

end Benchwork.Benchmark
