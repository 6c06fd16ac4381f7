/-
Where paths lead.

`Reach` says when a sequence of steps leads from one location to a place: a node that is there, or a free name in a
directory. It has one rule for each kind of step and reads nothing but the view of the tree. `lookup_eq_ok` says that a
look-up succeeds exactly when the path reaches a place, and gives that place. What follows is proved on derivations:
- `Reach.retrace`: a place is found in every view that keeps the directories and links on the way to it;
- `Reach.split`: what stands before the last steps leads to a node.
From this comes what a store keeps of the paths of another one (`KeepsWays.isDir`, `Extends.pathExists`).
-/
import Benchwork.Proofs.Files.View

namespace Benchwork

namespace FileStore

/-! ## Places and the rules that lead to them -/

/-- where a path leads, without the node that stands there -/
inductive Place where
  | found (loc : Location)
  | vacant (dir : Location) (name : Name)
  deriving DecidableEq

/-- a place with the node that stands there -/
def Place.spot (root : Node) : Place → Spot
  | .found loc => .found loc ((root.get? loc).getD .empty)
  | .vacant dir n => .vacant dir n

/-- steps lead from a location to a place, through as many links as the number says at most -/
inductive Reach (v : Location → Option Kind) (purpose : Purpose) : Nat → Location → List Step → Place → Prop
  | done {links : Nat} {loc : Location} : Reach v purpose links loc [] (.found loc)
  | here {links : Nat} {loc : Location} {rest : List Step} {r : Place} :
      Reach v purpose links loc rest r → Reach v purpose links loc (.here :: rest) r
  | slash {links : Nat} {loc : Location} {rest : List Step} {r : Place} :
      Reach v purpose links loc rest r → Reach v purpose links loc (.slash :: rest) r
  | up {links : Nat} {loc : Location} {rest : List Step} {r : Place} :
      Reach v purpose links loc.dropLast rest r → Reach v purpose links loc (.up :: rest) r
  | enter {links : Nat} {loc : Location} {n : Name} {rest : List Step} {r : Place} : isBarred purpose rest = false →
      n.length ≤ nameLimit → v (loc ++ [n]) = some .dir → Reach v purpose links (loc ++ [n]) rest r →
      Reach v purpose links loc (.down n :: rest) r
  | file {links : Nat} {loc : Location} {n : Name} {content : List UInt8} : n.length ≤ nameLimit →
      v (loc ++ [n]) = some (.file content) → Reach v purpose links loc [.down n] (.found (loc ++ [n]))
  | free {links : Nat} {loc : Location} {n : Name} : n.length ≤ nameLimit → v loc = some .dir →
      v (loc ++ [n]) = none → Reach v purpose links loc [.down n] (.vacant loc n)
  | stop {links : Nat} {loc : Location} {n : Name} {target : Path} : purpose = .itself → n.length ≤ nameLimit →
      v (loc ++ [n]) = some (.link target) → Reach v purpose links loc [.down n] (.found (loc ++ [n]))
  | follow {links : Nat} {loc : Location} {n : Name} {target : Path} {rest : List Step} {r : Place} :
      isBarred purpose rest = false → n.length ≤ nameLimit → v (loc ++ [n]) = some (.link target) →
      ¬ (rest = [] ∧ purpose = .itself) → target.bytes ≠ [] →
      Reach v purpose links (if target.isAbsolute then [] else loc) (stepsOf target ++ rest) r →
      Reach v purpose (links + 1) loc (.down n :: rest) r

/-! ## Trails -/

namespace Trail

/-- the trail follows the entries of the tree -/
def Along (root : Node) : Trail → Prop
  | [] => True
  | (n, x) :: t => Along root t ∧ (Trail.last root t).child? n = some x

@[simp]
theorem location_cons (n : Name) (x : Node) (t : Trail) : location ((n, x) :: t) = location t ++ [n] := by
  simp [location]

theorem location_tail (t : Trail) : location t.tail = (location t).dropLast := by
  cases t with
  | nil => rfl
  | cons e t => simp [location]

theorem Along.tail {root : Node} {t : Trail} (h : Along root t) : Along root t.tail := by
  cases t with
  | nil => exact h
  | cons e t => exact h.1

theorem Along.get?_location {root : Node} {t : Trail} (h : Along root t) :
    root.get? t.location = some (Trail.last root t) := by
  induction t with
  | nil => rfl
  | cons e t ih =>
    obtain ⟨n, x⟩ := e
    rw [location_cons, Node.get?_snoc, ih h.1]
    exact h.2

theorem Along.view_snoc {root : Node} {t : Trail} (h : Along root t) (n : Name) :
    root.view (t.location ++ [n]) = ((Trail.last root t).child? n).map Node.kind := by
  rw [Node.view, Node.get?_snoc, h.get?_location]
  rfl

theorem Along.view_location {root : Node} {t : Trail} (h : Along root t) :
    root.view t.location = some (Trail.last root t).kind := by
  rw [Node.view, h.get?_location]
  rfl

theorem along_along {root : Node} {t t' : Trail} {loc : Location} (ht : Along root t)
    (h : along t (Trail.last root t) loc = some t') : Along root t' ∧ t'.location = t.location ++ loc := by
  induction loc generalizing t with
  | nil =>
    obtain ⟨-, rfl⟩ : _ ∧ t = t' := by simpa [along] using h
    exact ⟨ht, by simp⟩
  | cons n loc ih =>
    obtain ⟨y, hy, h⟩ := Option.bind_eq_some_iff.1 h
    obtain ⟨h1, h2⟩ := ih (t := (n, y) :: t) ⟨ht, hy⟩ h
    exact ⟨h1, by simp [h2]⟩

theorem isSome_along {t : Trail} {x : Node} {loc : Location} :
    (along t x loc).isSome = true ↔ x.view loc = some .dir := by
  induction loc generalizing t x with
  | nil => simp [along, Node.isDir_eq_true]
  | cons n loc ih =>
    rw [along, Node.view_cons]
    cases x.child? n with
    | none => simp
    | some y => exact ih

theorem Along.child_eq_dir {root : Node} {t : Trail} {n : Name} (h : Along root t)
    (hv : root.view (t.location ++ [n]) = some .dir) :
    ∃ entries, (Trail.last root t).child? n = some (.dir entries) := by
  rw [h.view_snoc] at hv
  obtain ⟨y, hy, hk⟩ := Option.map_eq_some_iff.1 hv
  obtain ⟨entries, rfl⟩ := Node.kind_eq_dir.1 hk
  exact ⟨entries, hy⟩

theorem Along.child_eq_file {root : Node} {t : Trail} {n : Name} {content : List UInt8} (h : Along root t)
    (hv : root.view (t.location ++ [n]) = some (.file content)) :
    ∃ executable, (Trail.last root t).child? n = some (.file content executable) := by
  rw [h.view_snoc] at hv
  obtain ⟨y, hy, hk⟩ := Option.map_eq_some_iff.1 hv
  cases y with
  | file c executable => simp only [Node.kind, Kind.file.injEq] at hk; subst hk; exact ⟨executable, hy⟩
  | link target => simp [Node.kind] at hk
  | dir entries => simp [Node.kind] at hk

theorem Along.child_eq_link {root : Node} {t : Trail} {n : Name} {target : Path} (h : Along root t)
    (hv : root.view (t.location ++ [n]) = some (.link target)) :
    (Trail.last root t).child? n = some (.link target) := by
  rw [h.view_snoc] at hv
  obtain ⟨y, hy, hk⟩ := Option.map_eq_some_iff.1 hv
  cases y with
  | file c executable => simp [Node.kind] at hk
  | link t' => simp only [Node.kind, Kind.link.injEq] at hk; subst hk; exact hy
  | dir entries => simp [Node.kind] at hk

theorem Along.spot_snoc {root : Node} {t : Trail} {n : Name} {x : Node} (h : Along root t)
    (hx : (Trail.last root t).child? n = some x) :
    (Place.found (t.location ++ [n])).spot root = .found (t.location ++ [n]) x := by
  rw [Place.spot, Node.get?_snoc, h.get?_location]
  simp [hx]

end Trail

/-! ## Look-ups and derivations -/

theorem isBarred_nil (purpose : Purpose) : isBarred purpose [] = false := by simp [isBarred]

theorem traceSteps_down {root : Node} {purpose : Purpose} {follow : Trail → List Step → Except Fault Spot} {t : Trail}
    {n : Name} {rest : List Step} (hb : isBarred purpose rest = false) (hn : n.length ≤ nameLimit) :
    traceSteps root purpose follow t (.down n :: rest) =
      match (Trail.last root t).child? n with
      | none =>
        if !(Trail.last root t).isDir then .error .notDirectory
        else if rest = [] then .ok (.vacant t.location n)
        else .error .notFound
      | some (.file content executable) =>
        if rest = [] then .ok (.found (t.location ++ [n]) (.file content executable)) else .error .notDirectory
      | some (.dir entries) => traceSteps root purpose follow ((n, .dir entries) :: t) rest
      | some (.link target) =>
        if rest = [] ∧ purpose = .itself then .ok (.found (t.location ++ [n]) (.link target))
        else if target.bytes = [] then .error .notFound
        else follow (if target.isAbsolute then [] else t) (stepsOf target ++ rest) := by
  rw [traceSteps, hb, if_neg (by simp), if_neg (Nat.not_lt.2 hn)]
  cases (Trail.last root t).child? n with
  | none => rfl
  | some y => cases y <;> simp only [Trail.location_cons]

/-- a trace that succeeds has a derivation, if every trace behind a link does -/
theorem reach_of_traceSteps {root : Node} {purpose : Purpose} {links : Nat}
    {follow : Trail → List Step → Except Fault Spot}
    (hf : ∀ t rest s, Trail.Along root t → follow t rest = .ok s →
      ∃ k r, links = k + 1 ∧ Reach root.view purpose k t.location rest r ∧ s = r.spot root)
    {t : Trail} {rest : List Step} {s : Spot} (ht : Trail.Along root t)
    (h : traceSteps root purpose follow t rest = .ok s) :
    ∃ r, Reach root.view purpose links t.location rest r ∧ s = r.spot root := by
  induction rest generalizing t with
  | nil =>
    simp only [traceSteps, Except.ok.injEq] at h
    exact ⟨.found t.location, .done, by rw [← h, Place.spot, ht.get?_location]; rfl⟩
  | cons step rest ih =>
    cases step with
    | here =>
      obtain ⟨r, hr, hs⟩ := ih ht h
      exact ⟨r, .here hr, hs⟩
    | slash =>
      obtain ⟨r, hr, hs⟩ := ih ht h
      exact ⟨r, .slash hr, hs⟩
    | up =>
      obtain ⟨r, hr, hs⟩ := ih ht.tail h
      rw [Trail.location_tail] at hr
      exact ⟨r, .up hr, hs⟩
    | down n =>
      cases hb : isBarred purpose rest with
      | true => simp [traceSteps, hb] at h
      | false =>
      by_cases hn : n.length > nameLimit
      · simp [traceSteps, hb, hn] at h
      rw [traceSteps_down hb (Nat.le_of_not_lt hn)] at h
      have hn : n.length ≤ nameLimit := Nat.le_of_not_lt hn
      have hv := ht.view_snoc n
      split at h
      · rename_i hc
        split_ifs at h with hd hr
        subst hr
        simp only [Except.ok.injEq] at h
        have hd : root.view t.location = some .dir := by
          rw [ht.view_location, Node.isDir_eq_true.1 (by simpa using hd)]
        exact ⟨.vacant t.location n, .free hn hd (by rw [hv, hc]; rfl), h.symm⟩
      · rename_i content executable hc
        split_ifs at h with hr
        subst hr
        simp only [Except.ok.injEq] at h
        exact ⟨.found (t.location ++ [n]), .file hn (by rw [hv, hc]; rfl), by rw [← h, ht.spot_snoc hc]⟩
      · rename_i entries hc
        obtain ⟨r, hr, hs⟩ := ih (t := (n, .dir entries) :: t) ⟨ht, hc⟩ h
        rw [Trail.location_cons] at hr
        exact ⟨r, .enter hb hn (by rw [hv, hc]; rfl) hr, hs⟩
      · rename_i target hc
        by_cases h1 : rest = [] ∧ purpose = .itself
        · rw [if_pos h1] at h
          obtain ⟨rfl, h1⟩ := h1
          exact ⟨.found (t.location ++ [n]), .stop h1 hn (by rw [hv, hc]; rfl),
            by rw [← Except.ok.inj h, ht.spot_snoc hc]⟩
        · rw [if_neg h1] at h
          by_cases h2 : target.bytes = []
          · rw [if_pos h2] at h
            cases h
          · rw [if_neg h2] at h
            obtain ⟨k, r, rfl, hr, hs⟩ := hf _ _ _ (by split_ifs; exacts [trivial, ht]) h
            refine ⟨r, .follow hb hn (by rw [hv, hc]; rfl) h1 h2 ?_, hs⟩
            split_ifs at hr ⊢ <;> exact hr

theorem reach_of_trace {root : Node} {purpose : Purpose} {links : Nat} {t : Trail} {rest : List Step} {s : Spot}
    (ht : Trail.Along root t) (h : trace root purpose links t rest = .ok s) :
    ∃ r, Reach root.view purpose links t.location rest r ∧ s = r.spot root := by
  induction links generalizing t rest s with
  | zero => exact reach_of_traceSteps (fun _ _ _ _ hf => by simp at hf) ht h
  | succ links ih => exact reach_of_traceSteps (fun _ _ _ ht' hf => ⟨links, by simpa using ih ht' hf⟩) ht h

/-- the number of links only matters behind a link -/
theorem trace_eq (root : Node) (purpose : Purpose) (links : Nat) :
    ∃ follow, trace root purpose links = traceSteps root purpose follow := by
  cases links <;> exact ⟨_, rfl⟩

theorem trace_of_reach {root : Node} {purpose : Purpose} {links : Nat} {loc : Location} {rest : List Step} {r : Place}
    (h : Reach root.view purpose links loc rest r) {t : Trail} (ht : Trail.Along root t) (hl : t.location = loc) :
    trace root purpose links t rest = .ok (r.spot root) := by
  induction h generalizing t with
  | @done links loc =>
    obtain ⟨follow, hk⟩ := trace_eq root purpose links
    rw [hk, traceSteps, ← hl, Place.spot, ht.get?_location]
    rfl
  | @here links loc rest r _ ih =>
    obtain ⟨follow, hk⟩ := trace_eq root purpose links
    rw [hk] at ih ⊢
    exact ih ht hl
  | @slash links loc rest r _ ih =>
    obtain ⟨follow, hk⟩ := trace_eq root purpose links
    rw [hk] at ih ⊢
    exact ih ht hl
  | @up links loc rest r _ ih =>
    obtain ⟨follow, hk⟩ := trace_eq root purpose links
    rw [hk] at ih ⊢
    exact ih ht.tail (by rw [Trail.location_tail, hl])
  | @enter links loc n rest r hb hn hv _ ih =>
    subst hl
    obtain ⟨follow, hk⟩ := trace_eq root purpose links
    obtain ⟨entries, hc⟩ := ht.child_eq_dir hv
    rw [hk] at ih ⊢
    rw [traceSteps_down hb hn, hc]
    exact ih (t := (n, .dir entries) :: t) ⟨ht, hc⟩ (Trail.location_cons _ _ _)
  | @file links loc n content hn hv =>
    subst hl
    obtain ⟨follow, hk⟩ := trace_eq root purpose links
    obtain ⟨executable, hc⟩ := ht.child_eq_file hv
    rw [hk, traceSteps_down (isBarred_nil _) hn, hc, ht.spot_snoc hc]
    simp
  | @free links loc n hn hd hv =>
    subst hl
    obtain ⟨follow, hk⟩ := trace_eq root purpose links
    have hc : (Trail.last root t).child? n = none := by simpa [ht.view_snoc] using hv
    have hd : (Trail.last root t).isDir = true := Node.isDir_eq_true.2 (by simpa [ht.view_location] using hd)
    rw [hk, traceSteps_down (isBarred_nil _) hn, hc]
    simp [hd, Place.spot]
  | @stop links loc n target hp hn hv =>
    subst hl
    obtain ⟨follow, hk⟩ := trace_eq root purpose links
    have hc := ht.child_eq_link hv
    rw [hk, traceSteps_down (isBarred_nil _) hn, hc, ht.spot_snoc hc]
    simp [hp]
  | @follow links loc n target rest r hb hn hv h1 h2 _ ih =>
    subst hl
    have hc := ht.child_eq_link hv
    rw [trace, traceSteps_down hb hn, hc]
    simp only [h1, h2, if_false]
    exact ih (by split_ifs; exacts [trivial, ht]) (by split_ifs <;> rfl)

/-! ## Derivations in other views -/

def Place.loc : Place → Location
  | .found loc => loc
  | .vacant dir n => dir ++ [n]

theorem isBarred_of_ne {purpose : Purpose} (h : purpose ≠ .writing) (rest : List Step) :
    isBarred purpose rest = false := by
  simp [isBarred, h]

/-- a place is found in every view that keeps directories and links and has a file or a directory there -/
theorem Reach.retrace {v v' : Location → Option Kind} {purpose : Purpose} {links : Nat} {loc : Location}
    {rest : List Step} {r : Place} (h : Reach v purpose links loc rest r)
    (hdir : ∀ l, v l = some .dir → v' l = some .dir)
    (hlink : ∀ l t, v l = some (.link t) → v' l = some (.link t))
    (hr : v' r.loc = some .dir ∨ ∃ content, v' r.loc = some (.file content)) :
    Reach v' .target links loc rest (.found r.loc) := by
  have hb : ∀ rest, isBarred .target rest = false := isBarred_of_ne (by simp)
  have hlast : ∀ {links : Nat} {loc : Location} {n : Name}, n.length ≤ nameLimit →
      (v' (loc ++ [n]) = some .dir ∨ ∃ content, v' (loc ++ [n]) = some (.file content)) →
      Reach v' .target links loc [.down n] (.found (loc ++ [n])) := by
    intro links loc n hn h
    rcases h with h | ⟨content, h⟩
    · exact .enter (hb _) hn h .done
    · exact .file hn h
  induction h with
  | done => exact .done
  | here _ ih => exact .here (ih hr)
  | slash _ ih => exact .slash (ih hr)
  | up _ ih => exact .up (ih hr)
  | enter _ hn hv _ ih => exact .enter (hb _) hn (hdir _ hv) (ih hr)
  | file hn _ => exact hlast hn hr
  | free hn _ _ => exact hlast hn hr
  | stop _ hn _ => exact hlast hn hr
  | follow _ hn hv _ h2 _ ih => exact .follow (hb _) hn (hlink _ _ hv) (by simp) h2 (ih hr)

/-- what leads somewhere to write leads there to read -/
theorem Reach.of_writing {v : Location → Option Kind} {links : Nat} {loc : Location} {rest : List Step} {r : Place}
    (h : Reach v .writing links loc rest r) : Reach v .target links loc rest r := by
  have hb : ∀ rest, isBarred .target rest = false := isBarred_of_ne (by simp)
  induction h with
  | done => exact .done
  | here _ ih => exact .here ih
  | slash _ ih => exact .slash ih
  | up _ ih => exact .up ih
  | enter _ hn hv _ ih => exact .enter (hb _) hn hv ih
  | file hn hv => exact .file hn hv
  | free hn hd hv => exact .free hn hd hv
  | stop hp _ _ => cases hp
  | follow _ hn hv _ h2 _ ih => exact .follow (hb _) hn hv (by simp) h2 ih

/-- what leads to a node leads to one when the last link is not followed -/
theorem Reach.itself {v : Location → Option Kind} {links : Nat} {loc L : Location} {rest : List Step}
    (h : Reach v .target links loc rest (.found L)) : ∃ L', Reach v .itself links loc rest (.found L') := by
  have hb : ∀ rest, isBarred .itself rest = false := isBarred_of_ne (by simp)
  generalize hr : Place.found L = r at h
  induction h with
  | @done links loc => exact ⟨loc, .done⟩
  | here _ ih => obtain ⟨L', h'⟩ := ih hr; exact ⟨L', .here h'⟩
  | slash _ ih => obtain ⟨L', h'⟩ := ih hr; exact ⟨L', .slash h'⟩
  | up _ ih => obtain ⟨L', h'⟩ := ih hr; exact ⟨L', .up h'⟩
  | enter _ hn hv _ ih => obtain ⟨L', h'⟩ := ih hr; exact ⟨L', .enter (hb _) hn hv h'⟩
  | file hn hv => exact ⟨_, .file hn hv⟩
  | free _ _ _ => cases hr
  | stop hp _ _ => cases hp
  | @follow links loc n target rest r _ hn hv _ h2 _ ih =>
    cases rest with
    | nil => exact ⟨_, .stop rfl hn hv⟩
    | cons step rest => obtain ⟨L', h'⟩ := ih hr; exact ⟨L', .follow (hb _) hn hv (by simp) h2 h'⟩

/-- what stands before the last steps leads to a node -/
theorem Reach.split {v : Location → Option Kind} {purpose : Purpose} {links : Nat} {loc : Location} {s t : List Step}
    {r : Place} (ht : t ≠ []) (h : Reach v purpose links loc (s ++ t) r) :
    ∃ L k, Reach v .target links loc s (.found L) ∧ Reach v purpose k L t r := by
  have hb : ∀ rest, isBarred .target rest = false := isBarred_of_ne (by simp)
  have hnil : ∀ {links : Nat} {loc : Location} {rest : List Step} {r : Place}, Reach v purpose links loc rest r →
      [] ++ t = rest → ∃ L k, Reach v .target links loc [] (.found L) ∧ Reach v purpose k L t r := by
    rintro links loc rest r h rfl
    exact ⟨loc, links, .done, h⟩
  have hend : ∀ {step : Step} {s : List Step} {last : Step}, step :: s ++ t = [last] → False := by
    intro step s last h
    exact ht (List.append_eq_nil_iff.1 (List.cons.inj h).2).2
  generalize hs : s ++ t = rest at h
  induction h generalizing s with
  | done => exact absurd (List.append_eq_nil_iff.1 hs).2 ht
  | here h ih =>
    cases s with
    | nil => exact hnil (.here h) hs
    | cons step s =>
      obtain ⟨rfl, hs'⟩ := List.cons.inj hs
      obtain ⟨L, k, h1, h2⟩ := ih hs'
      exact ⟨L, k, .here h1, h2⟩
  | slash h ih =>
    cases s with
    | nil => exact hnil (.slash h) hs
    | cons step s =>
      obtain ⟨rfl, hs'⟩ := List.cons.inj hs
      obtain ⟨L, k, h1, h2⟩ := ih hs'
      exact ⟨L, k, .slash h1, h2⟩
  | up h ih =>
    cases s with
    | nil => exact hnil (.up h) hs
    | cons step s =>
      obtain ⟨rfl, hs'⟩ := List.cons.inj hs
      obtain ⟨L, k, h1, h2⟩ := ih hs'
      exact ⟨L, k, .up h1, h2⟩
  | enter hbar hn hv h ih =>
    cases s with
    | nil => exact hnil (.enter hbar hn hv h) hs
    | cons step s =>
      obtain ⟨rfl, hs'⟩ := List.cons.inj hs
      obtain ⟨L, k, h1, h2⟩ := ih hs'
      exact ⟨L, k, .enter (hb _) hn hv h1, h2⟩
  | file hn hv =>
    cases s with
    | nil => exact hnil (.file hn hv) hs
    | cons step s => exact (hend hs).elim
  | free hn hd hv =>
    cases s with
    | nil => exact hnil (.free hn hd hv) hs
    | cons step s => exact (hend hs).elim
  | stop hp hn hv =>
    cases s with
    | nil => exact hnil (.stop hp hn hv) hs
    | cons step s => exact (hend hs).elim
  | @follow links loc n target rest r hbar hn hv h1 h2 h ih =>
    cases s with
    | nil => exact hnil (.follow hbar hn hv h1 h2 h) hs
    | cons step s =>
      obtain ⟨rfl, (hs' : s ++ t = rest)⟩ := List.cons.inj hs
      obtain ⟨L, k, h3, h4⟩ := ih (s := stepsOf target ++ s) (by rw [List.append_assoc, hs'])
      exact ⟨L, k, .follow (hb _) hn hv (by simp) h2 h3, h4⟩

/-- what leads on from a directory may follow what leads to it -/
theorem Reach.append {v : Location → Option Kind} {links : Nat} {loc L : Location} {s t : List Step} {r : Place}
    (h : Reach v .target links loc s (.found L)) (hd : v L = some .dir) (ht : ∀ k, Reach v .target k L t r) :
    Reach v .target links loc (s ++ t) r := by
  have hb : ∀ rest, isBarred .target rest = false := isBarred_of_ne (by simp)
  generalize hr : Place.found L = place at h
  induction h with
  | done => obtain rfl := Place.found.inj hr; exact ht _
  | here _ ih => exact .here (ih hr)
  | slash _ ih => exact .slash (ih hr)
  | up _ ih => exact .up (ih hr)
  | enter _ hn hv _ ih => exact .enter (hb _) hn hv (ih hr)
  | file _ hv => obtain rfl := Place.found.inj hr; simp [hd] at hv
  | free => cases hr
  | stop hp => cases hp
  | follow _ hn hv _ h2 _ ih =>
    have h3 := ih hr
    rw [List.append_assoc] at h3
    exact .follow (hb _) hn hv (by simp) h2 h3

/-- what steps from a directory find is a directory or a file, or a link that they were not to follow -/
theorem Reach.kind {x : Node} {purpose : Purpose} {links : Nat} {loc L : Location} {rest : List Step}
    (h : Reach x.view purpose links loc rest (.found L)) (hl : x.view loc = some .dir) :
    x.view L = some .dir ∨ (∃ content, x.view L = some (.file content)) ∨
      purpose = .itself ∧ ∃ target, x.view L = some (.link target) := by
  generalize hr : Place.found L = r at h
  induction h with
  | done => obtain rfl := Place.found.inj hr; exact .inl hl
  | here _ ih => exact ih hl hr
  | slash _ ih => exact ih hl hr
  | up _ ih => exact ih (Node.view_dropLast hl) hr
  | enter _ _ hv _ ih => exact ih hv hr
  | file _ hv => obtain rfl := Place.found.inj hr; exact .inr (.inl ⟨_, hv⟩)
  | free => cases hr
  | stop hp _ hv => obtain rfl := Place.found.inj hr; exact .inr (.inr ⟨hp, _, hv⟩)
  | follow _ _ _ _ _ _ ih => exact ih (by split_ifs; exacts [Node.view_root hl, hl]) hr

/-- a free name stands for nothing in a directory -/
theorem Reach.vacant {v : Location → Option Kind} {purpose : Purpose} {links : Nat} {loc d : Location}
    {rest : List Step} {n : Name} (h : Reach v purpose links loc rest (.vacant d n)) :
    v d = some .dir ∧ v (d ++ [n]) = none := by
  generalize hr : Place.vacant d n = r at h
  induction h with
  | done => cases hr
  | here _ ih => exact ih hr
  | slash _ ih => exact ih hr
  | up _ ih => exact ih hr
  | enter _ _ _ _ ih => exact ih hr
  | file => cases hr
  | free _ hd hv => obtain ⟨rfl, rfl⟩ := Place.vacant.inj hr; exact ⟨hd, hv⟩
  | stop => cases hr
  | follow _ _ _ _ _ _ ih => exact ih hr

/-! ## Paths -/

structure Leads (fs : FileStore) (purpose : Purpose) (p : Path) (r : Place) : Prop where
  clean : 0 ∉ p.bytes
  nonempty : p.bytes ≠ []
  short : p.bytes.length ≤ pathLimit
  start : fs.root.view (fs.start p) = some .dir
  reach : Reach fs.root.view purpose linkLimit (fs.start p) (stepsOf p) r

theorem Leads.lookup {fs : FileStore} {purpose : Purpose} {p : Path} {r : Place} (h : fs.Leads purpose p r) :
    fs.lookup purpose p = .ok (r.spot fs.root) := by
  rw [FileStore.lookup, if_neg (by simpa using h.clean), if_neg h.nonempty, if_neg (Nat.not_lt.2 h.short)]
  obtain ⟨t, ht⟩ := Option.isSome_iff_exists.1 (Trail.isSome_along (t := []).2 h.start)
  obtain ⟨h1, h2⟩ := Trail.along_along (t := []) trivial ht
  rw [ht]
  exact trace_of_reach h.reach h1 h2

theorem lookup_eq_ok {fs : FileStore} {purpose : Purpose} {p : Path} {s : Spot} :
    fs.lookup purpose p = .ok s ↔ ∃ r, fs.Leads purpose p r ∧ s = r.spot fs.root := by
  constructor
  · intro h
    rw [FileStore.lookup] at h
    split_ifs at h with h1 h2 h3
    split at h
    · rename_i t ht
      obtain ⟨ha, hl⟩ := Trail.along_along (t := []) trivial ht
      obtain ⟨r, hr, hs⟩ := reach_of_trace ha h
      rw [hl] at hr
      exact ⟨r, ⟨by simpa using h1, h2, Nat.le_of_not_lt h3, Trail.isSome_along.1 (by rw [ht]; rfl), hr⟩, hs⟩
    · cases h
  · rintro ⟨r, hr, rfl⟩
    exact hr.lookup

theorem Place.eq_of_spot_eq {root : Node} {r r' : Place} (h : r.spot root = r'.spot root) : r = r' := by
  cases r <;> cases r' <;> simp_all [Place.spot]

/-- a path leads to one place -/
theorem Leads.unique {fs : FileStore} {purpose : Purpose} {p : Path} {r r' : Place} (h : fs.Leads purpose p r)
    (h' : fs.Leads purpose p r') : r = r' :=
  Place.eq_of_spot_eq (Except.ok.inj (h.lookup.symm.trans h'.lookup))

theorem Leads.of_writing {fs : FileStore} {p : Path} {r : Place} (h : fs.Leads .writing p r) : fs.Leads .target p r :=
  ⟨h.clean, h.nonempty, h.short, h.start, h.reach.of_writing⟩

/-- what a path leads to is a directory or a file -/
theorem Leads.kind {fs : FileStore} {p : Path} {L : Location} (h : fs.Leads .target p (.found L)) :
    fs.root.view L = some .dir ∨ ∃ content, fs.root.view L = some (.file content) := by
  rcases h.reach.kind h.start with h | h | ⟨h, -⟩
  · exact .inl h
  · exact .inr h
  · cases h

theorem Leads.present {fs : FileStore} {purpose : Purpose} {p : Path} {L : Location}
    (h : fs.Leads purpose p (.found L)) : ∃ x, fs.root.get? L = some x := by
  refine Option.ne_none_iff_exists'.1 (mt Node.view_eq_none.2 ?_)
  rcases h.reach.kind h.start with h | ⟨content, h⟩ | ⟨-, target, h⟩ <;> simp [h]

theorem node_eq_ok {fs : FileStore} {purpose : Purpose} {p : Path} {x : Node} :
    fs.node purpose p = .ok x ↔ ∃ L, fs.Leads purpose p (.found L) ∧ fs.root.get? L = some x := by
  constructor
  · intro h
    rw [node] at h
    split at h
    · rename_i L y hy
      obtain rfl := Except.ok.inj h
      obtain ⟨r, hr, hs⟩ := lookup_eq_ok.1 hy
      cases r with
      | vacant dir n => simp [Place.spot] at hs
      | found loc =>
        obtain ⟨rfl, rfl⟩ : L = loc ∧ y = (fs.root.get? loc).getD .empty := by simpa [Place.spot] using hs
        obtain ⟨z, hz⟩ := hr.present
        exact ⟨L, hr, by simp [hz]⟩
    · cases h
    · cases h
  · rintro ⟨L, hL, hx⟩
    simp [node, hL.lookup, Place.spot, hx]

theorem read_of_leads {fs : FileStore} {p : Path} {L : Location} {content : List UInt8}
    (h : fs.Leads .target p (.found L)) (hfile : fs.root.view L = some (.file content)) : fs.read p = .ok content := by
  obtain ⟨x, hx, hk⟩ := Node.view_eq_some.1 hfile
  rw [read, node_eq_ok.2 ⟨L, h, hx⟩]
  cases x with
  | file c executable =>
    obtain rfl : c = content := Kind.file.inj hk
    rfl
  | link target => cases hk
  | dir entries => cases hk

theorem read_of_vacant {fs : FileStore} {p : Path} {d : Location} {n : Name} (h : fs.Leads .target p (.vacant d n)) :
    fs.read p = .error .notFound := by
  simp [read, node, h.lookup, Place.spot]

theorem pathExists_iff {fs : FileStore} {p : Path} : fs.pathExists p = true ↔ ∃ L, fs.Leads .target p (.found L) := by
  constructor
  · intro h
    rw [pathExists] at h
    cases hx : fs.node .target p with
    | error e => simp [hx, Except.isOk, Except.toBool] at h
    | ok x =>
      obtain ⟨L, hL, -⟩ := node_eq_ok.1 hx
      exact ⟨L, hL⟩
  · rintro ⟨L, hL⟩
    obtain ⟨x, hx⟩ := hL.present
    rw [pathExists, node_eq_ok.2 ⟨L, hL, hx⟩]
    rfl

theorem isDir_iff {fs : FileStore} {p : Path} :
    fs.isDir p = true ↔ ∃ L, fs.Leads .target p (.found L) ∧ fs.root.view L = some .dir := by
  constructor
  · intro h
    rw [isDir] at h
    split at h
    · rename_i x hx
      obtain ⟨L, hL, hx⟩ := node_eq_ok.1 hx
      exact ⟨L, hL, Node.view_eq_some.2 ⟨x, hx, Node.isDir_eq_true.1 h⟩⟩
    · cases h
  · rintro ⟨L, hL, hd⟩
    obtain ⟨x, hx, hk⟩ := Node.view_eq_some.1 hd
    rw [isDir, node_eq_ok.2 ⟨L, hL, hx⟩]
    exact Node.isDir_eq_true.2 hk

theorem pathExists_of_isDir {fs : FileStore} {p : Path} (h : fs.isDir p = true) : fs.pathExists p = true := by
  obtain ⟨L, hL, -⟩ := isDir_iff.1 h
  exact pathExists_iff.2 ⟨L, hL⟩

theorem start_congr {fs fs' : FileStore} (h : fs'.cwd = fs.cwd) (p : Path) : fs'.start p = fs.start p := by
  rw [FileStore.start, FileStore.start, h]

/-! ## Paths in other stores -/

/-- a store leads paths through the directories and links of another one -/
structure KeepsWays (fs fs' : FileStore) : Prop where
  cwd : fs'.cwd = fs.cwd
  dir : ∀ l, fs.root.view l = some .dir → fs'.root.view l = some .dir
  link : ∀ l t, fs.root.view l = some (.link t) → fs'.root.view l = some (.link t)

theorem KeepsWays.refl (fs : FileStore) : fs.KeepsWays fs := ⟨rfl, fun _ h => h, fun _ _ h => h⟩

theorem KeepsWays.trans {fs fs' fs'' : FileStore} (h : fs.KeepsWays fs') (h' : fs'.KeepsWays fs'') :
    fs.KeepsWays fs'' :=
  ⟨h'.cwd.trans h.cwd, fun l hl => h'.dir l (h.dir l hl), fun l t hl => h'.link l t (h.link l t hl)⟩

/-- a path leads to its place in every store that keeps the ways and has a file or a directory there -/
theorem Leads.retrace {fs fs' : FileStore} {purpose : Purpose} {p : Path} {r : Place} (h : fs.Leads purpose p r)
    (hw : fs.KeepsWays fs')
    (hr : fs'.root.view r.loc = some .dir ∨ ∃ content, fs'.root.view r.loc = some (.file content)) :
    fs'.Leads .target p (.found r.loc) where
  clean := h.clean
  nonempty := h.nonempty
  short := h.short
  start := by rw [start_congr hw.cwd]; exact hw.dir _ h.start
  reach := by rw [start_congr hw.cwd]; exact h.reach.retrace hw.dir hw.link hr

theorem KeepsWays.isDir {fs fs' : FileStore} (hw : fs.KeepsWays fs') {p : Path} (h : fs.isDir p = true) :
    fs'.isDir p = true := by
  obtain ⟨L, hL, hd⟩ := isDir_iff.1 h
  exact isDir_iff.2 ⟨L, hL.retrace hw (.inl (hw.dir L hd)), hw.dir L hd⟩

/-- a store has everything that another one has, except that the content of files may differ -/
structure Extends (fs fs' : FileStore) : Prop extends KeepsWays fs fs' where
  file : ∀ l c, fs.root.view l = some (.file c) → ∃ c', fs'.root.view l = some (.file c')

theorem Extends.refl (fs : FileStore) : fs.Extends fs :=
  ⟨.refl fs, fun _ c h => ⟨c, h⟩⟩

theorem Extends.trans {fs fs' fs'' : FileStore} (h : fs.Extends fs') (h' : fs'.Extends fs'') : fs.Extends fs'' := by
  refine ⟨h.toKeepsWays.trans h'.toKeepsWays, ?_⟩
  intro l c hl
  obtain ⟨c', hc'⟩ := h.file l c hl
  exact h'.file l c' hc'

theorem Extends.pathExists {fs fs' : FileStore} (hx : fs.Extends fs') {p : Path} (h : fs.pathExists p = true) :
    fs'.pathExists p = true := by
  obtain ⟨L, hL⟩ := pathExists_iff.1 h
  refine pathExists_iff.2 ⟨L, hL.retrace hx.toKeepsWays ?_⟩
  rcases hL.kind with hd | ⟨content, hc⟩
  · exact .inl (hx.dir L hd)
  · exact .inr (hx.file L content hc)

end FileStore

end Benchwork
