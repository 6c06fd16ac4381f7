/-
The components of a path.

A name that is joined to a path is one more component (`components_join`), and it is the last one: it is the name of the
file (`fileName_join`), and what stands before it is the path above (`parent_join`). So the path of something `below` a
directory has the components of the directory and then the names on the way (`components_below`), and it tells these
names (`below_injective`). A path that leads to a file bears the name of the file (`Leads.fileName`).
-/
import Benchwork.Proofs.Files.Paths

namespace Benchwork

open Benchwork.Text

namespace Path

/-! ## A name at the end -/

theorem components_join {p : Path} {n : Name} (hn : IsOrdinary n) :
    (p.join ⟨n⟩).components = p.components ++ [.name n] := by
  have hsegment : Component.ofSegment n = .name n := by
    rw [Component.ofSegment, if_neg hn.2.2.1, if_neg hn.2.2.2]
  have hproper : isProper n = true := by simpa [isProper] using ⟨hn.1, hn.2.2.1⟩
  have hsplit : n.splitOn slash = [n] := List.splitOn_eq_singleton hn.2.1
  by_cases hp : p.bytes = []
  · have hjoin : p.join ⟨n⟩ = ⟨n⟩ := by rw [join, if_neg (by simp [hn.isAbsolute]), if_pos (.inl hp), hp]; rfl
    have hempty : p.components = [] := by simp [components, isAbsolute, hp, isProper, dot]
    rw [hjoin, hempty]
    simp [components, hn.isAbsolute, hsplit, hn.2.2.1, hproper, hsegment]
  · -- one more piece, and the pieces before it are those of the path, but for an empty one
    have hpieces : ∃ pieces, pieces ≠ [] ∧ (p.join ⟨n⟩).bytes.splitOn slash = pieces ++ [n] ∧
        (p.bytes.splitOn slash).head? = pieces.head? ∧
        (p.bytes.splitOn slash).filter isProper = pieces.filter isProper := by
      rcases join_bytes (p := p) hn.isAbsolute with ⟨hjoin, hnil | hlast⟩ | hjoin
      · exact absurd hnil hp
      · obtain ⟨a, ha⟩ := List.getLast?_eq_some_iff.1 hlast
        have hsplitp : p.bytes.splitOn slash = a.splitOn slash ++ [[]] := by
          rw [ha, List.splitOn_append_cons_self]
          rfl
        refine ⟨a.splitOn slash, List.splitOn_ne_nil slash a, ?_, ?_, ?_⟩
        · rw [hjoin, ha, List.append_assoc, List.singleton_append, List.splitOn_append_cons_self, hsplit]
        · rw [hsplitp, List.head?_append_of_ne_nil _ (List.splitOn_ne_nil slash a)]
        · simp [hsplitp, isProper]
      · refine ⟨p.bytes.splitOn slash, List.splitOn_ne_nil slash _, ?_, rfl, rfl⟩
        rw [hjoin, List.splitOn_append_cons_self, hsplit]
    obtain ⟨pieces, hne, hjoin, hhead, hfilter⟩ := hpieces
    have hhead' : (pieces ++ [n]).head? = pieces.head? := List.head?_append_of_ne_nil _ hne
    simp only [components, hjoin, isAbsolute_join hp hn.isAbsolute, hhead, hhead', hfilter, List.filter_append,
      List.map_append, List.append_assoc]
    simp [hproper, hsegment]

/-- a name at the end is not trimmed -/
theorem trimReversed_name {n rest : List UInt8} (hn : IsOrdinary n) (hrest : rest.head? = some slash ∨ rest = []) :
    trimReversed (n.reverse ++ rest) = n.reverse ++ rest := by
  obtain ⟨hne, hslash, hdot, -⟩ := hn
  cases hr : n.reverse with
  | nil => exact absurd (List.reverse_eq_nil_iff.1 hr) hne
  | cons c cs =>
    have hc : c ≠ slash := fun e => hslash (List.mem_reverse.1 (by rw [hr, e]; exact List.mem_cons_self))
    cases cs with
    | nil =>
      have hcdot : c ≠ dot := fun e => hdot (by rw [← List.reverse_reverse n, hr, e]; rfl)
      cases rest with
      | nil => rfl
      | cons d rest => simp [trimReversed, hc, hcdot]
    | cons d cs =>
      have hd : d ≠ slash := fun e => hslash (List.mem_reverse.1 (by rw [hr, e]; simp))
      simp [trimReversed, hc, hd]

/-- the bytes of a path that ends in a name, backwards -/
theorem reverse_join {p : Path} {n : Name} (hn : IsOrdinary n) :
    ∃ rest, (p.join ⟨n⟩).bytes.reverse = n.reverse ++ rest ∧ (rest.head? = some slash ∨ rest = []) := by
  rcases join_bytes (p := p) hn.isAbsolute with ⟨hjoin, hnil | hlast⟩ | hjoin
  · exact ⟨[], by simp [hjoin, hnil], .inr rfl⟩
  · refine ⟨p.bytes.reverse, by simp [hjoin], .inl ?_⟩
    rw [List.head?_reverse, hlast]
  · exact ⟨slash :: p.bytes.reverse, by simp [hjoin], .inl rfl⟩

theorem takeWhile_name {n rest : List UInt8} (hn : IsOrdinary n) (hrest : rest.head? = some slash ∨ rest = []) :
    (n.reverse ++ rest).takeWhile (· ≠ slash) = n.reverse := by
  have hall : ∀ c ∈ n.reverse, decide (c ≠ slash) = true := by
    intro c hc
    refine decide_eq_true ?_
    rintro rfl
    exact hn.2.1 (List.mem_reverse.1 hc)
  rw [List.takeWhile_append_of_pos hall]
  rcases hrest with hhead | rfl
  · cases rest with
    | nil => cases hhead
    | cons c rest =>
      obtain rfl : c = slash := Option.some.inj hhead
      simp
  · simp

theorem fileName_of_reverse {p : Path} {n rest : List UInt8} (hn : IsOrdinary n)
    (h : p.bytes.reverse = n.reverse ++ rest) (hrest : rest.head? = some slash ∨ rest = []) : p.fileName? = some n := by
  have hlast : (lastReversed p).reverse = n := by
    rw [lastReversed, h, trimReversed_name hn hrest, takeWhile_name hn hrest, List.reverse_reverse]
  rw [fileName?, hlast]
  simp [hn.1, hn.2.2.1, hn.2.2.2]

theorem fileName_join {p : Path} {n : Name} (hn : IsOrdinary n) : (p.join ⟨n⟩).fileName? = some n := by
  obtain ⟨rest, h, hrest⟩ := reverse_join (p := p) hn
  exact fileName_of_reverse hn h hrest

/-- a path that ends in a name is above what is joined to it -/
theorem parent_join {p : Path} {m n : Name} (hm : IsOrdinary m) (hn : IsOrdinary n) :
    ((p.join ⟨m⟩).join ⟨n⟩).parent? = some (p.join ⟨m⟩) := by
  obtain ⟨rest, hrev, hrest⟩ := reverse_join (p := p) hm
  have hlast : ((p.join ⟨m⟩).join ⟨n⟩).bytes.reverse = n.reverse ++ slash :: (p.join ⟨m⟩).bytes.reverse := by
    rcases join_bytes (p := p.join ⟨m⟩) hn.isAbsolute with ⟨-, hnil | hslash⟩ | hjoin
    · exact absurd hnil (join_ne_nil hm.isAbsolute (.inr hm.1))
    · rw [getLast?_join hm.isAbsolute hm.1] at hslash
      exact absurd (List.mem_of_getLast? hslash) hm.2.1
    · simp [hjoin]
  have htrim : trimReversed (n.reverse ++ slash :: (p.join ⟨m⟩).bytes.reverse) = _ := trimReversed_name hn (.inl rfl)
  have hdrop : (n.reverse ++ slash :: (p.join ⟨m⟩).bytes.reverse).dropWhile (· ≠ slash) =
      slash :: (p.join ⟨m⟩).bytes.reverse := by
    have hsplit := List.takeWhile_append_dropWhile (p := fun c : UInt8 => decide (c ≠ slash))
      (l := n.reverse ++ slash :: (p.join ⟨m⟩).bytes.reverse)
    rw [takeWhile_name hn (.inl rfl)] at hsplit
    exact List.append_cancel_left hsplit
  have hproper : ¬ (n.reverse ++ slash :: (p.join ⟨m⟩).bytes.reverse = [] ∨
      n.reverse ++ slash :: (p.join ⟨m⟩).bytes.reverse = [slash]) := by
    rintro (h | h)
    · simp at h
    · have hnil : n = [] ∧ (p.join ⟨m⟩).bytes = [] := by simpa [List.append_eq_singleton_iff] using h
      exact hn.1 hnil.1
  have hslash : trimReversed (slash :: (p.join ⟨m⟩).bytes.reverse) = (p.join ⟨m⟩).bytes.reverse := by
    obtain ⟨c, cs, hc⟩ := List.exists_cons_of_ne_nil
      (List.reverse_eq_nil_iff.not.2 (join_ne_nil (p := p) (q := ⟨m⟩) hm.isAbsolute (.inr hm.1)))
    rw [hc, trimReversed, if_pos rfl, ← hc, hrev, trimReversed_name hm hrest]
  simp only [parent?, hlast, htrim, hdrop, if_neg hproper, hslash, List.reverse_reverse]

/-! ## Names below a path -/

theorem join_join {p q : Path} {n : Name} (hn : IsOrdinary n) (hq : q.isAbsolute = false) :
    (p.join ⟨n⟩).join q = p.join ⟨n ++ slash :: q.bytes⟩ := by
  have hne : (p.join ⟨n⟩).bytes ≠ [] := join_ne_nil hn.isAbsolute (.inr hn.1)
  have hend : (p.join ⟨n⟩).bytes.getLast? ≠ some slash := by
    rw [getLast?_join hn.isAbsolute hn.1]
    exact fun h => hn.2.1 (List.mem_of_getLast? h)
  have hmore : (⟨n ++ slash :: q.bytes⟩ : Path).isAbsolute = false := by
    obtain ⟨c, cs, hc⟩ := List.exists_cons_of_ne_nil hn.1
    have habs := hn.isAbsolute
    simpa [isAbsolute, hc] using habs
  rw [join, if_neg (by simp [hq]), if_neg (not_or.2 ⟨hne, hend⟩)]
  simp only [join, hn.isAbsolute, hmore, Bool.false_eq_true, if_false]
  split_ifs <;> simp

def relative (loc : Location) : Path := ⟨[slash].intercalate loc⟩

def below (root : Path) (loc : Location) : Path := if loc = [] then root else root.join (relative loc)

theorem relative_cons_cons (n m : Name) (loc : Location) :
    relative (n :: m :: loc) = ⟨n ++ slash :: (relative (m :: loc)).bytes⟩ := by
  simp [relative, List.intercalate]

theorem isAbsolute_relative {loc : Location} (h : ∀ n ∈ loc, IsOrdinary n) : (relative loc).isAbsolute = false := by
  match loc with
  | [] => rfl
  | [n] => simpa [relative, List.intercalate] using (h n List.mem_cons_self).isAbsolute
  | n :: m :: loc =>
    obtain ⟨c, cs, hc⟩ := List.exists_cons_of_ne_nil (h n List.mem_cons_self).1
    have habs := (h n List.mem_cons_self).isAbsolute
    rw [relative_cons_cons]
    simpa [isAbsolute, hc] using habs

/-- going down name by name leads to the root joined with the relative path -/
theorem foldl_join {loc : Location} (h : ∀ n ∈ loc, IsOrdinary n) (root : Path) :
    loc.foldl (fun p n => p.join ⟨n⟩) root = root.below loc := by
  match loc with
  | [] => rfl
  | [n] => simp [below, relative, List.intercalate]
  | n :: m :: loc =>
    obtain ⟨hn, hrest⟩ := List.forall_mem_cons.1 h
    rw [List.foldl_cons, foldl_join hrest, below, below, if_neg (by simp), if_neg (by simp),
      join_join hn (isAbsolute_relative hrest), relative_cons_cons]

theorem components_below {loc : Location} (h : ∀ n ∈ loc, IsOrdinary n) (root : Path) :
    (root.below loc).components = root.components ++ loc.map .name := by
  rw [← foldl_join h]
  induction loc generalizing root with
  | nil => simp
  | cons n loc ih =>
    obtain ⟨hn, hrest⟩ := List.forall_mem_cons.1 h
    rw [List.foldl_cons, ih hrest, components_join hn, List.append_assoc]
    rfl

theorem depth_below {loc : Location} (h : ∀ n ∈ loc, IsOrdinary n) (root : Path) :
    (root.below loc).depth = root.depth + loc.length := by
  rw [depth, components_below h, List.length_append, List.length_map]
  rfl

theorem below_injective {loc loc' : Location} (h : ∀ n ∈ loc, IsOrdinary n) (h' : ∀ n ∈ loc', IsOrdinary n)
    {root : Path} (heq : root.below loc = root.below loc') : loc = loc' := by
  have hcomp := congrArg components heq
  rw [components_below h, components_below h'] at hcomp
  exact (List.map_injective_iff.2 fun _ _ => Component.name.inj) (List.append_cancel_left hcomp)

end Path

namespace FileStore

/-! ## The name of a file -/

/-- a path that asks for a name last has it as the name of the file -/
theorem fileName_of_steps {p : Path} {n : Name} (h : (stepsOf p).getLast? = some (.down n)) : p.fileName? = some n := by
  have hn := (down_mem_stepsOf (List.mem_of_getLast? h)).2
  have hslash := not_mem_lastPiece Path.slash p.bytes
  have hm := eq_lastPiece_or Path.slash p.bytes
  generalize lastPiece Path.slash p.bytes = m at hslash hm
  have hend : p.bytes.getLast? ≠ some Path.slash := by
    intro hend
    rw [stepsOf_eq, if_pos hend] at h
    simp at h
  rw [stepsOf_eq, if_neg hend, List.append_nil] at h
  have hne : m ≠ [] := by
    rintro rfl
    rcases hm with hm | ⟨a, ha⟩
    · rw [segmentsOf, hm] at h
      simp at h
    · exact hend (by simp [ha])
  have hlast : (segmentsOf p).getLast? = some m := by
    rcases hm with hm | ⟨a, ha⟩
    · rw [show p = ⟨m⟩ from congrArg Path.mk hm, segmentsOf_of_not_mem hslash hne]
      rfl
    · rw [show p = ⟨a ++ Path.slash :: m⟩ from congrArg Path.mk ha, segmentsOf_append_slash,
        segmentsOf_of_not_mem hslash hne]
      simp
  obtain rfl : m = n := by
    rw [List.getLast?_map, hlast] at h
    have hstep : Step.ofSegment m = .down n := Option.some.inj h
    rw [Step.ofSegment] at hstep
    split_ifs at hstep
    exact Step.down.inj hstep
  rcases hm with hm | ⟨a, ha⟩
  · have hrev : p.bytes.reverse = m.reverse ++ [] := by rw [hm, List.append_nil]
    exact Path.fileName_of_reverse hn hrev (.inr rfl)
  · have hrev : p.bytes.reverse = m.reverse ++ Path.slash :: a.reverse := by simp [ha]
    exact Path.fileName_of_reverse hn hrev (.inl rfl)

/-- the way to a file itself ends with the name of the file -/
theorem Reach.last_of_file {x : Node} {links : Nat} {loc L : Location} {rest : List Step} {content : List UInt8}
    (h : Reach x.view .itself links loc rest (.found L)) (hl : x.view loc = some .dir)
    (hfile : x.view L = some (.file content)) : ∃ n, rest.getLast? = some (.down n) ∧ L.getLast? = some n := by
  generalize hr : Place.found L = r at h
  have hcons : ∀ {step : Step} {rest : List Step} {n : Name}, rest.getLast? = some (.down n) →
      (step :: rest).getLast? = some (.down n) := by
    intro step rest n h
    simp [List.getLast?_cons, h]
  induction h with
  | done =>
    obtain rfl := Place.found.inj hr
    rw [hl] at hfile
    cases hfile
  | here _ ih => exact (ih hl hr).imp fun n h => ⟨hcons h.1, h.2⟩
  | slash _ ih => exact (ih hl hr).imp fun n h => ⟨hcons h.1, h.2⟩
  | up _ ih => exact (ih (Node.view_dropLast hl) hr).imp fun n h => ⟨hcons h.1, h.2⟩
  | enter _ _ hv _ ih => exact (ih hv hr).imp fun n h => ⟨hcons h.1, h.2⟩
  | @file _ _ n _ _ _ =>
    obtain rfl := Place.found.inj hr
    exact ⟨n, rfl, by simp⟩
  | free => cases hr
  | stop _ _ hv =>
    obtain rfl := Place.found.inj hr
    rw [hv] at hfile
    cases hfile
  | @follow _ _ _ target rest _ _ _ _ h1 _ _ ih =>
    -- a link is followed only if there is more to come, so the way of the link is not the end
    obtain ⟨n, hn, hL⟩ := ih (by split_ifs; exacts [Node.view_root hl, hl]) hr
    have hne : rest ≠ [] := fun e => h1 ⟨e, rfl⟩
    rw [List.getLast?_append_of_ne_nil _ hne] at hn
    exact ⟨n, hcons hn, hL⟩

/-- a path that leads to a file has the name of the file -/
theorem Leads.fileName {fs : FileStore} {p : Path} {L : Location} {content : List UInt8}
    (h : fs.Leads .itself p (.found L)) (hfile : fs.root.view L = some (.file content)) : p.fileName? = L.getLast? := by
  obtain ⟨n, hn, hL⟩ := h.reach.last_of_file h.start hfile
  rw [hL, fileName_of_steps hn]

end FileStore

end Benchwork
