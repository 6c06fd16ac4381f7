/-
What a path asks for, segment by segment.

Joining two paths joins their segments (`segmentsOf_join`), and the steps of a path are those of its segments, with one
more for a slash at the end. So a path to something inside a directory leads through that directory (`Leads.parent`).
-/
import Benchwork.Proofs.Files.Lookup
import Benchwork.Proofs.Text.Words

namespace Benchwork

open Benchwork.Text

namespace Path

/-- a name that a path asks for as it stands -/
def IsOrdinary (n : Name) : Prop := n ≠ [] ∧ slash ∉ n ∧ n ≠ [dot] ∧ n ≠ [dot, dot]

instance (n : Name) : Decidable (IsOrdinary n) := inferInstanceAs (Decidable (_ ∧ _ ∧ _ ∧ _))

theorem isAbsolute_of_not_mem {n : Name} (h : slash ∉ n) : (⟨n⟩ : Path).isAbsolute = false := by
  cases n with
  | nil => rfl
  | cons c cs =>
    have hc : c ≠ slash := fun e => h (e ▸ List.mem_cons_self)
    simpa [Path.isAbsolute] using hc

theorem IsOrdinary.isAbsolute {n : Name} (h : IsOrdinary n) : (⟨n⟩ : Path).isAbsolute = false :=
  isAbsolute_of_not_mem h.2.1

theorem eq_of_not_isOrdinary {n : Name} (hslash : slash ∉ n) (h : ¬ IsOrdinary n) :
    n = [] ∨ n = [dot] ∨ n = [dot, dot] := by
  by_contra hne
  push Not at hne
  exact h ⟨hne.1, hslash, hne.2.1, hne.2.2⟩

/-- the bytes between the two parts of a joined path -/
theorem join_bytes {p q : Path} (hq : q.isAbsolute = false) :
    (p.join q).bytes = p.bytes ++ q.bytes ∧ (p.bytes = [] ∨ p.bytes.getLast? = some slash) ∨
      (p.join q).bytes = p.bytes ++ slash :: q.bytes := by
  rw [join, if_neg (by simp [hq])]
  split_ifs with h
  · exact .inl ⟨rfl, h⟩
  · exact .inr rfl

theorem isAbsolute_join {p q : Path} (hp : p.bytes ≠ []) (hq : q.isAbsolute = false) :
    (p.join q).isAbsolute = p.isAbsolute := by
  obtain ⟨c, cs, hc⟩ := List.exists_cons_of_ne_nil hp
  rcases join_bytes (p := p) hq with ⟨h, -⟩ | h <;> simp [isAbsolute, h, hc]

theorem getLast?_join {p q : Path} (hq : q.isAbsolute = false) (hne : q.bytes ≠ []) :
    (p.join q).bytes.getLast? = q.bytes.getLast? := by
  have hc := List.getLast?_eq_some_getLast hne
  rcases join_bytes (p := p) hq with ⟨h, -⟩ | h <;> simp [h, hc, List.getLast?_append, List.getLast?_cons]

theorem length_join {p q : Path} (hq : q.isAbsolute = false) :
    p.bytes.length + q.bytes.length ≤ (p.join q).bytes.length := by
  rcases join_bytes (p := p) hq with ⟨h, -⟩ | h <;> simp [h]

theorem length_le_join {p q : Path} (hq : q.isAbsolute = false) : p.bytes.length ≤ (p.join q).bytes.length :=
  le_of_add_le_left (length_join hq)

theorem join_ne_nil {p q : Path} (hq : q.isAbsolute = false) (h : p.bytes ≠ [] ∨ q.bytes ≠ []) :
    (p.join q).bytes ≠ [] := by
  rcases join_bytes (p := p) hq with ⟨hj, -⟩ | hj
  · rw [hj]
    simpa [or_iff_not_imp_left] using h
  · simp [hj]

theorem join_left_cancel {p q r : Path} (hq : q.isAbsolute = false) (hr : r.isAbsolute = false)
    (h : p.join q = p.join r) : q = r := by
  obtain ⟨q⟩ := q
  obtain ⟨r⟩ := r
  simp only [join, hq, hr, Bool.false_eq_true, if_false] at h
  split_ifs at h
  · simpa using h
  · simpa using h

theorem mem_join_of_mem {p q : Path} (hq : q.isAbsolute = false) {c : UInt8} (hc : c ∈ p.bytes) :
    c ∈ (p.join q).bytes := by
  rcases join_bytes (p := p) hq with ⟨h, -⟩ | h <;> simp [h, hc]

theorem slash_not_mem_of_fileName {p : Path} {n : Name} (h : p.fileName? = some n) : slash ∉ n := by
  simp only [fileName?] at h
  split_ifs at h
  rw [← Option.some.inj h, List.mem_reverse]
  intro hmem
  simpa using List.mem_takeWhile_imp hmem

theorem slash_not_mem_of_fileStem {p : Path} {n : Name} (h : p.fileStem? = some n) : slash ∉ n := by
  obtain ⟨name, hname, rfl⟩ := Option.map_eq_some_iff.1 h
  have hslash := slash_not_mem_of_fileName hname
  split
  · exact hslash
  · exact hslash
  · rename_i d before _ hdrop
    intro hmem
    have hsuffix : (d :: before) <:+ name.reverse := hdrop ▸ List.dropWhile_suffix _
    exact hslash (List.mem_reverse.1 (hsuffix.subset (List.mem_cons_of_mem d (List.mem_reverse.1 hmem))))

end Path

namespace FileStore

/-! ## Segments -/

theorem segmentsOf_append_slash (a b : List UInt8) :
    segmentsOf ⟨a ++ Path.slash :: b⟩ = segmentsOf ⟨a⟩ ++ segmentsOf ⟨b⟩ := by
  simp [segmentsOf, List.splitOn_append_cons_self]

theorem segmentsOf_nil : segmentsOf ⟨[]⟩ = [] := by
  simp [segmentsOf]

theorem segmentsOf_join {p q : Path} (hq : q.isAbsolute = false) :
    segmentsOf (p.join q) = segmentsOf p ++ segmentsOf q := by
  rcases Path.join_bytes (p := p) hq with ⟨h, hp | hp⟩ | h
  · rw [segmentsOf, h, hp]
    simp [segmentsOf, hp]
  · obtain ⟨a, ha⟩ := List.getLast?_eq_some_iff.1 hp
    have h1 := segmentsOf_append_slash a q.bytes
    have h2 := segmentsOf_append_slash a []
    rw [segmentsOf_nil, List.append_nil, ← ha] at h2
    rw [List.append_cons, ← ha, ← h] at h1
    rw [h1, ← h2]
  · have h1 := segmentsOf_append_slash p.bytes q.bytes
    rw [← h] at h1
    exact h1

theorem segmentsOf_of_not_mem {n : Name} (h : Path.slash ∉ n) (hne : n ≠ []) : segmentsOf ⟨n⟩ = [n] := by
  simp [segmentsOf, List.splitOn_eq_singleton h, hne]

theorem stepsOf_eq (p : Path) :
    stepsOf p = (segmentsOf p).map Step.ofSegment ++ if p.bytes.getLast? = some Path.slash then [.slash] else [] := by
  rw [stepsOf]
  split_ifs <;> simp

theorem Step.ofSegment_dot : Step.ofSegment [Path.dot] = .here := rfl

theorem Step.ofSegment_ordinary {n : Name} (h : Path.IsOrdinary n) : Step.ofSegment n = .down n := by
  rw [Step.ofSegment, if_neg h.2.2.1, if_neg h.2.2.2]

theorem stepsOf_join_ordinary {p : Path} {n : Name} (hn : Path.IsOrdinary n) :
    stepsOf (p.join ⟨n⟩) = (segmentsOf p).map Step.ofSegment ++ [.down n] := by
  have hlast : (p.join ⟨n⟩).bytes.getLast? ≠ some Path.slash := by
    rw [Path.getLast?_join hn.isAbsolute hn.1]
    intro h
    exact hn.2.1 (List.mem_of_getLast? h)
  rw [stepsOf_eq, if_neg hlast, List.append_nil, segmentsOf_join hn.isAbsolute, segmentsOf_of_not_mem hn.2.1 hn.1,
    List.map_append, List.map_singleton, Step.ofSegment_ordinary hn]

/-- the names that a path asks for are segments of it, and ordinary ones -/
theorem down_mem_stepsOf {p : Path} {n : Name} (h : .down n ∈ stepsOf p) : n ∈ segmentsOf p ∧ Path.IsOrdinary n := by
  have hmap : .down n ∈ (segmentsOf p).map Step.ofSegment := by
    rw [stepsOf_eq] at h
    rcases List.mem_append.1 h with h | h
    · exact h
    · split_ifs at h <;> simp at h
  obtain ⟨s, hs, hstep⟩ := List.mem_map.1 hmap
  obtain ⟨hpiece, hne⟩ := List.mem_filter.1 hs
  rw [Step.ofSegment] at hstep
  split_ifs at hstep with hdot hup
  obtain rfl := Step.down.inj hstep
  exact ⟨hs, by simpa using hne, not_mem_of_mem_splitOn hpiece, hdot, hup⟩

theorem segmentsOf_append_slashes (a : List UInt8) (k : Nat) :
    segmentsOf ⟨a ++ List.replicate k Path.slash⟩ = segmentsOf ⟨a⟩ := by
  have hnil : ∀ k, segmentsOf ⟨List.replicate k Path.slash⟩ = [] := by
    intro k
    induction k with
    | zero => exact segmentsOf_nil
    | succ k ih =>
      rw [List.replicate_succ]
      exact (segmentsOf_append_slash [] _).trans (by rw [segmentsOf_nil, ih]; rfl)
  cases k with
  | zero => simp
  | succ k => rw [List.replicate_succ, segmentsOf_append_slash, hnil, List.append_nil]

/-! ## Directories and what is inside -/

theorem Reach.dir_of_down {x : Node} {purpose : Purpose} {links : Nat} {loc : Location} {n : Name} {rest : List Step}
    {r : Place} (h : Reach x.view purpose links loc (.down n :: rest) r) : x.view loc = some .dir := by
  have hdir : ∀ {k : Kind}, x.view (loc ++ [n]) = some k → x.view loc = some .dir :=
    fun h => Node.view_eq_dir_of_snoc (n := n) (by simp [h])
  cases h with
  | enter _ _ h _ => exact hdir h
  | file _ h => exact hdir h
  | free _ h _ => exact h
  | stop _ _ h => exact hdir h
  | follow _ _ h _ _ _ => exact hdir h

theorem Reach.child_of_found {v : Location → Option Kind} {purpose : Purpose} {links : Nat} {loc L : Location}
    {n : Name} {rest : List Step} (h : Reach v purpose links loc (.down n :: rest) (.found L)) :
    v (loc ++ [n]) ≠ none := by
  cases h with
  | enter _ _ hv _ => simp [hv]
  | file _ hv => simp [hv]
  | stop _ _ hv => simp [hv]
  | follow _ _ hv _ _ _ => simp [hv]

/-- what leads to a directory through one name has found it under that name, unless a link is there -/
theorem Reach.child_dir {v : Location → Option Kind} {links : Nat} {loc L : Location} {n : Name}
    (h : Reach v .target links loc [.down n] (.found L)) (hd : v L = some .dir)
    (hlink : ∀ target, v (loc ++ [n]) ≠ some (.link target)) : n.length ≤ nameLimit ∧ v (loc ++ [n]) = some .dir := by
  cases h with
  | enter _ hn hv _ => exact ⟨hn, hv⟩
  | file _ hv =>
    rw [hv] at hd
    cases hd
  | stop hp _ _ => cases hp
  | follow _ _ hv _ _ _ => exact absurd hv (hlink _)

theorem Leads.segments {fs : FileStore} {p : Path} {L : Location} (h : fs.Leads .target p (.found L)) :
    Reach fs.root.view .target linkLimit (fs.start p) ((segmentsOf p).map Step.ofSegment) (.found L) := by
  have hreach := h.reach
  rw [stepsOf_eq] at hreach
  split_ifs at hreach
  · obtain ⟨L', k, h1, h2⟩ := hreach.split (by simp)
    cases h2 with
    | slash h2 => cases h2; exact h1
  · rwa [List.append_nil] at hreach

/-- the segments of a path lead to a directory; those of the empty path lead to the current one -/
structure Enters (fs : FileStore) (p : Path) (R : Location) : Prop where
  start : fs.root.view (fs.start p) = some .dir
  reach : Reach fs.root.view .target linkLimit (fs.start p) ((segmentsOf p).map Step.ofSegment) (.found R)
  dir : fs.root.view R = some .dir

theorem Leads.enters {fs : FileStore} {p : Path} {R : Location} (h : fs.Leads .target p (.found R))
    (hd : fs.root.view R = some .dir) : fs.Enters p R :=
  ⟨h.start, h.segments, hd⟩

/-- the path of a directory leads where its segments lead, with or without a slash at the end -/
theorem Enters.leads {fs : FileStore} {p : Path} {R : Location} (h : fs.Enters p R) (hclean : 0 ∉ p.bytes)
    (hne : p.bytes ≠ []) (hshort : p.bytes.length ≤ pathLimit) : fs.Leads .target p (.found R) := by
  refine ⟨hclean, hne, hshort, h.start, ?_⟩
  rw [stepsOf_eq]
  split_ifs
  · exact h.reach.append h.dir fun _ => .slash .done
  · rw [List.append_nil]
    exact h.reach

theorem Enters.retrace {fs fs' : FileStore} {p : Path} {R : Location} (h : fs.Enters p R) (hw : fs.KeepsWays fs') :
    fs'.Enters p R where
  start := by rw [start_congr hw.cwd]; exact hw.dir _ h.start
  reach := by rw [start_congr hw.cwd]; exact h.reach.retrace hw.dir hw.link (.inl (hw.dir R h.dir))
  dir := hw.dir R h.dir

/-- the segments of a path lead to one directory -/
theorem Enters.unique {fs : FileStore} {p : Path} {R R' : Location} (h : fs.Enters p R) (h' : fs.Enters p R') :
    R = R' := by
  obtain ⟨t, ht⟩ := Option.isSome_iff_exists.1 (Trail.isSome_along (t := []).2 h.start)
  obtain ⟨halong, hloc⟩ := Trail.along_along (t := []) trivial ht
  have htrace := (trace_of_reach h.reach halong hloc).symm.trans (trace_of_reach h'.reach halong hloc)
  exact Place.found.inj (Place.eq_of_spot_eq (Except.ok.inj htrace))

theorem start_join {p q : Path} (hq : q.isAbsolute = false) (fs : FileStore) : fs.start (p.join q) = fs.start p := by
  by_cases hp : p.bytes = []
  · have hjoin : (p.join q).isAbsolute = p.isAbsolute := by
      rw [Path.join, if_neg (by simp [hq]), if_pos (.inl hp)]
      simpa [Path.isAbsolute, hp] using hq
    rw [start, start, hjoin]
  · rw [start, start, Path.isAbsolute_join hp hq]

/-- a path to something inside a directory leads through that directory -/
theorem Leads.above_name {fs : FileStore} {purpose : Purpose} {p : Path} {n : Name} {r : Place}
    (hn : Path.IsOrdinary n) (h : fs.Leads purpose (p.join ⟨n⟩) r) :
    ∃ R k, fs.Enters p R ∧ Reach fs.root.view purpose k R [.down n] r := by
  have hstart := start_join (p := p) hn.isAbsolute fs
  have hreach := h.reach
  rw [stepsOf_join_ordinary hn, hstart] at hreach
  obtain ⟨R, k, h1, h2⟩ := hreach.split (by simp)
  exact ⟨R, k, ⟨hstart ▸ h.start, h1, h2.dir_of_down⟩, h2⟩

theorem Leads.parent {fs : FileStore} {purpose : Purpose} {p : Path} {n : Name} {r : Place} (hn : Path.IsOrdinary n)
    (hp : p.bytes ≠ []) (h : fs.Leads purpose (p.join ⟨n⟩) r) :
    ∃ R k, fs.Leads .target p (.found R) ∧ fs.root.view R = some .dir ∧
      Reach fs.root.view purpose k R [.down n] r := by
  obtain ⟨R, k, hR, hreach⟩ := h.above_name hn
  refine ⟨R, k, hR.leads ?_ hp ?_, hR.dir, hreach⟩
  · exact fun h0 => h.clean (Path.mem_join_of_mem hn.isAbsolute h0)
  · exact (Path.length_le_join hn.isAbsolute).trans h.short

/-- what is in a directory is found behind the path of the directory -/
theorem Enters.child {fs : FileStore} {p : Path} {n : Name} {R : Location} (h : fs.Enters p R)
    (hn : Path.IsOrdinary n) (hlen : n.length ≤ nameLimit) (hclean : 0 ∉ (p.join ⟨n⟩).bytes)
    (hshort : (p.join ⟨n⟩).bytes.length ≤ pathLimit) (hv : fs.root.view (R ++ [n]) = some .dir) :
    fs.Leads .target (p.join ⟨n⟩) (.found (R ++ [n])) := by
  have hstart := start_join (p := p) hn.isAbsolute fs
  refine ⟨hclean, Path.join_ne_nil hn.isAbsolute (.inr hn.1), hshort, hstart ▸ h.start, ?_⟩
  rw [stepsOf_join_ordinary hn, hstart]
  exact h.reach.append h.dir fun _ => .enter (isBarred_nil _) hlen hv .done

/-- the way into an entry of a directory leads through that directory -/
theorem Enters.above {fs : FileStore} {p : Path} {n : Name} {D : Location} (hn : Path.IsOrdinary n)
    (h : fs.Enters (p.join ⟨n⟩) D) :
    ∃ R k, fs.Enters p R ∧ Reach fs.root.view .target k R [.down n] (.found D) := by
  have hstart := start_join (p := p) hn.isAbsolute fs
  have hreach := h.reach
  rw [segmentsOf_join hn.isAbsolute, segmentsOf_of_not_mem hn.2.1 hn.1, List.map_append, List.map_singleton,
    Step.ofSegment_ordinary hn, hstart] at hreach
  obtain ⟨R, k, hR, hlast⟩ := hreach.split (by simp)
  exact ⟨R, k, ⟨hstart ▸ h.start, hR, hlast.dir_of_down⟩, hlast⟩

/-- the path of an entry of a directory leads to that entry, unless a link is there -/
theorem Enters.child_eq {fs : FileStore} {p : Path} {n : Name} {R D : Location} (h : fs.Enters p R)
    (hD : fs.Enters (p.join ⟨n⟩) D) (hn : Path.IsOrdinary n)
    (hlink : ∀ target, fs.root.view (R ++ [n]) ≠ some (.link target)) : D = R ++ [n] := by
  obtain ⟨L, k, hL, hlast⟩ := hD.above hn
  obtain rfl : R = L := h.unique hL
  cases hlast with
  | enter _ _ _ hdone =>
    cases hdone
    rfl
  | file => rfl
  | stop hp => cases hp
  | follow _ _ hv => exact absurd hv (hlink _)

/-- a name that stands for no entry leads from a directory to that directory or to the one above it -/
theorem Enters.hollow {fs : FileStore} {p : Path} {n : Name} {R : Location} (h : fs.Enters p R)
    (hslash : Path.slash ∉ n) (hn : ¬ Path.IsOrdinary n) : ∃ D, D <+: R ∧ fs.Enters (p.join ⟨n⟩) D := by
  have habs := Path.isAbsolute_of_not_mem hslash
  have hstart := start_join (p := p) habs fs
  have hto : ∀ {L : Location}, fs.root.view L = some .dir →
      (∀ k, Reach fs.root.view .target k R ((segmentsOf ⟨n⟩).map Step.ofSegment) (.found L)) →
      fs.Enters (p.join ⟨n⟩) L := by
    intro L hL hreach
    refine ⟨hstart ▸ h.start, ?_, hL⟩
    rw [segmentsOf_join habs, List.map_append, hstart]
    exact h.reach.append h.dir hreach
  rcases Path.eq_of_not_isOrdinary hslash hn with rfl | rfl | rfl
  · exact ⟨R, List.prefix_refl R, hto h.dir fun _ => .done⟩
  · exact ⟨R, List.prefix_refl R, hto h.dir fun _ => .here .done⟩
  · exact ⟨R.dropLast, List.dropLast_prefix R, hto (Node.view_dropLast h.dir) fun _ => .up .done⟩

theorem Enters.stay {fs : FileStore} {p : Path} {n : Name} {R : Location} (h : fs.Enters p R)
    (hslash : Path.slash ∉ n) (hn : ¬ Path.IsOrdinary n) (hclean : 0 ∉ (p.join ⟨n⟩).bytes)
    (hne : (p.join ⟨n⟩).bytes ≠ []) (hshort : (p.join ⟨n⟩).bytes.length ≤ pathLimit) :
    fs.isDir (p.join ⟨n⟩) = true := by
  obtain ⟨D, -, hD⟩ := h.hollow hslash hn
  exact isDir_iff.2 ⟨D, hD.leads hclean hne hshort, hD.dir⟩

/-! ## Slashes at the end -/

theorem bytes_dropSlashes (p : Path) :
    (∃ k, p.bytes = (dropSlashes p).bytes ++ List.replicate k Path.slash) ∧
      (dropSlashes p = p ∨ (dropSlashes p).bytes ≠ [] ∧ (dropSlashes p).bytes.getLast? ≠ some Path.slash) := by
  have hsplit : p.bytes = (p.bytes.reverse.dropWhile (· = Path.slash)).reverse ++
      (p.bytes.reverse.takeWhile (· = Path.slash)).reverse := by
    rw [← List.reverse_append, List.takeWhile_append_dropWhile, List.reverse_reverse]
  rw [dropSlashes]
  split_ifs with h
  · exact ⟨⟨0, by simp⟩, .inl rfl⟩
  · refine ⟨⟨(p.bytes.reverse.takeWhile (· = Path.slash)).length, ?_⟩, .inr ⟨h, ?_⟩⟩
    · conv_lhs => rw [hsplit]
      rw [List.append_cancel_left_eq, List.eq_replicate_iff]
      refine ⟨by simp, fun c hc => ?_⟩
      simpa using List.mem_takeWhile_imp (List.mem_reverse.1 hc)
    · rw [List.getLast?_reverse]
      intro hc
      have h1 := List.head?_dropWhile_not (· = Path.slash) p.bytes.reverse
      rw [hc] at h1
      simp at h1

theorem segmentsOf_dropSlashes (p : Path) : segmentsOf (dropSlashes p) = segmentsOf p := by
  obtain ⟨⟨k, hk⟩, -⟩ := bytes_dropSlashes p
  have h := segmentsOf_append_slashes (dropSlashes p).bytes k
  rw [← hk] at h
  exact h.symm

theorem dropSlashes_ne_nil {p : Path} (h : p.bytes ≠ []) : (dropSlashes p).bytes ≠ [] := by
  rcases (bytes_dropSlashes p).2 with hp | ⟨hp, -⟩
  · rwa [hp]
  · exact hp

theorem isAbsolute_dropSlashes (p : Path) : (dropSlashes p).isAbsolute = p.isAbsolute := by
  rcases (bytes_dropSlashes p).2 with hp | ⟨hp, -⟩
  · rw [hp]
  · obtain ⟨⟨k, hk⟩, -⟩ := bytes_dropSlashes p
    obtain ⟨c, cs, hc⟩ := List.exists_cons_of_ne_nil hp
    simp [Path.isAbsolute, hk, hc]

theorem start_dropSlashes (fs : FileStore) (p : Path) : fs.start (dropSlashes p) = fs.start p := by
  rw [start, start, isAbsolute_dropSlashes]

/-- what a path leads to is found without the slashes at its end, by what is there itself -/
theorem Leads.dropSlashes {fs : FileStore} {p : Path} {L : Location} (h : fs.Leads .target p (.found L)) :
    ∃ L', fs.Leads .itself (FileStore.dropSlashes p) (.found L') := by
  obtain ⟨⟨k, hk⟩, hlast⟩ := bytes_dropSlashes p
  have hreach : Reach fs.root.view .target linkLimit (fs.start p) (stepsOf (FileStore.dropSlashes p)) (.found L) := by
    rcases hlast with hp | ⟨-, hlast⟩
    · rw [hp]
      exact h.reach
    · rw [stepsOf_eq, if_neg hlast, List.append_nil, segmentsOf_dropSlashes]
      exact h.segments
  obtain ⟨L', hL'⟩ := hreach.itself
  refine ⟨L', ?_, dropSlashes_ne_nil h.nonempty, ?_, ?_, ?_⟩
  · exact fun h0 => h.clean (by rw [hk]; exact List.mem_append_left _ h0)
  · exact le_trans (by rw [hk]; simp) h.short
  · rw [start_dropSlashes]
    exact h.start
  · rw [start_dropSlashes]
    exact hL'

/-- what leads to a directory still does with slashes at its end -/
theorem leads_of_dropSlashes {fs : FileStore} {p : Path} {L : Location} (hshort : p.bytes.length ≤ pathLimit)
    (h : fs.Leads .target (dropSlashes p) (.found L)) (hd : fs.root.view L = some .dir) :
    fs.Leads .target p (.found L) := by
  obtain ⟨⟨k, hk⟩, -⟩ := bytes_dropSlashes p
  refine Enters.leads ⟨?_, ?_, hd⟩ ?_ ?_ hshort
  · rw [← start_dropSlashes]
    exact h.start
  · rw [← start_dropSlashes, ← segmentsOf_dropSlashes]
    exact h.segments
  · rw [hk]
    intro h0
    rcases List.mem_append.1 h0 with h0 | h0
    · exact h.clean h0
    · exact absurd (List.eq_of_mem_replicate h0) (by decide)
  · rw [hk]
    exact List.append_ne_nil_of_left_ne_nil h.nonempty _

/-! ## The path above -/

end FileStore

namespace Path

theorem trimReversed_suffix (l : List UInt8) : trimReversed l <:+ l := by
  fun_induction trimReversed l with
  | case1 => exact List.suffix_refl _
  | case2 => exact List.suffix_refl _
  | case3 d rest ih => exact ih.trans (List.suffix_cons _ _)
  | case4 c d rest _ _ ih => exact ih.trans (List.suffix_cons _ _)
  | case5 => exact List.suffix_refl _

theorem trimReversed_ne_dot (l rest : List UInt8) : trimReversed l ≠ dot :: slash :: rest := by
  fun_induction trimReversed l with
  | case1 => simp
  | case2 => simp
  | case3 _ _ ih => exact ih
  | case4 _ _ _ _ _ ih => exact ih
  | case5 c d tail _ hcd =>
    intro h
    simp only [List.cons.injEq] at h
    exact hcd ⟨h.1, h.2.1⟩

/-- trimming takes away nothing but segments that stand for the same place -/
theorem segmentsOf_trimReversed (l : List UInt8) :
    ∃ k, FileStore.segmentsOf ⟨l.reverse⟩ =
      FileStore.segmentsOf ⟨(trimReversed l).reverse⟩ ++ List.replicate k [dot] := by
  fun_induction trimReversed l with
  | case1 => exact ⟨0, by simp⟩
  | case2 => exact ⟨0, by simp⟩
  | case3 d rest ih =>
    obtain ⟨k, hk⟩ := ih
    refine ⟨k, ?_⟩
    rw [← hk, List.reverse_cons, FileStore.segmentsOf_append_slash, FileStore.segmentsOf_nil, List.append_nil]
  | case4 c d rest _ hcd ih =>
    obtain ⟨k, hk⟩ := ih
    obtain ⟨rfl, rfl⟩ := hcd
    refine ⟨k + 1, ?_⟩
    have hdot : FileStore.segmentsOf ⟨[dot]⟩ = [[dot]] := FileStore.segmentsOf_of_not_mem (by decide) (by simp)
    rw [List.reverse_cons, FileStore.segmentsOf_append_slash, FileStore.segmentsOf_nil, List.append_nil] at hk
    rw [List.reverse_cons, List.reverse_cons, List.append_assoc, List.singleton_append,
      FileStore.segmentsOf_append_slash, hk, hdot, List.replicate_succ', List.append_assoc]
  | case5 => exact ⟨0, by simp⟩

theorem parent_isPrefix {p q : Path} (h : p.parent? = some q) : q.bytes <+: p.bytes := by
  simp only [parent?] at h
  split_ifs at h
  rw [← Option.some.inj h, ← List.reverse_suffix, List.reverse_reverse]
  exact (trimReversed_suffix _).trans ((List.dropWhile_suffix _).trans (trimReversed_suffix _))

/-- the path above has the segments before the last name -/
theorem segmentsOf_parent {p q : Path} (h : p.parent? = some q) (hq : q.bytes ≠ []) :
    ∃ n i j, n ≠ [] ∧ n ≠ [dot] ∧ slash ∉ n ∧
      FileStore.segmentsOf p = FileStore.segmentsOf q ++ List.replicate i [dot] ++ n :: List.replicate j [dot] := by
  simp only [parent?] at h
  split_ifs at h with hne
  obtain rfl := (Option.some.inj h).symm
  obtain ⟨j, hj⟩ := segmentsOf_trimReversed p.bytes.reverse
  set t := trimReversed p.bytes.reverse with ht
  set w := t.takeWhile (· ≠ slash) with hw
  -- what is left of the trimmed path behind its last name starts with a slash
  obtain ⟨v, hv⟩ : ∃ v, t.dropWhile (· ≠ slash) = slash :: v := by
    cases hu : t.dropWhile (· ≠ slash) with
    | nil => rw [hu] at hq; exact absurd rfl hq
    | cons c v =>
      have hc := List.head?_dropWhile_not (· ≠ slash) t
      rw [hu] at hc
      have hc : c = slash := by simpa using hc
      exact ⟨v, by rw [hc]⟩
  have htw : t = w ++ slash :: v := by rw [← hv, hw, List.takeWhile_append_dropWhile]
  have hwne : w ≠ [] := by
    intro hnil
    rw [hnil, List.nil_append] at htw
    rcases head_trimReversed (ht.symm.trans htw) with hs | hs
    · exact hs rfl
    · exact hne (.inr (by rw [htw, hs]))
  have hslash : slash ∉ w.reverse := by
    intro hs
    simpa using List.mem_takeWhile_imp (List.mem_reverse.1 hs)
  have hseg : FileStore.segmentsOf ⟨t.reverse⟩ = FileStore.segmentsOf ⟨v.reverse⟩ ++ [w.reverse] := by
    have hrev : t.reverse = v.reverse ++ slash :: w.reverse := by rw [htw]; simp
    rw [hrev, FileStore.segmentsOf_append_slash, FileStore.segmentsOf_of_not_mem hslash (by simpa using hwne)]
  obtain ⟨i, hi⟩ := segmentsOf_trimReversed (slash :: v)
  rw [List.reverse_cons, FileStore.segmentsOf_append_slash, FileStore.segmentsOf_nil, List.append_nil, ← hv] at hi
  refine ⟨w.reverse, i, j, by simpa using hwne, ?_, hslash, ?_⟩
  · intro hdot
    have hw1 : w = [dot] := by rw [← List.reverse_reverse w, hdot]; rfl
    rw [hw1] at htw
    exact trimReversed_ne_dot p.bytes.reverse v htw
  · rw [List.reverse_reverse, hseg, hi] at hj
    rw [hj, List.append_assoc, List.singleton_append]

theorem segmentsOf_parent_subset {p q : Path} (h : p.parent? = some q) :
    FileStore.segmentsOf q ⊆ FileStore.segmentsOf p := by
  by_cases hq : q.bytes = []
  · rw [FileStore.segmentsOf, hq]
    simp
  · obtain ⟨n, i, j, -, -, -, hseg⟩ := segmentsOf_parent h hq
    rw [hseg, List.append_assoc]
    exact List.subset_append_left _ _

end Path

namespace FileStore

theorem Reach.of_heres {v : Location → Option Kind} {purpose : Purpose} {links : Nat} {loc : Location} {i : Nat}
    {rest : List Step} {r : Place} (h : Reach v purpose links loc (List.replicate i .here ++ rest) r) :
    Reach v purpose links loc rest r := by
  induction i with
  | zero => simpa using h
  | succ i ih =>
    rw [List.replicate_succ, List.cons_append] at h
    cases h with
    | here h => exact ih h

/-- a path that goes up nowhere leads through the path above it -/
theorem Leads.above {fs : FileStore} {p q : Path} {L : Location} (h : fs.Leads .target p (.found L))
    (hq : p.parent? = some q) (hne : q.bytes ≠ []) (hup : [Path.dot, Path.dot] ∉ segmentsOf p) :
    ∃ L' n, fs.Leads .target q (.found L') ∧ fs.root.view (L' ++ [n]) ≠ none := by
  obtain ⟨n, i, j, hn, hdot, hslash, hseg⟩ := Path.segmentsOf_parent hq hne
  obtain ⟨t, ht⟩ := Path.parent_isPrefix hq
  have hord : Path.IsOrdinary n := ⟨hn, hslash, hdot, fun e => hup (by rw [hseg, e]; simp)⟩
  have hstart : fs.start p = fs.start q := by
    obtain ⟨c, cs, hc⟩ := List.exists_cons_of_ne_nil hne
    simp [FileStore.start, Path.isAbsolute, ← ht, hc]
  have hreach := h.segments
  rw [hseg, List.append_assoc, List.map_append, hstart] at hreach
  obtain ⟨L', k, h1, h2⟩ := hreach.split (by simp)
  have hsteps : (List.replicate i [Path.dot] ++ n :: List.replicate j [Path.dot]).map Step.ofSegment =
      List.replicate i .here ++ .down n :: List.replicate j .here := by
    simp [Step.ofSegment_ordinary hord, Step.ofSegment_dot]
  rw [hsteps] at h2
  have h3 := h2.of_heres
  refine ⟨L', n, Enters.leads ⟨hstart ▸ h.start, h1, h3.dir_of_down⟩ ?_ hne ?_, ?_⟩
  · exact fun h0 => h.clean (by rw [← ht]; exact List.mem_append_left _ h0)
  · exact le_trans (by rw [← ht]; simp) h.short
  · exact h3.child_of_found

end FileStore

end Benchwork
