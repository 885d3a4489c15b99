import GuidelineCompliance.Proofs.FileTrees

/-! Paths as the lists of their segments. A path is its segments with slashes between them, joining
a path to a directory puts their segments in a row, and cutting a directory off leaves the
components behind those of the directory. -/

namespace GuidelineCompliance

namespace Path

def segments (p : Path) : List String := Text.split '/' p

def ofSegments (ss : List String) : Path := String.intercalate "/" ss

def Slashless (ss : List String) : Prop := ∀ s ∈ ss, '/' ∉ s.toList

theorem slashless_nil : Slashless [] := fun _ hs => absurd hs List.not_mem_nil

theorem slashless_singleton {s : String} (free : '/' ∉ s.toList) : Slashless [s] :=
  List.forall_mem_singleton.mpr free

theorem Slashless.mono {ss ss' : List String} (h : Slashless ss) (subset : ss' ⊆ ss) :
    Slashless ss' := fun s hs => h s (subset hs)

theorem Slashless.append {front back : List String} (hf : Slashless front) (hb : Slashless back) :
    Slashless (front ++ back) :=
  fun s hs => (List.mem_append.mp hs).elim (hf s) (hb s)

theorem segments_ne_nil (p : Path) : segments p ≠ [] := by
  simp [segments, Text.split, Text.splitOn_ne_nil]

theorem slashless_segments (p : Path) : Slashless (segments p) := by
  intro s hs
  obtain ⟨piece, mem, rfl⟩ := List.mem_map.mp hs
  rw [String.toList_ofList]
  exact Text.not_mem_of_mem_splitOn mem

theorem segments_ofSegments {ss : List String} (nonempty : ss ≠ []) (free : Slashless ss) :
    segments (ofSegments ss) = ss := by
  have pieces : ∀ piece ∈ ss.map String.toList, '/' ∉ piece := by
    intro piece mem
    obtain ⟨s, hs, rfl⟩ := List.mem_map.mp mem
    exact free s hs
  have slash : "/".toList = ['/'] := rfl
  rw [segments, Text.split, Text.splitOn_eq_splitOn, ofSegments, String.toList_intercalate, slash,
    List.splitOn_intercalate '/' pieces (by simpa using nonempty)]
  simp

theorem ofSegments_segments (p : Path) : ofSegments (segments p) = p := by
  have slash : "/".toList = ['/'] := rfl
  rw [String.ext_iff, ofSegments, String.toList_intercalate, segments, Text.split, slash,
    Text.splitOn_eq_splitOn, List.map_map]
  simp

theorem ofSegments_append {front back : List String} (hf : front ≠ []) (hb : back ≠ []) :
    ofSegments (front ++ back) = ofSegments front ++ "/" ++ ofSegments back :=
  String.intercalate_append_of_ne_nil hf hb

theorem segments_of_slashless {s : String} (free : '/' ∉ s.toList) : segments s = [s] := by
  have alone := segments_ofSegments (List.cons_ne_nil s []) (slashless_singleton free)
  simpa [ofSegments] using alone

theorem isAbsolute_of_slashless {s : String} (free : '/' ∉ s.toList) : isAbsolute s = false := by
  rw [isAbsolute, decide_eq_false_iff_not]
  exact fun head => free (List.mem_of_head? head)

theorem isAbsolute_ofSegments {s : String} {ss : List String} (free : Slashless (s :: ss)) :
    isAbsolute (ofSegments (s :: ss)) = true ↔ s = "" ∧ ss ≠ [] := by
  have head : s.toList.head? ≠ some '/' := fun h =>
    free s List.mem_cons_self (List.mem_of_head? h)
  rw [isAbsolute, decide_eq_true_eq]
  cases ss with
  | nil => simpa [ofSegments] using head
  | cons next ss =>
    have text : (ofSegments (s :: next :: ss)).toList =
        s.toList ++ '/' :: (ofSegments (next :: ss)).toList := by
      simp [ofSegments, String.intercalate_cons_cons]
    rw [text, List.head?_append]
    by_cases empty : s = ""
    · simp [empty]
    · obtain ⟨x, xs, spelled⟩ := List.exists_cons_of_ne_nil (mt String.toList_eq_nil_iff.mp empty)
      simpa [empty, spelled] using head

theorem isAbsolute_iff {p : Path} {s : String} {ss : List String} (h : segments p = s :: ss) :
    isAbsolute p = true ↔ s = "" ∧ ss ≠ [] := by
  rw [← isAbsolute_ofSegments (h ▸ slashless_segments p), ← h, ofSegments_segments]

theorem parts_eq {p : Path} {s : String} {ss : List String} (h : segments p = s :: ss) :
    parts p = (s, front p.isAbsolute s) :: ss.map fun s => (s, inner s) := by
  rw [parts, ← segments, h]

theorem components_eq {p : Path} {s : String} {ss : List String} (h : segments p = s :: ss) :
    components p = (front p.isAbsolute s).toList ++ ss.filterMap inner := by
  rw [components, parts_eq h, List.filterMap_cons, List.filterMap_map]
  cases front p.isAbsolute s <;> rfl

/-- The components of a path as they are seen behind a directory. -/
def innerComponents (p : Path) : List Component := (segments p).filterMap inner

/-- Only a dot at the front makes a difference for a relative path. -/
theorem components_of_relative {p : Path} (relative : p.isAbsolute = false) :
    components p = innerComponents p ∨ components p = .current :: innerComponents p := by
  obtain ⟨s, ss, split⟩ := List.exists_cons_of_ne_nil (segments_ne_nil p)
  rw [components_eq split, innerComponents, split, relative, front, if_neg Bool.false_ne_true]
  by_cases dot : s = "."
  · right
    subst dot
    rfl
  · left
    rw [if_neg dot, List.filterMap_cons]
    cases inner s <;> rfl

theorem inner_ne_current (s : String) : inner s ≠ some .current := by
  unfold inner
  split <;> simp

theorem inner_ne_root (s : String) : inner s ≠ some .root := by
  unfold inner
  split <;> simp

theorem current_not_mem_innerComponents (p : Path) : .current ∉ innerComponents p := by
  intro mem
  obtain ⟨s, -, same⟩ := List.mem_filterMap.mp mem
  exact inner_ne_current s same

theorem front_eq_root_iff {absolute : Bool} {s : String} :
    front absolute s = some .root ↔ absolute = true := by
  cases absolute with
  | true => exact iff_of_true rfl rfl
  | false =>
    refine iff_of_false (fun root => ?_) Bool.false_ne_true
    rw [front, if_neg Bool.false_ne_true] at root
    split at root
    · cases root
    · exact inner_ne_root s root

theorem isAbsolute_iff_root_head (p : Path) :
    p.isAbsolute = true ↔ (components p).head? = some .root := by
  obtain ⟨s, ss, split⟩ := List.exists_cons_of_ne_nil (segments_ne_nil p)
  cases absolute : p.isAbsolute with
  | true =>
    rw [components_eq split, absolute, front, if_pos rfl]
    simp
  | false =>
    have noRoot : .root ∉ innerComponents p := fun mem => by
      obtain ⟨s, -, same⟩ := List.mem_filterMap.mp mem
      exact inner_ne_root s same
    refine iff_of_false Bool.false_ne_true fun head => ?_
    have mem := List.mem_of_head? head
    obtain same | same := components_of_relative absolute <;> rw [same] at mem
    · exact noRoot mem
    · simp [noRoot] at mem

theorem eq_empty_of_inner_eq_none {s : String} (empty : inner s = none) (dot : s ≠ ".") :
    s = "" := by
  unfold inner at empty
  split at empty
  · rfl
  · exact absurd rfl dot
  · cases empty
  · cases empty

theorem eq_empty_of_components_eq_nil {p : Path} (nothing : components p = []) : p = "" := by
  obtain ⟨s, ss, split⟩ := List.exists_cons_of_ne_nil (segments_ne_nil p)
  rw [components_eq split] at nothing
  have first := (List.append_eq_nil_iff.mp nothing).1
  cases absolute : p.isAbsolute with
  | true =>
    rw [absolute, front, if_pos rfl] at first
    cases first
  | false =>
    have empty : s = "" := by
      rw [absolute, front, if_neg Bool.false_ne_true] at first
      split at first
      · cases first
      · exact eq_empty_of_inner_eq_none (Option.toList_eq_nil_iff.mp first) ‹_›
    have alone : ss = [] := by
      by_contra more
      exact Bool.eq_false_iff.mp absolute ((isAbsolute_iff split).mpr ⟨empty, more⟩)
    rw [← ofSegments_segments p, split, empty, alone]
    rfl

/-- The segments in front of a path that is joined: a slash at the end adds none. -/
def openEnd (ss : List String) : List String := if ss.getLast? = some "" then ss.dropLast else ss

theorem openEnd_subset (ss : List String) : openEnd ss ⊆ ss := by
  rw [openEnd]
  split
  · exact (List.dropLast_sublist ss).subset
  · exact List.Subset.refl ss

theorem last_eq_empty_iff {p : Path} {front : List String} {last : String}
    (h : segments p = front ++ [last]) : last = "" ↔ p = "" ∨ p.toList.getLast? = some '/' := by
  constructor
  · intro empty
    have pieces : (Text.splitOn '/' p.toList).getLast? = some [] := by
      have whole := congrArg List.getLast? h
      simpa [segments, Text.split, empty] using whole
    exact (Text.getLast?_eq_sep_of_splitOn pieces).imp_left String.toList_eq_nil_iff.mp
  · intro ended
    have free : '/' ∉ last.toList := slashless_segments p last (by simp [h])
    obtain ⟨before, text⟩ : ∃ before, p.toList = before ++ last.toList := by
      rw [← ofSegments_segments p, h]
      cases front with
      | nil => exact ⟨[], by simp [ofSegments]⟩
      | cons s front =>
        rw [ofSegments_append (by simp) (by simp)]
        exact ⟨(ofSegments (s :: front)).toList ++ ['/'], by simp [ofSegments]⟩
    by_contra named
    obtain ⟨init, x, spelled⟩ :=
      List.eq_nil_or_concat' last.toList |>.resolve_left (mt String.toList_eq_nil_iff.mp named)
    obtain rfl | slash := ended
    · simp [spelled] at text
    · rw [text, spelled, ← List.append_assoc, List.getLast?_concat] at slash
      obtain rfl := Option.some.inj slash
      exact free (by simp [spelled])

theorem segments_join {dir p : Path} (relative : p.isAbsolute = false) :
    segments (dir.join p) = openEnd (segments dir) ++ segments p := by
  obtain ⟨front, last, split⟩ :=
    List.eq_nil_or_concat' (segments dir) |>.resolve_left (segments_ne_nil dir)
  have text : dir = ofSegments (front ++ [last]) := by rw [← split, ofSegments_segments]
  have free := slashless_segments dir
  rw [split] at free
  have freeFront : Slashless front := free.mono (List.subset_append_left _ _)
  have behind := slashless_segments p
  have open_iff : (dir = "" || decide (dir.toList.getLast? = some '/')) = true ↔ last = "" := by
    simpa using (last_eq_empty_iff split).symm
  rw [join, relative, if_neg Bool.false_ne_true, split, openEnd, List.getLast?_concat,
    List.dropLast_concat]
  by_cases ended : last = ""
  · have joined : dir ++ p = ofSegments (front ++ segments p) := by
      rw [text, ended]
      cases front with
      | nil => rw [List.nil_append, List.nil_append, ofSegments_segments]; simp [ofSegments]
      | cons s front =>
        rw [ofSegments_append (by simp) (by simp), ofSegments_append (by simp) (segments_ne_nil p),
          ofSegments_segments]
        simp [ofSegments]
    rw [if_pos (open_iff.mpr ended), joined, if_pos (congrArg some ended),
      segments_ofSegments (by simp [segments_ne_nil]) (freeFront.append behind)]
  · have joined : dir ++ "/" ++ p = ofSegments (front ++ [last] ++ segments p) := by
      rw [ofSegments_append (by simp) (segments_ne_nil p), ofSegments_segments, ← text]
    rw [if_neg (mt open_iff.mp ended), joined, if_neg fun same => ended (Option.some.inj same),
      segments_ofSegments (by simp) (free.append behind)]

theorem join_ofSegments {ss : List String} (nonempty : ss ≠ []) (free : Slashless ss) {p : Path}
    (relative : p.isAbsolute = false) :
    (ofSegments ss).join p = ofSegments (openEnd ss ++ segments p) := by
  have joined : segments ((ofSegments ss).join p) = _ := segments_join relative
  rw [segments_ofSegments nonempty free] at joined
  rw [← joined, ofSegments_segments]

theorem openEnd_append {front back : List String} (nonempty : back ≠ []) :
    openEnd (front ++ back) = front ++ openEnd back := by
  obtain ⟨init, last, rfl⟩ := List.eq_nil_or_concat' back |>.resolve_left nonempty
  rw [openEnd, openEnd, ← List.append_assoc, List.getLast?_concat, List.getLast?_concat,
    List.dropLast_concat, List.dropLast_concat]
  split
  · rfl
  · rw [List.append_assoc]

theorem openEnd_cons {s : String} {ss : List String} (nonempty : s ≠ "" ∨ ss ≠ []) :
    ∃ ss', openEnd (s :: ss) = s :: ss' ∧ ss'.filterMap inner = ss.filterMap inner := by
  rw [openEnd]
  split
  · rename_i ended
    obtain rfl | ⟨front, last, rfl⟩ := List.eq_nil_or_concat' ss
    · simp_all
    · rw [← List.cons_append, List.getLast?_concat] at ended
      obtain rfl := Option.some.inj ended
      exact ⟨front, by rw [← List.cons_append, List.dropLast_concat], by simp [inner]⟩
  · exact ⟨ss, rfl, rfl⟩

theorem components_join {dir p : Path} (nonempty : dir ≠ "") (relative : p.isAbsolute = false) :
    components (dir.join p) = components dir ++ innerComponents p := by
  obtain ⟨s, ss, split⟩ := List.exists_cons_of_ne_nil (segments_ne_nil dir)
  have more : s ≠ "" ∨ ss ≠ [] := by
    by_contra nothing
    obtain ⟨rfl, rfl⟩ := not_or.mp nothing |>.imp not_not.mp not_not.mp
    exact nonempty (by rw [← ofSegments_segments dir, split]; rfl)
  obtain ⟨ss', opened, inner⟩ := openEnd_cons more
  have joined : segments (dir.join p) = s :: (ss' ++ segments p) := by
    rw [segments_join relative, split, opened, List.cons_append]
  have absolute : (dir.join p).isAbsolute = dir.isAbsolute := by
    rw [Bool.eq_iff_iff, isAbsolute_iff joined, isAbsolute_iff split]
    refine and_congr_right fun empty => iff_of_true ?_ (more.resolve_left (not_not.mpr empty))
    simp [segments_ne_nil]
  rw [components_eq joined, components_eq split, absolute, List.filterMap_append, inner,
    List.append_assoc, innerComponents]

theorem join_empty (p : Path) : join "" p = p := by
  cases absolute : p.isAbsolute <;> simp [join, absolute]

section Cut

def Inner (ps : List (String × Option Component)) : Prop :=
  ∀ x ∈ ps, x.2 = inner x.1 ∧ '/' ∉ x.1.toList

variable {ps : List (String × Option Component)}

theorem Inner.mono (h : Inner ps) {qs : List (String × Option Component)} (subset : qs ⊆ ps) :
    Inner qs := fun x hx => h x (subset hx)

theorem Inner.slashless (h : Inner ps) : Slashless (ps.map Prod.fst) :=
  List.forall_mem_map.mpr fun x hx => (h x hx).2

theorem Inner.filterMap_eq (h : Inner ps) :
    (ps.map Prod.fst).filterMap inner = ps.filterMap Prod.snd := by
  rw [List.filterMap_map]
  exact List.filterMap_congr fun x hx => (h x hx).1.symm

theorem filterMap_dropParts (n : Nat) (ps : List (String × Option Component)) :
    (dropParts n ps).filterMap Prod.snd = (ps.filterMap Prod.snd).drop n := by
  fun_induction dropParts n ps with
  | case1 ps => rfl
  | case2 n => simp
  | case3 n s ps ih => simpa using ih
  | case4 n s c ps ih => simpa using ih

theorem dropParts_suffix (n : Nat) (ps : List (String × Option Component)) :
    dropParts n ps <:+ ps := by
  fun_induction dropParts n ps with
  | case1 ps => exact List.suffix_refl ps
  | case2 n => exact List.suffix_refl []
  | case3 n s ps ih => exact ih.trans (List.suffix_cons _ _)
  | case4 n s c ps ih => exact ih.trans (List.suffix_cons _ _)

theorem filterMap_dropWhile_isVoid (ps : List (String × Option Component)) :
    (ps.dropWhile isVoid).filterMap Prod.snd = ps.filterMap Prod.snd := by
  induction ps with
  | nil => rfl
  | cons x ps ih =>
    obtain ⟨s, c⟩ := x
    cases c with
    | none =>
      rw [List.dropWhile_cons_of_pos rfl, List.filterMap_cons_none rfl]
      exact ih
    | some c => rw [List.dropWhile_cons_of_neg Bool.false_ne_true]

/-- The parts of a text, without those at the end that mean nothing. -/
def shown (ps : List (String × Option Component)) : List (String × Option Component) :=
  (ps.reverse.dropWhile isVoid).reverse

theorem isPrefix_shown (ps : List (String × Option Component)) : shown ps <+: ps := by
  rw [← List.reverse_suffix, shown, List.reverse_reverse]
  exact List.dropWhile_suffix isVoid

theorem filterMap_shown (ps : List (String × Option Component)) :
    (shown ps).filterMap Prod.snd = ps.filterMap Prod.snd := by
  rw [shown, List.filterMap_reverse, filterMap_dropWhile_isVoid, ← List.filterMap_reverse,
    List.reverse_reverse]

theorem textOf_eq (h : ∀ s, shown ps ≠ [(s, some .root)]) :
    textOf ps = ofSegments ((shown ps).map Prod.fst) := by
  rw [textOf, ← shown]
  split
  · rename_i s same
    exact absurd same (h s)
  · rfl

theorem innerComponents_textOf (parts : Inner ps) (first : ∀ x ∈ ps.head?, isVoid x = false) :
    (textOf ps).isAbsolute = false ∧ innerComponents (textOf ps) = ps.filterMap Prod.snd := by
  have kept : Inner (shown ps) := parts.mono (isPrefix_shown ps).subset
  have noRoot (s : String) : shown ps ≠ [(s, some .root)] := by
    intro same
    have mem : (s, some Component.root) ∈ shown ps := by simp [same]
    exact inner_ne_root s (kept _ mem).1.symm
  rw [textOf_eq noRoot, ← filterMap_shown ps]
  cases split : shown ps with
  | nil => decide
  | cons x xs =>
    obtain ⟨s, c⟩ := x
    rw [split] at kept
    have nonempty : s ≠ "" := by
      rintro rfl
      obtain ⟨more, whole⟩ := split ▸ isPrefix_shown ps
      have void := first ("", c) (by rw [← whole]; rfl)
      rw [isVoid, (kept _ List.mem_cons_self).1] at void
      cases void
    refine ⟨?_, ?_⟩
    · rw [Bool.eq_false_iff]
      exact fun absolute => nonempty ((isAbsolute_ofSegments kept.slashless).mp absolute).1
    · rw [innerComponents, segments_ofSegments (by simp) kept.slashless, kept.filterMap_eq]

theorem inner_tail_parts (p : Path) : Inner (parts p).tail := by
  obtain ⟨s, ss, split⟩ := List.exists_cons_of_ne_nil (segments_ne_nil p)
  rw [parts_eq split]
  intro x hx
  obtain ⟨t, ht, rfl⟩ := List.mem_map.mp hx
  exact ⟨rfl, slashless_segments p t (split ▸ List.mem_cons_of_mem s ht)⟩

theorem dropParts_suffix_tail (n : Nat) (ps : List (String × Option Component)) :
    dropParts (n + 1) ps <:+ ps.tail := by
  cases ps with
  | nil => exact List.suffix_refl []
  | cons x ps =>
    obtain ⟨s, c⟩ := x
    cases c <;> exact dropParts_suffix _ ps

theorem innerComponents_relativeTo {dir p : Path} {rest : List Component}
    (nonempty : components dir ≠ []) (h : components p = components dir ++ rest) :
    (dir.relativeTo p).isAbsolute = false ∧ innerComponents (dir.relativeTo p) = rest := by
  obtain ⟨n, length⟩ := Nat.exists_eq_add_one.mpr (List.length_pos_iff.mpr nonempty)
  have starts : (components dir).isPrefixOf (components p) = true := by
    rw [List.isPrefixOf_iff_prefix, h]
    exact List.prefix_append _ _
  have behind : ((dropParts (n + 1) (parts p)).dropWhile isVoid).filterMap Prod.snd = rest := by
    rw [filterMap_dropWhile_isVoid, filterMap_dropParts, ← length, ← components, h,
      List.drop_left]
  have inside : Inner ((dropParts (n + 1) (parts p)).dropWhile isVoid) :=
    (inner_tail_parts p).mono
      ((List.dropWhile_suffix isVoid).trans (dropParts_suffix_tail n _)).subset
  have cut : dir.relativeTo p = textOf ((dropParts (n + 1) (parts p)).dropWhile isVoid) := by
    simp only [relativeTo, List.isEmpty_iff, nonempty, if_false, starts, if_true, length]
  rw [cut, ← behind]
  refine innerComponents_textOf inside fun x hx => ?_
  have first := List.head?_dropWhile_not isVoid (dropParts (n + 1) (parts p))
  rw [hx] at first
  simpa using first

theorem relativeTo_eq_self {dir p : Path} (h : ¬ components dir <+: components p) :
    dir.relativeTo p = p := by
  have nonempty : components dir ≠ [] := fun empty => h (empty ▸ List.nil_prefix)
  rw [← List.isPrefixOf_iff_prefix] at h
  simp only [relativeTo, List.isEmpty_iff, nonempty, if_false, if_neg h]

theorem components_textOf_parts (p : Path) : components (textOf (parts p)) = components p := by
  obtain ⟨s, ss, split⟩ := List.exists_cons_of_ne_nil (segments_ne_nil p)
  have kept := isPrefix_shown (parts p)
  have same : components p = (shown (parts p)).filterMap Prod.snd := by
    rw [filterMap_shown, components]
  cases visible : shown (parts p) with
  | nil =>
    rw [textOf_eq (by simp [visible]), same, visible]
    rfl
  | cons x xs =>
    rw [visible, parts_eq split] at kept
    obtain ⟨rfl, below⟩ := List.cons_prefix_cons.mp kept
    have inside : Inner xs := (inner_tail_parts p).mono (by
      rw [parts_eq split]
      exact below.subset)
    have free : Slashless (s :: xs.map Prod.fst) :=
      List.forall_mem_cons.mpr ⟨slashless_segments p s (by simp [split]), inside.slashless⟩
    by_cases root : xs = [] ∧ p.isAbsolute = true
    · obtain ⟨rfl, absolute⟩ := root
      have slash : components "/" = [.root] := by decide
      rw [same, textOf, ← shown, visible, absolute]
      exact slash
    · have noRoot (t : String) : shown (parts p) ≠ [(t, some .root)] := by
        rw [visible]
        intro alone
        obtain ⟨first, rfl⟩ := List.cons.inj alone
        exact root ⟨rfl, front_eq_root_iff.mp (congrArg Prod.snd first)⟩
      have absolute : (ofSegments (s :: xs.map Prod.fst)).isAbsolute = p.isAbsolute := by
        rw [Bool.eq_iff_iff, isAbsolute_ofSegments free, ne_eq, List.map_eq_nil_iff]
        constructor
        · rintro ⟨empty, more⟩
          exact (isAbsolute_iff split).mpr ⟨empty, fun alone =>
            more (List.prefix_nil.mp (by simpa [alone] using below))⟩
        · intro absolute
          exact ⟨((isAbsolute_iff split).mp absolute).1, fun alone => root ⟨alone, absolute⟩⟩
      rw [textOf_eq noRoot, visible, same, visible, List.map_cons,
        components_eq (segments_ofSegments (by simp) free), absolute, inside.filterMap_eq,
        List.filterMap_cons]
      cases front p.isAbsolute s <;> rfl

theorem components_relativeTo_of_empty {dir p : Path} (empty : components dir = []) :
    components (dir.relativeTo p) = components p := by
  simp only [relativeTo, empty, List.isEmpty_nil, if_true, components_textOf_parts]

end Cut

end Path

end GuidelineCompliance
