import GuidelineCompliance.Proofs.PairedTasks
import GuidelineCompliance.Proofs.WildcardPaths

/-! A workspace that is moved. Wildcards are matched together with the names of the workspace in
front of them. If these names have no wildcard sign in them and the wildcards do not lead out of
the workspace, the same files are found wherever it lies. -/

namespace GuidelineCompliance

open FileTask FileEntry GuidelineCompliance.Path

namespace Path

theorem any_level_mono {f : Nat → Bool} (mono : ∀ {n m}, f n = true → n ≤ m → f m = true)
    {s : String} {n m : Nat} (le : n ≤ m) (h : (level n s).any f = true) :
    (level m s).any f = true := by
  obtain ⟨k, reached, holds⟩ := (Option.any_eq_true _ _).mp h
  obtain ⟨k', reached', higher⟩ := level_mono reached le
  exact (Option.any_eq_true _ _).mpr ⟨k', reached', mono holds higher⟩

end Path

namespace Wildcard

/-- Whether every way that segments can go from a level stays inside. Any directories lead no
higher, and a name that is matched leads one level deeper. -/
def staysInside : Nat → List Segment → Bool
  | _, [] => true
  | n, .name s :: segments => (level n s).any fun m => staysInside m segments
  | n, .directories :: segments => staysInside n segments
  | n, .tokens ts :: segments =>
    staysInside (n + 1) segments &&
      (specialNames (.tokens ts)).all fun s => (level n s).any fun m => staysInside m segments

theorem staysInside_mono {segments : List Segment} {n m : Nat} (h : staysInside n segments = true)
    (le : n ≤ m) : staysInside m segments = true := by
  induction segments generalizing n m with
  | nil => rfl
  | cons segment segments ih =>
    cases segment with
    | name s => exact any_level_mono ih le h
    | directories => exact ih h le
    | tokens ts =>
      rw [staysInside, Bool.and_eq_true, List.all_eq_true] at h ⊢
      exact ⟨ih h.1 (Nat.succ_le_succ le), fun s hs => any_level_mono ih le (h.2 s hs)⟩

theorem mem_specialNames {segment : Segment} {s : String} (h : s ∈ specialNames segment) :
    s = ".." ∨ s = "." := by
  unfold specialNames at h
  split at h
  · simpa using (List.mem_filter.mp h).1
  · cases h

/-- Segments that can be followed from a level: they stay inside, and none leads to the root. -/
structure Inside (n : Nat) (segments : List Segment) : Prop where
  stays : staysInside n segments = true
  slashless : ∀ s, .name s ∈ segments → '/' ∉ s.toList

namespace Inside

variable {n m : Nat} {s : String} {segments : List Segment} {segment : Segment}

theorem mono (h : Inside n segments) (le : n ≤ m) : Inside m segments :=
  ⟨staysInside_mono h.stays le, h.slashless⟩

theorem slashless_tail (h : Inside n (segment :: segments)) :
    ∀ s, .name s ∈ segments → '/' ∉ s.toList :=
  fun s mem => h.slashless s (List.mem_cons_of_mem _ mem)

theorem of_name (h : Inside n (.name s :: segments)) :
    '/' ∉ s.toList ∧ ∃ m, level n s = some m ∧ Inside m segments := by
  obtain ⟨m, reached, stays⟩ := (Option.any_eq_true _ _).mp h.stays
  exact ⟨h.slashless s List.mem_cons_self, m, reached, stays, h.slashless_tail⟩

theorem of_directories (h : Inside n (.directories :: segments)) : Inside n segments :=
  ⟨h.stays, h.slashless_tail⟩

theorem cons_directories (h : Inside n segments) : Inside n (.directories :: segments) :=
  ⟨h.stays, fun s mem => h.slashless s (by simpa using mem)⟩

theorem of_special (h : Inside n (segment :: segments)) (mem : s ∈ specialNames segment) :
    '/' ∉ s.toList ∧ ∃ m, level n s = some m ∧ Inside m segments := by
  cases segment with
  | name t => simp [specialNames] at mem
  | directories => simp [specialNames] at mem
  | tokens ts =>
    have stays := h.stays
    rw [staysInside, Bool.and_eq_true, List.all_eq_true] at stays
    obtain ⟨m, reached, stays⟩ := (Option.any_eq_true _ _).mp (stays.2 s mem)
    refine ⟨?_, m, reached, stays, h.slashless_tail⟩
    obtain rfl | rfl := mem_specialNames mem <;> decide

theorem of_matched (h : Inside n (segment :: segments)) {name : String} (proper : Proper name)
    (matched : ∀ s, segment = .name s → s = name) : Inside (n + 1) segments := by
  cases segment with
  | name s =>
    obtain rfl := matched s rfl
    obtain ⟨-, m, reached, inside⟩ := h.of_name
    rw [level_of_proper proper] at reached
    cases reached
    exact inside
  | directories => exact h.of_directories.mono (Nat.le_succ n)
  | tokens ts =>
    have stays := h.stays
    rw [staysInside, Bool.and_eq_true] at stays
    exact ⟨stays.1, h.slashless_tail⟩

theorem dropDirectories (h : Inside n segments) : Inside n (dropDirectories segments) := by
  fun_induction Wildcard.dropDirectories segments with
  | case1 segments ih => exact ih h.of_directories
  | case2 segments other => exact h

end Inside

end Wildcard

/-- Two paths that are the same path below two directories, at a level or deeper. -/
def Beside (site₁ site₂ : Site) (n : Nat) (p₁ p₂ : Path) : Prop :=
  ∃ ss m, levels ss = some m ∧ n ≤ m ∧ Slashless ss ∧
    p₁ = site₁.below ss ∧ p₂ = site₂.below ss

abbrev FindBeside (tree₁ tree₂ : FileTree) (site₁ site₂ : Site)
    (t u : FileTask (List Path)) : Prop :=
  Alike tree₁ tree₂ (List.Forall₂ (Beside site₁ site₂ 0)) t u

section Twins

variable {tree₁ tree₂ : FileTree} {sub : FileEntry} {site₁ site₂ : Site} {n m : Nat} {p₁ p₂ : Path}

theorem Beside.mono (beside : Beside site₁ site₂ n p₁ p₂) (le : m ≤ n) :
    Beside site₁ site₂ m p₁ p₂ := by
  obtain ⟨ss, k, reached, deep, rest⟩ := beside
  exact ⟨ss, k, reached, Nat.le_trans le deep, rest⟩

theorem beside_self : Beside site₁ site₂ 0 site₁.path site₂.path :=
  ⟨[], 0, rfl, Nat.le_refl 0, slashless_nil, rfl, rfl⟩

variable (h₁ : tree₁.Holds site₁ sub) (h₂ : tree₂.Holds site₂ sub)

include h₁ h₂ in
theorem Beside.join (beside : Beside site₁ site₂ n p₁ p₂) {s : String} (free : '/' ∉ s.toList)
    (reached : level n s = some m) : Beside site₁ site₂ m (p₁.join s) (p₂.join s) := by
  obtain ⟨ss, k, below, deep, slashless, rfl, rfl⟩ := beside
  obtain ⟨k', reached', deeper⟩ := level_mono reached deep
  have relative := isAbsolute_of_slashless free
  refine ⟨openEnd ss ++ [s], k', ?_, deeper, ?_, ?_, ?_⟩
  · rw [levels_concat, levels_openEnd, below, Option.bind_some, reached']
  · exact (slashless.mono (openEnd_subset ss)).append (slashless_singleton free)
  · rw [h₁.join_below slashless relative, segments_of_slashless free]
  · rw [h₂.join_below slashless relative, segments_of_slashless free]

include h₁ h₂

theorem alike_kindOf_beside (beside : Beside site₁ site₂ n p₁ p₂) :
    Alike tree₁ tree₂ Eq (kindOf p₁) (kindOf p₂) := by
  obtain ⟨ss, m, below, -, slashless, rfl, rfl⟩ := beside
  exact alike_kindOf (by rw [h₁.kind?_below below slashless, h₂.kind?_below below slashless])

theorem alike_entriesOf_beside (named : sub.WellNamed) (beside : Beside site₁ site₂ n p₁ p₂) :
    Alike tree₁ tree₂ (fun ss ss' => ss = ss' ∧ ∀ s ∈ ss, Proper s)
      (entriesOf p₁) (entriesOf p₂) := by
  obtain ⟨ss, m, below, -, slashless, rfl, rfl⟩ := beside
  refine alike_entriesOf ?_ (h₁.proper_of_mem_entries named below slashless)
  rw [h₁.entries_below below slashless, h₂.entries_below below slashless]

theorem relativeTo_eq_of_beside (beside : Beside site₁ site₂ n p₁ p₂) :
    site₁.path.relativeTo p₁ = site₂.path.relativeTo p₂ := by
  obtain ⟨ss, m, -, -, slashless, rfl, rfl⟩ := beside
  rw [h₁.relativeTo_below slashless, h₂.relativeTo_below slashless]

theorem isCurrent_of_beside (beside : Beside site₁ site₂ n p₁ p₂) :
    Wildcard.isCurrent p₁ = false ∧ Wildcard.isCurrent p₂ = false := by
  obtain ⟨ss, m, -, -, slashless, rfl, rfl⟩ := beside
  exact ⟨Wildcard.isCurrent_below h₁.toNamed slashless,
    Wildcard.isCurrent_below h₂.toNamed slashless⟩

namespace Wildcard

/-- A search that goes the same way below both directories. -/
def Twin (tree₁ tree₂ : FileTree) (site₁ site₂ : Site)
    (search : List Segment → Path → FileTask (List Path)) : Prop :=
  ∀ {n segments p₁ p₂}, Inside n segments → Beside site₁ site₂ n p₁ p₂ →
    FindBeside tree₁ tree₂ site₁ site₂ (search segments p₁)
      (search segments p₂)

variable {search : List Segment → Path → FileTask (List Path)}
  (twin : Twin tree₁ tree₂ site₁ site₂ search)

omit h₁ h₂
include twin

theorem alike_goOn {segments : List Segment} (inside : Inside n segments)
    (beside : Beside site₁ site₂ n p₁ p₂) :
    FindBeside tree₁ tree₂ site₁ site₂ (goOn search segments p₁)
      (goOn search segments p₂) := by
  refine alike_ite Iff.rfl (fun _ => alike_done ?_) fun _ => twin inside beside
  exact .cons (beside.mono (Nat.zero_le n)) .nil

theorem alike_enter {segments : List Segment} (inside : Inside n segments) {name : String}
    (proper : Proper name) (beside : Beside site₁ site₂ (n + 1) p₁ p₂) :
    FindBeside tree₁ tree₂ site₁ site₂ (enter search name p₁ segments)
      (enter search name p₂ segments) := by
  cases segments with
  | nil => exact alike_done .nil
  | cons segment segments =>
    refine alike_ite Iff.rfl (fun _ => alike_done .nil) fun matched => ?_
    refine alike_goOn twin (inside.of_matched proper ?_) beside
    rintro s rfl
    simpa using matched

include h₁ h₂

theorem alike_visit {segment : Segment} {segments : List Segment}
    (inside : Inside n (segment :: segments)) {name : String} (proper : Proper name)
    (beside : Beside site₁ site₂ n p₁ p₂) :
    FindBeside tree₁ tree₂ site₁ site₂
      (visit search p₁ segment segments name) (visit search p₂ segment segments name) := by
  obtain ⟨current₁, current₂⟩ := isCurrent_of_beside h₁ h₂ beside
  have deeper : Beside site₁ site₂ (n + 1) (p₁.join name) (p₂.join name) :=
    beside.join h₁ h₂ proper.2 (level_of_proper proper n)
  have path₁ : entryPath p₁ name = p₁.join name := by simp [entryPath, current₁]
  have path₂ : entryPath p₂ name = p₂.join name := by simp [entryPath, current₂]
  unfold visit
  rw [path₁, path₂]
  cases segment with
  | name s => exact alike_enter twin inside proper deeper
  | tokens ts => exact alike_enter twin inside proper deeper
  | directories =>
    have rest := inside.of_directories.dropDirectories
    have again := (rest.mono (Nat.le_succ n)).cons_directories
    have enters := alike_enter twin rest proper deeper
    have below {here here' : List Path}
        (same : List.Forall₂ (Beside site₁ site₂ 0) here here') :
        FindBeside tree₁ tree₂ site₁ site₂ (do
          return here ++ (← search (.directories :: dropDirectories segments) (p₁.join name)))
          (do
          return here' ++ (← search (.directories :: dropDirectories segments) (p₂.join name))) :=
      (twin again deeper).bind fun found found' more => alike_done (List.rel_append same more)
    refine (alike_kindOf_beside h₁ h₂ deeper).bind fun kind kind' same => ?_
    refine alike_ite (by rw [same]) (fun _ => ?_) fun _ => enters
    refine alike_ite Iff.rfl (fun _ => ?_) fun _ => ?_
    · have here : List.Forall₂ (Beside site₁ site₂ 0) [p₁.join name] [p₂.join name] :=
        .cons (deeper.mono (Nat.zero_le _)) .nil
      exact (alike_done here).bind fun here here' same => below same
    · exact enters.bind fun here here' same => below same

theorem alike_searchName {s : String} {segments : List Segment}
    (inside : Inside n (.name s :: segments)) (beside : Beside site₁ site₂ n p₁ p₂) :
    FindBeside tree₁ tree₂ site₁ site₂ (searchName search s segments p₁)
      (searchName search s segments p₂) := by
  obtain ⟨free, m, reached, inside⟩ := inside.of_name
  obtain ⟨current₁, current₂⟩ := isCurrent_of_beside h₁ h₂ beside
  have there : Beside site₁ site₂ m (p₁.join s) (p₂.join s) := beside.join h₁ h₂ free reached
  have goes := alike_goOn twin inside there
  have next (kind kind' : Option FileKind) (same : kind = kind') :
      FindBeside tree₁ tree₂ site₁ site₂
        (if s = "." || s = ".." then
          if kind = some .directory then goOn search segments (p₁.join s) else pure []
        else if kind.isSome then goOn search segments (p₁.join s) else pure [])
        (if s = "." || s = ".." then
          if kind' = some .directory then goOn search segments (p₂.join s) else pure []
        else if kind'.isSome then goOn search segments (p₂.join s) else pure []) := by
    subst same
    refine alike_ite Iff.rfl (fun _ => ?_) fun _ => ?_
    · exact alike_ite Iff.rfl (fun _ => goes) fun _ => alike_done .nil
    · exact alike_ite Iff.rfl (fun _ => goes) fun _ => alike_done .nil
  simp only [searchName, current₁, current₂, Bool.false_eq_true, if_false]
  refine alike_ite Iff.rfl (fun _ => ?_) fun _ => ?_
  · exact (alike_kindOf_beside h₁ h₂ beside).bind next
  · exact (alike_kindOf_beside h₁ h₂ there).bind next

theorem alike_searchEntries (named : sub.WellNamed) {segment : Segment} {segments : List Segment}
    (inside : Inside n (segment :: segments)) (beside : Beside site₁ site₂ n p₁ p₂) :
    FindBeside tree₁ tree₂ site₁ site₂
      (searchEntries search segment segments p₁) (searchEntries search segment segments p₂) := by
  have special (name : String) (hname : name ∈ specialNames segment) :
      FindBeside tree₁ tree₂ site₁ site₂
        (goOn search segments (p₁.join name)) (goOn search segments (p₂.join name)) := by
    obtain ⟨free, m, reached, inside⟩ := inside.of_special hname
    exact alike_goOn twin inside (beside.join h₁ h₂ free reached)
  refine (alike_kindOf_beside h₁ h₂ beside).bind fun kind kind' same => ?_
  refine alike_ite (by rw [same]) (fun _ => ?_) fun _ => alike_done .nil
  refine (alike_forEach_self special).bind fun dots dots' first => ?_
  refine (alike_entriesOf_beside h₁ h₂ named beside).bind ?_
  rintro names _ ⟨rfl, proper⟩
  have visits (name : String) (hname : name ∈ names.mergeSort fun a b => a ≤ b) :=
    alike_visit h₁ h₂ twin inside (proper name (List.mem_mergeSort.mp hname)) beside
  refine (alike_forEach_self visits).bind fun found found' rest => alike_done ?_
  exact List.rel_append (List.rel_flatten first) (List.rel_flatten rest)

omit twin

theorem twin_searchIn (named : sub.WellNamed) (k : Nat) :
    Twin tree₁ tree₂ site₁ site₂ (searchIn k) := by
  intro n segments p₁ p₂ inside beside
  -- The rounds: one round goes on with fewer segments, or with the same ones in a directory below.
  induction k generalizing n segments p₁ p₂ with
  | zero => exact alike_done .nil
  | succ k ih =>
    match segments with
    | [] => exact alike_done .nil
    | .name s :: segments => exact alike_searchName h₁ h₂ ih inside beside
    | .directories :: segments => exact alike_searchEntries h₁ h₂ ih named inside beside
    | .tokens ts :: segments => exact alike_searchEntries h₁ h₂ ih named inside beside

end Wildcard

end Twins

namespace Wildcard

section Walk

variable {tree : FileTree} {sub : FileEntry} {site : Site}

theorem run_searchIn_name {s : String} (proper : Proper s) {directory p : Path}
    (path : (if isCurrent directory then s else directory.join s) = p)
    (there : (tree.kind? p).isSome = true) (k : Nat) (segments : List Segment) :
    (searchIn (k + 1) (.name s :: segments) directory).run tree =
      (goOn (searchIn k) segments p).run tree := by
  have named : (decide (s = ".") || decide (s = "..")) = false := by
    simp [proper.ne_dot, proper.ne_dots]
  simp only [searchIn, searchName, path, named, Bool.false_eq_true, if_false]
  refine (run_bind (kindOf p) _ tree).trans ?_
  exact congrArg (FileTask.run · tree) (if_pos there)

theorem length_cons_add (s : String) (names : List String) (k : Nat) :
    (s :: names).length + k = names.length + k + 1 := by
  rw [List.length_cons]
  omega

theorem run_goOn_names {absolute : Bool} {front names : List String} (nonempty : front ≠ [])
    (holds : tree.Holds ⟨absolute, front ++ names⟩ sub) (k : Nat) (segments : List Segment) :
    (goOn (searchIn (names.length + k)) (names.map .name ++ segments)
      (Site.path ⟨absolute, front⟩)).run tree =
      (goOn (searchIn k) segments (Site.path ⟨absolute, front ++ names⟩)).run tree := by
  induction names generalizing front with
  | nil => simp
  | cons s names ih =>
    obtain ⟨t, here⟩ := holds.exists_front rfl nonempty
    rw [List.append_cons] at holds ⊢
    obtain ⟨t', next⟩ := holds.exists_front rfl (List.concat_ne_nil s front)
    have proper := next.proper s (by simp)
    have current : isCurrent (Site.path ⟨absolute, front⟩) = false :=
      isCurrent_below here.toNamed slashless_nil
    have joined : (Site.path ⟨absolute, front⟩).join s = Site.path ⟨absolute, front ++ [s]⟩ := by
      rw [here.join_path (isAbsolute_of_slashless proper.2), segments_of_slashless proper.2,
        Site.below_concat]
    have path : (if isCurrent (Site.path ⟨absolute, front⟩) then s
        else (Site.path ⟨absolute, front⟩).join s) = Site.path ⟨absolute, front ++ [s]⟩ := by
      rw [current, if_neg Bool.false_ne_true, joined]
    rw [← ih (List.concat_ne_nil s front) holds, ← run_searchIn_name proper path next.isSome_kind?,
      length_cons_add]
    rfl

theorem run_searchIn_names (holds : tree.Holds site sub) (k : Nat) (segments : List Segment) :
    (searchIn (site.names.length + k) (site.names.map .name ++ segments) (startOf site)).run tree =
      (goOn (searchIn k) segments site.path).run tree := by
  obtain ⟨absolute, names⟩ := site
  obtain ⟨s, more, rfl⟩ := List.exists_cons_of_ne_nil holds.nonempty
  obtain ⟨t, first⟩ := holds.exists_front List.singleton_append.symm (List.cons_ne_nil s [])
  have path : (if isCurrent (startOf ⟨absolute, s :: more⟩) then s
      else (startOf ⟨absolute, s :: more⟩).join s) = Site.path ⟨absolute, [s]⟩ :=
    join_startOf (first.proper s List.mem_cons_self) absolute _
  rw [length_cons_add, List.map_cons, List.cons_append,
    run_searchIn_name (first.proper s List.mem_cons_self) path first.isSome_kind?]
  exact run_goOn_names (List.cons_ne_nil s []) holds k segments

end Walk

section Paths

variable {tree₁ tree₂ : FileTree} {sub : FileEntry} {site₁ site₂ : Site}
  (h₁ : tree₁.Holds site₁ sub) (h₂ : tree₂.Holds site₂ sub)

include h₁ h₂

theorem alike_keep {γ : Type} {ps qs : List Path}
    (same : List.Forall₂ (Beside site₁ site₂ 0) ps qs) {S : γ → γ → Prop}
    {f g : Path × Option FileKind → Option γ}
    (each : ∀ p q kind, Beside site₁ site₂ 0 p q → Option.Rel S (f (p, kind)) (g (q, kind))) :
    Alike tree₁ tree₂ (List.Forall₂ S)
      (do return (ps.zip (← forEach kindOf ps)).filterMap f)
      (do return (qs.zip (← forEach kindOf qs)).filterMap g) := by
  refine (alike_forEach same fun p q beside => alike_kindOf_beside h₁ h₂ beside).bind
    fun kinds kinds' equal => alike_done ?_
  rw [List.forall₂_eq_eq_eq] at equal
  subst equal
  refine List.rel_filterMap ?_ (forall₂_zip_self same kinds)
  rintro ⟨p, kind⟩ ⟨q, _⟩ ⟨beside, rfl⟩
  exact each p q kind beside

theorem alike_paths (named : sub.WellNamed) {g : Glob} (inside : Inside 0 g.segments) :
    FindBeside tree₁ tree₂ site₁ site₂
      ({ g with start := startOf site₁,
                segments := site₁.names.map .name ++ g.segments } : Glob).paths
      ({ g with start := startOf site₂,
                segments := site₂.names.map .name ++ g.segments } : Glob).paths := by
  have length (site : Site) : (site.names.map Segment.name ++ g.segments).length + pathLimit =
      site.names.length + (g.segments.length + pathLimit) := by
    rw [List.length_append, List.length_map, Nat.add_assoc]
  have found := alike_goOn (twin_searchIn h₁ h₂ named (g.segments.length + pathLimit)) inside
    beside_self
  simp only [Glob.paths, length]
  refine (found.of_run_eq (run_searchIn_names h₁ _ _) (run_searchIn_names h₂ _ _)).bind
    fun ps qs same => alike_ite Iff.rfl (fun _ => ?_) fun _ => alike_done same
  refine alike_keep h₁ h₂ same fun p q kind beside => ?_
  by_cases directory : kind = some .directory
  · simpa [directory] using beside
  · simp [directory]

end Paths

end Wildcard

namespace Workspace

/-- An entry with wildcards that lead to nothing outside of the workspace. -/
structure StaysInside (entry : String) : Prop where
  wildcard : hasWildcard (Text.trim entry) = true
  relative : Path.isAbsolute (Text.trim entry) = false
  inside : ∀ g ∈ Wildcard.parse? (Text.trim entry), Wildcard.staysInside 0 g.segments = true

theorem plain_of_hasWildcard {s : String} (h : hasWildcard s = false) :
    ∀ c ∈ s.toList, Wildcard.Plain c := by
  intro c hc
  rw [hasWildcard, List.any_eq_false] at h
  have plain := h c hc
  simp only [Bool.or_eq_true, beq_iff_eq, not_or] at plain
  exact ⟨plain.1.2, plain.1.1, plain.2⟩

section Relocation

variable {tree₁ tree₂ : FileTree} {sub : FileEntry} {site₁ site₂ : Site}

theorem alike_entryFiles (h₁ : tree₁.Holds site₁ sub) (h₂ : tree₂.Holds site₂ sub)
    (plain₁ : ∀ s ∈ site₁.names, hasWildcard s = false)
    (plain₂ : ∀ s ∈ site₂.names, hasWildcard s = false) (named : sub.WellNamed) {entry : String}
    (stays : StaysInside entry) :
    Alike tree₁ tree₂ Eq (entryFiles site₁.path entry) (entryFiles site₂.path entry) := by
  have nonempty : Text.trim entry ≠ "" := by
    intro empty
    have wildcard := stays.wildcard
    rw [empty] at wildcard
    cases wildcard
  have parsed {site : Site} (spelled : site.Named)
      (plain : ∀ s ∈ site.names, hasWildcard s = false) :=
    Wildcard.parse?_join spelled (fun s hs => plain_of_hasWildcard (plain s hs)) nonempty
      stays.relative
  simp only [entryFiles, stays.wildcard, Bool.not_true, Bool.false_eq_true, if_false,
    parsed h₁.toNamed plain₁, parsed h₂.toNamed plain₂]
  cases read : Wildcard.parse? (Text.trim entry) with
  | none => exact alike_done rfl
  | some g =>
    have inside : Wildcard.Inside 0 g.segments :=
      ⟨stays.inside g read, fun s mem => Wildcard.slashless_of_parse? stays.relative read mem⟩
    refine (Wildcard.alike_paths h₁ h₂ named inside).bind fun ps qs same => ?_
    rw [← List.forall₂_eq_eq_eq]
    refine Wildcard.alike_keep h₁ h₂ same fun p q kind beside => ?_
    rw [relativeTo_eq_of_beside h₁ h₂ beside]
    by_cases file : kind = some .file
    · simp [file]
    · simp [file]

/-- A workspace with a name without wildcard signs can be moved to any other such name, absolute
or relative. -/
theorem sourceFiles_relocate (h₁ : tree₁.Holds site₁ sub) (h₂ : tree₂.Holds site₂ sub)
    (plain₁ : ∀ s ∈ site₁.names, hasWildcard s = false)
    (plain₂ : ∀ s ∈ site₂.names, hasWildcard s = false)
    (named : sub.WellNamed) {entries : List String} (inside : ∀ e ∈ entries, StaysInside e) :
    ((sourceFiles site₁.path entries).run tree₁).1 =
      ((sourceFiles site₂.path entries).run tree₂).1 := by
  have alike : Alike tree₁ tree₂ Eq (sourceFiles site₁.path entries)
      (sourceFiles site₂.path entries) := by
    refine (alike_forEach_self fun e he =>
      alike_entryFiles h₁ h₂ plain₁ plain₂ named (inside e he)).bind
      fun found found' same => alike_done ?_
    rw [List.forall₂_eq_eq_eq] at same
    rw [same]
  obtain ⟨found, _, left, right, rfl⟩ := alike
  rw [left, right]

/-- A workspace `w` in the working directory, and the same files at an absolute path. -/
theorem sourceFiles_relocate_of_nested :
    let sub := directory [("src", directory [("a.c", file [])])]
    let home : FileTree := ⟨directory [("home", directory [("w", sub)])], ["home"]⟩
    let other : FileTree := ⟨directory [("my work", directory [("v2", sub)])], []⟩
    ((sourceFiles "w" ["src/*.c", "**/*.h"]).run home).1 =
        ((sourceFiles "/my work/v2" ["src/*.c", "**/*.h"]).run other).1 ∧
      ((sourceFiles "/my work/v2" ["src/*.c", "**/*.h"]).run other).1 = ["src/a.c"] := by
  intro sub home other
  have h₁ : home.Holds ⟨false, ["w"]⟩ sub := ⟨⟨by decide, by decide⟩, rfl⟩
  have h₂ : other.Holds ⟨true, ["my work", "v2"]⟩ sub := ⟨⟨by decide, by decide⟩, rfl⟩
  have source : (directory [("a.c", file [])]).WellNamed :=
    .directory (by decide) (by simpa using .file [])
  have src : Proper "src" := by decide
  have named : sub.WellNamed := .directory (by simpa using src) (by simpa using source)
  have inside : ∀ e ∈ ["src/*.c", "**/*.h"], StaysInside e :=
    List.forall_mem_cons.mpr ⟨⟨by decide, by decide, by decide +kernel⟩,
      List.forall_mem_singleton.mpr ⟨by decide, by decide, by decide +kernel⟩⟩
  exact ⟨sourceFiles_relocate h₁ h₂ (by decide) (by decide) named inside, by decide +kernel⟩

/-- In a workspace `[w]` nothing is found, as the pattern asks for a directory `w`. -/
theorem not_forall_sourceFiles_relocate :
    ¬ ∀ (tree₁ tree₂ : FileTree) (sub : FileEntry) (site₁ site₂ : Site) (entries : List String),
      tree₁.Holds site₁ sub → tree₂.Holds site₂ sub → sub.WellNamed →
      (∀ e ∈ entries, StaysInside e) →
      ((sourceFiles site₁.path entries).run tree₁).1 =
        ((sourceFiles site₂.path entries).run tree₂).1 := by
  intro h
  have named : (directory [("a.c", file [])]).WellNamed :=
    .directory (by decide) (by simpa using .file [])
  have inside : ∀ e ∈ ["*.c"], StaysInside e :=
    List.forall_mem_singleton.mpr ⟨by decide, by decide, by decide +kernel⟩
  have same := h ⟨directory [("w", directory [("a.c", file [])])], []⟩
    ⟨directory [("[w]", directory [("a.c", file [])])], []⟩ _ ⟨false, ["w"]⟩ ⟨false, ["[w]"]⟩
    ["*.c"] ⟨⟨by decide, by decide⟩, rfl⟩ ⟨⟨by decide, by decide⟩, rfl⟩ named inside
  revert same
  decide +kernel

end Relocation

end Workspace

end GuidelineCompliance
