import GuidelineCompliance.Proofs.Lists
import GuidelineCompliance.Proofs.Subtrees
import GuidelineCompliance.Workspace.Inputs

/-! Wildcards below a directory. As long as the names of the directory have no wildcard sign in
them, they are read as they stand, and the wildcard behind them is read as it would be alone. -/

namespace GuidelineCompliance

open GuidelineCompliance.Path

namespace Wildcard

def Plain (c : Char) : Prop := c ≠ '?' ∧ c ≠ '*' ∧ c ≠ '['

theorem plain_slash : Plain '/' := by
  unfold Plain
  decide

theorem readToken_of_plain {c : Char} (plain : Plain c) (before : Option Char) (cs : List Char) :
    readToken before c cs = some (.char c, cs) := by
  obtain ⟨question, star, bracket⟩ := plain
  rw [readToken]
  · exact question
  · exact star
  · exact bracket

theorem readTokens_cons_of_plain {c : Char} (plain : Plain c) (n : Nat) (before : Option Char)
    (cs : List Char) :
    readTokens (n + 1) before (c :: cs) = (readTokens n (some c) cs).map (.char c :: ·) := by
  rw [readTokens, readToken_of_plain plain]

theorem readBracket_subset {cs rest : List Char} {token : Token}
    (h : readBracket cs = some (token, rest)) : rest ⊆ cs ∧ ∀ c, token ≠ .char c := by
  unfold readBracket at h
  split at h
  rename_i make inner opened
  have inside : inner ⊆ cs ∧ ∀ ranges c, make ranges ≠ .char c := by
    split at opened <;> cases opened
    · exact ⟨List.subset_cons_self _ _, nofun⟩
    · exact ⟨List.Subset.refl _, nofun⟩
  split at h
  · cases h
  · rename_i first body
    split at h
    · rename_i closing _ closed
      cases h
      have later : rest ⊆ body :=
        ((List.suffix_cons closing rest).trans (closed ▸ List.dropWhile_suffix _)).subset
      exact ⟨fun c hc => inside.1 (List.mem_cons_of_mem _ (later hc)), inside.2 _⟩
    · cases h

theorem readStars_subset {before : Option Char} {count : Nat} {cs rest : List Char} {token : Token}
    (h : readStars before count cs = some (token, rest)) : rest ⊆ cs ∧ ∀ c, token ≠ .char c := by
  unfold readStars at h
  split at h
  · cases h
    exact ⟨List.Subset.refl _, nofun⟩
  · split at h
    · split at h
      · cases h
        exact ⟨List.Subset.refl _, nofun⟩
      · cases h
        exact ⟨List.subset_cons_self _ _, nofun⟩
      · cases h
    · cases h
  · cases h

theorem readToken_subset {before : Option Char} {c : Char} {cs rest : List Char} {token : Token}
    (h : readToken before c cs = some (token, rest)) :
    rest ⊆ cs ∧ ∀ d, token = .char d → d = c := by
  unfold readToken at h
  split at h
  · cases h
    exact ⟨List.Subset.refl _, nofun⟩
  · obtain ⟨subset, other⟩ := readStars_subset h
    exact ⟨fun x hx => List.mem_of_mem_drop (subset hx), fun d same => absurd same (other d)⟩
  · obtain ⟨subset, other⟩ := readBracket_subset h
    exact ⟨subset, fun d same => absurd same (other d)⟩
  · cases h
    exact ⟨List.Subset.refl _, fun d same => by cases same; rfl⟩

theorem mem_of_char_mem_readTokens {n : Nat} {before : Option Char} {cs : List Char}
    {ts : List Token} (h : readTokens n before cs = some ts) {c : Char} (mem : .char c ∈ ts) :
    c ∈ cs := by
  fun_induction readTokens n before cs generalizing ts with
  | case1 n before =>
    cases h
    cases mem
  | case2 => cases h
  | case3 => cases h
  | case4 n before first cs rest read ih =>
    obtain ⟨ts, later, rfl⟩ := Option.map_eq_some_iff.mp h
    have more : c ∈ rest := ih later (by simpa using mem)
    exact List.mem_cons_of_mem _ ((readToken_subset read).1 more)
  | case5 n before first cs token rest other read ih =>
    obtain ⟨ts, later, rfl⟩ := Option.map_eq_some_iff.mp h
    obtain ⟨subset, char⟩ := readToken_subset read
    obtain rfl | more := List.mem_cons.mp mem
    · rw [char c rfl]
      exact List.mem_cons_self
    · exact List.mem_cons_of_mem _ (subset (ih later more))

/-- Stars are read behind a slash as they are at the front. -/
theorem readTokens_slash (n : Nat) (cs : List Char) :
    readTokens n (some '/') cs = readTokens n none cs := by
  cases cs with
  | nil => simp [readTokens]
  | cons c cs =>
    cases n with
    | zero => simp [readTokens]
    | succ n => simp [readTokens, readToken, readStars]

theorem readTokens_append {w : List Char} (plain : ∀ c ∈ w, Plain c) (n : Nat)
    (before : Option Char) (cs : List Char) :
    readTokens (w.length + n) before (w ++ cs) =
      (readTokens n (w.getLast?.or before) cs).map (w.map .char ++ ·) := by
  induction w generalizing before with
  | nil => simp
  | cons c w ih =>
    obtain ⟨first, rest⟩ := List.forall_mem_cons.mp plain
    have length : (c :: w).length + n = w.length + n + 1 := by
      rw [List.length_cons]
      omega
    rw [List.cons_append, length, readTokens_cons_of_plain first, ih rest, Option.map_map,
      List.getLast?_cons]
    cases w.getLast? <;> rfl

theorem tokens?_append_slash {w : List Char} (plain : ∀ c ∈ w, Plain c) (cs : List Char) :
    tokens? (w ++ '/' :: cs) = (tokens? cs).map ((w ++ ['/']).map .char ++ ·) := by
  have slash : ∀ c ∈ w ++ ['/'], Plain c :=
    List.forall_mem_append.mpr ⟨plain, by simp [plain_slash]⟩
  rw [tokens?, List.append_cons, List.length_append, readTokens_append slash,
    List.getLast?_concat, Option.some_or, readTokens_slash, tokens?]

theorem tokens?_of_plain {w : List Char} (plain : ∀ c ∈ w, Plain c) :
    tokens? w = some (w.map .char) := by
  have whole := readTokens_append plain 0 none []
  simpa [readTokens, tokens?] using whole

theorem plain?_map_char (cs : List Char) : plain? (cs.map .char) = some cs := by
  induction cs with
  | nil => rfl
  | cons c cs ih =>
    rw [plain?] at ih ⊢
    simp [List.mapM_cons, ih]

theorem eq_map_char_of_plain? {ts : List Token} {cs : List Char} (h : plain? ts = some cs) :
    ts = cs.map .char := by
  induction ts generalizing cs with
  | nil =>
    cases h
    rfl
  | cons t ts ih =>
    rw [plain?, List.mapM_cons] at h
    obtain ⟨c, first, h⟩ := Option.bind_eq_some_iff.mp h
    obtain ⟨rest, later, h⟩ := Option.bind_eq_some_iff.mp h
    cases h
    rw [List.map_cons, ← ih later]
    cases t <;> cases first
    rfl

theorem eq_map_char_of_ofTokens {ts : List Token} {s : String}
    (h : Segment.ofTokens ts = .name s) : ts = s.toList.map .char := by
  rw [Segment.ofTokens] at h
  split at h
  · rename_i cs plain
    cases h
    rw [String.toList_ofList, eq_map_char_of_plain? plain]
  · split at h <;> cases h

theorem ofTokens_map_char (cs : List Char) :
    Segment.ofTokens (cs.map .char) = .name (String.ofList cs) := by
  rw [Segment.ofTokens, plain?_map_char]

theorem splitSegments_toList (p : Path) :
    splitSegments p.toList = (openEnd (segments p)).map String.toList := by
  have pieces : Text.splitOn '/' p.toList = (segments p).map String.toList := by
    simp [segments, Text.split]
  have empty (s : Option String) : s.map String.toList = some [] ↔ s = some "" := by
    cases s <;> simp
  rw [splitSegments, pieces, openEnd]
  simp only [List.getLast?_map, empty]
  split
  · rw [List.map_dropLast]
  · rfl

/-- The text whose segments a wildcard has. -/
def behindRoot (p : Path) : List Char := if p.isAbsolute then p.toList.drop 1 else p.toList

theorem parse?_eq (p : Path) :
    parse? p = (tokens? p.toList).bind fun _ =>
      ((splitSegments (behindRoot p)).mapM tokens?).map fun segments =>
        ⟨if p.isAbsolute then "/" else ".", segments.map Segment.ofTokens,
          p.toList.getLast? = some '/'⟩ := by
  simp only [parse?, behindRoot]
  cases tokens? p.toList with
  | none => rfl
  | some ts =>
    cases (splitSegments (if p.isAbsolute then p.toList.drop 1 else p.toList)).mapM tokens? <;> rfl

theorem parse?_of_relative {p : Path} (relative : p.isAbsolute = false) :
    parse? p = (tokens? p.toList).bind fun _ =>
      ((splitSegments p.toList).mapM tokens?).map fun segments =>
        ⟨".", segments.map Segment.ofTokens, p.toList.getLast? = some '/'⟩ := by
  simp only [parse?_eq, behindRoot, relative, Bool.false_eq_true, if_false]

theorem slashless_of_parse? {p : Path} (relative : p.isAbsolute = false) {g : Glob}
    (h : parse? p = some g) {s : String} (mem : .name s ∈ g.segments) : '/' ∉ s.toList := by
  rw [parse?_of_relative relative] at h
  simp only [Option.bind_eq_some_iff, Option.map_eq_some_iff] at h
  obtain ⟨_, -, pieces, read, rfl⟩ := h
  obtain ⟨ts, hts, named⟩ := List.mem_map.mp mem
  obtain ⟨piece, hpiece, tokens⟩ := exists_of_mem_of_mapM_eq_some read hts
  rw [splitSegments_toList] at hpiece
  obtain ⟨text, htext, rfl⟩ := List.mem_map.mp hpiece
  intro slash
  refine slashless_segments p text ((openEnd_subset _) htext) ?_
  refine mem_of_char_mem_readTokens tokens ?_
  rw [eq_map_char_of_ofTokens named]
  exact List.mem_map_of_mem slash

section Names

variable {names : List String}

theorem mapM_tokens?_of_plain (plain : ∀ s ∈ names, ∀ c ∈ s.toList, Plain c) :
    (names.map String.toList).mapM tokens? = some (names.map fun s => s.toList.map .char) := by
  induction names with
  | nil => rfl
  | cons s names ih =>
    obtain ⟨first, rest⟩ := List.forall_mem_cons.mp plain
    simp [List.mapM_cons, tokens?_of_plain first, ih rest]

theorem plain_ofSegments (plain : ∀ s ∈ names, ∀ c ∈ s.toList, Plain c) :
    ∀ c ∈ (ofSegments names).toList, Plain c := by
  induction names with
  | nil => simp [ofSegments]
  | cons s names ih =>
    obtain ⟨first, rest⟩ := List.forall_mem_cons.mp plain
    cases names with
    | nil => simpa [ofSegments] using first
    | cons next names =>
      have text : (ofSegments (s :: next :: names)).toList =
          s.toList ++ '/' :: (ofSegments (next :: names)).toList := by
        simp [ofSegments, String.intercalate_cons_cons]
      rw [text]
      exact List.forall_mem_append.mpr
        ⟨first, List.forall_mem_cons.mpr ⟨plain_slash, ih rest⟩⟩

end Names

def startOf (site : Site) : Path := if site.absolute then "/" else "."

variable {site : Site} {p : Path}

theorem isCurrent_below (named : site.Named) {ss : List String} (slashless : Slashless ss) :
    isCurrent (site.below ss) = false := by
  obtain ⟨s, more, spelled⟩ := List.exists_cons_of_ne_nil named.nonempty
  rw [isCurrent, named.components_below slashless, Site.components, spelled]
  cases site.absolute <;> simp

theorem join_startOf {s : String} (proper : Proper s) (absolute : Bool) (names : List String) :
    (if isCurrent (startOf ⟨absolute, names⟩) then s else (startOf ⟨absolute, names⟩).join s) =
      Site.path ⟨absolute, [s]⟩ := by
  cases absolute with
  | false =>
    have current : isCurrent "." = true := by decide
    simp [startOf, current, Site.path, Site.below, Site.segments, ofSegments]
  | true =>
    have root : isCurrent "/" = false := by decide
    simp [startOf, root, Path.join, isAbsolute_of_slashless proper.2, Site.path, Site.below,
      Site.segments, ofSegments]

theorem splitSegments_behindRoot (named : site.Named) (relative : p.isAbsolute = false) :
    splitSegments (behindRoot (site.path.join p)) =
      site.names.map String.toList ++ splitSegments p.toList := by
  have free : Slashless (site.names ++ segments p) :=
    (slashless_of_proper named.proper).append (slashless_segments p)
  have behind : behindRoot (site.path.join p) = (ofSegments (site.names ++ segments p)).toList := by
    have filled : site.names ++ segments p ≠ [] := by simp [named.nonempty]
    rw [behindRoot, named.join_path relative, named.isAbsolute_below (slashless_segments p),
      Site.below, Site.segments]
    split
    · obtain ⟨s, ss, spelled⟩ := List.exists_cons_of_ne_nil filled
      rw [List.cons_append, spelled]
      simp [ofSegments, String.intercalate_cons_cons]
    · rfl
  rw [behind, splitSegments_toList, segments_ofSegments (by simp [named.nonempty]) free,
    openEnd_append (segments_ne_nil p), List.map_append, splitSegments_toList]

theorem parse?_join (named : site.Named) (plain : ∀ s ∈ site.names, ∀ c ∈ s.toList, Plain c)
    (nonempty : p ≠ "") (relative : p.isAbsolute = false) :
    parse? (site.path.join p) = (parse? p).map fun g =>
      { g with start := startOf site, segments := site.names.map .name ++ g.segments } := by
  have text : (site.path.join p).toList = site.path.toList ++ '/' :: p.toList := by
    rw [named.join_path relative, Site.below,
      ofSegments_append named.segments_ne_nil (segments_ne_nil p), ofSegments_segments, Site.path,
      Site.below, List.append_nil]
    simp
  have plainPath : ∀ c ∈ site.path.toList, Plain c := by
    rw [Site.path, Site.below, List.append_nil]
    refine plain_ofSegments ?_
    unfold Site.segments
    split
    · exact List.forall_mem_cons.mpr ⟨by simp, plain⟩
    · exact plain
  have still : (site.path.join p).isAbsolute = site.absolute := by
    rw [named.join_path relative, named.isAbsolute_below (slashless_segments p)]
  have last : (site.path.join p).toList.getLast? = p.toList.getLast? := by
    have chars : p.toList ≠ [] := mt String.toList_eq_nil_iff.mp nonempty
    rw [text, List.getLast?_append_of_ne_nil _ (by simp), List.getLast?_cons_of_ne_nil chars]
  have front : (site.names.map fun s => s.toList.map Token.char).map Segment.ofTokens =
      site.names.map .name := by
    simp [ofTokens_map_char]
  rw [parse?_eq, parse?_of_relative relative, last, still, splitSegments_behindRoot named relative,
    text, tokens?_append_slash plainPath, List.mapM_append, mapM_tokens?_of_plain plain]
  cases tokens? p.toList with
  | none => rfl
  | some ts =>
    cases (splitSegments p.toList).mapM tokens? with
    | none => rfl
    | some pieces => simp [front, startOf]

end Wildcard

end GuidelineCompliance
