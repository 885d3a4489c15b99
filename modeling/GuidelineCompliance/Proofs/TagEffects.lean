import GuidelineCompliance.Assessment
import GuidelineCompliance.Proofs.Headings
import GuidelineCompliance.Proofs.Suppressions

/-! What the tags of a comment do. They are taken one after the other, up to the first one for all
guidelines. The marks of a kept comment are nevertheless what all its tags say, but a tag that names
a guideline without effect is a fault only in front of that one. -/

namespace GuidelineCompliance

namespace TagScope

def covers (scope : TagScope) (id : String) : Bool := scope = .all || scope = .one id

@[simp] theorem covers_all (id : String) : all.covers id = true := by simp [covers]

@[simp] theorem covers_one (id' id : String) : (one id').covers id = decide (id' = id) := by
  simp [covers]

/-- The guideline that a tag names although it is not one of those that its comment suppresses. -/
def missed? (suppressed : List String) : TagScope → Option String
  | all => none
  | one id => if id ∈ suppressed then none else some id

def missed (suppressed : List String) (scopes : List TagScope) : List String :=
  scopes.filterMap (·.missed? suppressed)

/-- The tags in front of the first one for all guidelines. -/
def heard (scopes : List TagScope) : List TagScope := scopes.takeWhile (· ≠ .all)

def unheard (scopes : List TagScope) : List TagScope := scopes.dropWhile (· ≠ .all)

variable {suppressed : List String} {id : String} {scopes : List TagScope}

theorem missed_heard_cons_all : missed suppressed (heard (all :: scopes)) = [] := rfl

theorem missed_heard_cons_of_mem (h : id ∈ suppressed) :
    missed suppressed (heard (one id :: scopes)) = missed suppressed (heard scopes) := by
  simp [heard, missed, missed?, h]

theorem missed_heard_cons_of_not_mem (h : id ∉ suppressed) :
    missed suppressed (heard (one id :: scopes)) = id :: missed suppressed (heard scopes) := by
  simp [heard, missed, missed?, h]

theorem missed_eq_append (suppressed : List String) (scopes : List TagScope) :
    missed suppressed scopes =
      missed suppressed (heard scopes) ++ missed suppressed (unheard scopes) := by
  rw [missed, missed, missed, ← List.filterMap_append, heard, unheard,
    List.takeWhile_append_dropWhile]

theorem missed_eq_nil_iff :
    missed suppressed scopes = [] ↔ ∀ id, one id ∈ scopes → id ∈ suppressed := by
  rw [missed, List.filterMap_eq_nil_iff]
  constructor
  · intro empty id mem
    simpa [missed?] using empty (one id) mem
  · intro named scope mem
    cases scope with
    | all => rfl
    | one id => simp [missed?, named id mem]

end TagScope

namespace CommentTags

/-- The deviation that counts for a guideline: that of the first tag for all guidelines, or else
that of the last tag for this one. -/
def ruling? (tags : List DeviationTag) (id : String) : Option Deviation :=
  ((tags.find? (·.scope = .all)).or (tags.filter (·.scope = .one id)).getLast?).map
    DeviationTag.deviation

def suppression (tags : CommentTags) (id : String) : Suppression where
  guideline := id
  mark :=
    { isFalsePositive := tags.falsePositives.any (·.covers id)
      isDeviation := tags.deviations.any (·.scope.covers id)
      deviation := (ruling? tags.deviations id).getD {} }

def deviationScopes (tags : CommentTags) : List TagScope := tags.deviations.map DeviationTag.scope

theorem ruling?_cons_all (d : Deviation) (tags : List DeviationTag) (id : String) :
    ruling? (⟨d, .all⟩ :: tags) id = some d := by
  simp [ruling?]

theorem ruling?_cons_one (d : Deviation) (id' : String) (tags : List DeviationTag) (id : String) :
    ruling? (⟨d, .one id'⟩ :: tags) id =
      (ruling? tags id).or (if id' = id then some d else none) := by
  simp only [ruling?, List.find?_cons, List.filter_cons]
  cases tags.find? (·.scope = .all) with
  | some tag => simp
  | none =>
    by_cases same : id' = id
    · subst same
      cases last : (tags.filter (·.scope = .one id')).getLast? <;> simp [List.getLast?_cons, last]
    · simp [same]

theorem isSome_ruling? (tags : List DeviationTag) (id : String) :
    (ruling? tags id).isSome = tags.any (·.scope.covers id) := by
  induction tags with
  | nil => rfl
  | cons tag tags ih =>
    obtain ⟨d, scope⟩ := tag
    cases scope with
    | all => simp [ruling?_cons_all]
    | one id' =>
      rw [ruling?_cons_one, Option.isSome_or, ih, List.any_cons, Bool.or_comm]
      by_cases same : id' = id <;> simp [same]

theorem mark_suppression (tags : CommentTags) (id : String) :
    (tags.suppression id).mark =
      let m : Mark := if tags.falsePositives.any (·.covers id) then Mark.asFalsePositive {} else {}
      ((ruling? tags.deviations id).map fun d => m.asDeviation d).getD m := by
  rw [suppression, ← isSome_ruling?]
  cases ruling? tags.deviations id <;> cases tags.falsePositives.any (·.covers id) <;> rfl

end CommentTags

namespace Assessment

open CommentTags TagScope

theorem markFalsePositives_eq (text : String) (c : Comment) (scopes : List TagScope) :
    markFalsePositives text c scopes =
      (c.remark fun id m => if scopes.any (·.covers id) then m.asFalsePositive else m,
        (missed c.guidelines (heard scopes)).map (.falsePositiveNotSuppressed c.file · text)) := by
  fun_induction markFalsePositives text c scopes with
  | case1 c => exact congrArg₂ Prod.mk (Comment.remark_eq_self (by simp)).symm rfl
  | case2 c scopes =>
    rw [missed_heard_cons_all]
    simp only [List.any_cons, covers_all, Bool.true_or, if_true, List.map_nil]
    rfl
  | case3 c id scopes mem ih =>
    rw [missed_heard_cons_of_mem mem, ih, Comment.mark_eq_remark, Comment.remark_remark,
      Comment.guidelines_remark]
    refine congrArg₂ Prod.mk (Comment.remark_congr fun s _ => ?_) rfl
    by_cases same : s.guideline = id
    · simp [same, Mark.asFalsePositive]
    · simp [same, Ne.symm same]
  | case4 c id scopes new c' faults eq ih =>
    rw [eq] at ih
    cases ih
    rw [missed_heard_cons_of_not_mem new]
    refine congrArg₂ Prod.mk (Comment.remark_congr fun s hs => ?_) rfl
    simp [(Comment.ne_of_mem_suppressions new hs).symm]

theorem markDeviations_eq (text : String) (c : Comment) (tags : List DeviationTag) :
    markDeviations text c tags =
      (c.remark fun id m => ((ruling? tags id).map fun d => m.asDeviation d).getD m,
        (missed c.guidelines (heard (tags.map DeviationTag.scope))).map
          (.deviationNotSuppressed c.file · text)) := by
  fun_induction markDeviations text c tags with
  | case1 c => exact congrArg₂ Prod.mk (Comment.remark_eq_self fun _ _ => rfl).symm rfl
  | case2 c d tags =>
    rw [List.map_cons, missed_heard_cons_all]
    simp only [ruling?_cons_all, List.map_nil]
    rfl
  | case3 c d id tags mem ih =>
    rw [List.map_cons, missed_heard_cons_of_mem mem, ih, Comment.mark_eq_remark,
      Comment.remark_remark, Comment.guidelines_remark]
    refine congrArg₂ Prod.mk (Comment.remark_congr fun s _ => ?_) rfl
    rw [ruling?_cons_one]
    by_cases same : s.guideline = id
    · cases ruling? tags s.guideline <;> simp [same, Mark.asDeviation]
    · simp [same, Ne.symm same]
  | case4 c d id tags new c' faults eq ih =>
    rw [eq] at ih
    cases ih
    rw [List.map_cons, missed_heard_cons_of_not_mem new]
    refine congrArg₂ Prod.mk (Comment.remark_congr fun s hs => ?_) rfl
    rw [ruling?_cons_one]
    simp [(Comment.ne_of_mem_suppressions new hs).symm]

def resolved (reader : Reader) (found : CommentTags) (text : String) : List String :=
  (suppressed reader found text).eraseDups

/-- A comment that suppresses nothing is not kept, unless it is tagged as having nothing to do with
the guidelines. -/
def Dropped (found : CommentTags) (ids : List String) : Prop := ids = [] ∧ found.nonMisra = false

instance (found : CommentTags) (ids : List String) : Decidable (Dropped found ids) :=
  inferInstanceAs (Decidable (ids = [] ∧ found.nonMisra = false))

def missedFaults (file text : String) (ids : List String)
    (falsePositives deviations : List TagScope) : List Fault :=
  (missed ids falsePositives).map (.falsePositiveNotSuppressed file · text) ++
    (missed ids deviations).map (.deviationNotSuppressed file · text)

theorem readComment_eq (a : Assessment) (file : String) (line : Nat) (text : String) :
    let found := CommentTags.ofComment a.tags text
    let ids := resolved a.reader found text
    a.readComment file line text =
      (if Dropped found ids then none
        else some ⟨file, line, found.nonMisra, ids.map found.suppression⟩,
      missedFaults file text ids (heard found.falsePositives) (heard found.deviationScopes) ++
        if Dropped found ids then [.unresolvedSuppression file text] else []) := by
  intro found ids
  have dropped : ((ids.map found.suppression).isEmpty && !found.nonMisra) = true ↔
      Dropped found ids := by
    simp [Dropped]
  simp only [readComment, Comment.insertAll_eq, markFalsePositives_eq, markDeviations_eq,
    Comment.remark_listed, Comment.guidelines_listed, ← mark_suppression]
  by_cases h : Dropped found ids
  · rw [if_pos h, if_pos h]
    exact if_pos (dropped.mpr h)
  · rw [if_neg h, if_neg h, List.append_nil]
    exact if_neg (mt dropped.mp h)

theorem eq_of_readComment {a : Assessment} {file : String} {line : Nat} {text : String}
    {c : Comment} (h : (a.readComment file line text).1 = some c) :
    let found := CommentTags.ofComment a.tags text
    c = ⟨file, line, found.nonMisra, (resolved a.reader found text).map found.suppression⟩ := by
  rw [readComment_eq, ite_eq_iff] at h
  obtain ⟨-, empty⟩ | ⟨-, kept⟩ := h
  · cases empty
  · exact (Option.some.inj kept).symm

/-- A kept comment suppresses the guidelines that its tags name, or else those that the analyzer
makes out, each once, with the marks that its tags give them. -/
theorem readComment_kept (a : Assessment) (file : String) (line : Nat) (text : String) :
    let found := CommentTags.ofComment a.tags text
    let ids := (if found.guidelines = [] then (a.reader.guidelines text).getD []
      else found.guidelines).eraseDups
    (a.readComment file line text).1 =
        (if ids = [] ∧ found.nonMisra = false then none
        else some ⟨file, line, found.nonMisra, ids.map found.suppression⟩) ∧
      (a.readComment file line text).2.filter (·.kind = .unresolvedSuppression) =
        if ids = [] ∧ found.nonMisra = false then [.unresolvedSuppression file text] else [] := by
  intro found ids
  have named : resolved a.reader found text = ids := by
    simp [resolved, suppressed, ids]
  have other (fps devs : List TagScope) :
      (missedFaults file text ids fps devs).filter (·.kind = .unresolvedSuppression) = [] := by
    simp [missedFaults, Fault.kind]
  have read := a.readComment_eq file line text
  simp only [found, named] at read
  rw [read, List.filter_append, other, List.nil_append]
  refine ⟨rfl, ?_⟩
  by_cases h : Dropped found ids
  · exact (congrArg _ (if_pos h)).trans (if_pos h).symm
  · exact (congrArg _ (if_neg h)).trans (if_neg h).symm

/-- Two guidelines, one of them a false positive. The deviation without an id goes to both, ahead of
the one that names a guideline. -/
example :
    let text := "GUIDELINE(R1) GUIDELINE(R2) FALSE_POSITIVE(R2) DEVIATION(D1, , R1) DEVIATION(D2)"
    ((cppcheckOver "").readComment "a.c" 3 text).1 =
      some ⟨"a.c", 3, false,
        [⟨"R1", ⟨false, true, ⟨some "D2", none⟩⟩⟩, ⟨"R2", ⟨true, true, ⟨some "D2", none⟩⟩⟩]⟩ := by
  decide +kernel

/-- The faults of a comment. All its tags that name a guideline without effect are among them
exactly if none of these is behind a tag for all guidelines. -/
theorem faults_readComment_iff (a : Assessment) (file : String) (line : Nat) (text : String) :
    let found := CommentTags.ofComment a.tags text
    let ids := resolved a.reader found text
    let faults := (a.readComment file line text).2
    let unresolved := if Dropped found ids then [.unresolvedSuppression file text] else []
    faults =
        missedFaults file text ids (heard found.falsePositives) (heard found.deviationScopes) ++
          unresolved ∧
      (faults =
          missedFaults file text ids found.falsePositives found.deviationScopes ++ unresolved ↔
        ∀ id, .one id ∈ unheard found.falsePositives ∨ .one id ∈ unheard found.deviationScopes →
          id ∈ ids) := by
  intro found ids faults unresolved
  have read : faults =
      missedFaults file text ids (heard found.falsePositives) (heard found.deviationScopes) ++
        unresolved := congrArg Prod.snd (a.readComment_eq file line text)
  refine ⟨read, ?_⟩
  rw [read, List.append_left_inj]
  have all : (∀ id, .one id ∈ unheard found.falsePositives ∨
      .one id ∈ unheard found.deviationScopes → id ∈ ids) ↔
        missed ids (unheard found.falsePositives) = [] ∧
          missed ids (unheard found.deviationScopes) = [] := by
    simp only [missed_eq_nil_iff, or_imp, forall_and]
  rw [all]
  simp only [missedFaults, missed_eq_append ids found.falsePositives,
    missed_eq_append ids found.deviationScopes]
  constructor
  · intro same
    have lengths := congrArg List.length same
    simp only [List.length_append, List.length_map] at lengths
    exact ⟨List.eq_nil_of_length_eq_zero (by omega), List.eq_nil_of_length_eq_zero (by omega)⟩
  · rintro ⟨falsePositives, deviations⟩
    rw [falsePositives, deviations, List.append_nil, List.append_nil]

theorem not_forall_missedFaults :
    ¬ ∀ (a : Assessment) (file : String) (line : Nat) (text : String),
      let found := CommentTags.ofComment a.tags text
      let ids := resolved a.reader found text
      (a.readComment file line text).2.filter (·.kind = .guidelineNotFound) =
        missedFaults file text ids found.falsePositives found.deviationScopes := by
  intro faults
  have missing := faults (cppcheckOver "") "a.c" 1
    "cppcheck-suppress misra-c2012-1.1 FALSE_POSITIVE FALSE_POSITIVE(Rule 9.9)"
  exact absurd missing (by decide +kernel)

end Assessment

end GuidelineCompliance
